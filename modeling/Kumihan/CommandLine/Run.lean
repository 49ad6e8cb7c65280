import Kumihan.CommandLine.Arguments
import Kumihan.Epub.Publication
import Kumihan.Lint.Linter

/-!
# Runs of the program

A run reads arguments and files and leaves behind files, what it prints, and an exit code.  Failures
that are foreseen are reported in one line; after any other a file is left
behind that says what happened.

## Main definitions

* `Setting`, `Outcome` — what a run is given and what it leaves behind.
* `JobRun`, `runJob` — a job without its surroundings.
* `run` — the program.
-/

namespace Kumihan.CommandLine

open Epub (Occasion)
open Files (Disk)

/-! ### What a run is given and leaves behind -/

/-- What a run is given beside its arguments and files. -/
structure Setting where
  /-- The moment, and a word that no other run has. -/
  occasion : Occasion
  /-- What is printed is shown on a terminal. -/
  outTerminal : Bool := false
  /-- Messages are shown on a terminal. -/
  errTerminal : Bool := false
  deriving DecidableEq, Repr

/-- What a run leaves behind. -/
structure Outcome where
  /-- The files. -/
  disk : Disk
  /-- The exit code. -/
  exit : Nat
  /-- What is printed. -/
  out : String := ""
  /-- The messages. -/
  err : String := ""
  /-- Why what happened could not be written down, if it could not.  Then the run has no proper end.
-/
  refusal : Option Files.Fault := none

/-! ### Log -/

/-- The least rank of the records that are shown. -/
def leastRank : Nat → Nat
  | 0 => Log.Level.warning.rank
  | 1 => Log.Level.info.rank
  | _ => Log.Level.debug.rank

/-- The colour of a level on a terminal. -/
def colourOf : Log.Level → String
  | .debug => "\x1b[36m"
  | .info => "\x1b[32m"
  | .warning => "\x1b[33m"

/-- A record behind the name of its level. -/
def recordLine (level : String) (r : Log.Record) : String :=
  level ++ " " ++ r.part.label ++ ": " ++ r.message ++ "\n"

/-- A record as it is shown. -/
def shownRecord (terminal : Bool) (r : Log.Record) : String :=
  recordLine (if terminal then colourOf r.level ++ r.level.label ++ "\x1b[0m" else r.level.label) r

/-- The records that are shown. -/
def shownRecords (setting : Setting) (verbosity : Nat) (rs : List Log.Record) : String :=
  String.join ((rs.filter (leastRank verbosity ≤ ·.level.rank)).map
    (shownRecord setting.errTerminal))

/-- The path of the log's file, if there is to be one. -/
def logPath? (disk : Disk) (i : Invocation) : Option String :=
  match i.logFile with
  | none => none
  | some file => if file.isEmpty then none else some (Files.Path.absolute disk.workingDir file)

/-- The file of the log is opened; what is in it stays. -/
def openLog (disk : Disk) (path : String) : Except Failure Disk :=
  (disk.append path []).mapError .file

/-- The file of the log with more text. -/
def appendLog (disk : Disk) (path text : String) : Disk :=
  (disk.append path (Text.encode text.toList)).toOption.getD disk

/-! ### Jobs -/

/-- What a job leaves behind. -/
structure JobRun where
  /-- The files. -/
  disk : Disk
  /-- What is printed. -/
  out : String := ""
  /-- What is reported to the log. -/
  records : List Log.Record := []
  /-- The path that a finished book was moved to. -/
  book : Option String := none
  /-- The exit code, or why there is none. -/
  result : Except Failure Nat

/-- The plan with a name. -/
def loadPlan (disk : Disk) (name : String) : Except Failure LoadedPlan :=
  match findPlan disk name with
  | none => .error (.noPlan name)
  | some path => LoadedPlan.load Yaml.loadFile disk (Text.letters path.toList)

/-- What is printed before a book is made. -/
def epubHeading (plan : BookPlan) (pictureDir : Option String) : String :=
  s!"\n  Book:   {plan.title}\n  Author: {plan.author}\n  Raw:    {plan.rawPath}\n"
    ++ "  Images: " ++ pictureDir.getD "[]" ++ "\n" ++ Epub.heading plan

/-- A book is made whose pictures are in a directory, and written to a path. -/
def buildEpub (disk : Disk) (setting : Setting) (plan : LoadedPlan) (pictureDir output : String) :
    JobRun :=
  let b := Epub.buildLoaded disk setting.occasion plan pictureDir output
  let job : JobRun :=
    { disk := b.disk, out := b.done output, records := b.records, result := .ok 0 }
  match b.failure with
  | some failure => { job with result := .error failure }
  | none =>
    { job with
      out := job.out ++ "\n" ++ Epub.rule ++ "\n  Done.\n"
      book := some (Epub.outputFile output) }

/-- A book is put together as far as it can be without a directory for its pictures or a path for
the book. -/
def tryEpub (disk : Disk) (plan : LoadedPlan) : Option String → JobRun
  | some pictureDir =>
    let a := Epub.assembleLoaded disk pictureDir plan
    { disk, records := a.records, result := .error (a.failure.getD .noOutput) }
  | none =>
    { disk
      result := .error (match Book.mediaType (Text.spelled plan.coverImage) with
        | .error fault => .picture fault
        | .ok _ => .noPictureDir) }

/-- A book is made. -/
def runEpub (disk : Disk) (setting : Setting) (plan : String) (pictureDir output : Option String) :
    JobRun :=
  match loadPlan disk plan with
  | .error failure => { disk, result := .error failure }
  | .ok plan =>
    let job := match pictureDir, output with
      | some pictureDir, some output => buildEpub disk setting plan pictureDir output
      | pictureDir, _ => tryEpub disk plan pictureDir
    { job with out := epubHeading plan.shown pictureDir ++ job.out }

/-- What is printed before a manuscript is checked. -/
def lintHeading (plan : BookPlan) (fix : Bool) : String :=
  let mode := if fix then "FIX" else "CHECK"
  s!"\n  Linting: {plan.title}\n  Source:  {plan.rawPath}\n  Mode:    {mode}\n\n"

/-- A manuscript is checked. -/
def runLint (disk : Disk) (setting : Setting) (verbosity : Nat) (plan : String)
    (pictureDir : Option String) (fix noColour : Bool) : JobRun :=
  match loadPlan disk plan with
  | .error failure => { disk, result := .error failure }
  | .ok plan =>
    let out := lintHeading plan.shown fix
    match disk.textPath plan.rawPath with
    | .error fault =>
      let failure := if fault.isRefusal
        then .unreadableManuscript (Text.spelled plan.rawPath) fault else .file fault
      { disk, out, result := .error failure }
    | .ok path =>
      let linter : Lint.Linter :=
        { path, pictureDir, fix, verbose := verbosity > 0
          colour := !noColour && setting.outTerminal }
      match linter.run disk {} with
      | .error failure => { disk, out, result := .error failure }
      | .ok r =>
        { disk := r.disk, out := out ++ linter.written r.report, records := r.records
          result := .ok (if r.report.isClean then 0 else 1) }

/-- A job is done. -/
def runJob (disk : Disk) (setting : Setting) (i : Invocation) : JobRun :=
  match i.job with
  | .epub plan pictureDir output => runEpub disk setting plan pictureDir output
  | .lint plan pictureDir fix noColour =>
    runLint disk setting i.verbosity plan pictureDir fix noColour

/-! ### The program -/

/-- The file that says what happened. -/
def crashFile : String := "rote_error.log"

/-- Two paths lead to the same location. -/
def isSamePlace (disk : Disk) (path path' : String) : Bool :=
  match disk.find path, disk.find path' with
  | .ok loc, .ok loc' => loc == loc'
  | _, _ => false

/-- A job with its log: the file of the log is opened before it and filled behind it, unless the
finished book has taken its place. -/
def runLogged (disk : Disk) (setting : Setting) (i : Invocation) : JobRun :=
  match logPath? disk i with
  | none => runJob disk setting i
  | some path =>
    match openLog disk path with
    | .error failure => { disk, result := .error failure }
    | .ok disk =>
      let job := runJob disk setting i
      let text := String.join (job.records.map fun r =>
        setting.occasion.stamp ++ recordLine r.level.label r)
      if job.book.any (isSamePlace job.disk path) then job
      else { job with disk := appendLog job.disk path text }

/-- A failure that is not foreseen is reported, and a file is left behind. -/
def crash (o : Outcome) (failure : Failure) : Outcome :=
  match o.disk.write crashFile (.bytes (Text.encode (failure.message ++ "\n").toList)) with
  | .error fault => { o with refusal := some fault }
  | .ok disk =>
    { o with
      disk
      out := o.out ++ s!"\nUnexpected error: {failure.message}\n"
        ++ s!"Full traceback written to {crashFile}\n" }

/-- An invocation. -/
def runInvocation (disk : Disk) (setting : Setting) (i : Invocation) : Outcome :=
  let job := runLogged disk setting i
  let err := shownRecords setting i.verbosity job.records
  match job.result with
  | .ok exit => { disk := job.disk, exit, out := job.out, err }
  | .error failure =>
    if failure.isForeseen then
      { disk := job.disk, exit := 1, out := job.out, err := err ++ s!"Error: {failure.message}\n" }
    else crash { disk := job.disk, exit := 1, out := job.out, err } failure

/-- The program. -/
def run (disk : Disk) (setting : Setting) (args : List String) : Outcome :=
  match readArguments args with
  | .help text => { disk, exit := 0, out := text }
  | .complaint text => { disk, exit := 2, err := text }
  | .nothing text => { disk, exit := 1, out := text }
  | .invocation i => runInvocation disk setting i

end Kumihan.CommandLine
