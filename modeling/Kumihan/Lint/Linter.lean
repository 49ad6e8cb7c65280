import Kumihan.Book.Compositor
import Kumihan.Failure
import Kumihan.Files.Disk
import Kumihan.Lint.Finding

/-!
# The linter

A manuscript is looked at twice: first character by character, for blemishes and
punctuation, and then as what a book would be made from.  With `fix` the blemishes are removed
before the second look, and the file is written if anything was removed.

## Main definitions

* `checkText` — the first look: the report and the text that is left.
* `checkMarkup` — the second look.
* `Linter`, `Linter.run`.
-/

namespace Kumihan.Lint

open Book (Composition composeDirectives composeRecords linkTargets mediaType scanEntries)
open Files (Disk)
open Markup (Command Directive PunctuationRule UnknownDirective normalize punctuationRules)

/-! ### The first look -/

/-- A kind of blemish: what is found of it, and the text that is left.  What is removed counts as
fixed if another text is left. -/
def checkBlemish (fix : Bool) (b : Blemish) (r : Report) (s : List Char) : Report × List Char :=
  let spots := b.spots s
  if fix then
    let r := r.addAll (spots.map fun spot => ⟨spot.line, .removed b⟩)
    let left := if spots.isEmpty then s else b.remove s
    ({ r with fixes := if left = s then r.fixes else r.fixes + spots.length }, left)
  else
    let r := r.addAll (spots.map fun spot => ⟨spot.line, .removable b spot.text⟩)
    ({ r with fixable := r.fixable + spots.length }, s)

/-- All kinds of blemishes, each in the text that the one before it leaves. -/
def checkBlemishes (fix : Bool) (r : Report) (s : List Char) : Report × List Char :=
  Blemish.all.foldl (fun (r, s) b => checkBlemish fix b r s) (r, s)

/-- The punctuation that a rule will change. -/
def checkRule (s : List Char) (r : Report) (rule : PunctuationRule) : Report :=
  r.addAll ((punctuationSpots rule s).map fun spot => ⟨spot.line, .punctuation rule spot.text⟩)

/-- The first look at a text. -/
def checkText (fix : Bool) (r : Report) (s : List Char) : Report × List Char :=
  let (r, s) := checkBlemishes fix r s
  (punctuationRules.foldl (checkRule s) r, s)

/-! ### The second look -/

/-- The lines from number `n` on: their directives, and those that name none. -/
def readLines : List (List Char) → Int → List Directive × List UnknownDirective
  | [], _ => ([], [])
  | s :: rest, n =>
    let (ds, faults) := readLines rest (n + 1)
    match Directive.ofLine s n with
    | .ok d => (d :: ds, faults)
    | .error fault => (ds, fault :: faults)

/-- The pictures that a directive names. -/
def pictureNames (d : Directive) : List String :=
  match d.command with
  | .image | .titlePage | .prefaceImage | .colophon => [d.argument]
  | .glyph => d.glyphs
  | _ => []

/-- What is wrong with a picture.  Whether it is there is only asked if a directory of
pictures is given. -/
def pictureIssue? (disk : Disk) (dir : Option String) (file : String) : Option Issue :=
  match mediaType file with
  | .error fault => some (.unsupportedPicture fault)
  | .ok _ =>
    match dir with
    | none => none
    | some dir =>
      if dir.isEmpty || disk.isFile (Files.Path.join dir file) then none
      else some (.missingPicture dir file)

/-- What is wrong with the pictures that a directive names. -/
def checkPictures (disk : Disk) (dir : Option String) (d : Directive) : List Finding :=
  (pictureNames d).filterMap fun file => (pictureIssue? disk dir file).map (⟨d.line, ·⟩)

/-- Text that no directive closes. -/
def checkLeftover (c : Composition) : List Finding :=
  if c.leftover.isEmpty then [] else [⟨c.leftoverLine, .unclosedText⟩]

/-- The table of contents and the pages that it links to, if there is one. -/
def checkToc (s : List Char) (ds : List Directive) (c : Composition) : List Finding :=
  let linked := ((scanEntries s).filter (·.number.isSome)).length
  let targets := (linkTargets c.actions).length
  if ds.any (·.command = .toc) && linked != targets then [⟨0, .tocMismatch ⟨linked, targets⟩⟩]
  else []

/-- The chapters that are listed and those that there are, if any are listed. -/
def checkChapters (s : List Char) (c : Composition) : List Finding :=
  let entries := scanEntries s
  let listed := (entries.filter fun e => e.number.isSome && !e.afterword).length
  if !entries.isEmpty && listed != c.titles.length then [⟨0, .chapterCount listed c.titles.length⟩]
  else []

/-- What is found in the directives of a text when all of its lines are directives. -/
def checkStructure (s : List Char) (ds : List Directive) : List Finding :=
  let c := composeDirectives ds
  checkLeftover c ++ checkToc s ds c ++ checkChapters s c

/-- The second look at a text in full-width punctuation. -/
def checkMarkup (disk : Disk) (dir : Option String) (s : List Char) : List Finding :=
  let (ds, faults) := readLines (Text.lines s) 1
  faults.map (fun fault => ⟨fault.line, .unknownDirective fault.name⟩)
    ++ ds.flatMap (checkPictures disk dir)
    ++ if faults.isEmpty then checkStructure s ds else []

/-- What is reported to the log during the second look. -/
def markupRecords (s : List Char) : List Log.Record :=
  if (readLines (Text.lines s) 1).2.isEmpty then composeRecords s else []

/-! ### Runs -/

/-- What a linter is asked to do. -/
structure Linter where
  /-- The path of the manuscript. -/
  path : String
  /-- The directory of pictures, if it is to be looked into. -/
  pictureDir : Option String := none
  /-- Blemishes are removed. -/
  fix : Bool := false
  /-- A manuscript without findings is named too. -/
  verbose : Bool := false
  /-- The report is in colour. -/
  colour : Bool := false
  deriving DecidableEq, Repr

/-- What a run leaves behind. -/
structure Run where
  /-- The files. -/
  disk : Disk
  /-- All that has been found. -/
  report : Report
  /-- What is reported to the log. -/
  records : List Log.Record := []

namespace Linter

/-- The file is written if anything was removed. -/
def save (l : Linter) (disk : Disk) (before after : List Char) : Except Failure Disk :=
  if l.fix && before != after then
    (disk.write l.path (.bytes (Text.encode after))).mapError .file
  else .ok disk

/-- A text is looked at twice. -/
def check (l : Linter) (disk : Disk) (r : Report) (s : List Char) : Except Failure Run := do
  let (r, left) := checkText l.fix r s
  let disk ← l.save disk s left
  let marked := normalize left
  return { disk
           report := r.addAll (checkMarkup disk l.pictureDir marked)
           records := markupRecords marked }

/-- A run.  What it finds is added to what was found before. -/
def run (l : Linter) (disk : Disk) (r : Report) : Except Failure Run :=
  match disk.read l.path with
  | .error .impossiblePath => .error (.file .impossiblePath)
  | .error fault => .error (.unreadableManuscript l.path fault)
  | .ok bs =>
    match Text.decode bs with
    | .error _ => .ok { disk, report := r.add 0 .undecodable }
    | .ok s => l.check disk r s

/-- The report of a run as it is printed. -/
def written (l : Linter) (r : Report) : String :=
  r.written l.fix l.verbose l.colour (Files.Path.baseName l.path)

end Linter

end Kumihan.Lint
