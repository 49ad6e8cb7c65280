import Kumihan.CommandLine.Parser

/-!
# The arguments of the program

## Main definitions

* `mainGrammar`, `epubGrammar`, `lintGrammar`.
* `Job`, `Invocation` — what the program is asked to do.
* `Request`, `readArguments`.
-/

namespace Kumihan.CommandLine

/-! ### Grammars -/

/-- The flag for the help text. -/
def helpFlag : Flag := ⟨["-h", "--help"], .help⟩

/-- The flag for more log records. -/
def verboseFlag : Flag := ⟨["--verbose", "-v"], .switch⟩

/-- The flag for the file of the log. -/
def logFlag : Flag := ⟨["--log"], .value⟩

/-- The flag for removing blemishes. -/
def fixFlag : Flag := ⟨["--fix"], .switch⟩

/-- The flag for a report without colours. -/
def noColourFlag : Flag := ⟨["--no-color"], .switch⟩

/-- Lines of a text, each ended. -/
def unlines (ls : List String) : String := String.join (ls.map (· ++ "\n"))

/-- The names of the jobs. -/
def jobNames : List String := ["epub", "lint"]

/-- The arguments of the program. -/
def mainGrammar : Grammar :=
  { program := "rote"
    usage := "usage: rote [-h] [--verbose] [--log FILE] \x7bepub,lint\x7d ...\n"
    about := unlines
      ["Compile rote markup into an EPUB",
       "",
       "positional arguments:",
       "  \x7bepub,lint\x7d",
       "    epub         Build an EPUB",
       "    lint         Lint the raw markup",
       "",
       "options:",
       "  -h, --help     show this help message and exit",
       "  --verbose, -v  More logging (-v info, -vv debug)",
       "  --log FILE     Also write debug logs to FILE",
       "",
       "examples:",
       "  rote epub books/neko images/ out/neko.epub   Build the EPUB",
       "  rote -vv epub books/neko images/ out/neko    Build with debug logging",
       "  rote lint books/neko images/                 Check markup and images",
       "  rote lint books/neko --fix                   Auto-fix what's fixable",
       "        "]
    flags := [helpFlag, verboseFlag, logFlag]
    positionals := [⟨"command", .rest, false⟩] }

/-- The arguments for making a book. -/
def epubGrammar : Grammar :=
  { program := "rote epub"
    usage := "usage: rote epub [-h] plan image_dir output\n"
    about := unlines
      ["positional arguments:",
       "  plan        Plan file, or a directory containing plan.yaml",
       "  image_dir   Directory holding the referenced images",
       "  output      Output path (.epub is appended if missing)",
       "",
       "options:",
       "  -h, --help  show this help message and exit"]
    flags := [helpFlag]
    positionals := [⟨"plan", .one, true⟩, ⟨"image_dir", .one, true⟩, ⟨"output", .one, true⟩] }

/-- The arguments for checking a manuscript. -/
def lintGrammar : Grammar :=
  { program := "rote lint"
    usage := "usage: rote lint [-h] [--fix] [--no-color] plan [image_dir]\n"
    about := unlines
      ["positional arguments:",
       "  plan        Plan file, or a directory containing plan.yaml",
       "  image_dir   Check referenced images against this directory",
       "",
       "options:",
       "  -h, --help  show this help message and exit",
       "  --fix       Auto-fix fixable issues",
       "  --no-color  Plain output"]
    flags := [helpFlag, fixFlag, noColourFlag]
    positionals := [⟨"plan", .one, true⟩, ⟨"image_dir", .optional, false⟩] }

/-! ### What was asked for -/

/-- What the program can be asked to do.  A path is none where its argument is only the mark for the
end of the flags. -/
inductive Job
  /-- Make a book. -/
  | epub (plan : String) (pictureDir output : Option String)
  /-- Check a manuscript. -/
  | lint (plan : String) (pictureDir : Option String) (fix noColour : Bool)
  deriving DecidableEq, Repr

/-- What the program is asked to do. -/
structure Invocation where
  /-- How many log records are wanted. -/
  verbosity : Nat
  /-- The file of the log. -/
  logFile : Option String
  /-- What is to be done. -/
  job : Job
  deriving DecidableEq, Repr

/-- What the arguments ask for. -/
inductive Request
  /-- A help text. -/
  | help (text : String)
  /-- The arguments cannot be read. -/
  | complaint (text : String)
  /-- No job is named. -/
  | nothing (text : String)
  /-- A job is to be done. -/
  | invocation (i : Invocation)
  deriving DecidableEq, Repr

namespace Reading

/-- How often a flag was given. -/
def count (r : Reading) (f : Flag) : Nat :=
  (r.given.filter fun
    | .flag f' _ => f' = f
    | .positional _ _ => false).length

/-- The value that a flag has where it was given last. -/
def value? (r : Reading) (f : Flag) : Option String :=
  (r.given.filterMap fun
    | .flag f' value => if f' = f then some value else none
    | .positional _ _ => none).getLast?.join

/-- What a positional argument took. -/
def args (r : Reading) (name : String) : List String :=
  (r.given.filterMap fun
    | .positional name' args => if name' = name then some args else none
    | .flag _ _ => none).flatten

/-- The first argument that a positional one took. -/
def arg? (r : Reading) (name : String) : Option String := (r.args name).head?

end Reading

/-- The request that an early end of a reading makes. -/
def Stop.request (g : Grammar) : Stop → Request
  | .help => .help g.help
  | .complaint message => .complaint (g.complaint message)

/-- The job that was read. -/
def jobOf (name : String) (r : Reading) : Job :=
  let plan := (r.arg? "plan").getD ""
  if name = "epub" then .epub plan (r.arg? "image_dir") (r.arg? "output")
  else .lint plan (r.arg? "image_dir") (r.count fixFlag > 0) (r.count noColourFlag > 0)

/-- The arguments of a job, when those of the program are read. -/
def readJob (r : Reading) (name : String) (args : List String) : Request :=
  let g := if name = "epub" then epubGrammar else lintGrammar
  match read g args with
  | .error stop => stop.request g
  | .ok r' =>
    let extras := r.extras ++ r'.extras
    if extras.isEmpty then
      .invocation
        { verbosity := r.count verboseFlag, logFile := r.value? logFlag, job := jobOf name r' }
    else
      .complaint (mainGrammar.complaint
        ("unrecognized arguments: " ++ String.intercalate " " extras))

/-- What the arguments ask for. -/
def readArguments (args : List String) : Request :=
  match read mainGrammar args with
  | .error stop => stop.request mainGrammar
  | .ok r =>
    match r.args "command" with
    | [] =>
      if r.extras.isEmpty then .nothing mainGrammar.help
      else .complaint (mainGrammar.complaint
        ("unrecognized arguments: " ++ String.intercalate " " r.extras))
    | name :: args =>
      if jobNames.elem name then readJob r name args
      else .complaint (mainGrammar.complaint
        ("argument command: invalid choice: " ++ Text.quoted name ++ " (choose from "
          ++ String.intercalate ", " (jobNames.map Text.quoted) ++ ")"))

end Kumihan.CommandLine
