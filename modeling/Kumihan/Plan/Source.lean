import Kumihan.Failure
import Kumihan.Files.Disk
import Kumihan.Yaml.Document

/-!
# Reading what a book is made from

The plan is found under the name of its file or of the directory that it lies in.
It names the manuscript and the cover.  A style sheet or another file that every book
needs is looked for beside the plan first, so that a book can bring its own; the
last place is the directory of the files that come with the program.

A path that no file could have, because it holds a character that none can hold or cannot be
written, is a failure of its own kind wherever a file is opened.

What a plan is written in is read by a reader of YAML that the plan is loaded with.

## Main definitions

* `findPlan`, `LoadedPlan.load`, `LoadedPlan.readText`.
* `findArtifact`, `readArtifact`, `readPicture`.
* `LoadedPlan.compile`, `compilePlan` — the manuscript of a plan, compiled.
-/

namespace Kumihan

open Files (Disk)
open Files.Path (join joinLetters absolute dirName baseName)
open Text (Bytes Letter letters)

/-- The name of the plan in its directory. -/
def planFile : String := "plan.yaml"

/-- A file that is opened for reading; `wrap` says what a refusal means. -/
def openFile (disk : Disk) (path : List Letter) (wrap : Files.Fault → ConfigFault) :
    Except Failure Bytes :=
  (disk.readLetters path).mapError fun fault =>
    if fault.isRefusal then .config (wrap fault) else .file fault

/-! ### Plans -/

/-- The file of the plan that is called by its own name or by that of its directory. -/
def findPlan (disk : Disk) (name : String) : Option String :=
  ([name, join name planFile].find? disk.isFile).map (absolute disk.workingDir)

/-- A reader of YAML: the value of a file that holds some bytes. -/
abbrev YamlReader := Bytes → Except Yaml.Fault Data.Value

/-- The value that the bytes of a plan give. -/
def planValue (readYaml : YamlReader) (path : String) (bs : Bytes) : Except Failure Data.Value :=
  (readYaml bs).mapError fun
    | .malformed complaint => .config (.malformedPlan path complaint)
    | .unreadable fault => .unreadableField fault
    | .undecodable fault => .undecodablePlan fault

namespace LoadedPlan

/-- The plan that the bytes of a file give, for the directory that the file lies in. -/
def ofBytes (readYaml : YamlReader) (path dir : String) (bs : Bytes) :
    Except Failure LoadedPlan := do
  match ← planValue readYaml path bs with
  | .mapping entries =>
    match ofMapping entries dir with
    | .ok plan => return plan
    | .error (.missing fault) => throw (.config (.missingFields fault))
    | .error .longNumeral => throw .longNumeral
    | .error (.unencodable fault) => throw (.unencodable fault)
  | v => throw (.config (.notMapping (baseName path) v.kind))

/-- The plan in a file. -/
def load (readYaml : YamlReader) (disk : Disk) (path : List Letter) : Except Failure LoadedPlan :=
  match disk.textPath path with
  | .error _ => .error (.config (.noPlanFile (Text.spelled path)))
  | .ok name => do
    if !disk.occupied name then throw (.config (.noPlanFile name))
    let bs ← openFile disk path (.unreadablePlan name)
    ofBytes readYaml name (dirName (absolute disk.workingDir name)) bs

/-- The manuscript of a plan. -/
def readText (disk : Disk) (plan : LoadedPlan) : Except Failure String := do
  let path := Text.spelled plan.rawPath
  let bs ← openFile disk plan.rawPath (.unreadableText path)
  match Text.decode bs with
  | .ok cs => return String.ofList (Text.unifyNewlines cs)
  | .error fault => throw (.config (.undecodableText path fault))

end LoadedPlan

/-- The manuscript of a plan whose texts can be written. -/
def BookPlan.readText (disk : Disk) (plan : BookPlan) : Except Failure String :=
  plan.loaded.readText disk

/-! ### What every book needs -/

/-- The file that a book uses under a name. -/
def findArtifact (disk : Disk) (dir file : String) : Option String :=
  if file.isEmpty then none
  else
    let places := [join dir "artifacts", dir, disk.bundledDir]
    ((places.map (join · file)).find? disk.isFile).map (absolute disk.workingDir)

/-- What the file holds that a book uses under a name. -/
def readArtifact (disk : Disk) (dir file : String) : Except Failure Bytes :=
  match findArtifact disk dir file with
  | none => .error (.config (.missingArtifact file dir))
  | some path => (disk.read path).mapError .file

/-- A picture that the plan or the manuscript names. -/
def readPicture (disk : Disk) (dir file : List Letter) : Except Failure Bytes :=
  let path := joinLetters dir file
  openFile disk path (.unreadablePicture (Text.spelled path))

/-! ### Manuscripts -/

/-- The manuscript of a plan, compiled. -/
def LoadedPlan.compile (disk : Disk) (plan : LoadedPlan) : Except Failure Book.CompiledBook := do
  (Book.compileText plan.shown (← plan.readText disk)).mapError .compile

/-- The manuscript of a plan whose texts can be written, compiled. -/
def compilePlan (disk : Disk) (plan : BookPlan) : Except Failure Book.CompiledBook :=
  plan.loaded.compile disk

/-- What a plan compiles to once its manuscript is read. -/
theorem compilePlan_eq_ok_iff {disk : Disk} {plan : BookPlan} {raw : String}
    (hraw : plan.readText disk = .ok raw) {book : Book.CompiledBook} :
    compilePlan disk plan = .ok book ↔ Book.compileText plan raw = .ok book := by
  have hcompile : compilePlan disk plan = (Book.compileText plan raw).mapError Failure.compile := by
    rw [BookPlan.readText] at hraw
    rw [compilePlan, LoadedPlan.compile, hraw, BookPlan.shown_loaded]
    rfl
  rw [hcompile]
  cases Book.compileText plan raw with
  | error fault => exact iff_of_false nofun nofun
  | ok book' =>
    constructor
    · rintro ⟨⟩
      rfl
    · rintro ⟨⟩
      rfl

end Kumihan
