import Kumihan.Files.Path
import Kumihan.Files.Tree

/-!
# Disks

A disk is a tree of files with a working directory, from which relative paths start.
What is done to files is a function from disks to disks.

## Main definitions

* `Disk`, `Disk.find` — the location of a path.
* `Disk.isFile`, `Disk.occupied`, `Disk.read` — looking.
* `Disk.textPath`, `Disk.readLetters` — looking, with a path in letters.
* `Disk.write`, `Disk.append`, `Disk.create`, `Disk.makeDirs`, `Disk.move`, `Disk.remove` —
  changing.
-/

namespace Kumihan.Files

open Text (Bytes)

/-- A tree of files with a working directory. -/
structure Disk where
  /-- The files. -/
  tree : Tree
  /-- The path of the working directory. -/
  workingDir : String
  /-- The path of the directory with the files that come with the program. -/
  bundledDir : String
  deriving Repr, Inhabited

namespace Disk

/-- The greatest number of bytes of a path. -/
def pathLimit : Nat := 4095

/-- The names of a path. -/
def names (path : String) : List String := (Text.splitOn '/' path.toList).map String.ofList

/-- The location of the working directory. -/
def home (d : Disk) : Location := (names d.workingDir).filter (· ≠ "")

/-- The location that a path leads to; nothing has to stand there. -/
def locate (d : Disk) (path : String) : Except Cause Location :=
  if path = "" then .error .notFound
  else if path.utf8ByteSize > pathLimit then .error .nameTooLong
  else d.tree.walk (if Path.isAbsolute path then [] else d.home) (names path)

/-- The location that a path leads to, with the fault that names the path. -/
def find (d : Disk) (path : String) : Except Fault Location :=
  if path.toList.elem '\x00' then .error .impossiblePath
  else (d.locate path).mapError (.refused · path none)

/-! ### Looking -/

/-- What stands at a path. -/
def get? (d : Disk) (path : String) : Option Entry :=
  match d.find path with
  | .ok loc => d.tree.get? loc
  | .error _ => none

/-- Something stands at the path. -/
def occupied (d : Disk) (path : String) : Bool := (d.get? path).isSome

/-- A file stands at the path. -/
def isFile (d : Disk) (path : String) : Bool := (d.get? path).any fun e => e matches .file _

/-- A directory stands at the path. -/
def isDir (d : Disk) (path : String) : Bool := (d.get? path).any fun e => e matches .dir

/-- What the file at a path holds. -/
def read (d : Disk) (path : String) : Except Fault Bytes := do
  match d.tree.get? (← d.find path) with
  | some (.file content) => return content.toBytes
  | some .dir => throw (.refused .isDirectory path none)
  | none => throw (.refused .notFound path none)

/-! ### Paths in letters -/

/-- The text that a name is, if it is one. -/
def nameText? (name : Bytes) : Option String :=
  (Text.decode name).toOption.map String.ofList

/-- Why a path leads nowhere some name of which is no text: what is wrong with the way there, or
with the name. -/
def deadEnd (d : Disk) (path : Bytes) : Cause :=
  let slash : UInt8 := 0x2F
  let names := Text.splitOn slash path
  let before := (names.map nameText?).takeWhile (·.isSome)
  let name := names.getD before.length []
  if path.length > pathLimit then .nameTooLong
  else match d.tree.walk (if path.head? = some slash then [] else d.home) before.reduceOption with
    | .error cause => cause
    | .ok loc =>
      match d.tree.get? loc with
      | some (.file _) => .notDirectory
      | some .dir => if name.length > Tree.nameLimit then .nameTooLong else .notFound
      | none => .notFound

/-- The text that leads where a path in letters leads.  The names of files are texts here, so a path
whose bytes are no text leads nowhere. -/
def textPath (d : Disk) (path : List Text.Letter) : Except Fault String :=
  match Text.whole? path with
  | some cs => .ok (String.ofList cs)
  | none =>
    match Text.pathFault? path with
    | some fault => .error (.unwritable fault)
    | none =>
      if path.elem (.char '\x00') then .error .impossiblePath
      else match Text.decode (Text.pathBytes path) with
        | .ok cs => .ok (String.ofList cs)
        | .error _ => .error (.nameless (d.deadEnd (Text.pathBytes path)) path)

@[simp] theorem textPath_letters (d : Disk) (path : String) :
    d.textPath (Text.letters path.toList) = .ok path := by
  simp [textPath]

/-- What the file at a path in letters holds. -/
def readLetters (d : Disk) (path : List Text.Letter) : Except Fault Bytes := do
  d.read (← d.textPath path)

@[simp] theorem readLetters_letters (d : Disk) (path : String) :
    d.readLetters (Text.letters path.toList) = d.read path := by
  rw [readLetters, textPath_letters]
  rfl

/-! ### Changing -/

/-- The file at a path is written.  One that is not there is made; what was in it is gone. -/
def write (d : Disk) (path : String) (content : Content) : Except Fault Disk := do
  let loc ← d.find path
  match d.tree.get? loc with
  | some .dir => throw (.refused .isDirectory path none)
  | _ => return { d with tree := d.tree.put loc (.file content) }

/-- More bytes are written at the end of the file at a path.  One that is not there is made. -/
def append (d : Disk) (path : String) (more : Bytes) : Except Fault Disk := do
  let loc ← d.find path
  match d.tree.get? loc with
  | some .dir => throw (.refused .isDirectory path none)
  | some (.file content) => return { d with tree := d.tree.put loc (.file (content.append more)) }
  | none => return { d with tree := d.tree.put loc (.file (.bytes more)) }

/-- An empty file is made at a path at which nothing stands. -/
def create (d : Disk) (path : String) : Except Fault Disk := do
  let loc ← d.find path
  match d.tree.get? loc with
  | some _ => throw (.refused .alreadyThere path none)
  | none => return { d with tree := d.tree.put loc (.file (.bytes [])) }

/-- A directory is made. -/
def makeDir (d : Disk) (path : String) : Except Fault Disk := do
  let loc ← d.find path
  match d.tree.get? loc with
  | some _ => throw (.refused .alreadyThere path none)
  | none => return { d with tree := d.tree.put loc .dir }

/-- The directories of a list of paths are made, each by `make`.  What stands there already is
passed over unless it is the last one and no directory. -/
def makeEach {ε : Type} (make : Disk → String → Except ε Disk) (d : Disk) :
    List String → Disk × Option ε
  | [] => (d, none)
  | path :: rest =>
    if (if rest.isEmpty then d.isDir path else d.occupied path) then makeEach make d rest
    else match make d path with
      | .ok d => makeEach make d rest
      | .error fault => (d, some fault)

/-- The paths of the directories on the way to a path without detours, and its own. -/
def waypoints (path : String) : List String :=
  let step (acc : List String) (name : String) : List String :=
    Path.join (acc.headD "/") name :: acc
  (((names path).filter (· ≠ "")).foldl step []).reverse

/-- A directory and those on the way to it are made where they are missing.  If one cannot be
made, those before it stay. -/
def makeDirs (d : Disk) (path : String) : Disk × Option Fault := d.makeEach makeDir (waypoints path)

/-- The file at a location is moved to a path, in place of a file that is there. -/
def move (d : Disk) (source target : String) : Except Fault Disk := do
  if target.toList.elem '\x00' then throw .impossiblePath
  let refuse {α : Type} (cause : Cause) : Except Fault α :=
    throw (.refused cause source (some target))
  let loc ← d.find source
  match d.tree.get? loc, d.locate target with
  | none, _ => refuse .notFound
  | some _, .error cause => refuse cause
  | some e, .ok loc' =>
    match d.tree.get? loc' with
    | some .dir => refuse .isDirectory
    | _ => return { d with tree := (d.tree.clear loc).put loc' e }

/-- The file at a path is removed. -/
def remove (d : Disk) (path : String) : Except Fault Disk := do
  let loc ← d.find path
  match d.tree.get? loc with
  | some (.file _) => return { d with tree := d.tree.clear loc }
  | some .dir => throw (.refused .isDirectory path none)
  | none => throw (.refused .notFound path none)

/-- A path in a directory at which nothing stands: the first of those that a token and
underscores behind it give.  There are more of them than entries, so one is free. -/
def freshPath (d : Disk) (dir before token after : String) : String :=
  let candidate (n : Nat) : String :=
    Path.join dir (before ++ token ++ String.ofList (List.replicate n '_') ++ after)
  ((List.range d.tree.entries.length).map candidate |>.find? fun path => !d.occupied path).getD
    (candidate d.tree.entries.length)

end Disk

end Kumihan.Files
