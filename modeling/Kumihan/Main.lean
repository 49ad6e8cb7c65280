import Kumihan.CommandLine.Needs
import Kumihan.Epub.StyleSheet
import Std.Time.Format

/-!
# The program

The outermost layer: the files that a run looks at are read, the run is computed, and
what it leaves behind is printed and written.

## Main definitions

* `main`.
-/

namespace Kumihan.Program

open CommandLine (Outcome Setting)
open Files (Content Disk Entry Location Tree)

/-- The path of a location. -/
def pathOf (loc : Location) : String := "/" ++ String.intercalate "/" loc

/-! ### Reading -/

/-- The number of the error with which a directory refuses to be read. -/
def directoryCode : UInt32 := 21

/-- What stands at a path of the real disk. -/
def inspect (path : String) : IO (Option Entry) := do
  try
    let bs ← IO.FS.readBinFile path
    return some (.file (.bytes bs.toList))
  catch
    | .inappropriateType _ code _ => return if code = directoryCode then some .dir else none
    | _ => return none

/-- The locations on the way to a location, and itself. -/
def waysTo (loc : Location) : List Location :=
  (List.range loc.length).map fun n => loc.take (n + 1)

/-- The tree with what stands on the way to a path and there. -/
def fetch (disk : Disk) (path : String) : IO Disk := do
  let loc := (Disk.names (Files.Path.absolute disk.workingDir path)).filter (· ≠ "")
  (waysTo loc).foldlM
    (fun disk loc => do
      if (disk.tree.get? loc).isSome then return disk
      match ← inspect (pathOf loc) with
      | some e => return { disk with tree := disk.tree.put loc e }
      | none => return disk)
    disk

/-- The files that a run looks at. -/
def fetchNeeds (args : List String) : Nat → Disk → IO Disk
  | 0, disk => return disk
  | n + 1, disk => do fetchNeeds args n (← (CommandLine.needs disk args).foldlM fetch disk)

/-- The directory of the files that come with the program.  It only stands in the tree that a run
is given. -/
def bundledDir : String := "/kumihan/artifacts"

/-- A disk with the files that come with the program. -/
def bundledDisk (workingDir : String) : Disk :=
  let add (disk : Disk) (file : String) (style : Epub.StyleSheet) : Disk :=
    let loc := (Disk.names bundledDir).filter (· ≠ "") ++ [file]
    { disk with
      tree := disk.tree.put loc (.file (.bytes (Text.encode style.render.toList))) }
  let empty : Disk := { tree := {}, workingDir, bundledDir }
  let disk := (empty.makeDirs bundledDir).1
  add (add disk Book.bookStyleFile Epub.bookStyle) Book.fitStyleFile Epub.fitStyle

/-! ### Writing -/

/-- A file is written beside its place and moved there. -/
def save (path token : String) (content : Content) : IO Unit := do
  let temporary := path ++ "." ++ token
  IO.FS.writeBinFile temporary (ByteArray.mk content.toBytes.toArray)
  IO.FS.rename temporary path

/-- What differs between two trees is written. -/
def writeChanges (before after : Tree) (token : String) : IO Unit :=
  after.entries.forM fun (loc, e) => do
    if before.get? loc ≠ some e then
      match e with
      | .dir => IO.FS.createDirAll (pathOf loc)
      | .file content => save (pathOf loc) token content

/-! ### The run -/

/-- A word that no other run has. -/
def newToken : IO String := do
  let bs ← IO.getRandomBytes 4
  return String.ofList (hexBytes bs.toList)

/-- What a run is given beside its arguments and files. -/
def setting : IO Setting := do
  let moment := (← Std.Time.DateTime.now).format "uuuu-MM-dd'T'HH:mm:ssXXX"
  let stamp := (← Std.Time.PlainDateTime.now).format "uuuu-MM-dd HH:mm:ss,SSS "
  return {
    occasion := { moment, stamp, token := ← newToken }
    outTerminal := ← (← IO.getStdout).isTty
    errTerminal := ← (← IO.getStderr).isTty }

end Kumihan.Program

open Kumihan Program in
/-- The program: its exit code is that of the run. -/
def main (args : List String) : IO UInt32 := do
  let setting ← setting
  let workingDir := s!"{← IO.currentDir}"
  let disk ← fetchNeeds args CommandLine.rounds (← fetch (bundledDisk workingDir) workingDir)
  let outcome := CommandLine.run disk setting args
  IO.print outcome.out
  IO.eprint outcome.err
  if let some fault := outcome.refusal then IO.eprintln fault.message
  writeChanges disk.tree outcome.disk.tree setting.occasion.token
  return UInt32.ofNat outcome.exit
