import Kumihan.Epub.Assembly

/-!
# Writing a book

A book is written into a new file in the directory where it is to be, and only the
finished file is moved to its place.  Whatever fails, no part of a book is left behind.

Making a directory or a file, moving a file and writing a container can fail for reasons that the
files do not tell, a full disk for one.  The host of a run says when they do; the one that a book
is built with refuses nothing.

## Main definitions

* `outputFile` — the file of the book.
* `Host`, `Host.plain` — what a book is written with.
* `publishOn`, `publish` — a package is written.
* `Build`, `buildOn`, `build`, `buildLoaded` — a book is put together and written.
-/

namespace Kumihan.Epub

open Files (Disk)

/-- The extension of books. -/
def bookExtension : String := ".epub"

/-- The file of a book, with the extension if it is not there. -/
def outputFile (output : String) : String :=
  if bookExtension.toList.isSuffixOf output.toList then output else output ++ bookExtension

/-- What a run is given beside its input. -/
structure Occasion where
  /-- The moment, as a package names it. -/
  moment : String
  /-- The moment, as it stands before a line of the log. -/
  stamp : String
  /-- A word that no other run has. -/
  token : String
  deriving DecidableEq, Repr, Inhabited

/-! ### What a book is written with -/

/-- A call that changes the directory of a book. -/
inductive Call
  /-- A directory is made. -/
  | makeDir (path : String)
  /-- An empty file is made. -/
  | create (path : String)
  /-- A file is moved. -/
  | move (source target : String)
  deriving DecidableEq, Repr

/-- What a book is written with: the system, which may refuse a call that the files themselves
would allow, and the writer of containers. -/
structure Host where
  /-- Why a call is refused, if it is. -/
  refuses : Call → Option Failure := fun _ => none
  /-- The container of a package is written to a path.  Where the writer fails, it has come as far
  as the files tell. -/
  writer : Package → Disk → String → Disk × Option Failure

/-- A call, unless it is refused. -/
def Host.attempt (host : Host) (call : Call) (result : Except Files.Fault Disk) :
    Except Failure Disk :=
  match host.refuses call with
  | some failure => .error failure
  | none => result.mapError .file

/-- A directory is made, unless the host refuses. -/
def Host.makeDir (host : Host) (disk : Disk) (path : String) : Except Failure Disk :=
  host.attempt (.makeDir path) (disk.makeDir path)

/-- The container of a package, put together at a moment and written in one go. -/
def containerWriter (moment : String) (p : Package) (disk : Disk) (path : String) :
    Disk × Option Failure :=
  match p.container moment with
  | .error fault => (disk, some (.container fault))
  | .ok archive =>
    match disk.write path (.archive archive []) with
    | .error fault => (disk, some (.file fault))
    | .ok disk => (disk, none)

/-- The host that refuses nothing, at a moment. -/
def Host.plain (moment : String) : Host := { writer := containerWriter moment }

/-! ### Writing -/

/-- A file that has failed to become a book is removed. -/
def discard (disk : Disk) (temporary : String) : Disk :=
  match disk.remove temporary with
  | .ok disk => disk
  | .error _ => disk

/-- What the writing of a package leaves behind. -/
structure Publication where
  /-- The files. -/
  disk : Disk
  /-- Why there is no book. -/
  failure : Option Failure := none

/-- A package is written to an empty file, and the file is moved to its place. -/
def fill (host : Host) (p : Package) (opened : Disk) (temporary output : String) : Publication :=
  match host.writer p opened temporary with
  | (left, some failure) => { disk := discard left temporary, failure := some failure }
  | (written, none) =>
    match host.attempt (.move temporary output) (written.move temporary output) with
    | .error failure => { disk := discard written temporary, failure := some failure }
    | .ok disk => { disk }

/-- A package is written to its file by a host.  The directories on the way are made, and they
stay. -/
def publishOn (host : Host) (disk : Disk) (token : String) (p : Package) (output : String) :
    Publication :=
  let dir := Files.Path.dirName (Files.Path.absolute disk.workingDir output)
  match disk.makeEach host.makeDir (Disk.waypoints dir) with
  | (disk, some failure) => { disk, failure := some failure }
  | (disk, none) =>
    let temporary := disk.freshPath dir ".rote-" token bookExtension
    match host.attempt (.create temporary) (disk.create temporary) with
    | .error failure => { disk, failure := some failure }
    | .ok opened => fill host p opened temporary output

/-- A package is written to its file. -/
def publish (disk : Disk) (occasion : Occasion) (p : Package) (output : String) : Publication :=
  publishOn (.plain occasion.moment) disk occasion.token p output

/-- What a build leaves behind. -/
structure Build where
  /-- The files. -/
  disk : Disk
  /-- The package, once it is opened. -/
  package : Option Package := none
  /-- What is reported to the log. -/
  records : List Log.Record := []
  /-- Why there is no book. -/
  failure : Option Failure := none

/-- A book that has been put together is written by a host. -/
def finishOn (host : Host) (disk : Disk) (token : String) (a : Assembly) (output : String) :
    Build :=
  match a.failure, a.package with
  | none, some p =>
    let done := publishOn host disk token p (outputFile output)
    { disk := done.disk, package := some p, records := a.records, failure := done.failure }
  | failure, package => { disk, package, records := a.records, failure }

/-- The book of a plan is put together, and a host writes it. -/
def buildOn (host : Host) (disk : Disk) (token : String) (plan : BookPlan)
    (pictureDir output : String) : Build :=
  finishOn host disk token (assemble disk pictureDir plan) output

/-- The book of a plan is put together and written. -/
def build (disk : Disk) (occasion : Occasion) (plan : BookPlan) (pictureDir output : String) :
    Build :=
  buildOn (.plain occasion.moment) disk occasion.token plan pictureDir output

/-- The book of a loaded plan is put together and written. -/
def buildLoaded (disk : Disk) (occasion : Occasion) (plan : LoadedPlan)
    (pictureDir output : String) : Build :=
  finishOn (.plain occasion.moment) disk occasion.token (assembleLoaded disk pictureDir plan) output

theorem buildLoaded_loaded (disk : Disk) (occasion : Occasion) (plan : BookPlan)
    (pictureDir output : String) :
    buildLoaded disk occasion plan.loaded pictureDir output
      = build disk occasion plan pictureDir output := rfl

/-! ### What is printed -/

/-- The line between two parts of what is printed. -/
def rule : String := String.ofList (List.replicate 60 '─')

/-- What is printed before a book is put together. -/
def heading (plan : BookPlan) : String :=
  "\n" ++ rule ++ "\n" ++ s!"  Building EPUB: {plan.title}\n" ++ rule ++ "\n"

/-- What is printed when a book is there. -/
def Build.done (b : Build) (output : String) : String :=
  if b.failure.isNone then s!"  ✓ {outputFile output}\n" else ""

/-- What is printed of a build. -/
def Build.printed (b : Build) (plan : BookPlan) (output : String) : String :=
  heading plan ++ b.done output

end Kumihan.Epub
