import Kumihan.CommandLine.Run

/-!
# The files that a run looks at

A run is a function of the files that it is given.  To be given those of a real disk, it
has to say which it will look at.  What it needs becomes known step by step: the
plan names the manuscript, and the manuscript names the pictures.

## Main definitions

* `needs` — the paths that a run looks at, as far as they are known from the files that
  are there.
* `rounds` — so many times the answer can grow.
-/

namespace Kumihan.CommandLine

open Files (Disk)
open Files.Path (absolute dirName join joinLetters)

/-- The number of steps in which the paths become known: the plan, the manuscript, the
pictures. -/
def rounds : Nat := 3

/-- The paths at which a plan may be found. -/
def planNeeds (name : String) : List String := [name, join name planFile]

/-- The paths at which a file that every book needs may be found, the bundled ones left out. -/
def artifactNeeds (plan : LoadedPlan) (file : String) : List String :=
  [join (join plan.dir "artifacts") file, join plan.dir file]

/-- The pictures that a manuscript names. -/
def picturesOf (raw : String) : List String :=
  (Lint.readLines (Text.lines (Markup.normalize raw.toList)) 1).1.flatMap Lint.pictureNames

/-- The pictures that the manuscript of a plan names, if it can be read. -/
def pictureNeeds (disk : Disk) (plan : LoadedPlan) (dir : String) : List String :=
  match plan.readText disk with
  | .ok raw => (picturesOf raw).map (join dir)
  | .error _ => []

/-- The path that a path in letters leads to, if it leads anywhere. -/
def lettersNeeds (disk : Disk) (path : List Text.Letter) : List String :=
  (disk.textPath path).toOption.toList

/-- The paths that the making of a book looks at beside the plan. -/
def epubNeeds (disk : Disk) (plan : LoadedPlan) (pictureDir output : Option String) :
    List String :=
  let outputNeeds (output : String) : List String :=
    let file := Epub.outputFile output
    [file, dirName (absolute disk.workingDir file)]
  let picturesNeeds (dir : String) : List String :=
    lettersNeeds disk (joinLetters (Text.letters dir.toList) plan.coverImage)
      ++ pictureNeeds disk plan dir
  lettersNeeds disk plan.rawPath
    ++ [Book.bookStyleFile, Book.fitStyleFile, Book.keepSpaceFile].flatMap (artifactNeeds plan)
    ++ output.toList.flatMap outputNeeds ++ pictureDir.toList.flatMap picturesNeeds

/-- The paths that the checking of a manuscript looks at beside the plan. -/
def lintNeeds (disk : Disk) (plan : LoadedPlan) (pictureDir : Option String) : List String :=
  lettersNeeds disk plan.rawPath ++ (pictureDir.map (pictureNeeds disk plan)).getD []

/-- The paths that a job looks at. -/
def jobNeeds (disk : Disk) : Job → List String
  | .epub name pictureDir output =>
    planNeeds name ++
      match loadPlan disk name with
      | .ok plan => epubNeeds disk plan pictureDir output
      | .error _ => []
  | .lint name pictureDir _ _ =>
    planNeeds name ++
      match loadPlan disk name with
      | .ok plan => lintNeeds disk plan pictureDir
      | .error _ => []

/-- The paths that a run looks at. -/
def needs (disk : Disk) (args : List String) : List String :=
  match readArguments args with
  | .invocation i => crashFile :: (logPath? disk i).toList ++ jobNeeds disk i.job
  | _ => []

end Kumihan.CommandLine
