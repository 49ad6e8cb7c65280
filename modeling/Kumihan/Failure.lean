import Kumihan.Book.Compiled
import Kumihan.Book.Placement
import Kumihan.Epub.Container
import Kumihan.Plan.Fault

/-!
# Failures

Every way in which a run can fail.  Most of them are foreseen: the command line reports
them in one line.  The others are reported as unexpected.

## Main definitions

* `Failure`, `Failure.message`.
* `Failure.isForeseen`.
-/

namespace Kumihan

/-- Why a run fails. -/
inductive Failure
  /-- What the book is made from cannot be used. -/
  | config (fault : ConfigFault)
  /-- The manuscript cannot be compiled. -/
  | compile (fault : Book.CompileFault)
  /-- The manuscript has two pages of a kind that can occur once. -/
  | duplicatePage (fault : Book.DuplicatePage)
  /-- A picture's type is not supported. -/
  | picture (fault : Book.UnsupportedPicture)
  /-- There is no plan under the name that was given. -/
  | noPlan (name : String)
  /-- The manuscript to be checked cannot be read. -/
  | unreadableManuscript (path : String) (fault : Files.Fault)
  /-- A file refuses what is done with it. -/
  | file (fault : Files.Fault)
  /-- The plan is no text. -/
  | undecodablePlan (fault : Text.DecodeFault)
  /-- A field of the plan has the form of a value that does not exist. -/
  | unreadableField (fault : Yaml.ScalarFault)
  /-- A field of the plan holds a number that is too long to be printed. -/
  | longNumeral
  /-- The title or the author of the plan cannot be written. -/
  | unencodable (fault : Text.EncodeFault)
  /-- The directory of the pictures is a list without names. -/
  | noPictureDir
  /-- The path of the book is a list without names. -/
  | noOutput
  /-- The book cannot be put together. -/
  | package (fault : Epub.PackageFault)
  /-- The book cannot be written. -/
  | container (fault : Epub.WriteFault)
  deriving DecidableEq, Repr

namespace Failure

/-- What is said of a failure. -/
def message : Failure → String
  | config fault => fault.message
  | compile (.unknownDirective fault) => fault.message
  | compile (.tocMismatch fault) => fault.message
  | duplicatePage fault => fault.message
  | picture fault => fault.message
  | noPlan name =>
    s!"Could not find a plan at '{name}' (expected a plan file or a directory containing plan.yaml)"
  | unreadableManuscript path fault => s!"Could not read {path}: " ++ fault.message
  | file fault => fault.message
  | undecodablePlan fault => fault.message
  | unreadableField fault => fault.message
  | longNumeral => Data.numeralTooLong none
  | unencodable fault => fault.message
  | noPictureDir => "expected str, bytes or os.PathLike object, not list"
  | noOutput => "'list' object has no attribute 'endswith'"
  | package fault => fault.message
  | container fault => fault.message

/-- The failure is one that a book or its files can be expected to cause. -/
def isForeseen : Failure → Bool
  | config _ | compile _ | duplicatePage _ | picture _ | noPlan _ | unreadableManuscript _ _ => true
  | file _ | undecodablePlan _ | unreadableField _ | longNumeral | unencodable _ | noPictureDir
  | noOutput | package _ | container _ => false

end Failure

end Kumihan
