import Kumihan.Text.Letter

/-!
# Faults of files

## Main definitions

* `Cause` — why a path cannot be used as it is meant to be.
* `Fault`, `Fault.message`, `Fault.isRefusal`.
-/

namespace Kumihan.Files

/-- Why a path cannot be used. -/
inductive Cause
  /-- Nothing is there. -/
  | notFound
  /-- Something is there already. -/
  | alreadyThere
  /-- A file stands where a directory has to be. -/
  | notDirectory
  /-- A directory stands where a file has to be. -/
  | isDirectory
  /-- A name in the path is too long. -/
  | nameTooLong
  deriving DecidableEq, Repr

/-- The number of a cause. -/
def Cause.number : Cause → Nat
  | notFound => 2
  | alreadyThere => 17
  | notDirectory => 20
  | isDirectory => 21
  | nameTooLong => 36

/-- What is said of a cause. -/
def Cause.message : Cause → String
  | notFound => "No such file or directory"
  | alreadyThere => "File exists"
  | notDirectory => "Not a directory"
  | isDirectory => "Is a directory"
  | nameTooLong => "File name too long"

/-- Why something cannot be done with a file. -/
inductive Fault
  /-- A path cannot be used; where a file is moved, its second path is given too. -/
  | refused (cause : Cause) (path : String) (target : Option String)
  /-- A path cannot be used that leads to a name that is no text. -/
  | nameless (cause : Cause) (path : List Text.Letter)
  /-- A path holds a character that none can hold. -/
  | impossiblePath
  /-- A path cannot be written. -/
  | unwritable (fault : Text.EncodeFault)
  deriving DecidableEq, Repr

/-- What is said of a cause and the path in quotes. -/
def Cause.messageFor (cause : Cause) (path : String) : String :=
  s!"[Errno {cause.number}] {cause.message}: " ++ path

/-- What is said of a fault. -/
def Fault.message : Fault → String
  | refused cause path target =>
    cause.messageFor (Text.quoted path) ++ (target.map fun t => " -> " ++ Text.quoted t).getD ""
  | nameless cause path => cause.messageFor (String.ofList (Text.quotedLetters path))
  | impossiblePath => "embedded null byte"
  | unwritable fault => fault.message

/-- The files refuse the path.  The other faults are those of a path that no file could have. -/
def Fault.isRefusal : Fault → Bool
  | refused _ _ _ | nameless _ _ => true
  | impossiblePath | unwritable _ => false

end Kumihan.Files
