import Kumihan.Text.Letter
import Kumihan.Text.Occurrence

/-!
# Paths

Paths are texts whose parts are separated by slashes.  The functions here read a
path as it is written and never look at a file.

## Main definitions

* `join`, `joinLetters`, `baseName`, `dirName`, `splitExtension`.
* `normalize` — without empty parts, `.`, and `..` where a part can be taken back.
* `absolute` — from a working directory, normalized.
-/

namespace Kumihan.Files.Path

/-- The path begins at the root. -/
def isAbsolute (path : String) : Bool := path.toList.head? = some '/'

/-- A path below another one; an absolute path stays what it is. -/
def join (base path : String) : String :=
  if isAbsolute path then path
  else if base.isEmpty || base.toList.getLast? = some '/' then base ++ path
  else base ++ "/" ++ path

/-- The same for paths in letters. -/
def joinLetters (base path : List Text.Letter) : List Text.Letter :=
  let slash := Text.Letter.char '/'
  if path.head? = some slash then path
  else if base.isEmpty || base.getLast? = some slash then base ++ path
  else base ++ slash :: path

/-- Without halves, paths in letters are joined as texts. -/
theorem joinLetters_letters (base path : String) :
    joinLetters (Text.letters base.toList) (Text.letters path.toList)
      = Text.letters (join base path).toList := by
  have hslash (s : Option Char) : s.map Text.Letter.char = some (.char '/') ↔ s = some '/' := by
    cases s <;> simp
  have hempty : base.toList.isEmpty = base.isEmpty := by
    rw [Bool.eq_iff_iff, List.isEmpty_iff, String.isEmpty_iff, String.toList_eq_nil_iff]
  simp only [joinLetters, join, isAbsolute, Text.letters, List.head?_map, List.getLast?_map,
    List.isEmpty_map, hslash, hempty, decide_eq_true_eq]
  split
  · rfl
  · split <;> simp

/-- What stands before and after the last slash. -/
def cutName (path : List Char) : List Char × List Char :=
  match Text.cutLast? '/' path with
  | some (dir, name) => (dir ++ ['/'], name)
  | none => ([], path)

/-- The part behind the last slash. -/
def baseName (path : String) : String := String.ofList (cutName path.toList).2

/-- The text without the slashes at its end. -/
def dropSlashes (path : List Char) : List Char :=
  (path.reverse.dropWhile (· = '/')).reverse

/-- The part before the last slash; only slashes are kept as they are. -/
def dirName (path : String) : String :=
  let dir := (cutName path.toList).1
  String.ofList (if dir.all (· = '/') then dir else dropSlashes dir)

/-- A path and the extension of its name, from the last dot on.  Dots that only
have dots before them open the name and no extension. -/
def splitExtension (path : List Char) : List Char × List Char :=
  let (dir, name) := cutName path
  match Text.cutLast? '.' name with
  | some (stem, ext) => if stem.all (· = '.') then (path, []) else (dir ++ stem, '.' :: ext)
  | none => (path, [])

/-- The extension of a path, with its dot. -/
def extension (path : String) : String := String.ofList (splitExtension path.toList).2

/-- A path without its extension. -/
def withoutExtension (path : String) : String := String.ofList (splitExtension path.toList).1

/-! ### Normalization -/

/-- One part on top of the parts so far, the last of them first.  `rooted` tells
that `..` has nowhere to go above the first part. -/
def pushPart (rooted : Bool) (stack : List (List Char)) (part : List Char) : List (List Char) :=
  if part = [] ∨ part = ['.'] then stack
  else if part ≠ ['.', '.'] then part :: stack
  else match stack with
    | [] => if rooted then [] else [part]
    | top :: rest => if top = ['.', '.'] then part :: stack else rest

/-- The slashes that a normalized path begins with.  Two of them are kept, any
other number above none is one. -/
def rootSlashes : List Char → List Char
  | '/' :: '/' :: '/' :: _ => ['/']
  | '/' :: '/' :: _ => ['/', '/']
  | '/' :: _ => ['/']
  | _ => []

/-- Parts with a slash between any two. -/
def joinParts : List (List Char) → List Char
  | [] => []
  | [part] => part
  | part :: parts => part ++ '/' :: joinParts parts

/-- The path without detours. -/
def normalize (path : String) : String :=
  let root := rootSlashes path.toList
  let parts := ((Text.splitOn '/' path.toList).foldl (pushPart (!root.isEmpty)) []).reverse
  let written := root ++ joinParts parts
  if written.isEmpty then "." else String.ofList written

/-- The path from the root, for a given working directory. -/
def absolute (workingDir path : String) : String :=
  if isAbsolute path then normalize path else normalize (join workingDir path)

end Kumihan.Files.Path
