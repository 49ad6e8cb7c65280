import Kumihan.Files.Path

/-!
# Pictures

A book holds pictures of two types, told apart by the extension of their names.

## Main definitions

* `mediaType`, `mediaType_eq_ok_iff` — the media type of a picture's name, and which names have one.
-/

namespace Kumihan.Book

/-- A picture's name has neither of the two extensions. -/
structure UnsupportedPicture where
  /-- The name. -/
  file : String
  deriving DecidableEq, Repr

/-- What is said of such a name. -/
def UnsupportedPicture.message (fault : UnsupportedPicture) : String :=
  "Unsupported image type: " ++ fault.file ++ " (expected .png or .jpg)"

/-- The media type of an extension. -/
def mediaTypeOfExtension? : String → Option String
  | ".png" => some "image/png"
  | ".jpg" => some "image/jpeg"
  | _ => none

/-- The media type of a picture. -/
def mediaType (file : String) : Except UnsupportedPicture String :=
  match mediaTypeOfExtension? (Files.Path.extension file) with
  | some mediaType => .ok mediaType
  | none => .error ⟨file⟩

/-- **The pictures that are accepted**, by the extensions of their names, and their types. -/
theorem mediaType_eq_ok_iff {file type : String} : mediaType file = .ok type
    ↔ (Files.Path.extension file = ".png" ∧ type = "image/png")
      ∨ (Files.Path.extension file = ".jpg" ∧ type = "image/jpeg") := by
  have hextension (ext : String) : mediaTypeOfExtension? ext = some type
      ↔ (ext = ".png" ∧ type = "image/png") ∨ (ext = ".jpg" ∧ type = "image/jpeg") := by
    unfold mediaTypeOfExtension?
    split
    · simp [eq_comm]
    · simp [eq_comm]
    · next hpng hjpg => exact iff_of_false nofun fun h => h.elim (hpng ·.1) (hjpg ·.1)
  rw [← hextension, mediaType]
  cases mediaTypeOfExtension? (Files.Path.extension file) <;> simp

/-- What is said of a picture that is not accepted names it. -/
theorem mediaType_eq_error {file : String} {fault : UnsupportedPicture}
    (h : mediaType file = .error fault) : fault = ⟨file⟩ := by
  unfold mediaType at h
  split at h
  · contradiction
  · exact (Except.error.inj h).symm

end Kumihan.Book
