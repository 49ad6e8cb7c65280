import Kumihan.Book.Picture
import Kumihan.Proofs.Text.Cut

/-!
# The extensions of names

The last part of a path has an extension if it is something more than dots, a dot, and no dot behind
it.  A picture is accepted for one of two extensions.

## Main results

* `splitExtension_of_name`, `extension_eq_iff` — which extension a path has.
* `exists_mediaType_iff` — **the names of pictures that are accepted.**
-/

namespace Kumihan.Files.Path

open Text (cutLast?_append_cons cutLast?_eq_some_iff)

/-- A path is split before the extension of its last part. -/
theorem splitExtension_of_name {path stem ext : List Char}
    (hname : (cutName path).2 = stem ++ '.' :: ext) (hext : '.' ∉ ext)
    (hstem : stem.all (· = '.') = false) :
    splitExtension path = ((cutName path).1 ++ stem, '.' :: ext) := by
  simp only [splitExtension, hname, cutLast?_append_cons hext, hstem, Bool.false_eq_true, if_false]

/-- **The extension of a path.** -/
theorem extension_eq_iff {path : String} {ext : List Char} (hext : '.' ∉ ext) :
    extension path = String.ofList ('.' :: ext)
      ↔ ∃ stem, (baseName path).toList = stem ++ '.' :: ext ∧ stem.all (· = '.') = false := by
  rw [extension, baseName, String.toList_ofList, String.ofList_inj]
  constructor
  · intro h
    unfold splitExtension at h
    dsimp only at h
    split at h
    · next stem ext' hcut =>
      obtain ⟨hname, -⟩ := cutLast?_eq_some_iff.mp hcut
      split at h
      · contradiction
      · next hstem =>
        obtain rfl := (List.cons.inj h).2
        exact ⟨stem, hname, by simpa using hstem⟩
    · contradiction
  · rintro ⟨stem, hname, hstem⟩
    rw [splitExtension_of_name hname hext hstem]

end Kumihan.Files.Path

namespace Kumihan.Book

/-- **The names of pictures that are accepted**: their last part ends in `.png` or `.jpg` behind
something that is more than dots. -/
theorem exists_mediaType_iff {file : String} : (∃ type, mediaType file = .ok type)
    ↔ ∃ stem ext, (Files.Path.baseName file).toList = stem ++ '.' :: ext
      ∧ stem.all (· = '.') = false ∧ (ext = "png".toList ∨ ext = "jpg".toList) := by
  have hpng : Files.Path.extension file = ".png" ↔ _ :=
    @Files.Path.extension_eq_iff file "png".toList (by decide)
  have hjpg : Files.Path.extension file = ".jpg" ↔ _ :=
    @Files.Path.extension_eq_iff file "jpg".toList (by decide)
  simp only [mediaType_eq_ok_iff, exists_or, exists_and_left, exists_eq, and_true, hpng, hjpg]
  constructor
  · rintro (⟨stem, hname, hstem⟩ | ⟨stem, hname, hstem⟩)
    · exact ⟨stem, _, hname, hstem, .inl rfl⟩
    · exact ⟨stem, _, hname, hstem, .inr rfl⟩
  · rintro ⟨stem, ext, hname, hstem, rfl | rfl⟩
    · exact .inl ⟨stem, hname, hstem⟩
    · exact .inr ⟨stem, hname, hstem⟩

end Kumihan.Book
