import Kumihan.Proofs.Text.Pieces
import Kumihan.Yaml.Source

/-!
# Files are broken off where they are no text

## Main results

* `isSome_fault_ofFile` — a file that is no text is broken off.
* `not_isText_of_fault_ofFile` — a file that is broken off with a fault about bytes is no text.
-/

namespace Kumihan.Yaml.Source

open Text (IsText)

/-- The end of the pieces is the end of the source, unless a character cuts it short. -/
theorem fault_ofPieces (fault : Option Fault) (pieces : List (List Char)) :
    (ofPieces fault pieces).fault = fault
      ∨ ∃ c, (ofPieces fault pieces).fault = some (.malformed (.unprintable c)) := by
  induction pieces with
  | nil => exact .inl rfl
  | cons piece pieces ih =>
    rw [ofPieces]
    split
    · exact .inr ⟨_, rfl⟩
    · exact ih

/-- A file is broken off with the fault that its pieces end with, unless a character cuts it
short. -/
theorem fault_ofFile (bs : Text.Bytes) :
    (ofFile bs).fault = (Text.TextFile.pieces pieceSize bs).2.map .undecodable
      ∨ ∃ c, (ofFile bs).fault = some (.malformed (.unprintable c)) := by
  unfold ofFile
  generalize Text.TextFile.pieces pieceSize bs = result
  obtain ⟨pieces, broken⟩ := result
  dsimp only
  split
  · exact fault_ofPieces _ _
  · split
    · exact .inl rfl
    · next hnone =>
      rw [Option.not_isSome_iff_eq_none.mp hnone]
      exact fault_ofPieces none _

/-- **A file that is no text is broken off.** -/
theorem isSome_fault_ofFile {bs : Text.Bytes} (h : ¬ IsText bs) : (ofFile bs).fault.isSome := by
  rcases fault_ofFile bs with hfault | ⟨c, hfault⟩
  · rw [hfault, Option.isSome_map, Option.isSome_iff_ne_none, Ne,
      Text.TextFile.pieces_eq_none_iff (by decide)]
    exact h
  · rw [hfault]
    rfl

/-- **A file that is broken off with a fault about bytes is no text.** -/
theorem not_isText_of_fault_ofFile {bs : Text.Bytes} {fault : Text.DecodeFault}
    (h : (ofFile bs).fault = some (.undecodable fault)) : ¬ IsText bs := by
  rw [← Text.TextFile.pieces_eq_none_iff (n := pieceSize) (by decide)]
  intro hnone
  rcases fault_ofFile bs with hfault | ⟨c, hfault⟩
  · rw [hnone, h] at hfault
    cases hfault
  · rw [h] at hfault
    cases hfault

end Kumihan.Yaml.Source
