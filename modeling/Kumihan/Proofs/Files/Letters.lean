import Kumihan.Files.Disk
import Kumihan.Proofs.Failing
import Kumihan.Proofs.Text.Utf8

/-!
# Paths in letters

A file is opened by a path in letters if the path can be written.  If it cannot, the fault is
that of writing it; if it can, and holds no character that none can hold, every fault is one
with which the files refuse it.

## Main results

* `Disk.readLetters_of_pathFault` — a path that cannot be written.
* `Disk.isRefusal_of_readLetters` — **a path that can be written** is read or refused.
-/

namespace Kumihan.Text

theorem whole?_eq_some_iff {s : List Letter} {cs : List Char} :
    whole? s = some cs ↔ s = letters cs := by
  constructor
  · intro h
    induction s generalizing cs with
    | nil =>
      obtain rfl := Option.some.inj h
      rfl
    | cons l s ih =>
      cases l with
      | half code => simp [whole?, Letter.char?] at h
      | char c =>
        obtain ⟨cs', hs, rfl⟩ : ∃ cs', whole? s = some cs' ∧ c :: cs' = cs := by
          simpa [whole?, Letter.char?, Option.bind_eq_some_iff] using h
        rw [ih hs]
        rfl
  · rintro rfl
    exact whole?_letters cs

/-- A path can be written if its halves stand for bytes. -/
theorem pathFault?_eq_none_iff {path : List Letter} :
    pathFault? path = none ↔ ∀ l ∈ path, l.char?.isSome ∨ l.byte?.isSome := by
  have hchar (l : Letter) (h : (l.char?.isSome || l.byte?.isSome) = false) : l.char? = none := by
    simpa using (Bool.or_eq_false_iff.mp h).1
  simp only [pathFault?, firstFault?_eq_none_iff hchar, Bool.or_eq_true]

/-- A path without halves can be written. -/
theorem pathFault?_letters (s : List Char) : pathFault? (letters s) = none := by
  refine pathFault?_eq_none_iff.mpr fun l hl => .inl ?_
  obtain ⟨c, -, rfl⟩ := List.mem_map.mp hl
  rfl

/-- A path in letters has a byte that is zero only where it has that character. -/
theorem zero_mem_pathBytes_iff {path : List Letter} :
    0 ∈ pathBytes path ↔ .char '\x00' ∈ path := by
  have hletter (l : Letter) : 0 ∈ l.pathBytes ↔ .char '\x00' = l := by
    cases l with
    | char c =>
      rw [Letter.char.injEq]
      exact zero_mem_utf8EncodeChar_iff
    | half code =>
      -- the byte that a half stands for has its highest bit set
      refine iff_of_false ?_ nofun
      simp only [Letter.pathBytes, Letter.byte?]
      split
      · rw [Option.toList_some, List.mem_singleton, ← UInt8.toNat_inj, toNat_ofNat_of_lt (by omega)]
        show 0 ≠ _
        omega
      · exact List.not_mem_nil
  simp only [pathBytes, List.mem_flatMap, hletter, exists_eq_right']

end Kumihan.Text

namespace Kumihan.Files

open Text (Bytes Letter letters pathBytes pathFault?)

namespace Disk

variable {d : Disk} {path : List Letter} {p : String} {fault : Fault}

/-- A path that cannot be written leads nowhere. -/
theorem textPath_of_pathFault {fault : Text.EncodeFault} (h : pathFault? path = some fault) :
    d.textPath path = .error (.unwritable fault) := by
  unfold textPath
  cases hwhole : Text.whole? path with
  | some cs =>
    rw [Text.whole?_eq_some_iff.mp hwhole, Text.pathFault?_letters] at h
    contradiction
  | none => simp only [h]

/-- The text of a path holds a character that none can hold only where the path does. -/
theorem nul_mem_of_textPath (h : d.textPath path = .ok p) (hp : '\x00' ∈ p.toList) :
    .char '\x00' ∈ path := by
  unfold textPath at h
  cases hwhole : Text.whole? path with
  | some cs =>
    rw [hwhole] at h
    obtain rfl := Except.ok.inj h
    rw [Text.whole?_eq_some_iff.mp hwhole]
    exact List.mem_map_of_mem (by simpa using hp)
  | none =>
    simp only [hwhole] at h
    split at h
    · contradiction
    split at h
    · contradiction
    split at h
    · next cs hdecode =>
      -- the bytes of the path are those of its text
      obtain rfl := Except.ok.inj h
      rw [← Text.zero_mem_pathBytes_iff, ← Text.decode_eq_ok_iff.mp hdecode, Text.encode,
        List.mem_flatMap]
      exact ⟨'\x00', by simpa using hp, Text.zero_mem_utf8EncodeChar_iff.mpr rfl⟩
    · contradiction

theorem isRefusal_of_textPath (hnul : .char '\x00' ∉ path) (hfit : pathFault? path = none)
    (h : d.textPath path = .error fault) : fault.isRefusal = true := by
  unfold textPath at h
  split at h
  · contradiction
  simp only [hfit, List.elem_eq_mem, hnul, decide_false, Bool.false_eq_true, if_false] at h
  split at h
  · contradiction
  · obtain rfl := Except.error.inj h
    rfl

theorem isRefusal_of_find (hnul : '\x00' ∉ p.toList) (h : d.find p = .error fault) :
    fault.isRefusal = true := by
  unfold find at h
  rw [if_neg (by simpa using hnul)] at h
  cases hlocate : d.locate p with
  | ok loc => simp [hlocate] at h
  | error cause =>
    rw [hlocate] at h
    obtain rfl := Except.error.inj h
    rfl

/-- A file is read, or refused, if its path leads somewhere or is refused. -/
theorem isRefusal_of_read (hfind : ∀ fault, d.find p = .error fault → fault.isRefusal = true)
    (h : d.read p = .error fault) : fault.isRefusal = true := by
  unfold read at h
  cases hloc : d.find p with
  | error fault' =>
    rw [hloc] at h
    obtain rfl := Except.error.inj h
    exact hfind _ hloc
  | ok loc =>
    simp only [hloc, bind_ok] at h
    split at h
    · contradiction
    all_goals
      obtain rfl := Except.error.inj h
      rfl

/-- A path that cannot be written is not read. -/
theorem readLetters_of_pathFault {fault : Text.EncodeFault} (h : pathFault? path = some fault) :
    d.readLetters path = .error (.unwritable fault) := by
  rw [readLetters, textPath_of_pathFault h]
  rfl

/-- **A path that can be written** is read, or the files refuse it. -/
theorem isRefusal_of_readLetters (hnul : .char '\x00' ∉ path) (hfit : pathFault? path = none)
    (h : d.readLetters path = .error fault) : fault.isRefusal = true := by
  unfold readLetters at h
  cases hpath : d.textPath path with
  | error fault' =>
    rw [hpath] at h
    obtain rfl := Except.error.inj h
    exact isRefusal_of_textPath hnul hfit hpath
  | ok p =>
    rw [hpath] at h
    have hnul' : '\x00' ∉ p.toList := fun hp => hnul (nul_mem_of_textPath hpath hp)
    exact isRefusal_of_read (fun _ => isRefusal_of_find hnul') h

end Disk

end Kumihan.Files
