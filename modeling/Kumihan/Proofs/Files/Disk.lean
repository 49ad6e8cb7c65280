import Kumihan.Files.Disk
import Kumihan.Proofs.Failing

/-!
# What an operation on a disk changes

Every operation finds the locations of its paths and changes at most what stands there.  A
path leads to the same location as long as no directory is taken away, whatever happens to
the files: this is why a file can be found again that was made, written and perhaps lost in
between.

## Main definitions

* `Tree.file?` — what the file at a location holds.
* `Disk.ChangedOnlyAt` — a disk that differs at one location, where no directory stands.

## Main results

* `Tree.walk_of_dirs`, `Disk.ChangedOnlyAt.find_eq` — paths lead on.
* `Disk.makeDir_eq_ok`, `Disk.create_eq_ok`, `Disk.write_eq_ok`, `Disk.move_eq_ok` — what an
  operation finds and what it changes.
* `Disk.read_of_write` — what is written to a file is read from it.
* `Disk.isFile_of_write` — where a file is written, the same paths lead to files.
* `Disk.makeEach_invariant` — what every making of a directory leaves as it was.
-/

namespace Kumihan.Files

namespace Tree

/-- What the file at a location holds. -/
def file? (t : Tree) (loc : Location) : Option Content :=
  match t.get? loc with
  | some (.file content) => some content
  | _ => none

@[simp] theorem get?_nil (t : Tree) : t.get? [] = some .dir := by simp [get?]

theorem file?_of_get? {t : Tree} {loc : Location} {content : Content}
    (h : t.get? loc = some (.file content)) : t.file? loc = some content := by
  simp [file?, h]

theorem file?_of_get?_eq_none {t : Tree} {loc : Location} (h : t.get? loc = none) :
    t.file? loc = none := by
  simp [file?, h]

theorem file?_congr {t t' : Tree} {loc : Location} (h : t'.get? loc = t.get? loc) :
    t'.file? loc = t.file? loc := by
  simp [file?, h]

/-- Where no directory stands, the root is not. -/
theorem ne_nil_of_get? {t : Tree} {loc : Location} (h : t.get? loc ≠ some .dir) : loc ≠ [] := by
  intro hnil
  subst hnil
  exact h (get?_nil t)

/-- A way through directories is one in every tree that has them. -/
theorem walk_of_dirs {t t' : Tree} (h : ∀ loc, t.get? loc = some .dir → t'.get? loc = some .dir)
    {names : List String} : ∀ {loc loc' : Location},
    t.walk loc names = .ok loc' → t'.walk loc names = .ok loc' := by
  induction names with
  | nil =>
    intro loc loc' hwalk
    simpa [walk] using hwalk
  | cons name names ih =>
    intro loc loc' hwalk
    rw [walk] at hwalk ⊢
    cases hget : t.get? loc with
    | none => simp [hget] at hwalk
    | some e =>
      cases e with
      | file content => simp [hget] at hwalk
      | dir =>
        -- the step is taken in a directory, and the other tree has it too
        simp only [hget] at hwalk
        simp only [h loc hget]
        by_cases hstay : name = "" ∨ name = "."
        · rw [if_pos hstay] at hwalk ⊢
          exact ih hwalk
        rw [if_neg hstay] at hwalk ⊢
        by_cases hup : name = ".."
        · rw [if_pos hup] at hwalk ⊢
          exact ih hwalk
        rw [if_neg hup] at hwalk ⊢
        by_cases hlong : name.utf8ByteSize > nameLimit
        · rw [if_pos hlong] at hwalk
          cases hwalk
        rw [if_neg hlong] at hwalk ⊢
        exact ih hwalk

end Tree

namespace Disk

variable {d d' : Disk} {path : String} {loc : Location}

/-- A path leads to a location exactly if it is not empty, not too long and can be walked. -/
theorem locate_eq_ok : d.locate path = .ok loc ↔
    path ≠ "" ∧ path.utf8ByteSize ≤ pathLimit ∧
      d.tree.walk (if Path.isAbsolute path then [] else d.home) (names path) = .ok loc := by
  unfold locate
  by_cases hempty : path = ""
  · simp [hempty]
  by_cases hlong : path.utf8ByteSize > pathLimit
  · rw [if_neg hempty, if_pos hlong]
    exact iff_of_false nofun fun h => absurd h.2.1 (Nat.not_le.mpr hlong)
  · rw [if_neg hempty, if_neg hlong]
    exact ⟨fun h => ⟨hempty, Nat.not_lt.mp hlong, h⟩, fun h => h.2.2⟩

theorem find_eq_ok : d.find path = .ok loc ↔ '\x00' ∉ path.toList ∧ d.locate path = .ok loc := by
  unfold find
  by_cases hnull : '\x00' ∈ path.toList
  · simp [hnull]
  · cases hlocate : d.locate path with
    | error cause => simp [hnull]
    | ok found => simp [hnull]

/-- A path that leads somewhere leads there on every disk with the same directories. -/
theorem find_of_dirs (hdir : d'.workingDir = d.workingDir)
    (h : ∀ loc, d.tree.get? loc = some .dir → d'.tree.get? loc = some .dir)
    (hfind : d.find path = .ok loc) : d'.find path = .ok loc := by
  have hhome : d'.home = d.home := by rw [home, home, hdir]
  rw [find_eq_ok, locate_eq_ok] at hfind ⊢
  obtain ⟨hnull, hempty, hlong, hwalk⟩ := hfind
  rw [hhome]
  exact ⟨hnull, hempty, hlong, Tree.walk_of_dirs h hwalk⟩

/-- A disk that differs from another one at most at one location, where no directory stands. -/
structure ChangedOnlyAt (loc : Location) (d d' : Disk) : Prop where
  /-- The working directory is the same. -/
  workingDir_eq : d'.workingDir = d.workingDir
  /-- No directory stands at the location. -/
  get?_ne_dir : d'.tree.get? loc ≠ some .dir
  /-- Elsewhere there is no difference. -/
  get?_of_ne : ∀ loc' ≠ loc, d'.tree.get? loc' = d.tree.get? loc'

theorem ChangedOnlyAt.file?_of_ne (h : ChangedOnlyAt loc d d') {loc' : Location}
    (hne : loc' ≠ loc) :
    d'.tree.file? loc' = d.tree.file? loc' :=
  Tree.file?_congr (h.get?_of_ne loc' hne)

theorem ChangedOnlyAt.refl (d : Disk) (h : d.tree.get? loc ≠ some .dir) : ChangedOnlyAt loc d d :=
  ⟨rfl, h, fun _ _ => rfl⟩

theorem ChangedOnlyAt.trans {d'' : Disk} (h : ChangedOnlyAt loc d d')
    (h' : ChangedOnlyAt loc d' d'') : ChangedOnlyAt loc d d'' where
  workingDir_eq := h'.workingDir_eq.trans h.workingDir_eq
  get?_ne_dir := h'.get?_ne_dir
  get?_of_ne loc' hne := (h'.get?_of_ne loc' hne).trans (h.get?_of_ne loc' hne)

/-- Paths lead where they led, for no directory is gone. -/
theorem ChangedOnlyAt.find_eq (h : ChangedOnlyAt loc d d') (hd : d.tree.get? loc ≠ some .dir)
    {path : String} {loc' : Location} (hfind : d.find path = .ok loc') :
    d'.find path = .ok loc' := by
  refine find_of_dirs h.workingDir_eq (fun l hl => ?_) hfind
  have hne : l ≠ loc := by
    intro heq
    exact hd (heq ▸ hl)
  rw [h.get?_of_ne l hne, hl]

/-- Of two disks that differ at one location either is the one that was changed. -/
theorem ChangedOnlyAt.symm (h : ChangedOnlyAt loc d d') (hd : d.tree.get? loc ≠ some .dir) :
    ChangedOnlyAt loc d' d where
  workingDir_eq := h.workingDir_eq.symm
  get?_ne_dir := hd
  get?_of_ne loc' hne := (h.get?_of_ne loc' hne).symm

/-- A file put where no directory stands. -/
theorem changedOnlyAt_put (d : Disk) (h : d.tree.get? loc ≠ some .dir) (content : Content) :
    ChangedOnlyAt loc d { d with tree := d.tree.put loc (.file content) } where
  workingDir_eq := rfl
  get?_ne_dir := by simp [Tree.get?_put_self (Tree.ne_nil_of_get? h)]
  get?_of_ne loc' hne := Tree.get?_put_of_ne hne d.tree _

theorem file?_put (d : Disk) (h : d.tree.get? loc ≠ some .dir) (content : Content) :
    (d.tree.put loc (.file content)).file? loc = some content :=
  Tree.file?_of_get? (Tree.get?_put_self (Tree.ne_nil_of_get? h) d.tree _)

theorem get?_clear_self (d : Disk) (h : d.tree.get? loc ≠ some .dir) :
    (d.tree.clear loc).get? loc = none := by
  simp [Tree.get?_clear d.tree (Tree.ne_nil_of_get? h)]

/-- A location is cleared at which no directory stands. -/
theorem changedOnlyAt_clear (d : Disk) (h : d.tree.get? loc ≠ some .dir) :
    ChangedOnlyAt loc d { d with tree := d.tree.clear loc } where
  workingDir_eq := rfl
  get?_ne_dir := by simp [get?_clear_self d h]
  get?_of_ne loc' hne := by
    by_cases hnil : loc' = []
    · subst hnil
      simp
    · simp [Tree.get?_clear d.tree hnil, hne]

/-! ### Operations -/

theorem makeDir_eq_ok : d.makeDir path = .ok d' ↔
    ∃ loc, d.find path = .ok loc ∧ d.tree.get? loc = none ∧
      d' = { d with tree := d.tree.put loc .dir } := by
  unfold makeDir
  cases hfind : d.find path with
  | error fault => simp
  | ok loc =>
    cases hget : d.tree.get? loc with
    | none => simp [hget, eq_comm]
    | some e => simp [hget]

theorem create_eq_ok : d.create path = .ok d' ↔
    ∃ loc, d.find path = .ok loc ∧ d.tree.get? loc = none ∧
      d' = { d with tree := d.tree.put loc (.file (.bytes [])) } := by
  unfold create
  cases hfind : d.find path with
  | error fault => simp
  | ok loc =>
    cases hget : d.tree.get? loc with
    | none => simp [hget, eq_comm]
    | some e => simp [hget]

theorem write_eq_ok {content : Content} : d.write path content = .ok d' ↔
    ∃ loc, d.find path = .ok loc ∧ d.tree.get? loc ≠ some .dir ∧
      d' = { d with tree := d.tree.put loc (.file content) } := by
  unfold write
  cases hfind : d.find path with
  | error fault => simp
  | ok loc =>
    cases hget : d.tree.get? loc with
    | none => simp [hget, eq_comm]
    | some e =>
      cases e <;>
        simp [hget, eq_comm]

/-- What is moved stands at the target, if no directory stood there, and no longer where it was. -/
theorem move_eq_ok {source target : String} : d.move source target = .ok d' ↔
    ∃ loc e loc', d.find source = .ok loc ∧ d.tree.get? loc = some e ∧
      d.find target = .ok loc' ∧ d.tree.get? loc' ≠ some .dir ∧
      d' = { d with tree := (d.tree.clear loc).put loc' e } := by
  unfold move
  -- the characters of the target are looked at before the source, and its way after it
  have htarget (loc' : Location) :
      d.find target = .ok loc' ↔ '\x00' ∉ target.toList ∧ d.locate target = .ok loc' := find_eq_ok
  simp only [htarget]
  by_cases hnull : '\x00' ∈ target.toList
  · simp [hnull]
  cases hfind : d.find source with
  | error fault => simp [hnull]
  | ok loc =>
    cases hget : d.tree.get? loc with
    | none => simp [hnull, hget]
    | some e =>
      cases hlocate : d.locate target with
      | error cause => simp [hnull, hget]
      | ok loc' =>
        cases hget' : d.tree.get? loc' with
        | none => simp [hnull, hget, hget', eq_comm]
        | some e' =>
          cases e' <;>
            simp [hnull, hget, hget', eq_comm]

theorem read_eq_ok {bs : Text.Bytes} : d.read path = .ok bs ↔
    ∃ loc content, d.find path = .ok loc ∧ d.tree.get? loc = some (.file content)
      ∧ content.toBytes = bs := by
  unfold read
  cases hfind : d.find path with
  | error fault => simp
  | ok loc =>
    cases hget : d.tree.get? loc with
    | none => simp [hget]
    | some e => cases e <;> simp [hget]

/-- A file that can be read can be written. -/
theorem exists_write_of_read {bs : Text.Bytes} (h : d.read path = .ok bs) (content : Content) :
    ∃ d', d.write path content = .ok d' := by
  obtain ⟨loc, old, hfind, hget, -⟩ := read_eq_ok.mp h
  exact ⟨_, write_eq_ok.mpr ⟨loc, hfind, by simp [hget], rfl⟩⟩

/-- What is written is read. -/
theorem read_of_write {content : Content} (h : d.write path content = .ok d') :
    d'.read path = .ok content.toBytes := by
  obtain ⟨loc, hfind, hdir, rfl⟩ := write_eq_ok.mp h
  have hsame := (changedOnlyAt_put d hdir content).find_eq hdir hfind
  exact read_eq_ok.mpr
    ⟨loc, content, hsame, Tree.get?_put_self (Tree.ne_nil_of_get? hdir) d.tree _, rfl⟩

theorem isFile_eq_true_iff : d.isFile path = true ↔
    ∃ loc content, d.find path = .ok loc ∧ d.tree.get? loc = some (.file content) := by
  unfold isFile get?
  cases hfind : d.find path with
  | error fault => simp
  | ok loc =>
    cases hget : d.tree.get? loc with
    | none => simp [hget]
    | some e => cases e <;> simp [hget]

/-- A file that is written is a file as before, and so is every other one. -/
theorem isFile_of_write {bs : Text.Bytes} {content : Content} (hread : d.read path = .ok bs)
    (h : d.write path content = .ok d') (other : String) : d'.isFile other = d.isFile other := by
  obtain ⟨loc, old, hold, hget, -⟩ := read_eq_ok.mp hread
  obtain ⟨loc', hfind, hdir, rfl⟩ := write_eq_ok.mp h
  obtain rfl := Except.ok.inj (hold.symm.trans hfind)
  have hnew := Tree.get?_put_self (Tree.ne_nil_of_get? hdir) d.tree (.file content)
  have hchanged := changedOnlyAt_put d hdir content
  rw [Bool.eq_iff_iff, isFile_eq_true_iff, isFile_eq_true_iff]
  -- one file is in the place of another, so both disks have the same directories
  constructor
  · rintro ⟨there, c, hother, hc⟩
    refine ⟨there, if there = loc then old else c,
      (hchanged.symm hdir).find_eq hchanged.get?_ne_dir hother, ?_⟩
    by_cases heq : there = loc
    · rw [if_pos heq, heq, hget]
    · rw [if_neg heq, ← hchanged.get?_of_ne there heq, hc]
  · rintro ⟨there, c, hother, hc⟩
    refine ⟨there, if there = loc then content else c, hchanged.find_eq hdir hother, ?_⟩
    by_cases heq : there = loc
    · rw [if_pos heq, heq, hnew]
    · rw [if_neg heq, hchanged.get?_of_ne there heq, hc]

/-! ### What happens to the files -/

theorem file?_makeDir (h : d.makeDir path = .ok d') (loc : Location) :
    d'.tree.file? loc = d.tree.file? loc := by
  obtain ⟨made, -, hfree, rfl⟩ := makeDir_eq_ok.mp h
  by_cases heq : loc = made
  · subst heq
    have hnil : loc ≠ [] := Tree.ne_nil_of_get? (t := d.tree) (by simp [hfree])
    rw [Tree.file?_of_get?_eq_none hfree]
    simp [Tree.file?, Tree.get?_put_self hnil]
  · exact Tree.file?_congr (Tree.get?_put_of_ne heq d.tree .dir)

theorem workingDir_makeDir (h : d.makeDir path = .ok d') : d'.workingDir = d.workingDir := by
  obtain ⟨made, -, -, rfl⟩ := makeDir_eq_ok.mp h
  rfl

/-- What every making of a directory leaves as it was, the making of many does too. -/
theorem makeEach_invariant {ε α : Type} {make : Disk → String → Except ε Disk} (look : Disk → α)
    (hmake : ∀ d d' path, make d path = .ok d' → look d' = look d) (paths : List String) :
    ∀ d : Disk, look (d.makeEach make paths).1 = look d := by
  induction paths with
  | nil =>
    intro d
    rfl
  | cons path rest ih =>
    intro d
    rw [makeEach]
    by_cases hthere : (if rest.isEmpty then d.isDir path else d.occupied path) = true
    · rw [if_pos hthere]
      exact ih d
    · rw [if_neg hthere]
      cases hok : make d path with
      | ok d' => exact (ih d').trans (hmake d d' path hok)
      | error fault => rfl

end Disk

end Kumihan.Files
