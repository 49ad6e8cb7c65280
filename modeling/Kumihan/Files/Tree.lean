import Kumihan.Files.Archive
import Kumihan.Files.Fault
import Kumihan.Text.Occurrence

/-!
# Trees of files

A tree says what stands at each location.  A location is the names on the way from the root; the
root itself is always a directory.  A path is looked up name by name: every name but the last
has to be one of a directory.

## Main definitions

* `Content`, `Entry`, `Tree`.
* `Tree.get?`, `Tree.put`, `Tree.clear`.
* `Tree.walk` — the location that a path leads to.
-/

namespace Kumihan.Files

open Text (Bytes)

/-- What a file holds. -/
inductive Content
  /-- Bytes. -/
  | bytes (bs : Bytes)
  /-- Other files, and bytes behind them. -/
  | archive (files : Archive) (behind : Bytes)
  deriving DecidableEq, Repr

/-- What a file holds, as bytes. -/
def Content.toBytes : Content → Bytes
  | bytes bs => bs
  | archive files behind => files.encode ++ behind

/-- What a file holds with more bytes at its end. -/
def Content.append (more : Bytes) : Content → Content
  | bytes bs => bytes (bs ++ more)
  | archive files behind => archive files (behind ++ more)

/-- What stands at a location. -/
inductive Entry
  /-- A directory. -/
  | dir
  /-- A file. -/
  | file (content : Content)
  deriving DecidableEq, Repr

/-- The names on the way from the root. -/
abbrev Location := List String

/-- What stands where. -/
structure Tree where
  /-- The locations at which something stands, the root left out. -/
  entries : List (Location × Entry) := []
  deriving Repr, Inhabited

namespace Tree

/-- What stands at a location. -/
def get? (t : Tree) (loc : Location) : Option Entry :=
  if loc = [] then some .dir else t.entries.lookup loc

/-- The entries with one set. -/
def putIn (loc : Location) (e : Entry) : List (Location × Entry) → List (Location × Entry)
  | [] => [(loc, e)]
  | (loc', e') :: rest =>
    if loc' = loc then (loc, e) :: rest else (loc', e') :: putIn loc e rest

/-- The tree with something put at a location. -/
def put (t : Tree) (loc : Location) (e : Entry) : Tree := ⟨putIn loc e t.entries⟩

/-- The tree with nothing at a location. -/
def clear (t : Tree) (loc : Location) : Tree := ⟨t.entries.filter (·.1 ≠ loc)⟩

@[simp] theorem lookup_putIn_self (loc : Location) (e : Entry) (es : List (Location × Entry)) :
    (putIn loc e es).lookup loc = some e := by
  induction es with
  | nil => simp [putIn]
  | cons x es ih =>
    obtain ⟨loc', e'⟩ := x
    simp only [putIn]
    split
    · simp
    · rename_i h
      have : (loc == loc') = false := by simpa using Ne.symm h
      simp [List.lookup_cons, this, ih]

theorem lookup_putIn_of_ne {loc loc' : Location} (h : loc' ≠ loc) (e : Entry)
    (es : List (Location × Entry)) : (putIn loc e es).lookup loc' = es.lookup loc' := by
  have hb : (loc' == loc) = false := by simpa using h
  induction es with
  | nil => simp [putIn, List.lookup_cons, hb]
  | cons x es ih =>
    obtain ⟨loc'', e'⟩ := x
    simp only [putIn]
    split
    · rename_i heq
      subst heq
      simp [List.lookup_cons, hb]
    · simp only [List.lookup_cons, ih]

/-- What is put at a location stands there. -/
theorem get?_put_self {loc : Location} (h : loc ≠ []) (t : Tree) (e : Entry) :
    (t.put loc e).get? loc = some e := by
  simp [get?, put, h]

/-- Elsewhere nothing changes. -/
theorem get?_put_of_ne {loc loc' : Location} (h : loc' ≠ loc) (t : Tree) (e : Entry) :
    (t.put loc e).get? loc' = t.get? loc' := by
  simp only [get?, put]
  split
  · rfl
  · exact lookup_putIn_of_ne h e t.entries

theorem lookup_filter_ne (loc loc' : Location) (es : List (Location × Entry)) :
    (es.filter (·.1 ≠ loc)).lookup loc' = if loc' = loc then none else es.lookup loc' := by
  induction es with
  | nil => simp
  | cons x es ih =>
    obtain ⟨loc'', e⟩ := x
    by_cases h : loc'' = loc
    · subst h
      rw [List.filter_cons_of_neg (by simp), ih]
      split
      · rfl
      · rename_i hne
        have : (loc' == loc'') = false := by simpa using hne
        simp [List.lookup_cons, this]
    · rw [List.filter_cons_of_pos (by simpa using h)]
      simp only [List.lookup_cons]
      by_cases h' : loc' = loc''
      · subst h'
        simp [h]
      · have : (loc' == loc'') = false := by simpa using h'
        simp only [this, ih]

/-- Where a location is cleared, nothing stands; elsewhere nothing changes. -/
theorem get?_clear (t : Tree) {loc loc' : Location} (h : loc' ≠ []) :
    (t.clear loc).get? loc' = if loc' = loc then none else t.get? loc' := by
  simp only [get?, clear, h, if_false]
  exact lookup_filter_ne loc loc' t.entries

/-! ### Paths -/

/-- The greatest number of bytes of a name. -/
def nameLimit : Nat := 255

/-- The location that is reached from a location by names.  Something has to stand
at all locations on the way, and they have to be directories; the last one may
be empty. -/
def walk (t : Tree) : Location → List String → Except Cause Location
  | loc, [] => .ok loc
  | loc, name :: rest =>
    match t.get? loc with
    | none => .error .notFound
    | some (.file _) => .error .notDirectory
    | some .dir =>
      if name = "" ∨ name = "." then walk t loc rest
      else if name = ".." then walk t loc.dropLast rest
      else if name.utf8ByteSize > nameLimit then .error .nameTooLong
      else walk t (loc ++ [name]) rest

end Tree

end Kumihan.Files
