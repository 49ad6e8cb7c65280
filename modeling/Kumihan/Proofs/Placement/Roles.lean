import Kumihan.Proofs.Placement.LinkTargets

/-!
# The roles of pages

A page has the role of its kind, or it is one of the main text.  The main text begins once: its
first page says so, by a role of its kind, and no page of it behind that one has a role, however the
kinds are mixed and whatever pages stand in between.

## Main definitions

* `isMainText`, `landmarkKinds` — the kinds of the main text, and those of which every page is a
  landmark.
* `RolesAssigned` — the placements have the roles that are meant for them.

## Main results

* `role_place` — the role of one page, told by whether the main text has begun.
* `rolesAssigned_layout` — **the roles of all pages.**
-/

namespace Kumihan.Book

/-- The kinds of which every page is a landmark of the book. -/
def landmarkKinds : List ActionKind :=
  [.toc, .prefaceImage, .titlePage, .colophonImage, .afterword]

/-- A page of the kind is one of the main text. -/
def isMainText (kind : ActionKind) : Bool :=
  kind ∈ [ActionKind.body, .titledBody, .image, .copyright, .bibliography, .colophonText]

theorem isSome_firstTextRole? (kind : ActionKind) :
    (firstTextRole? kind).isSome = isMainText kind := by
  cases kind <;> rfl

theorem isSome_fixedRole? (kind : ActionKind) :
    (fixedRole? kind).isSome = decide (kind ∈ landmarkKinds) := by
  cases kind <;> rfl

/-- Some of the placements are pages of the main text. -/
def hasMainText (us : List Placement) : Bool := us.any fun u => isMainText u.action.kind

/-- The placements have the roles that are meant for them. -/
structure RolesAssigned (us : List Placement) : Prop where
  /-- Pages of the front and the back matter have the role of their kind. -/
  landmark : ∀ u ∈ us, u.action.kind ∈ landmarkKinds →
    ∃ role, fixedRole? u.action.kind = some role ∧ u.role = some role
  /-- Of the pages of the main text the first one has the role of its kind, and it alone. -/
  mainText : ∀ before u after, us = before ++ u :: after → isMainText u.action.kind = true →
    ∃ role, firstTextRole? u.action.kind = some role
      ∧ u.role = if hasMainText before then none else some role
  /-- The pictures of characters have no role. -/
  glyph : ∀ u ∈ us, u.action.kind = .glyphImage → u.role = none

section

variable {l l' : Layout} {a : Action} {u : Placement}

/-- **The role of one page**, and whether the main text has begun behind it. -/
theorem role_place (h : l.place a = .ok (u, l')) :
    u.action = a
      ∧ u.role = (if l.textStarted then none else firstTextRole? a.kind).or (fixedRole? a.kind)
      ∧ l'.textStarted = (l.textStarted || isMainText a.kind) := by
  unfold Layout.place at h
  cases hkind : a.kind <;> rw [hkind] at h <;> simp only at h
  case toc | titlePage | colophonImage =>
    split at h
    · contradiction
    · obtain ⟨rfl, rfl⟩ := by simpa using h
      refine ⟨rfl, ?_, ?_⟩
      · simp [firstTextRole?]
      · simp [isMainText]
  case glyphImage | prefaceImage =>
    obtain ⟨rfl, rfl⟩ := by simpa using h
    refine ⟨rfl, ?_, ?_⟩
    · simp [firstTextRole?, fixedRole?]
    · simp [isMainText]
  all_goals
    obtain ⟨rfl, rfl⟩ := by simpa using h
    refine ⟨rfl, ?_, rfl⟩
    cases l.textStarted <;> rfl

end

/-- **The role of each page** among pages that are placed from some point on.  The induction is on
the actions, with whether the main text has begun. -/
theorem role_layoutFrom {l : Layout} {as : List Action} {us : List Placement}
    (h : layoutFrom l as = .ok us) {before after : List Placement} {u : Placement}
    (hus : us = before ++ u :: after) :
    u.role = (if l.textStarted || hasMainText before then none else firstTextRole? u.action.kind).or
      (fixedRole? u.action.kind) := by
  induction as generalizing l us before with
  | nil =>
    obtain rfl := Except.ok.inj h
    simp at hus
  | cons a as ih =>
    obtain ⟨u', l', rest, hplace, hrest, rfl⟩ := layoutFrom_cons_eq_ok h
    obtain ⟨haction, hrole, hstarted⟩ := role_place hplace
    cases before with
    | nil =>
      obtain ⟨rfl, -⟩ := List.cons.inj hus
      rw [haction, hrole, hasMainText, List.any_nil, Bool.or_false]
    | cons v before =>
      obtain ⟨rfl, hmore⟩ := List.cons.inj hus
      rw [ih hrest hmore, hstarted, hasMainText, hasMainText, List.any_cons, haction, Bool.or_assoc]

/-- **The roles of the pages of a book.** -/
theorem rolesAssigned_layout {actions : List Action} {us : List Placement}
    (h : layout actions = .ok us) : RolesAssigned us where
  landmark u hu hkind := by
    obtain ⟨before, after, hus⟩ := List.append_of_mem hu
    have hfixed : (fixedRole? u.action.kind).isSome = true := by
      rw [isSome_fixedRole?]
      exact decide_eq_true hkind
    have hfirst : firstTextRole? u.action.kind = none := by
      rw [← Option.not_isSome_iff_eq_none, isSome_firstTextRole?]
      revert hkind
      cases u.action.kind <;> decide
    obtain ⟨role, hrole⟩ := Option.isSome_iff_exists.mp hfixed
    refine ⟨role, hrole, ?_⟩
    rw [role_layoutFrom h hus, hfirst, ite_self, Option.none_or, hrole]
  mainText before u after hus hkind := by
    have hfirst : (firstTextRole? u.action.kind).isSome = true := by
      rw [isSome_firstTextRole?, hkind]
    have hfixed : fixedRole? u.action.kind = none := by
      revert hkind
      cases u.action.kind <;> decide
    obtain ⟨role, hrole⟩ := Option.isSome_iff_exists.mp hfirst
    refine ⟨role, hrole, ?_⟩
    rw [role_layoutFrom h hus, hfixed, Option.or_none, hrole, Bool.false_or]
  glyph u hu hkind := by
    obtain ⟨before, after, hus⟩ := List.append_of_mem hu
    rw [role_layoutFrom h hus, hkind]
    simp [firstTextRole?, fixedRole?]

end Kumihan.Book
