import Kumihan.Proofs.Epub.Filling
import Kumihan.Proofs.Epub.Publication
import Kumihan.Proofs.Placement.Roles

/-!
# The landmarks of a book

The guide of a book lists its landmarks: the cover, and the pages that carry a role, each of them
once and in the order of the pages.  A page is refused only for a role that does not exist, which no
placement has.

## Main definitions

* `coverRequest`, `coverLandmark` — the page with the cover, and what the guide lists of it.
* `IsLandmark`, `HasLandmarks` — what the guide lists of a placement, and of all of them.

## Main results

* `addPage_of_role_accepted` — no page is refused whose role exists.
* `hasLandmarks_place`, `hasLandmarks_assembleBook`, `hasLandmarks_buildOn` — one placement, a whole
  assembly, and a book that is built.
* `landmarks_of_layout` — **roles and landmarks of a book.**
-/

namespace Kumihan.Epub

open Book (Action CompiledBook Placement Role RolesAssigned layout mediaType)
open Files (Disk)

/-- What is asked for with the cover. -/
def coverRequest (plan : BookPlan) : Package.PageRequest :=
  { file := coverFile, content := Book.coverPage plan (coverName plan), title := some coverTitle
    role := some Role.cover.name, inNav := true }

/-- What the guide lists of the cover. -/
def coverLandmark : GuideEntry := ⟨"cover", coverTitle, coverFile⟩

/-- The label of a page: its title, or the book's if it has none. -/
def pageLabel (plan : BookPlan) (a : Action) : String :=
  ((askedTitle? plan a).filter (· ≠ "")).getD plan.title

/-- An entry of the guide is the one of a placement: it has its role, its label and its file. -/
def IsLandmark (plan : BookPlan) (u : Placement) (entry : GuideEntry) : Prop :=
  ∃ role file, u.role = some role ∧ u.file = some file
    ∧ entry = ⟨role.guideType, pageLabel plan u.action, file⟩

/-- The guide of a package lists the cover and behind it the placements that have a role, each once
and in their order. -/
def HasLandmarks (plan : BookPlan) (us : List Placement) (p : Package) : Prop :=
  ∃ entries, p.guide = coverLandmark :: entries
    ∧ List.Forall₂ (IsLandmark plan) (us.filter (·.role.isSome)) entries

/-! ### One page -/

section Step

variable {disk : Disk} {pictureDir : String} {plan : BookPlan} {book : CompiledBook}
  {us : List Placement} {u : Placement} {p p' : Package}

/-- **A page** whose role exists, or that has none, is not refused. -/
theorem addPage_of_role_accepted (p : Package) {page : Package.PageRequest} {role : Option Role}
    (hrole : page.role = role.map Role.name) : (p.addPage page).2 = none := by
  unfold Package.addPage
  rw [hrole]
  cases role with
  | none => rfl
  | some role =>
    simp only [Option.map_some, Package.name_ne_empty role, Package.roleOfName?_name role,
      Bool.false_eq_true, if_false]

/-- **What is asked for** for a placement has its file, its role and its title; for the picture of a
character nothing is. -/
theorem pageRequest?_cases (plan : BookPlan) (book : CompiledBook) (u : Placement) :
    (pageRequest? plan book u = none ∧ (u.file = none ∨ u.action.kind = .glyphImage))
      ∨ ∃ page, pageRequest? plan book u = some page ∧ u.file = some page.file
        ∧ page.role = u.role.map Role.name ∧ page.title = askedTitle? plan u.action := by
  cases hfile : u.file with
  | none => exact Or.inl ⟨by simp [pageRequest?, hfile], Or.inl rfl⟩
  | some file =>
    unfold askedTitle?
    cases hkind : u.action.kind
    case glyphImage => exact Or.inl ⟨by simp [pageRequest?, hfile, hkind], Or.inr rfl⟩
    all_goals
      simp only [pageRequest?, hfile, hkind, Option.bind_eq_bind, Option.bind_some]
      exact Or.inr ⟨_, rfl, rfl, rfl, rfl⟩

theorem label_of_askedTitle? (htitle : p.title = plan.title) {page : Package.PageRequest}
    (hasked : page.title = askedTitle? plan u.action) : p.label page = pageLabel plan u.action := by
  unfold Package.label pageLabel
  rw [hasked, htitle]
  cases askedTitle? plan u.action with
  | none => rfl
  | some title => by_cases hempty : title = "" <;> simp [Option.filter, hempty]

/-- **One more placement** is listed if it has a role. -/
theorem hasLandmarks_place (hu : WellPlaced u)
    (hglyph : u.action.kind = .glyphImage → u.role = none) (htitle : p.title = plan.title)
    (h : HasLandmarks plan us p)
    (hplace : place disk pictureDir plan book p u = .ok p') :
    p'.title = plan.title ∧ HasLandmarks plan (us ++ [u]) p' := by
  obtain ⟨q, hq, rfl⟩ := place_eq_ok hplace
  -- a picture changes neither the title nor the guide
  have hpicture : q.title = p.title ∧ q.guide = p.guide := by
    cases hpicture : picture? u with
    | none =>
      rw [hpicture] at hq
      rw [hq]
      exact ⟨rfl, rfl⟩
    | some file =>
      rw [hpicture] at hq
      rcases withPicture_eq_ok hq with ⟨-, rfl⟩ | ⟨-, type, bs, -, -, rfl⟩
      · exact ⟨rfl, rfl⟩
      · exact ⟨rfl, rfl⟩
  obtain ⟨htitleQ, hguideQ⟩ := hpicture
  rw [htitle] at htitleQ
  obtain ⟨entries, hguide, hentries⟩ := h
  rcases pageRequest?_cases plan book u with
    ⟨hrequest, hnone⟩ | ⟨page, hrequest, hfile, hrole, hasked⟩
  · have hnorole : u.role = none := by
      refine hglyph (hnone.elim (fun hfile => ?_) id)
      by_contra hkind
      simpa [hfile] using hu.isSome_file.mpr hkind
    rw [hrequest]
    refine ⟨htitleQ, entries, hguideQ.trans hguide, ?_⟩
    rw [List.filter_append, List.filter_cons_of_neg (by simp [hnorole]), List.filter_nil,
      List.append_nil]
    exact hentries
  · have hid : Package.pageId page.file ≠ "" := pageId_ne (hu.isPageFile _ hfile) (by decide)
    rw [hrequest]
    simp only
    rw [q.addPage_of_role page u.role hid hrole, label_of_askedTitle? htitleQ hasked, hguideQ,
      hguide]
    refine ⟨htitleQ, _, rfl, ?_⟩
    rw [List.filter_append]
    refine List.rel_append hentries ?_
    cases hurole : u.role with
    | none =>
      rw [List.filter_cons_of_neg (by simp [hurole])]
      exact .nil
    | some role =>
      rw [List.filter_cons_of_pos (by simp [hurole])]
      exact .cons ⟨role, page.file, hurole, hfile, rfl⟩ .nil

end Step

/-! ### Whole books -/

section Run

variable {disk : Disk} {pictureDir : String} {plan : BookPlan} {inputs : Inputs}
  {book : CompiledBook} {us : List Placement} {p q : Package}

/-- The package that is opened ends with the cover. -/
theorem openPackage_eq_addPage (h : openPackage plan inputs = .ok p) :
    ∃ q : Package, q.guide = [] ∧ p = (q.addPage (coverRequest plan)).1 := by
  unfold openPackage at h
  cases htype : mediaType plan.coverImage with
  | error fault => simp [Package.addCoverImage, htype] at h
  | ok type =>
    have htyped : type ≠ "" := mediaType_ne_empty htype
    simp only [Package.addCoverImage, htype, mapError_ok, bind_ok, pure_eq_ok, Except.ok.injEq] at h
    refine ⟨_, ?_, h.symm⟩
    simp (disch := simp [htyped]) only [Package.addResource, Package.addItem_of_named]
    rfl

/-- **The package that is opened** lists the cover. -/
theorem hasLandmarks_openPackage (h : openPackage plan inputs = .ok p) :
    p.title = plan.title ∧ HasLandmarks plan [] p := by
  obtain ⟨type, -, htitle, -⟩ := openPackage_eq_ok h
  obtain ⟨q, hguide, rfl⟩ := openPackage_eq_addPage h
  have hid : Package.pageId (coverRequest plan).file ≠ "" :=
    pageId_ne isPageFile_coverFile (by decide)
  refine ⟨htitle, [], ?_, .nil⟩
  rw [q.addPage_of_role (coverRequest plan) (some .cover) hid rfl]
  show q.guide ++ _ = _
  rw [hguide]
  rfl

/-- The package is finalized: its guide stays. -/
theorem guide_of_finalize (h : p.finalize = .ok q) : q.guide = p.guide := by
  cases hopen : p.finalized with
  | true => simp [Package.finalize, hopen] at h
  | false =>
    rw [Package.finalize_of_open hopen] at h
    rw [← Except.ok.inj h]

/-- **The guide of a book** that is put together without a failure. -/
theorem hasLandmarks_assembleBook (hlayout : layout book.actions = .ok us)
    (h : (assembleBook disk pictureDir plan inputs book).failure = none) :
    ∃ p, (assembleBook disk pictureDir plan inputs book).package = some p
      ∧ HasLandmarks plan us p := by
  obtain ⟨placements, opened, filled, p, hplacements, hopen, hplaced, hfilled, hfinal, hp⟩ :=
    assembleBook_finished h
  obtain rfl : us = placements := Except.ok.inj (hlayout.symm.trans hplacements)
  have hroles := Book.rolesAssigned_layout hlayout
  have hstep : ∀ u ∈ us, ∀ done p p', p.title = plan.title ∧ HasLandmarks plan done p →
      place disk pictureDir plan book p u = .ok p' →
      p'.title = plan.title ∧ HasLandmarks plan (done ++ [u]) p' :=
    fun u hu _ _ _ hholds => hasLandmarks_place (wellPlaced_layoutFrom hlayout u hu)
      (hroles.glyph u hu) hholds.1 hholds.2
  obtain ⟨-, entries, hguide, hentries⟩ := placeAll_finished (place disk pictureDir plan book)
    (fun us p => p.title = plan.title ∧ HasLandmarks plan us p) us hstep
    (hasLandmarks_openPackage hopen) hplaced hfilled
  exact ⟨p, hp, entries, (guide_of_finalize hfinal).trans hguide, hentries⟩

/-- **The guide of a book that is built**: its cover and its landmarks. -/
theorem hasLandmarks_buildOn {host : Host} {token output : String}
    (h : (buildOn host disk token plan pictureDir output).failure = none) :
    ∃ book us p, compilePlan disk plan = .ok book ∧ layout book.actions = .ok us
      ∧ (buildOn host disk token plan pictureDir output).package = some p
      ∧ HasLandmarks plan us p := by
  obtain ⟨hassembled, hbuilt⟩ := assemble_of_buildOn h
  obtain ⟨inputs, book, -, hbook, hfinished, hpackage⟩ := assemble_eq_assembleBook hassembled
  obtain ⟨us, -, -, -, hlayout, -⟩ := assembleBook_finished hfinished
  obtain ⟨p, hp, hlandmarks⟩ := hasLandmarks_assembleBook hlayout hfinished
  exact ⟨book, us, p, hbook, hlayout, hbuilt.trans (hpackage.trans hp), hlandmarks⟩

end Run

/-- **Roles and landmarks of a book** whose pages can be placed.  Every page has the role that is
meant for it.  No page that a package is asked for, of a placement or of the cover, is refused.  A
package that is put together without a failure lists in its guide the cover and behind it the
placements that have a role, each once and in their order. -/
theorem landmarks_of_layout {actions : List Action} {us : List Placement}
    (h : layout actions = .ok us) :
    RolesAssigned us
      ∧ (∀ (plan : BookPlan) (book : CompiledBook) (p : Package),
        (p.addPage (coverRequest plan)).2 = none
          ∧ ∀ u ∈ us, ∀ page, pageRequest? plan book u = some page → (p.addPage page).2 = none)
      ∧ ∀ (disk : Disk) (pictureDir : String) (plan : BookPlan) (inputs : Inputs)
        (book : CompiledBook), book.actions = actions →
          (assembleBook disk pictureDir plan inputs book).failure = none →
          ∃ p, (assembleBook disk pictureDir plan inputs book).package = some p
            ∧ HasLandmarks plan us p := by
  refine ⟨Book.rolesAssigned_layout h, fun plan book p => ⟨?_, fun u hu page hpage => ?_⟩, ?_⟩
  · have hrole : (coverRequest plan).role = (some Role.cover).map Role.name := rfl
    exact addPage_of_role_accepted p hrole
  · rcases pageRequest?_cases plan book u with ⟨hrequest, -⟩ | ⟨page', hrequest, -, hrole, -⟩
    · rw [hrequest] at hpage
      contradiction
    · obtain rfl : page' = page := Option.some.inj (hrequest.symm.trans hpage)
      exact addPage_of_role_accepted p hrole
  · rintro disk pictureDir plan inputs book rfl hfinished
    exact hasLandmarks_assembleBook h hfinished

/-- An afterword, the picture of a character and three pages of the main text. -/
def mixedActions : List Action :=
  [{ kind := .afterword, title := some "Z" }, { kind := .glyphImage, content := "a.png" },
   { kind := .bibliography }, { kind := .image, content := "a.png" }, { kind := .body }]

/-- A book of these pages. -/
def mixedBook : CompiledBook :=
  { actions := mixedActions, titles := [], skeleton := default, tocMarkup := none, leftover := "" }

/-- The roles of these pages, and what the guide of their book lists. -/
theorem landmarks_mixedActions :
    ∃ us p, layout mixedActions = .ok us ∧ RolesAssigned us
      ∧ us.map (·.role) = [some .afterword, none, some .bibliography, none, none]
      ∧ (assembleBook (desk letter) "img" Book.slimPlan ⟨[], [], [], []⟩ mixedBook).package = some p
      ∧ HasLandmarks Book.slimPlan us p := by
  obtain ⟨us, hus⟩ : ∃ us, layout mixedActions = .ok us := by
    simp [mixedActions, layout, Book.layoutFrom, Book.Layout.place]
  have hfinished : (assembleBook (desk letter) "img" Book.slimPlan ⟨[], [], [], []⟩
      mixedBook).failure = none := by
    decide +kernel
  obtain ⟨hroles, -, hguide⟩ := landmarks_of_layout hus
  obtain ⟨p, hp, hlandmarks⟩ := hguide _ _ _ _ _ rfl hfinished
  refine ⟨us, p, hus, hroles, ?_, hp, hlandmarks⟩
  obtain rfl : _ = us := Except.ok.inj hus
  decide +kernel

end Kumihan.Epub
