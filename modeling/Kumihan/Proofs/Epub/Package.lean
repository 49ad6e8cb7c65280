import Kumihan.Epub.Assembly
import Kumihan.Proofs.Failing

/-!
# What the operations of a package add

Every operation of a package adds to the ends of its lists.  A page adds an item and its place in
the reading order, and what it asks for of the guide and the navigation; a picture adds an item,
unless it is packaged already.

## Main results

* `Package.addItem_of_named`, `Package.addPage_of_role`, `Package.finalize_of_open` — what an
  operation adds.
* `addImage_of_new`, `withPicture_eq_ok` — a picture is packaged once, under its own name.
* `place_eq_ok` — a placement: its picture, then its page.
-/

namespace Kumihan.Epub

open Book (CompiledBook Placement Role mediaType)
open Files (Disk)
open Text (letters)

namespace Package

variable {p : Package}

/-- An item with an id and a media type stays as it is. -/
theorem addItem_of_named (p : Package) {item : Item} (hid : item.id ≠ "")
    (htype : item.mediaType ≠ "") : p.addItem item = { p with items := p.items ++ [item] } := by
  unfold addItem
  simp [hid, htype]

/-- The item of a page that is asked for. -/
def PageRequest.item (page : PageRequest) : Item :=
  ⟨pageId page.file, page.file, "application/xhtml+xml", .text page.content⟩

theorem roleOfName?_name (role : Role) : Role.ofName? role.name = some role := by
  cases role <;> decide

theorem name_ne_empty (role : Role) : role.name.isEmpty = false := by
  cases role <;> decide

theorem addPageItem_eq (p : Package) {page : PageRequest} (hid : pageId page.file ≠ "") :
    p.addPageItem page =
      { p with
        items := p.items ++ [page.item]
        pendingSpine := p.pendingSpine ++ [pageId page.file] } := by
  have htype : page.item.mediaType ≠ "" := by
    show "application/xhtml+xml" ≠ ""
    decide
  have hitem : p.addItem page.item = { p with items := p.items ++ [page.item] } :=
    addItem_of_named p hid htype
  unfold addPageItem
  simp only
  rw [← PageRequest.item, hitem]

/-- What the navigation lists of a page. -/
def navEntries (p : Package) (page : PageRequest) : List NavEntry :=
  if page.inNav then [⟨page.file, p.label page, "nav-" ++ pageId page.file⟩] else []

theorem addPageNav_eq (p : Package) (page : PageRequest) :
    p.addPageNav page = { p with pendingNav := p.pendingNav ++ p.navEntries page } := by
  unfold addPageNav navEntries
  split
  · rfl
  · simp

/-- **A page** with a role that exists, or none, is an item, has its place in the reading order, and
is listed in the guide and the navigation as it asks for. -/
theorem addPage_of_role (p : Package) (page : PageRequest) (role : Option Role)
    (hid : pageId page.file ≠ "") (hrole : page.role = role.map Role.name) :
    (p.addPage page).1 =
      { p with
        items := p.items ++ [page.item]
        pendingSpine := p.pendingSpine ++ [pageId page.file]
        guide := p.guide ++ (role.map fun r => ⟨r.guideType, p.label page, page.file⟩).toList
        pendingNav := p.pendingNav ++ p.navEntries page } := by
  unfold addPage
  rw [hrole, addPageItem_eq p hid]
  cases role with
  | none =>
    simp only [Option.map_none, Option.toList_none, List.append_nil, addPageNav_eq]
    rfl
  | some role =>
    simp only [Option.map_some, name_ne_empty role, roleOfName?_name role, Bool.false_eq_true,
      if_false, addPageNav_eq]
    rfl

/-- The package is finalized: the lists that were pending are settled, and the two documents that
hold them are items. -/
theorem finalize_of_open (h : p.finalized = false) :
    p.finalize = .ok
      { p with
        toc := p.pendingNav
        spine := p.pendingSpine
        finalized := true
        items := p.items ++ [⟨"ncx", "toc.ncx", "application/x-dtbncx+xml", .generated⟩]
          ++ [⟨"nav", "nav.xhtml", "application/xhtml+xml", .generated⟩] } := by
  unfold finalize
  rw [h]
  rfl

end Package

/-! ### Placements -/

section Placements

variable {disk : Disk} {pictureDir : String} {plan : BookPlan} {book : CompiledBook}
  {p p' : Package}

theorem mediaType_ne_empty {file type : String} (h : mediaType file = .ok type) : type ≠ "" := by
  rcases Book.mediaType_eq_ok_iff.mp h with ⟨-, rfl⟩ | ⟨-, rfl⟩ <;> decide

theorem nextImageId_ne_empty (p : Package) : p.nextImageId ≠ "" := by
  unfold Package.nextImageId
  simp

/-- **A picture that is new** and of a supported type is an item under its own name. -/
theorem addImage_of_new {file type : String} (htype : mediaType file = .ok type)
    (hnew : p.images.lookup file = none) (payload : Payload) :
    p.addImage file payload = .ok (p.nextImageId,
      { p with
        items := p.items ++ [⟨p.nextImageId, "image/" ++ file, type, payload⟩]
        images := p.images ++ [(file, p.nextImageId)] }) := by
  have htyped : type ≠ "" := mediaType_ne_empty htype
  simp only [Package.addImage, hnew, htype]
  rw [Package.addItem_of_named p (nextImageId_ne_empty p) htyped]

/-- **A picture** is packaged already, or it is the next one. -/
theorem withPicture_eq_ok {file : String} (h : withPicture disk pictureDir p file = .ok p') :
    (p.hasImage file = true ∧ p' = p)
      ∨ (p.hasImage file = false ∧ ∃ type bs, mediaType file = .ok type
        ∧ readPicture disk (letters pictureDir.toList) (letters file.toList) = .ok bs ∧
        p' = { p with
          items := p.items ++ [⟨p.nextImageId, "image/" ++ file, type, .bytes bs⟩]
          images := p.images ++ [(file, p.nextImageId)] }) := by
  unfold withPicture at h
  cases hhas : p.hasImage file with
  | true =>
    rw [if_pos hhas] at h
    exact Or.inl ⟨rfl, (Except.ok.inj h).symm⟩
  | false =>
    rw [if_neg (by simp [hhas])] at h
    have hnew : p.images.lookup file = none := by simpa [Package.hasImage] using hhas
    cases htype : mediaType file with
    | error fault => simp [htype] at h
    | ok type =>
      cases hread : readPicture disk (letters pictureDir.toList) (letters file.toList) with
      | error failure => simp [htype, hread] at h
      | ok bs =>
        simp only [htype, hread, bind_ok, addImage_of_new htype hnew, mapError_ok] at h
        exact Or.inr ⟨rfl, type, bs, rfl, rfl, (Except.ok.inj h).symm⟩

/-- The pictures that placements show are told by their actions. -/
theorem filterMap_picture? (us : List Placement) :
    us.filterMap picture?
      = ((us.map (·.action)).filter (·.kind.holdsImage)).map (·.content) := by
  have hpicture (u : Placement) :
      picture? u = if u.action.kind.holdsImage then some u.action.content else none := by
    unfold picture?
    cases u.action.kind <;> rfl
  induction us with
  | nil => rfl
  | cons u us ih =>
    rw [List.filterMap_cons, hpicture, List.map_cons, List.filter_cons]
    by_cases himage : u.action.kind.holdsImage = true
    · rw [if_pos himage, if_pos himage, List.map_cons, ih]
    · rw [if_neg himage, if_neg himage, ih]

/-- **A placement**: its picture, then its page. -/
theorem place_eq_ok {u : Placement} (h : place disk pictureDir plan book p u = .ok p') :
    ∃ q, (match picture? u with
        | some file => withPicture disk pictureDir p file = .ok q
        | none => q = p)
      ∧ p' = match pageRequest? plan book u with
        | some page => (q.addPage page).1
        | none => q := by
  unfold place at h
  cases hpicture : picture? u with
  | none =>
    simp only [hpicture, pure_eq_ok, bind_ok] at h
    refine ⟨p, rfl, ?_⟩
    cases hpage : pageRequest? plan book u with
    | none => simpa [hpage, eq_comm] using h
    | some page => simpa [hpage, eq_comm] using h
  | some file =>
    simp only [hpicture] at h
    cases hwith : withPicture disk pictureDir p file with
    | error failure => simp [hwith] at h
    | ok q =>
      refine ⟨q, hwith, ?_⟩
      cases hpage : pageRequest? plan book u with
      | none => simpa [hwith, hpage, eq_comm] using h
      | some page => simpa [hwith, hpage, eq_comm] using h

end Placements

end Kumihan.Epub
