import Kumihan.Proofs.Epub.Assembly
import Kumihan.Proofs.Epub.Names
import Kumihan.Proofs.Epub.Package

/-!
# What a package is filled with

The items of a package, its reading order, its guide and its navigation are four lists that are
filled side by side.  One more placement adds at most one page to them, and at most one picture;
what is added to each list is told by the placement alone.  So each list of the finished package is
told by the placements, although pages and pictures stand in between each other in the list of
items.

## Main definitions

* `Item.isPage` — the items that are pages.
* `pageItem?`, `navLink?` — the page of a placement, and what the navigation lists of it.
* `Showable` — a placement whose page can be shown.
* `HoldsPages`, `HoldsPictures` — what a package holds after some placements.
* `Finished` — what it holds when it is finalized.

## Main results

* `holds_openPackage` — the package that is opened.
* `holds_place` — one more placement.
* `finished_assemble` — **what the package of a book holds** that is put together without a failure.
-/

namespace Kumihan.Epub

open Book (Action ActionKind CompiledBook Placement Role layout mediaType)
open Files (Disk)

/-- The item is a page: a document other than the navigation. -/
def Item.isPage (item : Item) : Bool :=
  item.mediaType = "application/xhtml+xml" && item.id ≠ "nav"

/-- The document that an action is rendered as, if it is a page. -/
def pageMarkup? (plan : BookPlan) (book : CompiledBook) (a : Action) : Option String :=
  match a.kind with
  | .glyphImage => none
  | .toc => book.tocMarkup
  | .prefaceImage | .titlePage => some (Book.fullPage plan a.content)
  | .image | .colophonImage => some (Book.imagePage plan a.content)
  | .body | .titledBody | .afterword | .copyright | .bibliography | .colophonText =>
    some (Book.contentPage plan a.content)

/-- The page of a placement. -/
def pageItem? (plan : BookPlan) (book : CompiledBook) (u : Placement) : Option Item :=
  match u.file, pageMarkup? plan book u.action with
  | some file, some markup =>
    some ⟨Package.pageId file, file, "application/xhtml+xml", .text markup⟩
  | _, _ => none

/-- The label under which the navigation lists an action: the table of contents has the one of the
plan, or the book's title if that is empty, and a chapter or an afterword has its title. -/
def navLabel? (plan : BookPlan) (a : Action) : Option String :=
  match a.kind with
  | .toc => some (if plan.tocName = "" then plan.title else plan.tocName)
  | .titledBody | .afterword => a.title.filter (· ≠ "")
  | _ => none

/-- The title that is asked for with the page of an action. -/
def askedTitle? (plan : BookPlan) (a : Action) : Option String :=
  match a.kind with
  | .toc => some plan.tocName
  | .body | .titledBody | .afterword | .copyright | .bibliography | .colophonText => a.title
  | .prefaceImage | .titlePage | .image | .colophonImage | .glyphImage => none

/-- What the navigation lists of a placement. -/
def navLink? (plan : BookPlan) (u : Placement) : Option NavEntry :=
  match u.file, navLabel? plan u.action with
  | some file, some label => some ⟨file, label, "nav-" ++ Package.pageId file⟩
  | _, _ => none

/-- The name of the picture of the cover in the package. -/
def coverName (plan : BookPlan) : String :=
  "cover-image" ++ Files.Path.extension plan.coverImage

/-- The page with the cover. -/
def coverItem (plan : BookPlan) : Item :=
  ⟨coverId, coverFile, "application/xhtml+xml", .text (Book.coverPage plan (coverName plan))⟩

/-- What the navigation lists of the cover. -/
def coverEntry : NavEntry := ⟨coverFile, coverTitle, "nav-" ++ coverId⟩

/-- The page of the placement can be shown: it has its file and, if it is the table of contents,
something to show. -/
structure Showable (book : CompiledBook) (u : Placement) : Prop extends WellPlaced u where
  /-- There is a table of contents. -/
  hasToc : u.action.kind = .toc → book.tocMarkup.isSome = true

/-- What a package holds of pages after some placements. -/
structure HoldsPages (plan : BookPlan) (book : CompiledBook) (us : List Placement) (p : Package) :
    Prop where
  /-- The book has the title of the plan. -/
  title_eq : p.title = plan.title
  /-- The package is not finalized. -/
  finalized_eq : p.finalized = false
  /-- The pages are the cover and those of the placements. -/
  pages_eq : p.items.filter (·.isPage) = coverItem plan :: us.filterMap (pageItem? plan book)
  /-- The reading order is that of the placements. -/
  spine_eq : p.pendingSpine = (coverFile :: us.filterMap (·.file)).map Package.pageId
  /-- The navigation lists the cover and what it lists of the placements. -/
  nav_eq : p.pendingNav = coverEntry :: us.filterMap (navLink? plan)
  /-- The guide refers to the cover and to the pages with a role. -/
  guide_eq : p.guide.map (·.href)
    = coverFile :: us.filterMap fun u => if u.role.isSome then u.file else none

/-- The ids and the files of the items that every book has. -/
def fixedItems (plan : BookPlan) : List (String × String) :=
  [("book-style", "style/" ++ Book.bookStyleFile), ("fit-style", "style/" ++ Book.fitStyleFile),
    ("keep-space", "image/" ++ Book.keepSpaceFile), ("cover-image", "image/" ++ coverName plan)]

/-- What a package holds beside its pages after some pictures. -/
structure HoldsPictures (plan : BookPlan) (files : List String) (p : Package) : Prop where
  /-- Behind the items that every book has there are the pictures. -/
  others_eq : (p.items.filter (!·.isPage)).map (fun item => (item.id, item.file))
    = fixedItems plan ++ p.images.map fun image => (image.2, "image/" ++ image.1)
  /-- The pictures are numbered. -/
  ids_eq : p.images.map (·.2) = (List.range p.images.length).map fun n => imageId (n + 1)
  /-- No picture is packaged twice. -/
  nodup : (p.images.map (·.1)).Nodup
  /-- The pictures are packaged. -/
  mem_iff : ∀ file, file ∈ p.images.map (·.1) ↔ file ∈ files

/-! ### One placement -/

section Step

variable {disk : Disk} {pictureDir : String} {plan : BookPlan} {book : CompiledBook}
  {us : List Placement} {u : Placement} {files : List String} {p p' : Package}

theorem filterMap_concat {α β : Type} (f : α → Option β) (xs : List α) (x : α) :
    (xs ++ [x]).filterMap f = xs.filterMap f ++ (f x).toList := by
  rw [List.filterMap_append]
  cases hx : f x <;> simp [hx]

theorem isPage_item {page : Package.PageRequest} (h : IsPageFile page.file) :
    page.item.isPage = true := by
  have hid : Package.pageId page.file ≠ "nav" := pageId_ne h (by decide)
  simp [Item.isPage, Package.PageRequest.item, hid]

theorem isPage_of_mediaType {file type : String} (h : mediaType file = .ok type) (id path : String)
    (payload : Payload) : (⟨id, path, type, payload⟩ : Item).isPage = false := by
  rcases Book.mediaType_eq_ok_iff.mp h with ⟨-, rfl⟩ | ⟨-, rfl⟩ <;> simp [Item.isPage]

/-- **What is asked for** for a placement with a file, kind by kind. -/
theorem pageRequest?_of_file (plan : BookPlan) (hu : Showable book u) {file : String}
    (hfile : u.file = some file) :
    ∃ markup, pageMarkup? plan book u.action = some markup
      ∧ pageRequest? plan book u = some
        { file, content := markup, title := askedTitle? plan u.action
          role := u.role.map Role.name, inNav := (navLabel? plan u.action).isSome } := by
  have hpage : u.action.kind ≠ .glyphImage := hu.isSome_file.mp (by simp [hfile])
  -- the kinds differ in what they show, and three of them in what they ask for
  unfold pageMarkup? askedTitle? navLabel?
  cases hkind : u.action.kind
  case glyphImage => exact absurd hkind hpage
  case toc =>
    obtain ⟨markup, hmarkup⟩ := Option.isSome_iff_exists.mp (hu.hasToc hkind)
    exact ⟨markup, hmarkup, by simp [pageRequest?, hfile, hkind, hmarkup]⟩
  case titledBody | afterword =>
    have hlisted : u.action.title.any (!·.isEmpty) = (u.action.title.filter (· ≠ "")).isSome := by
      cases u.action.title with
      | none => rfl
      | some title => by_cases hempty : title = "" <;> simp [Option.filter, hempty]
    refine ⟨_, rfl, ?_⟩
    simp only [pageRequest?, hfile, hkind, isTitled, Bool.true_and, ← hlisted]
    rfl
  all_goals exact ⟨_, rfl, by simp [pageRequest?, hfile, hkind, isTitled]⟩

theorem label_of_navLabel? {a : Action} {label : String} (htitle : p.title = plan.title)
    (hlabel : navLabel? plan a = some label) {page : Package.PageRequest}
    (hasked : page.title = askedTitle? plan a) : p.label page = label := by
  unfold navLabel? at hlabel
  unfold Package.label
  rw [hasked, askedTitle?, htitle]
  cases hkind : a.kind <;> rw [hkind] at hlabel <;> simp only at hlabel
  case toc => simpa using hlabel
  case titledBody | afterword =>
    obtain ⟨hsome, hne⟩ := Option.filter_eq_some_iff.mp hlabel
    have hempty : label ≠ "" := by simpa using hne
    simp [hsome, hempty]
  all_goals contradiction

/-- **What is asked for** is the page of the placement, its role and its entry in the navigation. -/
theorem pageRequest?_spec (plan : BookPlan) (hu : Showable book u) :
    (pageRequest? plan book u = none ∧ u.file = none ∧ pageItem? plan book u = none
        ∧ navLink? plan u = none)
      ∨ ∃ page, pageRequest? plan book u = some page ∧ u.file = some page.file
        ∧ page.role = u.role.map Role.name ∧ pageItem? plan book u = some page.item
        ∧ ∀ p : Package, p.title = plan.title → p.navEntries page = (navLink? plan u).toList := by
  cases hfile : u.file with
  | none =>
    refine Or.inl ⟨?_, rfl, ?_, ?_⟩
    · simp [pageRequest?, hfile]
    · simp [pageItem?, hfile]
    · simp [navLink?, hfile]
  | some file =>
    obtain ⟨markup, hmarkup, hrequest⟩ := pageRequest?_of_file plan hu hfile
    refine Or.inr ⟨_, hrequest, rfl, rfl, ?_, fun p htitle => ?_⟩
    · simp [pageItem?, hfile, hmarkup, Package.PageRequest.item]
    · cases hlabel : navLabel? plan u.action with
      | none => simp [navLink?, hfile, hlabel, Package.navEntries]
      | some label =>
        simp [navLink?, hfile, hlabel, Package.navEntries, label_of_navLabel? htitle hlabel]

/-- The page of a placement has its file, and from it its id. -/
theorem file_pageItem? (plan : BookPlan) (hu : Showable book u) :
    (pageItem? plan book u).map (·.file) = u.file
      ∧ (pageItem? plan book u).map (·.id) = u.file.map Package.pageId := by
  rcases pageRequest?_spec plan hu with
    ⟨-, hfile, hitem, -⟩ | ⟨page, -, hfile, -, hitem, -⟩
  · rw [hfile, hitem]
    exact ⟨rfl, rfl⟩
  · rw [hfile, hitem]
    exact ⟨rfl, rfl⟩

theorem lookup_isSome_iff {β : Type} (images : List (String × β)) (file : String) :
    (images.lookup file).isSome = true ↔ file ∈ images.map (·.1) := by
  induction images with
  | nil => simp
  | cons image images ih =>
    obtain ⟨name, id⟩ := image
    by_cases heq : file = name
    · simp [heq]
    · have hb : (file == name) = false := by simpa using heq
      simp only [List.lookup_cons, hb, ih, List.map_cons, List.mem_cons, heq, false_or]

/-- **A picture** changes nothing of the pages. -/
theorem HoldsPages.picture {file : String} (h : HoldsPages plan book us p)
    (hwith : withPicture disk pictureDir p file = .ok p') : HoldsPages plan book us p' := by
  rcases withPicture_eq_ok hwith with ⟨-, rfl⟩ | ⟨-, type, bs, htype, -, rfl⟩
  · exact h
  · refine ⟨h.title_eq, h.finalized_eq, ?_, h.spine_eq, h.nav_eq, h.guide_eq⟩
    rw [List.filter_append, List.filter_cons_of_neg (by simp [isPage_of_mediaType htype])]
    simpa using h.pages_eq

/-- **A picture** is packaged once. -/
theorem HoldsPictures.picture {file : String} (h : HoldsPictures plan files p)
    (hwith : withPicture disk pictureDir p file = .ok p') :
    HoldsPictures plan (files ++ [file]) p' := by
  have hhas : p.hasImage file = true ↔ file ∈ p.images.map (·.1) := lookup_isSome_iff _ _
  rcases withPicture_eq_ok hwith with ⟨hthere, rfl⟩ | ⟨hnew, type, bs, htype, -, rfl⟩
  · refine ⟨h.others_eq, h.ids_eq, h.nodup, fun name => ?_⟩
    rw [List.mem_append, List.mem_singleton, h.mem_iff]
    constructor
    · exact Or.inl
    · rintro (hmem | rfl)
      · exact hmem
      · exact (h.mem_iff _).mp (hhas.mp hthere)
  · have hfresh : file ∉ p.images.map (·.1) := by
      intro hmem
      rw [hhas.mpr hmem] at hnew
      contradiction
    refine ⟨?_, ?_, ?_, fun name => ?_⟩
    · simp only [List.filter_append, List.map_append, h.others_eq, List.append_assoc]
      simp [isPage_of_mediaType htype]
    · simp only [List.map_append, h.ids_eq, List.length_append, List.length_singleton,
        List.range_succ, List.map_cons, List.map_nil]
      rfl
    · rw [List.map_append]
      refine List.nodup_append.mpr
        ⟨h.nodup, List.nodup_singleton _, fun name hname other hother => ?_⟩
      rw [List.mem_singleton.mp hother]
      rintro rfl
      exact hfresh hname
    · simp only [List.map_append, List.mem_append, h.mem_iff, List.map_cons, List.map_nil]

/-- **A page** of a placement is an item, and is listed where the placement is. -/
theorem HoldsPages.page {page : Package.PageRequest} (h : HoldsPages plan book us p)
    (hu : WellPlaced u) (hfile : u.file = some page.file) (hrole : page.role = u.role.map Role.name)
    (hitem : pageItem? plan book u = some page.item)
    (hnav : p.navEntries page = (navLink? plan u).toList) :
    HoldsPages plan book (us ++ [u]) (p.addPage page).1 := by
  have hpage := hu.isPageFile _ hfile
  have hid : Package.pageId page.file ≠ "" := pageId_ne hpage (by decide)
  rw [p.addPage_of_role page u.role hid hrole]
  refine ⟨h.title_eq, h.finalized_eq, ?_, ?_, ?_, ?_⟩
  · rw [filterMap_concat, hitem, List.filter_append, h.pages_eq]
    simp [isPage_item hpage]
  · simp only [filterMap_concat, hfile, h.spine_eq]
    simp
  · simp only [filterMap_concat, hnav, h.nav_eq]
    simp
  · simp only [filterMap_concat, hfile, List.map_append, h.guide_eq]
    cases u.role <;> simp

theorem HoldsPictures.page {page : Package.PageRequest} (h : HoldsPictures plan files p)
    (hu : WellPlaced u) (hfile : u.file = some page.file)
    (hrole : page.role = u.role.map Role.name) : HoldsPictures plan files (p.addPage page).1 := by
  have hpage := hu.isPageFile _ hfile
  have hid : Package.pageId page.file ≠ "" := pageId_ne hpage (by decide)
  rw [p.addPage_of_role page u.role hid hrole]
  refine ⟨?_, h.ids_eq, h.nodup, h.mem_iff⟩
  rw [List.filter_append]
  simpa [isPage_item hpage] using h.others_eq

/-- **One more placement** adds its picture and its page. -/
theorem holds_place (hpages : HoldsPages plan book us p)
    (hpictures : HoldsPictures plan (us.filterMap picture?) p) (hu : Showable book u)
    (hplace : place disk pictureDir plan book p u = .ok p') :
    HoldsPages plan book (us ++ [u]) p'
      ∧ HoldsPictures plan ((us ++ [u]).filterMap picture?) p' := by
  obtain ⟨q, hq, rfl⟩ := place_eq_ok hplace
  -- the picture first
  have hmore : HoldsPages plan book us q
      ∧ HoldsPictures plan ((us ++ [u]).filterMap picture?) q := by
    rw [filterMap_concat]
    cases hpicture : picture? u with
    | none =>
      rw [hpicture] at hq
      obtain rfl := hq
      simpa using ⟨hpages, hpictures⟩
    | some file =>
      rw [hpicture] at hq
      exact ⟨hpages.picture hq, hpictures.picture hq⟩
  obtain ⟨hpagesQ, hpicturesQ⟩ := hmore
  rcases pageRequest?_spec plan hu with
    ⟨hrequest, hfile, hitem, hnav⟩ | ⟨page, hrequest, hfile, hrole, hitem, hnav⟩
  · rw [hrequest]
    refine ⟨⟨hpagesQ.title_eq, hpagesQ.finalized_eq, ?_, ?_, ?_, ?_⟩, hpicturesQ⟩
    · simpa [filterMap_concat, hitem] using hpagesQ.pages_eq
    · simpa [filterMap_concat, hfile] using hpagesQ.spine_eq
    · simpa [filterMap_concat, hnav] using hpagesQ.nav_eq
    · simpa [filterMap_concat, hfile] using hpagesQ.guide_eq
  · rw [hrequest]
    exact ⟨hpagesQ.page hu.toWellPlaced hfile hrole hitem (hnav q hpagesQ.title_eq),
      hpicturesQ.page hu.toWellPlaced hfile hrole⟩

end Step

/-! ### The whole package -/

section Run

variable {disk : Disk} {pictureDir : String} {plan : BookPlan} {inputs : Inputs}
  {book : CompiledBook} {us : List Placement} {p q : Package}

/-- **The package that is opened** has the items that every book has, and the cover. -/
theorem openPackage_eq_ok (h : openPackage plan inputs = .ok p) :
    ∃ type, mediaType plan.coverImage = .ok type
      ∧ p.title = plan.title ∧ p.finalized = false ∧ p.images = []
      ∧ p.items =
        [⟨"book-style", "style/" ++ Book.bookStyleFile, "text/css", .bytes inputs.bookStyle⟩,
          ⟨"fit-style", "style/" ++ Book.fitStyleFile, "text/css", .bytes inputs.fitStyle⟩,
          ⟨"keep-space", "image/" ++ Book.keepSpaceFile, "image/jpeg", .bytes inputs.keepSpace⟩,
          ⟨"cover-image", "image/" ++ coverName plan, type, .bytes inputs.cover⟩,
          coverItem plan]
      ∧ p.pendingSpine = [coverId] ∧ p.pendingNav = [coverEntry]
      ∧ p.guide.map (·.href) = [coverFile] := by
  unfold openPackage at h
  cases htype : mediaType plan.coverImage with
  | error fault => simp [Package.addCoverImage, htype] at h
  | ok type =>
    have htyped : type ≠ "" := mediaType_ne_empty htype
    have hid : Package.pageId coverFile ≠ "" := pageId_ne isPageFile_coverFile (by decide)
    let page : Package.PageRequest :=
      { file := coverFile, content := Book.coverPage plan (coverName plan)
        title := some coverTitle, role := some Role.cover.name, inNav := true }
    have hpage (q : Package) := q.addPage_of_role page (some .cover) hid rfl
    have htitle : coverTitle ≠ "" := by decide
    -- every item that is added has an id and a media type, so it is added as it is
    simp only [Package.addCoverImage, htype, mapError_ok, bind_ok, pure_eq_ok, Except.ok.injEq] at h
    rw [← coverName, hpage] at h
    simp (disch := simp [htyped]) only [Package.addResource, Package.addItem_of_named] at h
    subst h
    refine ⟨type, rfl, rfl, rfl, rfl, ?_, ?_, ?_, ?_⟩
    · simp [Package.ofPlan, Package.PageRequest.item, coverItem, pageId_coverFile, page]
    · simp [Package.ofPlan, pageId_coverFile, page]
    · simp [Package.ofPlan, Package.navEntries, Package.label, coverEntry, pageId_coverFile, page,
        htitle]
    · simp [Package.ofPlan, page]

theorem isPage_coverItem (plan : BookPlan) : (coverItem plan).isPage = true := by
  simp [Item.isPage, coverItem, coverId]

/-- **The package that is opened** holds the cover, and no picture of the manuscript. -/
theorem holds_openPackage (h : openPackage plan inputs = .ok p) :
    HoldsPages plan book [] p ∧ HoldsPictures plan [] p := by
  obtain ⟨type, htype, htitle, hopen, himages, hitems, hspine, hnav, hguide⟩ := openPackage_eq_ok h
  have hstyle (id file : String) (payload : Payload) :
      (⟨id, file, "text/css", payload⟩ : Item).isPage = false := by simp [Item.isPage]
  have hspace (id file : String) (payload : Payload) :
      (⟨id, file, "image/jpeg", payload⟩ : Item).isPage = false := by simp [Item.isPage]
  constructor
  · refine ⟨htitle, hopen, ?_, ?_, by simpa using hnav, by simpa using hguide⟩
    · rw [hitems]
      simp [hstyle, hspace, isPage_of_mediaType htype, isPage_coverItem]
    · simpa [pageId_coverFile] using hspine
  · refine ⟨?_, by simp [himages], by simp [himages], by simp [himages]⟩
    rw [hitems, himages]
    simp [hstyle, hspace, isPage_of_mediaType htype, isPage_coverItem, fixedItems]

/-- The ids and the files of the two documents that are only made when the package is written. -/
def documentItems : List (String × String) := [("ncx", "toc.ncx"), ("nav", "nav.xhtml")]

/-- What a finished package holds. -/
structure Finished (plan : BookPlan) (book : CompiledBook) (us : List Placement) (p : Package) :
    Prop where
  /-- The pages can be shown. -/
  showable : ∀ u ∈ us, Showable book u
  /-- The pages are the cover and those of the placements. -/
  pages_eq : p.items.filter (·.isPage) = coverItem plan :: us.filterMap (pageItem? plan book)
  /-- The other items are those that every book has, the pictures and the two documents. -/
  others_eq : (p.items.filter (!·.isPage)).map (fun item => (item.id, item.file))
    = fixedItems plan ++ (p.images.map fun image => (image.2, "image/" ++ image.1)) ++ documentItems
  /-- The pictures are numbered. -/
  ids_eq : p.images.map (·.2) = (List.range p.images.length).map fun n => imageId (n + 1)
  /-- No picture is packaged twice. -/
  nodup_images : (p.images.map (·.1)).Nodup
  /-- The pictures are those of the placements. -/
  mem_images : ∀ file, file ∈ p.images.map (·.1) ↔ file ∈ us.filterMap picture?
  /-- The reading order is that of the placements. -/
  spine_eq : p.spine = (coverFile :: us.filterMap (·.file)).map Package.pageId
  /-- The navigation lists the cover and what it lists of the placements. -/
  toc_eq : p.toc = coverEntry :: us.filterMap (navLink? plan)
  /-- The guide refers to the cover and to the pages with a role. -/
  guide_eq : p.guide.map (·.href)
    = coverFile :: us.filterMap fun u => if u.role.isSome then u.file else none

/-- **The package is finalized**: what was pending is settled. -/
theorem finished_finalize (hus : ∀ u ∈ us, Showable book u) (hpages : HoldsPages plan book us p)
    (hpictures : HoldsPictures plan (us.filterMap picture?) p) (h : p.finalize = .ok q) :
    Finished plan book us q := by
  rw [Package.finalize_of_open hpages.finalized_eq] at h
  obtain rfl := Except.ok.inj h
  refine ⟨hus, ?_, ?_, hpictures.ids_eq, hpictures.nodup, hpictures.mem_iff, hpages.spine_eq,
    hpages.nav_eq, hpages.guide_eq⟩
  · simpa [Item.isPage] using hpages.pages_eq
  · simp only [List.filter_append, List.map_append, hpictures.others_eq, List.append_assoc]
    rfl

/-- A manuscript that asks for a table of contents gets one. -/
theorem isSome_tocMarkup {raw : String} (h : Book.compileText plan raw = .ok book) {a : Action}
    (ha : a ∈ book.actions) (hkind : a.kind = .toc) : book.tocMarkup.isSome = true := by
  unfold Book.compileText at h
  simp only at h
  split at h
  · contradiction
  · split at h
    · split at h
      · contradiction
      · obtain rfl := Except.ok.inj h
        rfl
    · next hnone =>
      obtain rfl := Except.ok.inj h
      exact absurd (List.any_eq_true.mpr ⟨a, ha, by simpa using hkind⟩) hnone

/-- **The placements of a compiled book** can be shown. -/
theorem showable_of_layout (hbook : compilePlan disk plan = .ok book)
    (hlayout : layout book.actions = .ok us) : ∀ u ∈ us, Showable book u := by
  obtain ⟨raw, -, hcompiled⟩ := exists_text_of_compilePlan hbook
  intro u hu
  refine ⟨wellPlaced_layoutFrom hlayout u hu, isSome_tocMarkup hcompiled ?_⟩
  rw [← Book.map_action_layout hlayout]
  exact List.mem_map_of_mem hu

/-- **The package of a book** that is put together without a failure. -/
theorem finished_assemble (h : (assemble disk pictureDir plan).failure = none) :
    ∃ book placements p, compilePlan disk plan = .ok book
      ∧ layout book.actions = .ok placements
      ∧ (assemble disk pictureDir plan).package = some p
      ∧ Finished plan book placements p := by
  obtain ⟨inputs, book, placements, opened, filled, p, -, hbook, hlayout, hopen, hplaced, hfilled,
    hfinal, hp⟩ := assemble_finished h
  have hus : ∀ u ∈ placements, Showable book u := showable_of_layout hbook hlayout
  refine ⟨book, placements, p, hbook, hlayout, hp, ?_⟩
  obtain ⟨hpages, hpictures⟩ := placeAll_finished (place disk pictureDir plan book)
    (fun us p => HoldsPages plan book us p ∧ HoldsPictures plan (us.filterMap picture?) p)
    placements
    (fun u hu us p p' hholds hplace => holds_place hholds.1 hholds.2 (hus u hu) hplace)
    (holds_openPackage hopen) hplaced hfilled
  exact finished_finalize hus hpages hpictures hfinal

end Run

end Kumihan.Epub
