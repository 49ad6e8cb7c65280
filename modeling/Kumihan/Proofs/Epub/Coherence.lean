import Kumihan.Proofs.Epub.Filling
import Kumihan.Proofs.Epub.Publication

/-!
# Coherent packages

The reading order, the guide and the navigation of a package refer to its items, by their ids or by
their files.  In the package of a book that is built no two items have one id, so that a reference
leads to one item; every reference leads to a page; and the pages are those of the
manuscript, in its order.

## Main definitions

* `Coherent` — a package fits the placements that it is made of.

## Main results

* `nodup_ids` — **the ids of the items differ**, however pages and pictures are mixed.
* `coherent_buildOn` — **the package of a book that is built is coherent.**
-/

namespace Kumihan.Epub

open Book (CompiledBook Placement layout)
open Files (Disk)

variable {plan : BookPlan} {book : CompiledBook} {us : List Placement} {p : Package}

/-- The placement is one of a page. -/
def hasPage (u : Placement) : Bool := u.action.kind ≠ .glyphImage

/-- A package fits the placements that it is made of. -/
structure Coherent (plan : BookPlan) (book : CompiledBook) (us : List Placement) (p : Package) :
    Prop where
  /-- No two items have one id. -/
  nodup_ids : (p.items.map (·.id)).Nodup
  /-- The pages are the cover and, for every placement of a page, what its action is rendered as. -/
  pages_eq : (p.items.filter (·.isPage)).map some
    = some (coverItem plan) :: (us.filter hasPage).map (pageItem? plan book)
  /-- The reading order is the cover and the placements of pages in their order. -/
  spine_eq : p.spine.map some
    = some coverId :: (us.filter hasPage).map fun u => u.file.map Package.pageId
  /-- No page is read twice. -/
  nodup_spine : p.spine.Nodup
  /-- Every page is read. -/
  spine_eq_ids : p.spine = (p.items.filter (·.isPage)).map (·.id)
  /-- The guide refers to pages. -/
  guide_leads : ∀ entry ∈ p.guide, ∃ item ∈ p.items, item.isPage = true ∧ item.file = entry.href
  /-- The navigation refers to pages. -/
  toc_leads : ∀ entry ∈ p.toc, ∃ item ∈ p.items, item.isPage = true ∧ item.file = entry.href
  /-- The navigation lists the cover, the table of contents and what has a title, in their order. -/
  toc_eq : p.toc = coverEntry :: us.filterMap (navLink? plan)

/-! ### Lists side by side -/

section Lists

variable {α β γ : Type} {as : List α}

theorem map_filterMap_eq {f : α → Option β} {g : β → γ} {k : α → Option γ}
    (h : ∀ a ∈ as, (f a).map g = k a) : (as.filterMap f).map g = as.filterMap k := by
  rw [List.map_filterMap]
  exact List.filterMap_congr h

theorem map_some_filterMap {f : α → Option β} {keep : α → Bool}
    (h : ∀ a ∈ as, (f a).isSome = keep a) : (as.filterMap f).map some = (as.filter keep).map f := by
  induction as with
  | nil => rfl
  | cons a as ih =>
    have hrest := ih fun b hb => h b (List.mem_cons_of_mem a hb)
    have ha := h a List.mem_cons_self
    cases hf : f a with
    | none =>
      rw [hf] at ha
      rw [List.filterMap_cons_none hf, List.filter_cons_of_neg (by simp [← ha]), hrest]
    | some b =>
      rw [hf] at ha
      rw [List.filterMap_cons_some hf, List.filter_cons_of_pos (by simp [← ha]), List.map_cons,
        List.map_cons, hrest, hf]

end Lists

/-- The files of the pages are those of the placements, and that of the cover. -/
theorem Finished.files_pages (h : Finished plan book us p) :
    (p.items.filter (·.isPage)).map (·.file) = coverFile :: us.filterMap (·.file) := by
  have hfiles := map_filterMap_eq fun u hu => (file_pageItem? plan (h.showable u hu)).1
  rw [h.pages_eq, List.map_cons, hfiles]
  rfl

/-- The ids of the pages are told by their files. -/
theorem Finished.ids_pages (h : Finished plan book us p) :
    (p.items.filter (·.isPage)).map (·.id)
      = (coverFile :: us.filterMap (·.file)).map Package.pageId := by
  have hids := map_filterMap_eq fun u hu => (file_pageItem? plan (h.showable u hu)).2
  rw [h.pages_eq, List.map_cons, hids, List.map_cons, pageId_coverFile, List.map_filterMap]
  rfl

/-- A reference to the file of a placement, or of the cover, leads to a page. -/
theorem Finished.leads_of_mem (h : Finished plan book us p) {href : String}
    (hmem : href ∈ coverFile :: us.filterMap (·.file)) :
    ∃ item ∈ p.items, item.isPage = true ∧ item.file = href := by
  rw [← h.files_pages] at hmem
  obtain ⟨item, hitem, hfile⟩ := List.mem_map.mp hmem
  obtain ⟨hthere, hpage⟩ := List.mem_filter.mp hitem
  exact ⟨item, hthere, hpage, hfile⟩

/-! ### Ids -/

/-- The ids of the items that every book has beside the cover. -/
def fixedIds : List String := ["book-style", "fit-style", "keep-space", "cover-image"]

/-- The ids of the two documents that are only made when the package is written. -/
def documentIds : List String := ["ncx", "nav"]

/-- The items that are no pages have fixed ids, or are numbered. -/
theorem Finished.ids_others (h : Finished plan book us p) :
    (p.items.filter (!·.isPage)).map (·.id)
      = fixedIds ++ ((List.range p.images.length).map fun n => imageId (n + 1)) ++ documentIds := by
  have hids := congrArg (List.map Prod.fst) h.others_eq
  rw [List.map_map] at hids
  have himages : p.images.map (Prod.fst ∘ fun image => (image.2, "image/" ++ image.1))
      = (List.range p.images.length).map fun n => imageId (n + 1) := h.ids_eq
  rw [List.map_append, List.map_append, List.map_map, himages] at hids
  exact hids

theorem nodup_numbered (count : Nat) :
    ((List.range count).map fun n => imageId (n + 1)).Nodup := by
  refine List.Nodup.map_on (fun m _ n _ hid => ?_) List.nodup_range
  have hnumber := imageId_injective hid
  omega

theorem initials_numbered {count : Nat} {id : String}
    (h : id ∈ (List.range count).map fun n => imageId (n + 1)) : initials id = ['i', 'm'] := by
  obtain ⟨n, -, rfl⟩ := List.mem_map.mp h
  exact initials_imageId (n + 1)

/-- **The ids of the items differ.**  They fall into those of the pages, which differ because
the files do, those of the pictures, which have different numbers, and a few fixed ones. -/
theorem Finished.nodup_ids (h : Finished plan book us p) (hlayout : layout book.actions = .ok us) :
    (p.items.map (·.id)).Nodup := by
  have hfixed : ∀ id ∈ fixedIds, initials id ≠ ['p', '-'] ∧ initials id ≠ ['i', 'm'] := by decide
  have hdocuments : ∀ id ∈ documentIds,
      initials id ≠ ['p', '-'] ∧ initials id ≠ ['i', 'm'] ∧ id ∉ fixedIds := by decide
  -- pages and other items stand mixed in the list; in which order does not matter here
  have hperm := (List.filter_append_perm (·.isPage) p.items).map (·.id)
  rw [← hperm.nodup_iff, List.map_append, h.ids_pages, h.ids_others]
  refine List.nodup_append.mpr ⟨nodup_pageIds hlayout, ?_, ?_⟩
  · refine List.nodup_append.mpr ⟨?_, by decide, ?_⟩
    · refine List.nodup_append.mpr ⟨by decide, nodup_numbered _, ?_⟩
      rintro id hid _ hnumbered rfl
      exact (hfixed id hid).2 (initials_numbered hnumbered)
    · rintro id hid _ hdocument rfl
      rcases List.mem_append.mp hid with hid | hid
      · exact (hdocuments id hdocument).2.2 hid
      · exact (hdocuments id hdocument).2.1 (initials_numbered hid)
  · -- the id of a page has a beginning that no other id has
    rintro id hpage _ hother rfl
    have hp : initials id = ['p', '-'] := by
      obtain ⟨file, hfile, rfl⟩ := List.mem_map.mp hpage
      exact initials_pageId (isPageFile_of_mem hlayout file hfile)
    rcases List.mem_append.mp hother with hother | hother
    · rcases List.mem_append.mp hother with hother | hother
      · exact (hfixed id hother).1 hp
      · rw [initials_numbered hother] at hp
        exact absurd hp (by decide)
    · exact (hdocuments id hother).1 hp

theorem isSome_file_eq {u : Placement} (hu : WellPlaced u) : u.file.isSome = hasPage u := by
  rw [Bool.eq_iff_iff, hu.isSome_file, hasPage, decide_eq_true_iff]

theorem isSome_pageItem? {u : Placement} (hu : Showable book u) :
    (pageItem? plan book u).isSome = hasPage u := by
  have hfile := congrArg Option.isSome (file_pageItem? plan hu).1
  rw [Option.isSome_map] at hfile
  exact hfile.trans (isSome_file_eq hu.toWellPlaced)

theorem href_of_navLink? {u : Placement} {entry : NavEntry} (h : navLink? plan u = some entry) :
    u.file = some entry.href := by
  unfold navLink? at h
  split at h
  · next file label hfile hlabel =>
    obtain rfl := Option.some.inj h
    exact hfile
  · contradiction

/-- **A finished package is coherent.** -/
theorem Finished.coherent (h : Finished plan book us p) (hlayout : layout book.actions = .ok us) :
    Coherent plan book us p where
  nodup_ids := h.nodup_ids hlayout
  pages_eq := by
    rw [h.pages_eq, List.map_cons,
      map_some_filterMap fun u hu => isSome_pageItem? (h.showable u hu)]
  spine_eq := by
    have hfiles : ∀ u ∈ us, (u.file.map Package.pageId).isSome = hasPage u := by
      intro u hu
      rw [Option.isSome_map]
      exact isSome_file_eq (h.showable u hu).toWellPlaced
    rw [h.spine_eq, List.map_cons, List.map_filterMap, List.map_cons, map_some_filterMap hfiles,
      pageId_coverFile]
  nodup_spine := by
    rw [h.spine_eq]
    exact nodup_pageIds hlayout
  spine_eq_ids := h.spine_eq.trans h.ids_pages.symm
  guide_leads entry hentry := by
    have hmem : entry.href ∈ p.guide.map (·.href) := List.mem_map_of_mem hentry
    rw [h.guide_eq] at hmem
    refine h.leads_of_mem ?_
    rcases List.mem_cons.mp hmem with hcover | hmem
    · exact List.mem_cons.mpr (Or.inl hcover)
    · obtain ⟨u, hu, hrole⟩ := List.mem_filterMap.mp hmem
      split at hrole
      · exact List.mem_cons_of_mem _ (List.mem_filterMap.mpr ⟨u, hu, hrole⟩)
      · contradiction
  toc_leads entry hentry := by
    rw [h.toc_eq] at hentry
    refine h.leads_of_mem ?_
    rcases List.mem_cons.mp hentry with rfl | hmem
    · exact List.mem_cons_self
    · obtain ⟨u, hu, hlink⟩ := List.mem_filterMap.mp hmem
      exact List.mem_cons_of_mem _ (List.mem_filterMap.mpr ⟨u, hu, href_of_navLink? hlink⟩)
  toc_eq := h.toc_eq

/-! ### Builds -/

/-- A build that does not fail has come to a finished package. -/
theorem finished_buildOn {host : Host} {disk : Disk} {token pictureDir output : String}
    (h : (buildOn host disk token plan pictureDir output).failure = none) :
    ∃ book placements p, compilePlan disk plan = .ok book
      ∧ layout book.actions = .ok placements
      ∧ (buildOn host disk token plan pictureDir output).package = some p
      ∧ Finished plan book placements p := by
  obtain ⟨hassembled, hpackage⟩ := assemble_of_buildOn h
  obtain ⟨book, placements, p, hbook, hlayout, hp, hfinished⟩ := finished_assemble hassembled
  exact ⟨book, placements, p, hbook, hlayout, hpackage.trans hp, hfinished⟩

/-- **The package of a book that is built is coherent**: it fits the placements of the actions that
the manuscript of the plan is compiled to. -/
theorem coherent_buildOn {host : Host} {disk : Disk} {token pictureDir output : String}
    (h : (buildOn host disk token plan pictureDir output).failure = none) :
    ∃ book placements p, compilePlan disk plan = .ok book
      ∧ layout book.actions = .ok placements
      ∧ placements.map (·.action) = book.actions
      ∧ (buildOn host disk token plan pictureDir output).package = some p
      ∧ Coherent plan book placements p := by
  obtain ⟨book, placements, p, hbook, hlayout, hp, hfinished⟩ := finished_buildOn h
  exact ⟨book, placements, p, hbook, hlayout, Book.map_action_layout hlayout, hp,
    hfinished.coherent hlayout⟩

theorem coherent_letter :
    (buildOn (.plain "2000-01-01T00:00:00Z") (desk letter) "t" Book.slimPlan "img" "out").failure
        = none
      ∧ ∃ book placements p, compilePlan (desk letter) Book.slimPlan = .ok book
        ∧ layout book.actions = .ok placements
        ∧ placements.map (·.action) = book.actions
        ∧ (buildOn (.plain "2000-01-01T00:00:00Z") (desk letter) "t" Book.slimPlan "img"
          "out").package = some p
        ∧ Coherent Book.slimPlan book placements p :=
  ⟨failure_build_letter, coherent_buildOn failure_build_letter⟩

end Kumihan.Epub
