import Kumihan.Proofs.Epub.Coherence

/-!
# Items that share a file

The files of a package come from four sources: those that every book has, the cover with the
extension of its picture, the names that the author gives to pictures, and the names of pages.
Pages have a directory of their own, and each other source is free of repetitions.  But
pictures of the manuscript are put beside two pictures that every book has, under the names
that the author chose; nothing keeps an author from choosing one of these two.

## Main definitions

* `takenNames` — the names that two pictures of every book have in the package.

## Main results

* `Finished.nodup_files_iff` — **no two items share a file exactly if no picture of the manuscript
  has a name that is taken.**
* `nodup_files_buildOn_iff` — the same of a book that is built.
* `exists_shared_file` — a book that is built although two of its items share a file.
-/

namespace Kumihan.Epub

open Book (Action CompiledBook Placement layout mediaType)
open Files (Disk)

variable {plan : BookPlan} {book : CompiledBook} {us : List Placement} {p : Package}

/-- The names that two pictures of every book have in the package. -/
def takenNames (plan : BookPlan) : List String := [Book.keepSpaceFile, coverName plan]

/-- The files of the style sheets. -/
def styleFiles : List String := ["style/" ++ Book.bookStyleFile, "style/" ++ Book.fitStyleFile]

/-- The file of a picture with a name. -/
def pictureFile (name : String) : String := "image/" ++ name

/-- The files of the two documents that are only made when the package is written. -/
def documentFiles : List String := ["toc.ncx", "nav.xhtml"]

/-- **The files of the items that are no pages**: style sheets, pictures, and two documents. -/
theorem Finished.files_others (h : Finished plan book us p) :
    (p.items.filter (!·.isPage)).map (·.file)
      = styleFiles ++ (takenNames plan ++ p.images.map (·.1)).map pictureFile ++ documentFiles := by
  have hfiles := congrArg (List.map Prod.snd) h.others_eq
  rw [List.map_map, List.map_append, List.map_append, List.map_map] at hfiles
  rw [List.map_append, List.map_map, ← List.append_assoc]
  exact hfiles

/-! ### Pictures -/

theorem pictureFile_injective : Function.Injective pictureFile := by
  intro name name' h
  have hfile := congrArg String.toList h
  rw [pictureFile, pictureFile, String.toList_append, String.toList_append,
    List.append_cancel_left_eq] at hfile
  exact String.toList_injective hfile

/-- The names that are taken differ: the cover is packaged under a name that begins otherwise. -/
theorem nodup_takenNames (plan : BookPlan) : (takenNames plan).Nodup := by
  have hne : Book.keepSpaceFile ≠ coverName plan := by
    intro heq
    have hfirst := congrArg (fun name => name.toList.head?) heq
    simp only [coverName, String.toList_append] at hfirst
    have hc : some 'k' = some 'c' := hfirst
    exact absurd hc (by decide)
  exact List.nodup_cons.mpr ⟨by simpa using hne, List.nodup_singleton _⟩

/-- Names that differ, behind those that are taken. -/
theorem nodup_takenNames_append_iff {names : List String} (hnames : names.Nodup) :
    (takenNames plan ++ names).Nodup ↔ ∀ name ∈ names, name ∉ takenNames plan := by
  rw [List.nodup_append]
  constructor
  · rintro ⟨-, -, hdisjoint⟩ name hname htaken
    exact hdisjoint name htaken name hname rfl
  · intro hfree
    refine ⟨nodup_takenNames plan, hnames, ?_⟩
    rintro name htaken _ hname rfl
    exact hfree name hname htaken

/-! ### First characters -/

/-- The first character of a file. -/
def firstChar? (file : String) : Option Char := file.toList.head?

theorem firstChar?_pictureFile (name : String) : firstChar? (pictureFile name) = some 'i' := by
  rw [firstChar?, pictureFile, String.toList_append]
  rfl

theorem firstChar?_of_isPageFile {file : String} (h : IsPageFile file) :
    firstChar? file = some 'x' := by
  obtain ⟨stem, -, rfl⟩ := h
  rw [firstChar?, toList_pageFile]
  rfl

theorem firstChar?_of_mem_map {names : List String} {file : String}
    (h : file ∈ names.map pictureFile) : firstChar? file = some 'i' := by
  obtain ⟨name, -, rfl⟩ := List.mem_map.mp h
  exact firstChar?_pictureFile name

/-- Two lists without repetition whose members begin in different ways. -/
theorem nodup_append_iff_of_firstChar? {xs ys : List String}
    (h : ∀ x ∈ xs, ∀ y ∈ ys, firstChar? x ≠ firstChar? y) :
    (xs ++ ys).Nodup ↔ xs.Nodup ∧ ys.Nodup := by
  rw [List.nodup_append]
  constructor
  · rintro ⟨hxs, hys, -⟩
    exact ⟨hxs, hys⟩
  · rintro ⟨hxs, hys⟩
    refine ⟨hxs, hys, ?_⟩
    rintro x hx _ hy rfl
    exact h x hx x hy rfl

/-- **Only pictures can share a file.**  The style sheets, the documents and the pages are apart
from each other and from the pictures, and their own files differ. -/
theorem Finished.nodup_files_iff_pictures (h : Finished plan book us p)
    (hlayout : layout book.actions = .ok us) :
    (p.items.map (·.file)).Nodup ↔ (takenNames plan ++ p.images.map (·.1)).Nodup := by
  have hstyles : ∀ file ∈ styleFiles, firstChar? file = some 's' := by decide
  have hdocuments : ∀ file ∈ documentFiles,
      firstChar? file = some 't' ∨ firstChar? file = some 'n' := by decide
  have hpages : ∀ file ∈ coverFile :: us.filterMap (·.file), firstChar? file = some 'x' :=
    fun file hfile => firstChar?_of_isPageFile (isPageFile_of_mem hlayout file hfile)
  have hfront : ∀ file ∈ styleFiles ++ (takenNames plan ++ p.images.map (·.1)).map pictureFile,
      firstChar? file = some 's' ∨ firstChar? file = some 'i' := by
    intro file hfile
    rcases List.mem_append.mp hfile with hfile | hfile
    · exact Or.inl (hstyles file hfile)
    · exact Or.inr (firstChar?_of_mem_map hfile)
  have hperm := (List.filter_append_perm (·.isPage) p.items).map (·.file)
  rw [← hperm.nodup_iff, List.map_append, h.files_pages, h.files_others]
  -- pages, style sheets, pictures and documents are told apart by their first characters
  generalize takenNames plan ++ p.images.map (·.1) = names at hfront ⊢
  rw [nodup_append_iff_of_firstChar?, nodup_append_iff_of_firstChar?,
    nodup_append_iff_of_firstChar?, List.nodup_map_iff pictureFile_injective]
  · constructor
    · rintro ⟨-, ⟨-, hnames⟩, -⟩
      exact hnames
    · intro hnames
      exact ⟨nodup_pageFiles hlayout, ⟨by decide, hnames⟩, by decide⟩
  · intro style hstyle file hfile
    rw [hstyles style hstyle, firstChar?_of_mem_map hfile]
    decide
  · intro file hfile document hdocument
    rcases hfront file hfile with hs | hi <;> rcases hdocuments document hdocument with ht | hn <;>
      simp [*]
  · intro page hpage file hfile
    rw [hpages page hpage]
    rcases List.mem_append.mp hfile with hfile | hfile
    · rcases hfront file hfile with hs | hi <;> simp [*]
    · rcases hdocuments file hfile with ht | hn <;> simp [*]

/-! ### Pictures of the manuscript -/

theorem mem_filterMap_picture? {name : String} :
    name ∈ us.filterMap picture?
      ↔ ∃ a ∈ us.map (·.action), a.kind.holdsImage = true ∧ a.content = name := by
  simp only [filterMap_picture?, List.mem_map, List.mem_filter, and_assoc]

/-- **No two items share a file exactly if** no picture of the manuscript has a name that is taken.
-/
theorem Finished.nodup_files_iff (h : Finished plan book us p)
    (hlayout : layout book.actions = .ok us) :
    (p.items.map (·.file)).Nodup
      ↔ ∀ a ∈ book.actions, a.kind.holdsImage = true → a.content ∉ takenNames plan := by
  rw [h.nodup_files_iff_pictures hlayout, nodup_takenNames_append_iff h.nodup_images]
  simp only [h.mem_images, mem_filterMap_picture?, Book.map_action_layout hlayout]
  constructor
  · intro hfree a ha himage
    exact hfree a.content ⟨a, ha, himage, rfl⟩
  · rintro hfree _ ⟨a, ha, himage, rfl⟩
    exact hfree a ha himage

/-! ### Builds -/

/-- **When the items of a book have different files.**  A book that is built has two items with one
file exactly if its manuscript shows a picture that is called like the one that every book has, or
like the cover in the package. -/
theorem nodup_files_buildOn_iff {host : Host} {disk : Disk} {token pictureDir output : String}
    (h : (buildOn host disk token plan pictureDir output).failure = none) :
    ∃ book p, compilePlan disk plan = .ok book
      ∧ (buildOn host disk token plan pictureDir output).package = some p
      ∧ ((p.items.map (·.file)).Nodup
        ↔ ∀ a ∈ book.actions, a.kind.holdsImage = true → a.content ∉ takenNames plan) := by
  obtain ⟨book, placements, p, hbook, hlayout, hp, hfinished⟩ := finished_buildOn h
  exact ⟨book, p, hbook, hp, hfinished.nodup_files_iff hlayout⟩

theorem nodup_files_letter :
    (buildOn (.plain "2000-01-01T00:00:00Z") (desk letter) "t" Book.slimPlan "img" "out").failure
        = none
      ∧ ∃ book p, compilePlan (desk letter) Book.slimPlan = .ok book
        ∧ (buildOn (.plain "2000-01-01T00:00:00Z") (desk letter) "t" Book.slimPlan "img"
          "out").package = some p
        ∧ ((p.items.map (·.file)).Nodup
          ↔ ∀ a ∈ book.actions, a.kind.holdsImage = true → a.content ∉ takenNames Book.slimPlan) :=
  ⟨failure_build_letter, nodup_files_buildOn_iff failure_build_letter⟩

/-- A picture that is called like the one that every book has. -/
def shadowing : List Char := Book.unlines ["#img,keep-space.jpg#"]

/-- **Two items can share a file** in a book that is built. -/
theorem exists_shared_file :
    ¬ ∀ (disk : Disk) (occasion : Occasion) (plan : BookPlan) (pictureDir output : String),
      (build disk occasion plan pictureDir output).failure = none →
      ∀ p, (build disk occasion plan pictureDir output).package = some p →
        (p.items.map (·.file)).Nodup := by
  intro h
  have hbuilt : (build (desk shadowing) ⟨"2000-01-01T00:00:00Z", "", "t"⟩ Book.slimPlan "img"
      "out").failure = none := by
    decide +kernel
  obtain ⟨book, placements, p, hbook, hlayout, hp, hfinished⟩ := finished_buildOn hbuilt
  have hactions : (compilePlan (desk shadowing) Book.slimPlan).toOption.map (·.actions)
      = some [{ kind := .image, content := Book.keepSpaceFile }] := by
    decide +kernel
  rw [hbook] at hactions
  have hactions : book.actions = [{ kind := .image, content := Book.keepSpaceFile }] :=
    Option.some.inj hactions
  have hfree := (hfinished.nodup_files_iff hlayout).mp (h _ _ _ _ _ hbuilt p hp)
  rw [hactions] at hfree
  exact hfree _ List.mem_cons_self rfl List.mem_cons_self

end Kumihan.Epub
