import Mathlib.Data.List.Nodup
import Kumihan.Epub.Assembly
import Kumihan.Proofs.Files.Extension
import Kumihan.Proofs.Placement.Files
import Kumihan.Proofs.Text.Cut

/-!
# The names of items

An item is known by its id, and stored under its file.  A page has its id from its file: the
directory and the extension are taken off, so pages with different files have different ids.  A
picture has its id from its number.  The ids of pages, those of pictures and the few that stand for
one item each have beginnings that tell them apart.

## Main definitions

* `pageFile`, `IsPageFile` — the files of pages.
* `WellPlaced` — a placement with the file that its kind asks for.
* `imageId` — the ids of pictures.
* `initials` — the beginning of an id.

## Main results

* `pageId_pageFile` — what a page is called.
* `wellPlaced_layoutFrom` — a placement has the file of a page, unless it is the picture of a
  character.
* `nodup_pageFiles`, `nodup_pageIds` — **the pages of a book, its cover among them, have different
  files and different ids.**
* `imageId_injective` — pictures with different numbers have different ids.
-/

namespace Kumihan.Epub

open Book (Action ActionKind Placement layout)

/-- The id of the page with the cover. -/
def coverId : String := "p-cover"

/-- The id of the picture with a number. -/
def imageId (n : Nat) : String := "img-" ++ String.ofList (Text.paddedDigits 4 n)

/-- The file of the page whose name goes on in a way behind the beginning of all page names. -/
def pageFile (stem : List Char) : String := "xhtml/p-" ++ String.ofList stem ++ ".xhtml"

/-- The file is one of a page. -/
def IsPageFile (file : String) : Prop := ∃ stem, '/' ∉ stem ∧ file = pageFile stem

/-- The first two characters of an id. -/
def initials (id : String) : List Char := id.toList.take 2

/-! ### Files and ids of pages -/

theorem toList_pageFile (stem : List Char) :
    (pageFile stem).toList
      = "xhtml".toList ++ '/' :: (("p-".toList ++ stem) ++ '.' :: "xhtml".toList) := by
  unfold pageFile
  simp only [String.toList_append, String.toList_ofList, List.append_assoc]
  rfl

/-- **The id of a page** is its file without directory and extension. -/
theorem pageId_pageFile {stem : List Char} (h : '/' ∉ stem) :
    Package.pageId (pageFile stem) = "p-" ++ String.ofList stem := by
  have hname : '/' ∉ ("p-".toList ++ stem) ++ '.' :: "xhtml".toList := by
    rw [List.mem_append, List.mem_append, not_or, not_or]
    exact ⟨⟨by decide, h⟩, by decide⟩
  have hbase : Files.Path.baseName (pageFile stem)
      = String.ofList (("p-".toList ++ stem) ++ '.' :: "xhtml".toList) := by
    unfold Files.Path.baseName Files.Path.cutName
    rw [toList_pageFile]
    simp only [Text.cutLast?_append_cons hname]
  have hcut : Files.Path.cutName (("p-".toList ++ stem) ++ '.' :: "xhtml".toList)
      = ([], ("p-".toList ++ stem) ++ '.' :: "xhtml".toList) := by
    rw [Files.Path.cutName, Text.cutLast?_of_notMem hname]
  -- the name does not begin with a dot, so its last one opens the extension
  have hstem : ("p-".toList ++ stem).all (· = '.') = false := by
    rw [List.all_append]
    rfl
  rw [Package.pageId, Files.Path.withoutExtension, hbase, String.toList_ofList,
    Files.Path.splitExtension_of_name (congrArg Prod.snd hcut) (by decide) hstem, hcut,
    List.nil_append, String.ofList_append, String.ofList_toList]

/-- A page can be found by its id. -/
theorem eq_of_pageId {file file' : String} (h : IsPageFile file) (h' : IsPageFile file')
    (hid : Package.pageId file = Package.pageId file') : file = file' := by
  obtain ⟨stem, hstem, rfl⟩ := h
  obtain ⟨stem', hstem', rfl⟩ := h'
  rw [pageId_pageFile hstem, pageId_pageFile hstem'] at hid
  have hsame := congrArg String.toList hid
  simp only [String.toList_append, String.toList_ofList, List.append_cancel_left_eq] at hsame
  rw [hsame]

theorem initials_pageId {file : String} (h : IsPageFile file) :
    initials (Package.pageId file) = ['p', '-'] := by
  obtain ⟨stem, hstem, rfl⟩ := h
  rw [pageId_pageFile hstem, initials, String.toList_append]
  rfl

theorem pageId_ne {file id : String} (h : IsPageFile file) (hid : initials id ≠ ['p', '-']) :
    Package.pageId file ≠ id := by
  intro heq
  rw [← heq, initials_pageId h] at hid
  exact hid rfl

theorem pageFile_cover : pageFile "cover".toList = coverFile := by decide +kernel

theorem isPageFile_coverFile : IsPageFile coverFile :=
  ⟨"cover".toList, by decide, pageFile_cover.symm⟩

theorem pageId_coverFile : Package.pageId coverFile = coverId := by decide +kernel

/-! ### The files of placements -/

theorem isPageFile_bodyFile (n : Nat) : IsPageFile (Book.bodyFile n) := by
  refine ⟨Text.paddedDigits 3 n, fun hmem => ?_, rfl⟩
  exact absurd (Text.isDigit_of_mem_paddedDigits hmem) (by decide)

theorem isPageFile_prefaceFile (n : Nat) : IsPageFile (Book.prefaceFile n) := by
  refine ⟨"fmatter-".toList ++ Text.paddedDigits 3 n, fun hmem => ?_, ?_⟩
  · rcases List.mem_append.mp hmem with hmem | hmem
    · exact absurd hmem (by decide)
    · exact absurd (Text.isDigit_of_mem_paddedDigits hmem) (by decide)
  · unfold Book.prefaceFile pageFile
    apply String.toList_injective
    simp only [String.toList_append, String.toList_ofList, List.append_assoc]
    rfl

theorem isPageFile_fixedFile {kind : ActionKind} {file : String}
    (h : Book.fixedFile? kind = some file) : IsPageFile file := by
  unfold Book.fixedFile? at h
  split at h
  · obtain rfl := Option.some.inj h
    exact ⟨"toc".toList, by decide, by decide +kernel⟩
  · obtain rfl := Option.some.inj h
    exact ⟨"titlepage".toList, by decide, by decide +kernel⟩
  · obtain rfl := Option.some.inj h
    exact ⟨"colophon".toList, by decide, by decide +kernel⟩
  · contradiction

theorem fixedFile?_ne_coverFile (kind : ActionKind) : Book.fixedFile? kind ≠ some coverFile := by
  have hall : ∀ k ∈ ActionKind.all, Book.fixedFile? k ≠ some coverFile := by decide
  exact hall kind (by cases kind <;> decide)

theorem bodyFile_ne_coverFile (n : Nat) : Book.bodyFile n ≠ coverFile := by
  intro h
  obtain ⟨c, hc, hdigit⟩ := Book.initial?_bodyFile n
  rw [h] at hc
  obtain rfl : 'c' = c := Option.some.inj hc
  exact absurd hdigit (by decide)

theorem prefaceFile_ne_coverFile (n : Nat) : Book.prefaceFile n ≠ coverFile := by
  intro h
  have hc := Book.initial?_prefaceFile n
  rw [h] at hc
  exact absurd hc (by decide)

/-- The placement of a page has the file of a page, which is not that of the cover; only the picture
of a character has none. -/
structure WellPlaced (u : Placement) : Prop where
  /-- Only the picture of a character has no file. -/
  isSome_file : u.file.isSome = true ↔ u.action.kind ≠ .glyphImage
  /-- The file is one of a page. -/
  isPageFile : ∀ file, u.file = some file → IsPageFile file
  /-- The page is not the cover. -/
  ne_coverFile : u.file ≠ some coverFile

theorem wellPlaced_place {l l' : Book.Layout} {a : Action} {u : Placement}
    (h : l.place a = .ok (u, l')) : WellPlaced u := by
  unfold Book.Layout.place at h
  cases hkind : a.kind <;> rw [hkind] at h <;> simp only at h
  case glyphImage =>
    obtain ⟨rfl, -⟩ := by simpa using h
    exact ⟨by simp [hkind], nofun, nofun⟩
  case toc | titlePage | colophonImage =>
    split at h
    · contradiction
    · obtain ⟨rfl, -⟩ := by simpa using h
      refine ⟨by simp [hkind, Book.fixedFile?], fun file hfile => ?_, fun hfile => ?_⟩
      · simp only at hfile
        exact isPageFile_fixedFile hfile
      · simp only at hfile
        exact fixedFile?_ne_coverFile _ hfile
  case prefaceImage =>
    obtain ⟨rfl, -⟩ := by simpa using h
    refine ⟨by simp [hkind], fun file hfile => ?_, fun hfile => ?_⟩
    · exact Option.some.inj hfile ▸ isPageFile_prefaceFile _
    · exact prefaceFile_ne_coverFile _ (Option.some.inj hfile)
  -- the other kinds are those of the body pages
  all_goals
    obtain ⟨rfl, -⟩ := by simpa using h
    refine ⟨by simp [hkind], fun file hfile => ?_, fun hfile => ?_⟩
    · exact Option.some.inj hfile ▸ isPageFile_bodyFile _
    · exact bodyFile_ne_coverFile _ (Option.some.inj hfile)

theorem wellPlaced_layoutFrom {l : Book.Layout} {as : List Action} {ps : List Placement}
    (h : Book.layoutFrom l as = .ok ps) : ∀ u ∈ ps, WellPlaced u := by
  induction as generalizing l ps with
  | nil =>
    obtain rfl := Except.ok.inj h
    exact fun u hu => absurd hu List.not_mem_nil
  | cons a as ih =>
    obtain ⟨u, l', rest, hplace, hrest, rfl⟩ := Book.layoutFrom_cons_eq_ok h
    exact List.forall_mem_cons.mpr ⟨wellPlaced_place hplace, ih hrest⟩

/-- **The files of the pages**, that of the cover among them, differ. -/
theorem nodup_pageFiles {actions : List Action} {ps : List Placement}
    (h : layout actions = .ok ps) : (coverFile :: ps.filterMap (·.file)).Nodup := by
  refine List.nodup_cons.mpr ⟨fun hmem => ?_, Book.nodup_files_layout h⟩
  obtain ⟨u, hu, hfile⟩ := List.mem_filterMap.mp hmem
  exact (wellPlaced_layoutFrom h u hu).ne_coverFile hfile

theorem isPageFile_of_mem {actions : List Action} {ps : List Placement}
    (h : layout actions = .ok ps) :
    ∀ file ∈ coverFile :: ps.filterMap (·.file), IsPageFile file := by
  refine List.forall_mem_cons.mpr ⟨isPageFile_coverFile, fun file hmem => ?_⟩
  obtain ⟨u, hu, hfile⟩ := List.mem_filterMap.mp hmem
  exact (wellPlaced_layoutFrom h u hu).isPageFile file hfile

/-- **The ids of the pages**, that of the cover among them, differ, for their files do. -/
theorem nodup_pageIds {actions : List Action} {ps : List Placement}
    (h : layout actions = .ok ps) :
    ((coverFile :: ps.filterMap (·.file)).map Package.pageId).Nodup := by
  refine List.Nodup.map_on (fun file hfile file' hfile' hid => ?_) (nodup_pageFiles h)
  exact eq_of_pageId (isPageFile_of_mem h file hfile) (isPageFile_of_mem h file' hfile') hid

/-! ### Pictures -/

theorem imageId_injective {m n : Nat} (h : imageId m = imageId n) : m = n := by
  unfold imageId at h
  have hid := congrArg String.toList h
  simp only [String.toList_append, String.toList_ofList, List.append_cancel_left_eq] at hid
  exact Text.paddedDigits_injective hid

theorem initials_imageId (n : Nat) : initials (imageId n) = ['i', 'm'] := by
  rw [initials, imageId, String.toList_append]
  rfl

end Kumihan.Epub
