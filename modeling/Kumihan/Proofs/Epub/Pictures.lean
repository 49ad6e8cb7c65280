import Mathlib.Data.List.Forall2
import Kumihan.Proofs.Compositor.Glyphs
import Kumihan.Proofs.Epub.Filling
import Kumihan.Proofs.Epub.Publication

/-!
# The pictures of a book

A picture is packaged when the first action that shows it is placed.  So the pictures in a package
are those that the actions show, each once and in the order of the first, with the bytes that are
in the directory of the pictures; and since the picture of a glyph is an action, what a page refers
to is among them.

## Main definitions

* `Item.isPicture` — the items that are pictures of the manuscript.
* `shownPictures` — the pictures that actions show.
* `IsPicture`, `PackagesPictures` — the item of a picture, and all of them.

## Main results

* `packagesPictures_place`, `packagesPictures_assemble` — one placement, and a whole assembly.
* `pictures_closed` — **the pictures of a book are closed.**
-/

namespace Kumihan.Epub

open Book (Action ActionKind CompiledBook GlyphsClosed Placement compileText layout mediaType)
open Files (Disk)
open Text (letters)
open Markup (Directive normalize)

/-- The item is a picture of the manuscript. -/
def Item.isPicture (item : Item) : Bool := "img-".toList.isPrefixOf item.id.toList

/-- The pictures that actions show, each once and in the order of the first. -/
def shownPictures (actions : List Action) : List String :=
  ((actions.filter (·.kind.holdsImage)).map (·.content)).eraseDups

/-- An item is the picture that has a number: it has its id from that, its file and its media type
from the name of the picture, and holds what is in the directory of the pictures under that name. -/
structure IsPicture (disk : Disk) (pictureDir : String) (picture : String × Nat) (item : Item) :
    Prop where
  id_eq : item.id = imageId picture.2
  file_eq : item.file = "image/" ++ picture.1
  mediaType_eq : mediaType picture.1 = .ok item.mediaType
  payload_eq : ∃ bs, disk.read (Files.Path.join pictureDir picture.1) = .ok bs
    ∧ item.payload = .bytes bs

/-- A package holds some pictures, each once and numbered from one on, and no other. -/
structure PackagesPictures (disk : Disk) (pictureDir : String) (files : List String)
    (p : Package) : Prop where
  /-- The pictures that are known to be packaged. -/
  names_eq : p.images.map (·.1) = files.eraseDups
  /-- The items of the pictures. -/
  items : List.Forall₂ (IsPicture disk pictureDir) (files.eraseDups.zipIdx 1)
    (p.items.filter (·.isPicture))

/-! ### Items that are no pictures -/

theorem initials_of_isPicture {item : Item} (h : item.isPicture = true) :
    initials item.id = ['i', 'm'] := by
  obtain ⟨rest, hid⟩ := List.isPrefixOf_iff_prefix.mp h
  rw [initials, ← hid]
  rfl

theorem isPicture_imageId (n : Nat) (file type : String) (payload : Payload) :
    (⟨imageId n, file, type, payload⟩ : Item).isPicture = true := by
  refine List.isPrefixOf_iff_prefix.mpr ⟨Text.paddedDigits 4 n, ?_⟩
  simp only [imageId, String.toList_append, String.toList_ofList]

/-- An id that begins otherwise is not the one of a picture. -/
theorem isPicture_eq_false {item : Item} (h : initials item.id ≠ ['i', 'm']) :
    item.isPicture = false := by
  rw [← Bool.not_eq_true]
  exact fun hpicture => h (initials_of_isPicture hpicture)

theorem isPicture_of_isPageFile {page : Package.PageRequest} (h : IsPageFile page.file) :
    page.item.isPicture = false := by
  have hid : initials page.item.id = ['p', '-'] := initials_pageId h
  apply isPicture_eq_false
  rw [hid]
  decide

/-! ### One placement -/

section

variable {disk : Disk} {pictureDir : String} {plan : BookPlan} {book : CompiledBook}
  {us : List Placement} {u : Placement} {files : List String} {p p' : Package}

theorem eraseDups_concat (files : List String) (file : String) :
    (files ++ [file]).eraseDups
      = if file ∈ files then files.eraseDups else files.eraseDups ++ [file] := by
  rw [List.eraseDups_append]
  by_cases h : file ∈ files
  · simp [List.removeAll, h]
  · simp [List.removeAll, h, List.eraseDups_cons]

theorem read_of_readPicture {file : String} {bs : Text.Bytes}
    (h : readPicture disk (letters pictureDir.toList) (letters file.toList) = .ok bs) :
    disk.read (Files.Path.join pictureDir file) = .ok bs := by
  simpa only [readPicture, openFile, Files.Path.joinLetters_letters, Disk.readLetters_letters,
    mapError_eq_ok_iff] using h

/-- **A picture** is packaged behind those that are there, with the next number, or is one of
them. -/
theorem PackagesPictures.picture {file : String} (h : PackagesPictures disk pictureDir files p)
    (hwith : withPicture disk pictureDir p file = .ok p') :
    PackagesPictures disk pictureDir (files ++ [file]) p' := by
  have hhas : p.hasImage file = true ↔ file ∈ files := by
    rw [← List.mem_eraseDups, ← h.names_eq]
    exact lookup_isSome_iff _ _
  rcases withPicture_eq_ok hwith with ⟨hthere, rfl⟩ | ⟨hnew, type, bs, htype, hread, rfl⟩
  · have hsame : (files ++ [file]).eraseDups = files.eraseDups := by
      rw [eraseDups_concat, if_pos (hhas.mp hthere)]
    exact ⟨hsame ▸ h.names_eq, hsame ▸ h.items⟩
  · have hmore : (files ++ [file]).eraseDups = files.eraseDups ++ [file] := by
      rw [eraseDups_concat, if_neg (by simp [← hhas, hnew])]
    have hlength : files.eraseDups.length = p.images.length := by
      rw [← h.names_eq, List.length_map]
    constructor
    · rw [hmore, ← h.names_eq, List.map_append]
      rfl
    · have hid : p.nextImageId = imageId (1 + files.eraseDups.length) := by
        rw [hlength, Nat.add_comm]
        rfl
      rw [hmore, List.zipIdx_append, List.filter_append]
      refine List.rel_append h.items ?_
      rw [hid, List.filter_cons_of_pos (isPicture_imageId ..)]
      exact .cons ⟨rfl, rfl, htype, bs, read_of_readPicture hread, rfl⟩ .nil

/-- What is no picture changes nothing of them. -/
theorem PackagesPictures.of_items (h : PackagesPictures disk pictureDir files p)
    (himages : p'.images = p.images)
    (hitems : p'.items.filter (·.isPicture) = p.items.filter (·.isPicture)) :
    PackagesPictures disk pictureDir files p' := by
  constructor
  · rw [himages]
    exact h.names_eq
  · rw [hitems]
    exact h.items

/-- **One more placement** adds its picture, if that is not there. -/
theorem packagesPictures_place (hu : Showable book u)
    (h : PackagesPictures disk pictureDir (us.filterMap picture?) p)
    (hplace : place disk pictureDir plan book p u = .ok p') :
    PackagesPictures disk pictureDir ((us ++ [u]).filterMap picture?) p' := by
  obtain ⟨q, hq, rfl⟩ := place_eq_ok hplace
  have hmore : PackagesPictures disk pictureDir ((us ++ [u]).filterMap picture?) q := by
    rw [filterMap_concat]
    cases hpicture : picture? u with
    | none =>
      rw [hpicture] at hq
      obtain rfl := hq
      simpa using h
    | some file =>
      rw [hpicture] at hq
      exact h.picture hq
  rcases pageRequest?_spec plan hu with
    ⟨hrequest, -⟩ | ⟨page, hrequest, hfile, hrole, -⟩
  · rw [hrequest]
    exact hmore
  · have hpage := hu.isPageFile _ hfile
    have hid : Package.pageId page.file ≠ "" := pageId_ne hpage (by decide)
    rw [hrequest]
    simp only
    rw [q.addPage_of_role page u.role hid hrole]
    refine hmore.of_items rfl ?_
    rw [List.filter_append, List.filter_cons_of_neg (by simp [isPicture_of_isPageFile hpage])]
    simp

end

/-! ### Whole books -/

section

variable {disk : Disk} {pictureDir : String} {plan : BookPlan} {inputs : Inputs} {p : Package}

/-- **The package that is opened** holds no picture of the manuscript. -/
theorem packagesPictures_openPackage (h : openPackage plan inputs = .ok p) :
    PackagesPictures disk pictureDir [] p := by
  obtain ⟨type, -, -, -, himages, hitems, -⟩ := openPackage_eq_ok h
  constructor
  · rw [himages]
    rfl
  · have hids : ∀ id ∈ ["book-style", "fit-style", "keep-space", "cover-image", coverId],
        initials id ≠ ['i', 'm'] := by decide
    have hnone : p.items.filter (·.isPicture) = [] := by
      rw [List.filter_eq_nil_iff]
      intro item hitem
      rw [isPicture_eq_false (hids item.id ?_)]
      · exact Bool.false_ne_true
      · rw [hitems] at hitem
        exact List.mem_map_of_mem (f := Item.id) hitem
    rw [hnone]
    exact .nil

/-- The package is finalized: two documents are added. -/
theorem PackagesPictures.finalize {files : List String} {q : Package}
    (h : PackagesPictures disk pictureDir files p) (hfinal : p.finalize = .ok q) :
    PackagesPictures disk pictureDir files q := by
  cases hopen : p.finalized with
  | true => simp [Package.finalize, hopen] at hfinal
  | false =>
    rw [Package.finalize_of_open hopen] at hfinal
    obtain rfl := Except.ok.inj hfinal
    refine h.of_items rfl ?_
    have hncx : (⟨"ncx", "toc.ncx", "application/x-dtbncx+xml", .generated⟩ : Item).isPicture
        = false := isPicture_eq_false (by decide)
    have hnav : (⟨"nav", "nav.xhtml", "application/xhtml+xml", .generated⟩ : Item).isPicture
        = false := isPicture_eq_false (by decide)
    simp [hncx, hnav]

/-- **The pictures of a package** that is put together without a failure are those that the actions
of its book show. -/
theorem packagesPictures_assemble (h : (assemble disk pictureDir plan).failure = none) :
    ∃ book p, compilePlan disk plan = .ok book
      ∧ (assemble disk pictureDir plan).package = some p
      ∧ List.Forall₂ (IsPicture disk pictureDir) ((shownPictures book.actions).zipIdx 1)
        (p.items.filter (·.isPicture)) := by
  obtain ⟨inputs, book, placements, opened, filled, p, -, hbook, hlayout, hopen, hplaced, hfilled,
    hfinal, hp⟩ := assemble_finished h
  have hstart :
      PackagesPictures disk pictureDir (([] : List Placement).filterMap picture?) opened :=
    packagesPictures_openPackage hopen
  have hall : PackagesPictures disk pictureDir (placements.filterMap picture?) filled := by
    refine placeAll_finished (place disk pictureDir plan book)
      (fun us p => PackagesPictures disk pictureDir (us.filterMap picture?) p) placements ?_
      hstart hplaced hfilled
    intro u hu us p p' hholds hplace
    exact packagesPictures_place (showable_of_layout hbook hlayout u hu) hholds hplace
  refine ⟨book, p, hbook, hp, ?_⟩
  rw [shownPictures, ← Book.map_action_layout hlayout, ← filterMap_picture?]
  exact (hall.finalize hfinal).items

/-- **The pictures of a book are closed.**  Where a book is built, every glyph that a page of text
refers to has its picture before the page, no reference is left in what an action shows, and the
pictures in the package are those that the actions show, each once, in the order of the first and
numbered from one on, with what the directory of the pictures holds. -/
theorem pictures_closed {host : Host} {token output : String}
    (h : (buildOn host disk token plan pictureDir output).failure = none) :
    ∃ raw book p, plan.readText disk = .ok raw ∧ compileText plan raw = .ok book
      ∧ (buildOn host disk token plan pictureDir output).package = some p
      ∧ GlyphsClosed (normalize raw.toList) book.actions
      ∧ List.Forall₂ (IsPicture disk pictureDir) ((shownPictures book.actions).zipIdx 1)
        (p.items.filter (·.isPicture)) := by
  obtain ⟨hassembled, hpackage⟩ := assemble_of_buildOn h
  obtain ⟨book, p, hbook, hp, hpictures⟩ := packagesPictures_assemble hassembled
  obtain ⟨raw, hraw, hcompiled⟩ := exists_text_of_compilePlan hbook
  obtain ⟨ds, hread⟩ := Book.exists_directives_of_compileText hcompiled
  have hglyphs := Book.glyphsClosed_composeDirectives (normalize raw.toList)
  rw [hread, ← Book.actions_of_compileText hread hcompiled] at hglyphs
  exact ⟨raw, book, p, hraw, hcompiled, hpackage.trans hp, hglyphs, hpictures⟩

/-- A chapter with the picture of a character in a line, which fills a page behind it. -/
def glyphLetter : List Char := Book.unlines ["#chapter,A#", "x#gaiji,a.png#y", "#img,a.png#"]

theorem pictures_closed_glyphLetter :
    (buildOn (.plain "2000-01-01T00:00:00Z") (desk glyphLetter) "t" Book.slimPlan "img"
        "out").failure = none
      ∧ ∃ raw book p, Book.slimPlan.readText (desk glyphLetter) = .ok raw
        ∧ compileText Book.slimPlan raw = .ok book
        ∧ (buildOn (.plain "2000-01-01T00:00:00Z") (desk glyphLetter) "t" Book.slimPlan "img"
          "out").package = some p
        ∧ GlyphsClosed (normalize raw.toList) book.actions
        ∧ List.Forall₂ (IsPicture (desk glyphLetter) "img") ((shownPictures book.actions).zipIdx 1)
          (p.items.filter (·.isPicture)) := by
  have hbuilt : (buildOn (.plain "2000-01-01T00:00:00Z") (desk glyphLetter) "t" Book.slimPlan "img"
      "out").failure = none := by
    decide +kernel
  exact ⟨hbuilt, pictures_closed hbuilt⟩

end

end Kumihan.Epub
