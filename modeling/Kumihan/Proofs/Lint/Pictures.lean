import Kumihan.Proofs.Compositor.Marks
import Kumihan.Proofs.Epub.Package
import Kumihan.Proofs.Epub.Publication
import Kumihan.Proofs.Lint.LineNumbers

/-!
# Pictures that are looked for

A linter reads the names of pictures off the directives, by a list of commands of its own.  A book
is made from actions, some of which a directive makes where it stands and others only when a page is
closed.  No picture waits for that, so both name the same pictures, in the same order and as often.

## Main definitions

* `isLacking` — a picture that no book can be made with.
* `Finding.picture?` — the picture that a finding is about.

## Main results

* `flatMap_pictureNames` — **the pictures that directives name are those that actions show.**
* `isFile_of_save` — a run makes no file and takes none away.
* `run_lackingPictures` — **a run finds the pictures that are lacking, and no other.**
-/

namespace Kumihan.Lint

open Book (Action compose composeDirectives filter_actions layout map_action_layout marks mediaType)
open Epub (filterMap_picture? picture?)
open Files (Disk)
open Markup (Directive normalize)

/-! ### Names of pictures -/

/-- **One directive** names the pictures that it makes actions of. -/
theorem pictureNames_eq (d : Directive) :
    pictureNames d = ((marks d).filter (·.kind.holdsImage)).map (·.content) := by
  unfold pictureNames marks
  cases d.command with
  | glyph =>
    -- every action of a line with glyphs shows a picture
    show d.glyphs = (List.filter _ (d.glyphs.map _)).map _
    rw [List.filter_map, List.map_map]
    exact ((List.map_id _).trans (List.filter_eq_self.mpr fun _ _ => rfl)).symm
  | _ => rfl

/-- **The pictures that directives name are those that actions show**, in their order and as
often. -/
theorem flatMap_pictureNames (ds : List Directive) :
    ds.flatMap pictureNames
      = ((composeDirectives ds).actions.filter (·.kind.holdsImage)).map (·.content) := by
  have htext (a : Action) (h : a.kind.holdsText = true) : a.kind.holdsImage = false := by
    revert h
    cases a.kind <;> simp [Book.ActionKind.holdsText, Book.ActionKind.holdsImage]
  rw [filter_actions htext, List.filter_flatMap, List.map_flatMap]
  exact congrArg ds.flatMap (funext pictureNames_eq)

/-! ### Pictures that are lacking -/

/-- No book can be made with the picture: its type is not supported, or there is no such file in
the directory of the pictures. -/
def isLacking (disk : Disk) (dir file : String) : Bool :=
  !(mediaType file).isOk || !disk.isFile (Files.Path.join dir file)

/-- The picture that a finding is about. -/
def Finding.picture? (f : Finding) : Option String :=
  match f.issue with
  | .unsupportedPicture fault => some fault.file
  | .missingPicture _ file => some file
  | _ => none

/-- A finding about characters is about no picture. -/
theorem picture?_of_concernsCharacters {f : Finding} (h : f.issue.concernsCharacters = true) :
    f.picture? = none := by
  rw [Finding.picture?]
  cases hissue : f.issue with
  | unsupportedPicture _ | missingPicture _ _ =>
    rw [hissue] at h
    contradiction
  | _ => rfl

/-- What is found of the structure is about no picture. -/
theorem pictures_checkStructure (s : List Char) (ds : List Directive) :
    (checkStructure s ds).filterMap Finding.picture? = [] := by
  refine List.filterMap_eq_nil_iff.mpr fun f hf => ?_
  rw [checkStructure, List.mem_append, List.mem_append] at hf
  rcases hf with (hf | hf) | hf
  · rw [(eq_of_mem_checkLeftover hf).2]
    rfl
  · obtain ⟨fault, rfl⟩ := exists_of_mem_checkToc hf
    rfl
  · obtain ⟨listed, chapters, rfl⟩ := exists_of_mem_checkChapters hf
    rfl

section

variable {disk : Disk} {dir : String}

/-- **A picture is found exactly if it is lacking.** -/
theorem bind_pictureIssue? (hdir : dir ≠ "") (n : Int) (file : String) :
    ((pictureIssue? disk (some dir) file).map (Finding.mk n)).bind Finding.picture?
      = Option.guard (isLacking disk dir) file := by
  have hnonempty : dir.isEmpty = false := by simpa using hdir
  unfold pictureIssue? Option.guard isLacking
  cases htype : mediaType file with
  | error fault =>
    rw [Book.mediaType_eq_error htype]
    rfl
  | ok type =>
    simp only [hnonempty, Bool.false_or]
    cases disk.isFile (Files.Path.join dir file) <;> rfl

theorem pictures_checkPictures (hdir : dir ≠ "") (d : Directive) :
    (checkPictures disk (some dir) d).filterMap Finding.picture?
      = (pictureNames d).filter (isLacking disk dir) := by
  rw [checkPictures, List.filterMap_filterMap]
  simp only [bind_pictureIssue? hdir, List.filterMap_eq_filter]

/-- **The second look finds the pictures that are lacking**, in their order and as often as they
are named. -/
theorem pictures_checkMarkup {s : List Char} {ds : List Directive} (hdir : dir ≠ "")
    (hread : Directive.ofText s = (ds, none)) :
    (checkMarkup disk (some dir) s).filterMap Finding.picture?
      = (ds.flatMap pictureNames).filter (isLacking disk dir) := by
  rw [checkMarkup_of_read hread, List.filterMap_append, pictures_checkStructure, List.append_nil,
    List.filterMap_flatMap, List.filter_flatMap]
  simp only [pictures_checkPictures hdir]

end

/-! ### Runs -/

section

variable {l : Linter} {disk : Disk} {bs : Text.Bytes} {s : List Char}

/-- **A run makes no file and takes none away.** -/
theorem isFile_of_save {left : List Char} {disk' : Disk} (hread : disk.read l.path = .ok bs)
    (h : l.save disk s left = .ok disk') (path : String) :
    disk'.isFile path = disk.isFile path := by
  by_cases hwrites : l.fix = true ∧ s ≠ left
  · exact Disk.isFile_of_write hread (write_of_save hwrites.1 hwrites.2.symm h) path
  · have hsame : (l.fix && s != left) = false := by simpa using hwrites
    rw [Linter.save, hsame] at h
    rw [← Except.ok.inj h]

theorem severity_of_picture? {f : Finding} {file : String} (h : f.picture? = some file) :
    f.issue.severity = .error := by
  unfold Finding.picture? at h
  split at h
  · next hissue =>
    rw [hissue]
    rfl
  · next hissue =>
    rw [hissue]
    rfl
  · contradiction

theorem isLacking_iff {dir file : String} : isLacking disk dir file = true ↔
    (∃ fault, mediaType file = .error fault)
      ∨ disk.isFile (Files.Path.join dir file) = false := by
  unfold isLacking
  cases mediaType file <;> simp [Except.isOk, Except.toBool]

/-- **The findings about pictures** are those about the pictures that are lacking. -/
theorem exists_picture_iff {dir : String} {names : List String} {found : List Finding}
    (h : found.filterMap Finding.picture? = names.filter (isLacking disk dir)) :
    (∃ f ∈ found, f.issue.severity = .error ∧ f.picture?.isSome = true)
      ↔ ∃ file ∈ names, (∃ fault, mediaType file = .error fault)
        ∨ disk.isFile (Files.Path.join dir file) = false := by
  simp only [← isLacking_iff]
  constructor
  · rintro ⟨f, hf, -, hpicture⟩
    obtain ⟨file, hfile⟩ := Option.isSome_iff_exists.mp hpicture
    have hmem : file ∈ names.filter (isLacking disk dir) :=
      h ▸ List.mem_filterMap.mpr ⟨f, hf, hfile⟩
    exact ⟨file, List.mem_filter.mp hmem⟩
  · rintro ⟨file, hfile, hlacking⟩
    have hmem : file ∈ found.filterMap Finding.picture? :=
      h ▸ List.mem_filter.mpr ⟨hfile, hlacking⟩
    obtain ⟨f, hf, hpicture⟩ := List.mem_filterMap.mp hmem
    exact ⟨f, hf, severity_of_picture? hpicture, by rw [hpicture]; rfl⟩

/-- **A run finds the pictures that are lacking, and no other.**  In a text all of whose lines are
directives, the pictures that are looked for are those that the actions show, in their order and as
often, and those that are read where the actions are placed.  A run that leaves such a text and is
given a directory finds each of them whose type is not supported or that is no file there, and has
an error about a picture exactly if there is one. -/
theorem run_lackingPictures {t : List Char} {ds : List Directive}
    (hlines : Directive.ofText t = (ds, none)) :
    compose t = .ok (composeDirectives ds)
      ∧ ds.flatMap pictureNames
        = ((composeDirectives ds).actions.filter (·.kind.holdsImage)).map (·.content)
      ∧ (∀ us, layout (composeDirectives ds).actions = .ok us →
          us.filterMap picture? = ds.flatMap pictureNames)
      ∧ ∀ (l : Linter) disk bs s dir, disk.read l.path = .ok bs → Text.decode bs = .ok s →
          normalize (l.left s) = t → l.pictureDir = some dir → dir ≠ "" →
          ∀ r, ∃ run found, l.run disk r = .ok run ∧ run.report.findings = r.findings ++ found
            ∧ found.filterMap Finding.picture?
              = (ds.flatMap pictureNames).filter (isLacking disk dir)
            ∧ ((∃ f ∈ found, f.issue.severity = .error ∧ f.picture?.isSome = true)
              ↔ ∃ file ∈ ds.flatMap pictureNames, (∃ fault, mediaType file = .error fault)
                ∨ disk.isFile (Files.Path.join dir file) = false) := by
  refine ⟨by rw [compose, hlines], flatMap_pictureNames ds, fun us hus => ?_,
    fun l disk bs s dir hread hdecode hleft hdir hne r => ?_⟩
  · rw [filterMap_picture?, map_action_layout hus, flatMap_pictureNames]
  · obtain ⟨run, hrun, hsave, hfindings⟩ := exists_run hread hdecode r
    rw [hleft, hdir] at hfindings
    have hcharacters : (l.textFindings s).filterMap Finding.picture? = [] :=
      List.filterMap_eq_nil_iff.mpr fun f hf =>
        picture?_of_concernsCharacters (concernsCharacters_of_mem_textFindings hf)
    -- the second look is at the files that the run leaves
    have hlacking : isLacking run.disk dir = isLacking disk dir := by
      funext file
      rw [isLacking, isLacking, isFile_of_save hread hsave]
    have hpictures : (l.textFindings s ++ checkMarkup run.disk (some dir) t).filterMap
        Finding.picture? = (ds.flatMap pictureNames).filter (isLacking disk dir) := by
      rw [List.filterMap_append, hcharacters, List.nil_append, pictures_checkMarkup hne hlines,
        hlacking]
    exact ⟨run, _, hrun, hfindings, hpictures, exists_picture_iff hpictures⟩

end

/-- A page with the picture of a character, and pictures of which one is there, one is not and one
has another type. -/
def gallery : List Char :=
  Book.unlines ["x#gaiji,a.png#y", "#img,a.png#", "#img,b.png#", "#img,a.gif#", "#chapter,B#"]

/-- The directives of the text. -/
def galleryDirectives : List Directive :=
  [{ command := .glyph, argument := "x" ++ Markup.glyphTag "a.png" ++ "y", glyphs := ["a.png"],
     line := 1 },
   { command := .image, argument := "a.png", line := 2 },
   { command := .image, argument := "b.png", line := 3 },
   { command := .image, argument := "a.gif", line := 4 },
   { command := .chapter, argument := "B", line := 5 }]

/-- A disk with the text, on which the picture of another type is there. -/
def galleryDesk : Disk :=
  { Epub.desk gallery with
    tree := ⟨(["img", "a.gif"], .file (.bytes [7])) :: (Epub.desk gallery).tree.entries⟩ }

theorem lackingPictures_gallery :
    galleryDesk.isFile "img/a.gif" = true
      ∧ ∃ run, Linter.run { path := "raw.txt", pictureDir := some "img" } galleryDesk {} = .ok run
        ∧ run.report.findings.filterMap Finding.picture? = ["b.png", "a.gif"] := by
  have hread : Book.ReadsAs gallery galleryDirectives := by
    unfold gallery
    repeat rw [Book.unlines_cons]
    rw [Book.unlines_nil]
    constructor <;> decide +kernel
  obtain ⟨-, -, -, hruns⟩ := run_lackingPictures hread.read
  have hfile : galleryDesk.read "raw.txt" = .ok (Text.encode gallery) := by
    rfl
  obtain ⟨run, found, hrun, hfindings, hpictures, -⟩ :=
    hruns { path := "raw.txt", pictureDir := some "img" } _ _ _ _ hfile (Text.decode_encode _)
      hread.normalize_self rfl (by decide) {}
  obtain rfl : run.report.findings = found := hfindings.trans (List.nil_append _)
  have hlacking : (galleryDirectives.flatMap pictureNames).filter
      (isLacking galleryDesk "img") = ["b.png", "a.gif"] := by
    decide +kernel
  exact ⟨by decide +kernel, run, hrun, hpictures.trans hlacking⟩

end Kumihan.Lint
