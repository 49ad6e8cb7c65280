import Kumihan.Epub.Publication
import Kumihan.Proofs.Contents.Linking
import Kumihan.Proofs.Epub.Assembly
import Kumihan.Proofs.Files.Disk

/-!
# A book is written as a whole or not at all

A book is assembled without a change to the files.  Then directories are made, which are no files;
an empty file is made where nothing stood; the writer fills it; and it is moved to its place.  A
failure after the file is made removes it again, so whatever fails, and however far the
writer came, the files are those from before.

Of the host nothing is assumed but that its writer keeps to the file that it is given.

## Main definitions

* `Confined` — a writer that keeps to its file.
* `AllOrNothing` — the files after a publication, against those before it.

## Main results

* `confined_containerWriter` — the writer that books are built with keeps to its file.
* `allOrNothing_fill`, `allOrNothing_publishOn` — the steps.
* `allOrNothing_buildOn`, `allOrNothing_buildLoaded` — **a build that fails leaves all files as they
  were, and one that succeeds changes its book alone.**
-/

namespace Kumihan.Epub

open Files (Disk Location)

variable {host : Host} {opened d : Disk} {loc : Location}

/-- The writer changes nothing but the file that it is given, and makes no directory of it. -/
def Confined (writer : Package → Disk → String → Disk × Option Failure) : Prop :=
  ∀ (p : Package) (d : Disk) (path : String) (loc : Location) (content : Files.Content),
    d.find path = .ok loc → d.tree.get? loc = some (.file content) →
      Disk.ChangedOnlyAt loc d (writer p d path).1

/-- What the writing of a book leaves of the files: all of them if it fails, and all but the book
if it succeeds. -/
structure AllOrNothing (before : Disk) (output : String) (after : Disk) (failure : Option Failure) :
    Prop where
  /-- The working directory is the same. -/
  workingDir_eq : after.workingDir = before.workingDir
  /-- A failure leaves the files as they were, and adds none. -/
  file?_of_failure : failure ≠ none → ∀ loc, after.tree.file? loc = before.tree.file? loc
  /-- Without a failure the book is there, and no other file is new or changed. -/
  file?_of_success : failure = none → ∃ book content, after.find output = .ok book
    ∧ after.tree.file? book = some content
    ∧ ∀ loc ≠ book, after.tree.file? loc = before.tree.file? loc

/-- What is true of the files holds of every disk that has the same ones. -/
theorem AllOrNothing.of_files {before before' after : Disk} {output : String}
    {failure : Option Failure} (hdir : before'.workingDir = before.workingDir)
    (hfiles : before'.tree.file? = before.tree.file?)
    (h : AllOrNothing before' output after failure) : AllOrNothing before output after failure where
  workingDir_eq := h.workingDir_eq.trans hdir
  file?_of_failure := by
    rw [← hfiles]
    exact h.file?_of_failure
  file?_of_success := by
    rw [← hfiles]
    exact h.file?_of_success

/-- Nothing is done, and that is a failure. -/
theorem AllOrNothing.refl (d : Disk) (output : String) {failure : Option Failure}
    (hfailed : failure ≠ none) : AllOrNothing d output d failure where
  workingDir_eq := rfl
  file?_of_failure _ _ := rfl
  file?_of_success hnone := absurd hnone hfailed

/-! ### Hosts -/

theorem Host.attempt_eq_ok {call : Call} {result : Except Files.Fault Disk} :
    host.attempt call result = .ok d ↔ host.refuses call = none ∧ result = .ok d := by
  unfold Host.attempt
  cases host.refuses call with
  | some failure => simp
  | none => cases result <;> simp

/-- **The writer of containers** keeps to its file: it fails before it writes, or it writes. -/
theorem confined_containerWriter (moment : String) : Confined (containerWriter moment) := by
  intro p d path loc content hfind hget
  have hfile : d.tree.get? loc ≠ some .dir := by simp [hget]
  have hsame := Disk.ChangedOnlyAt.refl d hfile
  unfold containerWriter
  cases p.container moment with
  | error fault => exact hsame
  | ok archive =>
    cases hwrite : d.write path (.archive archive []) with
    | error fault => simpa [hwrite] using hsame
    | ok written =>
      obtain ⟨loc', hfind', -, rfl⟩ := Disk.write_eq_ok.mp hwrite
      obtain rfl : loc = loc' := Except.ok.inj (hfind.symm.trans hfind')
      simpa [hwrite] using Disk.changedOnlyAt_put d hfile _

/-! ### Writing -/

/-- A file that is discarded is gone, and nothing else is. -/
theorem discard_spec {temporary : String} (hfind : d.find temporary = .ok loc)
    (hfile : d.tree.get? loc ≠ some .dir) :
    Disk.ChangedOnlyAt loc d (discard d temporary)
      ∧ (discard d temporary).tree.file? loc = none := by
  unfold discard Disk.remove
  cases hget : d.tree.get? loc with
  | none =>
    -- the writer may have lost the file
    simp only [hfind, hget, bind_ok, throw_eq_error]
    exact ⟨.refl d hfile, Files.Tree.file?_of_get?_eq_none hget⟩
  | some e =>
    cases e with
    | dir => exact absurd hget hfile
    | file content =>
      simp only [hfind, hget, bind_ok, pure_eq_ok]
      exact ⟨Disk.changedOnlyAt_clear d hfile,
        Files.Tree.file?_of_get?_eq_none (Disk.get?_clear_self d hfile)⟩

/-- A disk has a draft at a path: where the path leads nothing stood before, and only there has
something changed since. -/
structure HasDraft (before : Disk) (path : String) (loc : Location) (d : Disk) : Prop where
  /-- Nothing stood there. -/
  free : before.tree.get? loc = none
  /-- The path leads there. -/
  find_eq : d.find path = .ok loc
  /-- Elsewhere nothing has changed. -/
  changed : Disk.ChangedOnlyAt loc before d

/-- **The writer** gets a file that was made for it, and leaves a draft. -/
theorem hasDraft_writer (hwriter : Confined host.writer) (p : Package) {before : Disk}
    {path : String} (hcreate : before.create path = .ok opened) :
    ∃ loc, HasDraft before path loc (host.writer p opened path).1 := by
  obtain ⟨loc, hfind, hfree, rfl⟩ := Disk.create_eq_ok.mp hcreate
  have hnodir : before.tree.get? loc ≠ some .dir := by simp [hfree]
  have hopened := Disk.changedOnlyAt_put before hnodir (.bytes [])
  have hfindOpened := hopened.find_eq hnodir hfind
  have hget := Files.Tree.get?_put_self (Files.Tree.ne_nil_of_get? hnodir) before.tree
    (.file (.bytes []))
  have hleft := hwriter p _ path loc _ hfindOpened hget
  exact ⟨loc, hfree, hleft.find_eq hopened.get?_ne_dir hfindOpened, hopened.trans hleft⟩

/-- **A draft that is discarded** leaves no trace. -/
theorem allOrNothing_discard {before : Disk} {path : String} (h : HasDraft before path loc d)
    (output : String) (failure : Failure) :
    AllOrNothing before output (discard d path) (some failure) := by
  obtain ⟨hdiscard, hgone⟩ := discard_spec h.find_eq h.changed.get?_ne_dir
  refine ⟨hdiscard.workingDir_eq.trans h.changed.workingDir_eq, fun _ loc' => ?_, nofun⟩
  by_cases heq : loc' = loc
  · subst heq
    rw [hgone, Files.Tree.file?_of_get?_eq_none h.free]
  · -- neither the writer nor the discarding has been anywhere else
    rw [hdiscard.file?_of_ne heq, h.changed.file?_of_ne heq]

/-- **A draft that is moved** is the book, and where it was nothing stands again. -/
theorem allOrNothing_move {before moved : Disk} {path output : String}
    (h : HasDraft before path loc d) (hmove : d.move path output = .ok moved) :
    AllOrNothing before output moved none := by
  obtain ⟨source, e, book, hsource, hget, hbook, hnodir, rfl⟩ := Disk.move_eq_ok.mp hmove
  obtain rfl : source = loc := Except.ok.inj (hsource.symm.trans h.find_eq)
  have hdraft := h.changed.get?_ne_dir
  cases e with
  | dir => exact absurd hget hdraft
  | file content =>
    have hclear := Disk.changedOnlyAt_clear d hdraft
    -- the book may be asked for where the draft is
    have hbookClear : (d.tree.clear source).get? book ≠ some .dir := by
      by_cases heq : book = source
      · rw [heq]
        exact hclear.get?_ne_dir
      · rw [hclear.get?_of_ne book heq]
        exact hnodir
    have hput := Disk.changedOnlyAt_put { d with tree := d.tree.clear source } hbookClear content
    refine ⟨h.changed.workingDir_eq, fun hne => absurd rfl hne,
      fun _ => ⟨book, content, ?_, ?_, ?_⟩⟩
    · exact hput.find_eq hbookClear (hclear.find_eq hdraft hbook)
    · exact Disk.file?_put { d with tree := d.tree.clear source } hbookClear content
    · intro loc' hne
      rw [hput.file?_of_ne hne]
      by_cases heq : loc' = source
      · subst heq
        rw [Files.Tree.file?_of_get?_eq_none (Disk.get?_clear_self d hdraft),
          Files.Tree.file?_of_get?_eq_none h.free]
      · rw [hclear.file?_of_ne heq, h.changed.file?_of_ne heq]

/-- **A new file** is filled and moved, or discarded. -/
theorem allOrNothing_fill (hwriter : Confined host.writer) (p : Package) {before : Disk}
    {path output : String} (hcreate : before.create path = .ok opened) :
    AllOrNothing before output (fill host p opened path output).disk
      (fill host p opened path output).failure := by
  obtain ⟨loc, hdraft⟩ := hasDraft_writer hwriter p hcreate
  unfold fill
  rcases hwrite : host.writer p opened path with ⟨left, _ | failure⟩
  · rw [hwrite] at hdraft
    simp only
    cases hmove : host.attempt (.move path output) (left.move path output) with
    | error failure => exact allOrNothing_discard hdraft output failure
    | ok moved => exact allOrNothing_move hdraft (Host.attempt_eq_ok.mp hmove).2
  · rw [hwrite] at hdraft
    exact allOrNothing_discard hdraft output failure

/-- The directories that are made are no files. -/
theorem Host.files_makeEach (host : Host) (disk : Disk) (paths : List String) :
    (disk.makeEach host.makeDir paths).1.workingDir = disk.workingDir
      ∧ (disk.makeEach host.makeDir paths).1.tree.file? = disk.tree.file? := by
  have hmake {d d' : Disk} {path : String} (h : host.makeDir d path = .ok d') :
      d.makeDir path = .ok d' := (attempt_eq_ok.mp h).2
  constructor
  · exact Disk.makeEach_invariant Disk.workingDir
      (fun _ _ _ h => Disk.workingDir_makeDir (hmake h)) paths disk
  · exact Disk.makeEach_invariant (fun d => d.tree.file?)
      (fun _ _ _ h => funext (Disk.file?_makeDir (hmake h))) paths disk

/-- **A publication**: directories are made, then a new file is filled. -/
theorem allOrNothing_publishOn (hwriter : Confined host.writer) (disk : Disk) (token : String)
    (p : Package) (output : String) :
    AllOrNothing disk output (publishOn host disk token p output).disk
      (publishOn host disk token p output).failure := by
  unfold publishOn
  simp only
  generalize Disk.waypoints (Files.Path.dirName (Files.Path.absolute disk.workingDir output)) = dirs
  obtain ⟨hdir, hfiles⟩ := host.files_makeEach disk dirs
  rcases hmade : disk.makeEach host.makeDir dirs with ⟨made, _ | failure⟩
  · rw [hmade] at hdir hfiles
    -- the files before the book are those before the directories
    refine AllOrNothing.of_files hdir hfiles ?_
    simp only
    generalize made.freshPath _ ".rote-" token bookExtension = path
    cases hcreate : host.attempt (.create path) (made.create path) with
    | error failure => exact .refl made output (Option.some_ne_none failure)
    | ok opened => exact allOrNothing_fill hwriter p (Host.attempt_eq_ok.mp hcreate).2
  · rw [hmade] at hdir hfiles
    exact AllOrNothing.of_files hdir hfiles (.refl made output (Option.some_ne_none failure))

/-! ### Building -/

section

variable {a : Assembly}

theorem finishOn_of_failure (host : Host) (disk : Disk) (token output : String) {failure : Failure}
    (h : a.failure = some failure) :
    (finishOn host disk token a output).disk = disk
      ∧ (finishOn host disk token a output).failure = some failure := by
  unfold finishOn
  simp [h]

theorem finishOn_of_package (host : Host) (disk : Disk) (token output : String) {p : Package}
    (h : a.failure = none) (hp : a.package = some p) :
    (finishOn host disk token a output).disk
        = (publishOn host disk token p (outputFile output)).disk
      ∧ (finishOn host disk token a output).failure
        = (publishOn host disk token p (outputFile output)).failure
      ∧ (finishOn host disk token a output).package = some p := by
  unfold finishOn
  simp [h, hp]

/-- What has been put together is written as a whole or not at all. -/
theorem allOrNothing_finishOn (hwriter : Confined host.writer)
    (ha : a.failure = none → ∃ p, a.package = some p) (disk : Disk) (token output : String) :
    AllOrNothing disk (outputFile output) (finishOn host disk token a output).disk
      (finishOn host disk token a output).failure := by
  cases hfailure : a.failure with
  | some failure =>
    obtain ⟨hdisk, hfailed⟩ := finishOn_of_failure host disk token output hfailure
    rw [hdisk, hfailed]
    exact .refl disk _ (Option.some_ne_none failure)
  | none =>
    obtain ⟨p, hp⟩ := ha hfailure
    obtain ⟨hdisk, hdone, -⟩ := finishOn_of_package host disk token output hfailure hp
    rw [hdisk, hdone]
    exact allOrNothing_publishOn hwriter disk token p (outputFile output)

end

/-- **A build that does not fail** has put its package together before. -/
theorem assemble_of_buildOn {disk : Disk} {plan : BookPlan} {token pictureDir output : String}
    (h : (buildOn host disk token plan pictureDir output).failure = none) :
    (assemble disk pictureDir plan).failure = none
      ∧ (buildOn host disk token plan pictureDir output).package
        = (assemble disk pictureDir plan).package := by
  unfold buildOn at h ⊢
  cases hfailure : (assemble disk pictureDir plan).failure with
  | some failure =>
    rw [(finishOn_of_failure host disk token output hfailure).2] at h
    contradiction
  | none =>
    obtain ⟨p, hp⟩ := exists_package hfailure
    refine ⟨rfl, (finishOn_of_package host disk token output hfailure hp).2.2.trans ?_⟩
    exact hp.symm

/-- **A book is written as a whole or not at all**, whatever the host refuses and wherever its
writer fails.  If the build fails, every file is as it was and none is new; if it succeeds, the book
is the only file that is new or changed. -/
theorem allOrNothing_buildOn (hwriter : Confined host.writer) (disk : Disk) (token : String)
    (plan : BookPlan) (pictureDir output : String) :
    AllOrNothing disk (outputFile output)
      (buildOn host disk token plan pictureDir output).disk
      (buildOn host disk token plan pictureDir output).failure :=
  allOrNothing_finishOn hwriter exists_package disk token output

/-- So is the book of any plan that is loaded. -/
theorem allOrNothing_buildLoaded (disk : Disk) (occasion : Occasion) (plan : LoadedPlan)
    (pictureDir output : String) :
    AllOrNothing disk (outputFile output)
      (buildLoaded disk occasion plan pictureDir output).disk
      (buildLoaded disk occasion plan pictureDir output).failure :=
  allOrNothing_finishOn (confined_containerWriter occasion.moment) exists_package disk
    occasion.token output

/-- A chapter and a picture. -/
def letter : List Char := Book.unlines ["#chapter,A#", "x", "#img,a.png#"]

/-- A disk with a manuscript and everything else that a small book needs. -/
def desk (manuscript : List Char) : Disk where
  tree :=
    ⟨[(["img"], .dir), (["img", "cover.png"], .file (.bytes [1])),
      (["img", "a.png"], .file (.bytes [2])), (["img", "keep-space.jpg"], .file (.bytes [3])),
      (["keep-space.jpg"], .file (.bytes [4])), (["book-style.css"], .file (.bytes [5])),
      (["fit-style.css"], .file (.bytes [6])),
      (["raw.txt"], .file (.bytes (Text.encode manuscript)))]⟩
  workingDir := "/"
  bundledDir := "/lib"

/-- A host with the writer of containers, on which nothing can be moved. -/
def stuckHost : Host :=
  { Host.plain "2000-01-01T00:00:00Z" with
    refuses := fun call => match call with
      | .move source target => some (.file (.refused .isDirectory source target))
      | _ => none }

theorem failure_build_letter :
    (buildOn (.plain "2000-01-01T00:00:00Z") (desk letter) "t" Book.slimPlan "img" "out").failure
      = none := by
  decide +kernel

theorem allOrNothing_letter :
    Confined stuckHost.writer
      ∧ (buildOn stuckHost (desk letter) "t" Book.slimPlan "img" "out").failure.isSome = true
      ∧ AllOrNothing (desk letter) (outputFile "out")
          (buildOn stuckHost (desk letter) "t" Book.slimPlan "img" "out").disk
          (buildOn stuckHost (desk letter) "t" Book.slimPlan "img" "out").failure
      ∧ AllOrNothing (desk letter) (outputFile "out")
          (buildOn (.plain "2000-01-01T00:00:00Z") (desk letter) "t" Book.slimPlan "img" "out").disk
          none := by
  have hwriter : Confined (containerWriter "2000-01-01T00:00:00Z") := confined_containerWriter _
  refine ⟨hwriter, by decide +kernel, allOrNothing_buildOn hwriter _ _ _ _ _, ?_⟩
  rw [← failure_build_letter]
  exact allOrNothing_buildOn hwriter _ _ _ _ _

end Kumihan.Epub
