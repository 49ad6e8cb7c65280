import Kumihan.Plan.Source
import Kumihan.Proofs.Failing
import Kumihan.Proofs.Files.Disk
import Kumihan.Proofs.Files.Letters
import Kumihan.Proofs.Yaml.Document

/-!
# Which failures of reading are reported

What a book is made from may be missing, may refuse to be opened or may hold anything.  Whatever is
wrong with a file that is opened for a manuscript or a picture is reported as such.  So is what is
wrong with a plan, but for four failures that only depend on the bytes of its file, and that come
through as they are: they are no text, a scalar has no value, a number is too long to be printed, or
the title and the author cannot be written.  The path of a manuscript or a picture can have halves
of surrogate pairs, and one that cannot be written comes through as it is, too.

Nothing depends on how the reader of YAML works.  It has to read a file to its end before it gives a
value of it, and to find no fault with the bytes of a text.

## Main definitions

* `Reported` — what fails is reported as a fault of what the book is made from.
* `YamlReader.ReadsToEnd` — what is expected of a reader of YAML.
* `LoadedPlan.Unreported` — the failures that the bytes of a plan cause and that are not reported.

## Main results

* `Yaml.readsToEnd_loadFile` — the reader that the program uses is such a reader.
* `LoadedPlan.reported_load_iff` — which plans are reported.
* `reads_reported` — **all reads**: of plans, of manuscripts and of pictures.
-/

namespace Kumihan

open Files (Disk)
open Files.Path (joinLetters absolute dirName baseName)
open Text (Bytes IsText Letter letters pathFault?)

variable {α : Type}

/-- What is read is there, or it is reported what is wrong with what the book is made from. -/
def Reported (r : Except Failure α) : Prop :=
  ∀ failure, r = .error failure → ∃ fault, failure = .config fault

theorem reported_ok (a : α) : Reported (.ok a : Except Failure α) := nofun

theorem reported_config (fault : ConfigFault) :
    Reported (.error (.config fault) : Except Failure α) := by
  rintro _ ⟨⟩
  exact ⟨fault, rfl⟩

/-- A computation that only goes on with what is reported. -/
theorem reported_bind_iff {β : Type} {x : Except Failure α} {f : α → Except Failure β}
    (hf : ∀ a, Reported (f a)) : Reported (x >>= f) ↔ Reported x := by
  cases x with
  | ok a => exact iff_of_true (hf a) (reported_ok a)
  | error failure => simp [Reported]

/-! ### Files -/

section

variable {disk : Disk} {path : List Letter} {wrap : Files.Fault → ConfigFault}

/-- A file whose path cannot be written is not opened, and that is not reported. -/
theorem openFile_of_pathFault {fault : Text.EncodeFault} (h : pathFault? path = some fault) :
    openFile disk path wrap = .error (.file (.unwritable fault)) := by
  rw [openFile, Disk.readLetters_of_pathFault h]
  rfl

/-- **Which files are reported** that cannot be opened: all whose path can be written. -/
theorem reported_openFile_iff (hnul : .char '\x00' ∉ path) :
    Reported (openFile disk path wrap) ↔ pathFault? path = none := by
  cases hfit : pathFault? path with
  | some fault =>
    refine iff_of_false (fun hreported => ?_) nofun
    obtain ⟨fault', h⟩ := hreported _ (openFile_of_pathFault hfit)
    contradiction
  | none =>
    refine iff_of_true ?_ rfl
    cases hread : disk.readLetters path with
    | ok bs =>
      rw [openFile, hread]
      exact reported_ok bs
    | error fault =>
      rw [openFile, hread, mapError_error, if_pos (Disk.isRefusal_of_readLetters hnul hfit hread)]
      exact reported_config _

end

/-! ### Readers of YAML -/

/-- A reader of YAML reads a file to its end before it gives a value of it, and passes on that the
bytes are no text only if they are none. -/
structure YamlReader.ReadsToEnd (readYaml : YamlReader) : Prop where
  /-- A file with a value is a text. -/
  isText_of_ok : ∀ {bs v}, readYaml bs = .ok v → IsText bs
  /-- A file with a fault about bytes is none. -/
  not_isText_of_undecodable :
    ∀ {bs fault}, readYaml bs = .error (.undecodable fault) → ¬ IsText bs

/-- **The reader that the program uses** reads files to their ends. -/
theorem Yaml.readsToEnd_loadFile : YamlReader.ReadsToEnd Yaml.loadFile where
  isText_of_ok {bs v} h := by
    have hload := Yaml.load_ofFile bs
    rw [loadFile] at h
    rwa [h] at hload
  not_isText_of_undecodable {bs fault} h := by
    have hload := Yaml.load_ofFile bs
    rw [loadFile] at h
    rwa [h] at hload

/-! ### Plans -/

namespace LoadedPlan

/-- The failures that a plan can cause by what its file holds, and that are not reported. -/
inductive Unreported (readYaml : YamlReader) (bs : Bytes) : Failure → Prop
  /-- The file is no text. -/
  | undecodable {fault : Text.DecodeFault} (h : readYaml bs = .error (.undecodable fault)) :
      Unreported readYaml bs (.undecodablePlan fault)
  /-- A scalar has no value. -/
  | unreadable {fault : Yaml.ScalarFault} (h : readYaml bs = .error (.unreadable fault)) :
      Unreported readYaml bs (.unreadableField fault)
  /-- A required field holds a number that is too long to be printed. -/
  | longNumeral {entries : List (Data.Value × Data.Value)}
      (h : readYaml bs = .ok (.mapping entries))
      (hfields : ∀ name ∈ requiredFields, lacks entries name = false)
      (hlong : ∃ name ∈ requiredFields, (fieldValue entries name).hasLongNumeral = true) :
      Unreported readYaml bs .longNumeral
  /-- The title and the author, which name a book without an identifier, cannot be written. -/
  | unencodable {entries : List (Data.Value × Data.Value)} {fault : Text.EncodeFault}
      (h : readYaml bs = .ok (.mapping entries))
      (hfields : ∀ name ∈ requiredFields, lacks entries name = false)
      (hshort : ∀ name ∈ requiredFields, (fieldValue entries name).hasLongNumeral = false)
      (hidentifier : identifierOf entries = .error fault) :
      Unreported readYaml bs (.unencodable fault)

section

variable {entries : List (Data.Value × Data.Value)} {dir : String}

theorem filter_lacks_eq_nil_iff : requiredFields.filter (lacks entries) = []
    ↔ ∀ name ∈ requiredFields, lacks entries name = false := by
  simp only [List.filter_eq_nil_iff, Bool.not_eq_true]

theorem any_hasLongNumeral_eq_false_iff :
    (requiredFields.any fun name => (fieldValue entries name).hasLongNumeral) = false
      ↔ ∀ name ∈ requiredFields, (fieldValue entries name).hasLongNumeral = false := by
  simp only [List.any_eq_false, Bool.not_eq_true]

/-- Which mapping gives no plan because of a number: one that lacks no field and has such a number
in one. -/
theorem ofMapping_eq_longNumeral_iff :
    ofMapping entries dir = .error .longNumeral
      ↔ (∀ name ∈ requiredFields, lacks entries name = false)
        ∧ ∃ name ∈ requiredFields, (fieldValue entries name).hasLongNumeral = true := by
  rw [← filter_lacks_eq_nil_iff, ← List.any_eq_true]
  unfold ofMapping
  split
  · next hnone =>
    split
    · next hlong => exact iff_of_true rfl ⟨hnone, hlong⟩
    · next hshort =>
      refine iff_of_false ?_ fun h => hshort h.2
      split <;> nofun
  · next names hsome => exact iff_of_false nofun fun h => hsome h.1

/-- Which mapping gives no plan because of a name: one that lacks no field, has no such number and
gives no identifier. -/
theorem ofMapping_eq_unencodable_iff {fault : Text.EncodeFault} :
    ofMapping entries dir = .error (.unencodable fault)
      ↔ (∀ name ∈ requiredFields, lacks entries name = false)
        ∧ (∀ name ∈ requiredFields, (fieldValue entries name).hasLongNumeral = false)
        ∧ identifierOf entries = .error fault := by
  rw [← filter_lacks_eq_nil_iff, ← any_hasLongNumeral_eq_false_iff]
  unfold ofMapping
  split
  · next hnone =>
    split
    · next hlong => exact iff_of_false nofun fun h => by rw [h.2.1] at hlong; contradiction
    · next hshort =>
      split
      · next hidentifier =>
        rw [hidentifier]
        simp [hnone, hshort]
      · next hidentifier =>
        refine iff_of_false nofun fun h => ?_
        rw [h.2.2] at hidentifier
        contradiction
  · next names hsome => exact iff_of_false nofun fun h => hsome h.1

end

section

variable {readYaml : YamlReader} {path dir : String} {bs : Bytes} {failure : Failure}

/-- Bytes give no plan because of something that is reported, or because of something that is
not. -/
theorem unreported_of_ofBytes (h : ofBytes readYaml path dir bs = .error failure) :
    (∃ fault, failure = .config fault) ∨ Unreported readYaml bs failure := by
  unfold ofBytes planValue at h
  cases hload : readYaml bs with
  | error fault =>
    rw [hload] at h
    obtain rfl := Except.error.inj h
    cases fault with
    | malformed complaint => exact .inl ⟨_, rfl⟩
    | unreadable fault => exact .inr (.unreadable hload)
    | undecodable fault => exact .inr (.undecodable hload)
  | ok v =>
    rw [hload] at h
    cases v with
    | mapping entries =>
      dsimp only [mapError_ok, bind_ok] at h
      split at h
      · contradiction
      · exact .inl ⟨_, (Except.error.inj h).symm⟩
      · next hmapping =>
        obtain rfl := Except.error.inj h
        obtain ⟨hfields, hlong⟩ := ofMapping_eq_longNumeral_iff.mp hmapping
        exact .inr (.longNumeral hload hfields hlong)
      · next hmapping =>
        obtain rfl := Except.error.inj h
        obtain ⟨hfields, hshort, hidentifier⟩ := ofMapping_eq_unencodable_iff.mp hmapping
        exact .inr (.unencodable hload hfields hshort hidentifier)
    | _ => exact .inl ⟨_, (Except.error.inj h).symm⟩

theorem ofBytes_of_unreported (h : Unreported readYaml bs failure) :
    ofBytes readYaml path dir bs = .error failure := by
  unfold ofBytes planValue
  cases h with
  | undecodable h => rw [h]; rfl
  | unreadable h => rw [h]; rfl
  | longNumeral h hfields hlong =>
    rw [h]
    dsimp only [mapError_ok, bind_ok]
    rw [ofMapping_eq_longNumeral_iff.mpr ⟨hfields, hlong⟩]
    rfl
  | unencodable h hfields hshort hidentifier =>
    rw [h]
    dsimp only [mapError_ok, bind_ok]
    rw [ofMapping_eq_unencodable_iff.mpr ⟨hfields, hshort, hidentifier⟩]
    rfl

/-- No failure that is not reported is one that a book is expected to cause. -/
theorem Unreported.not_isForeseen (h : Unreported readYaml bs failure) :
    failure.isForeseen = false := by
  cases h <;> rfl

theorem Unreported.ne_config (h : Unreported readYaml bs failure) (fault : ConfigFault) :
    failure ≠ .config fault := by
  cases h <;> nofun

end

section

variable {disk : Disk} {path : List Letter} {bs : Bytes}

/-- A plan whose file is read is what its bytes give. -/
theorem exists_load_of_read (readYaml : YamlReader) (hread : disk.readLetters path = .ok bs) :
    ∃ name dir, load readYaml disk path = ofBytes readYaml name dir bs := by
  unfold load
  cases hpath : disk.textPath path with
  | error fault => simp [Disk.readLetters, hpath] at hread
  | ok name =>
    refine ⟨name, dirName (absolute disk.workingDir name), ?_⟩
    have hname : disk.read name = .ok bs := by
      rw [Disk.readLetters, hpath] at hread
      exact hread
    have hoccupied : disk.occupied name = true := by
      obtain ⟨loc, content, hfind, hget, -⟩ := Disk.read_eq_ok.mp hname
      simp [Disk.occupied, Disk.get?, hfind, hget]
    simp [hoccupied, openFile, hread]

/-- A plan whose file cannot be read is reported. -/
theorem load_of_not_read (readYaml : YamlReader) {fault : Files.Fault}
    (hread : disk.readLetters path = .error fault) :
    ∃ fault, load readYaml disk path = .error (.config fault) := by
  unfold load
  cases hpath : disk.textPath path with
  | error fault' => exact ⟨.noPlanFile (Text.spelled path), rfl⟩
  | ok name =>
    cases hoccupied : disk.occupied name with
    | false => exact ⟨.noPlanFile name, by simp [hoccupied]⟩
    | true =>
      -- a path at which something stands is not refused as one that none can have
      have hrefusal : fault.isRefusal = true := by
        rw [Disk.readLetters, hpath] at hread
        refine Disk.isRefusal_of_read (fun fault' hfind => ?_) hread
        rw [Disk.occupied, Disk.get?, hfind] at hoccupied
        contradiction
      exact ⟨.unreadablePlan name fault, by simp [hoccupied, openFile, hread, hrefusal]⟩

/-- **Which plans are reported**: all but those whose bytes cause a failure that is not. -/
theorem reported_load_iff {readYaml : YamlReader} :
    Reported (load readYaml disk path)
      ↔ ∀ bs, disk.readLetters path = .ok bs → ∀ failure, ¬ Unreported readYaml bs failure := by
  constructor
  · intro hreported bs hread failure hfailure
    obtain ⟨name, dir, hload⟩ := exists_load_of_read readYaml hread
    rw [ofBytes_of_unreported hfailure] at hload
    obtain ⟨fault, hfault⟩ := hreported failure hload
    exact hfailure.ne_config fault hfault
  · intro hnone failure hload
    cases hread : disk.readLetters path with
    | error fault =>
      obtain ⟨fault, hfault⟩ := load_of_not_read readYaml hread
      rw [hfault] at hload
      exact ⟨fault, (Except.error.inj hload).symm⟩
    | ok bs =>
      obtain ⟨name, dir, hbytes⟩ := exists_load_of_read readYaml hread
      rw [hbytes] at hload
      exact (unreported_of_ofBytes hload).resolve_right (hnone bs hread failure)

end

/-- **Bytes that are no text give no plan**, and only those give none for that reason. -/
theorem ofBytes_isText {readYaml : YamlReader} (hreader : readYaml.ReadsToEnd) (path dir : String)
    (bs : Bytes) :
    match ofBytes readYaml path dir bs with
    | .ok _ => IsText bs
    | .error (.undecodablePlan _) => ¬ IsText bs
    | .error _ => True := by
  split
  · next hok =>
    unfold ofBytes planValue at hok
    cases hvalue : readYaml bs with
    | ok v => exact hreader.isText_of_ok hvalue
    | error fault =>
      rw [hvalue] at hok
      contradiction
  · next herror =>
    obtain ⟨fault, hfault⟩ | hfailure := unreported_of_ofBytes herror
    · contradiction
    · cases hfailure with
      | undecodable hvalue => exact hreader.not_isText_of_undecodable hvalue
  · trivial

/-- What a text can cause that is not reported, if the reader gives a value of it or complains. -/
theorem Unreported.of_isText {readYaml : YamlReader} (hreader : readYaml.ReadsToEnd) {bs : Bytes}
    (htext : IsText bs) (hanswer : ∀ fault, readYaml bs ≠ .error (.unreadable fault))
    {failure : Failure} (h : Unreported readYaml bs failure) :
    failure = .longNumeral ∨ ∃ fault, failure = .unencodable fault := by
  cases h with
  | undecodable h => exact absurd htext (hreader.not_isText_of_undecodable h)
  | unreadable h => exact absurd h (hanswer _)
  | longNumeral => exact .inl rfl
  | unencodable => exact .inr ⟨_, rfl⟩

/-! ### Manuscripts -/

section

variable {disk : Disk} {plan : LoadedPlan}

/-- **Which manuscripts are reported** that cannot be read: all whose path can be written.  That one
is no text is reported, too. -/
theorem reported_readText_iff (hnul : .char '\x00' ∉ plan.rawPath) :
    Reported (plan.readText disk) ↔ pathFault? plan.rawPath = none := by
  rw [← reported_openFile_iff hnul, readText]
  refine reported_bind_iff fun bs => ?_
  split
  · exact reported_ok _
  · exact reported_config _

theorem readText_of_pathFault {fault : Text.EncodeFault}
    (h : pathFault? plan.rawPath = some fault) :
    plan.readText disk = .error (.file (.unwritable fault)) := by
  rw [readText, openFile_of_pathFault h]
  rfl

/-- The manuscripts that are read are the files that are texts. -/
theorem exists_readText_iff :
    (∃ s, plan.readText disk = .ok s)
      ↔ ∃ bs, disk.readLetters plan.rawPath = .ok bs ∧ IsText bs := by
  unfold readText openFile
  cases hread : disk.readLetters plan.rawPath with
  | error fault => exact iff_of_false nofun nofun
  | ok bs =>
    simp only [mapError_ok, bind_ok, Except.ok.injEq, exists_eq_left', Text.isText_iff_decode]
    cases Text.decode bs with
    | ok cs => exact iff_of_true ⟨_, rfl⟩ ⟨_, rfl⟩
    | error fault => exact iff_of_false nofun nofun

end

end LoadedPlan

/-! ### All reads -/

/-- A disk with one plan, whose bytes are no text. -/
def brokenPlan : Disk :=
  { tree := ⟨[(["plan.yaml"], .file (.bytes [0xFF]))]⟩, workingDir := "/", bundledDir := "/" }

theorem read_brokenPlan : brokenPlan.read planFile = .ok [0xFF] := by
  have hnames : Disk.names planFile = [planFile] := by decide +kernel
  have hhome : brokenPlan.home = [] := by
    show (Disk.names "/").filter (· ≠ "") = []
    decide +kernel
  have hnul : planFile.toList.elem '\x00' = false := by decide +kernel
  have habsolute : Files.Path.isAbsolute planFile = false := by decide +kernel
  have hlocate : brokenPlan.locate planFile = .ok [planFile] := by
    rw [Disk.locate, hnames, hhome, habsolute, if_neg (by decide), if_neg (by decide +kernel)]
    rfl
  rw [Disk.read, Disk.find, hnul, hlocate]
  rfl

theorem readLetters_brokenPlan :
    brokenPlan.readLetters (letters planFile.toList) = .ok [0xFF] := by
  rw [Disk.readLetters_letters, read_brokenPlan]

theorem unreported_brokenPlan :
    LoadedPlan.Unreported Yaml.loadFile [0xFF] (.undecodablePlan ⟨0, 1, 0xFF, .invalidStart⟩) := by
  have hfile : Yaml.Source.ofFile [0xFF]
      = ⟨[], some (.undecodable ⟨0, 1, 0xFF, .invalidStart⟩)⟩ := by
    decide +kernel
  refine .undecodable ?_
  rw [Yaml.loadFile, hfile, Yaml.load_of_nil]

/-- A plan whose manuscript is named with half of a surrogate pair. -/
def halfNamed : LoadedPlan := { (default : LoadedPlan) with raw := [.char '/', .half 0xD800] }

end Kumihan
