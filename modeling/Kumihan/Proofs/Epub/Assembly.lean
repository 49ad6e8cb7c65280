import Kumihan.Epub.Assembly
import Kumihan.Proofs.Failing

/-!
# The course of an assembly

A book that is put together without a failure has gone through all stages: its inputs are
read, its manuscript is compiled, its pages are laid out and placed one after the other in the
package that the plan opens, and the package is finalized.

## Main results

* `placeAll_finished` — what every placement passes on holds of the filled package.
* `assembleLoaded_eq_assembleBook` — a book that is put together has a plan that can be written.
* `assembleBook_finished`, `assemble_finished`, `exists_package` — the stages of an assembly that
  does not fail, and the package that it comes to.
-/

namespace Kumihan.Epub

open Book (CompiledBook Placement compileRecords compileText layout)
open Files (Disk)

variable {disk : Disk} {plan : BookPlan} {pictureDir : String}

/-- A plan that compiles has a manuscript that can be read. -/
theorem exists_text_of_compilePlan {book : CompiledBook} (h : compilePlan disk plan = .ok book) :
    ∃ raw, plan.readText disk = .ok raw ∧ compileText plan raw = .ok book := by
  cases hraw : plan.readText disk with
  | error failure =>
    rw [BookPlan.readText] at hraw
    simp [compilePlan, LoadedPlan.compile, hraw] at h
  | ok raw => exact ⟨raw, rfl, (compilePlan_eq_ok_iff hraw).mp h⟩

/-- **A run of placements** that does not fail ends in a package.  What holds of the placements so
far and the package, and is passed on by one more of them, holds of all of them and that package. -/
theorem placeAll_finished (place : Package → Placement → Except Failure Package)
    (Holds : List Placement → Package → Prop) (todo : List Placement) :
    ∀ {done : List Placement} {p q : Package},
    (∀ u ∈ todo, ∀ us p p', Holds us p → place p u = .ok p' → Holds (us ++ [u]) p') →
    Holds done p → (placeAll place p todo).failure = none →
    (placeAll place p todo).package = some q → Holds (done ++ todo) q := by
  -- the placements that are done grow by the one that the induction takes away
  induction todo with
  | nil =>
    intro done p q _ hdone _ hq
    obtain rfl := Option.some.inj hq
    rwa [List.append_nil]
  | cons u us ih =>
    intro done p q hstep hdone hok hq
    cases hplace : place p u with
    | error failure => simp [placeAll, hplace] at hok
    | ok p' =>
      simp only [placeAll, hplace] at hok hq
      have hmore := hstep u List.mem_cons_self done p p' hdone hplace
      have hall := ih (fun v hv => hstep v (List.mem_cons_of_mem u hv)) hmore hok hq
      rwa [List.append_assoc] at hall

/-- An assembly that is finished without a failure had come to a package that can be finalized. -/
theorem Assembly.finish_of_package {a : Assembly} {q : Package} (hq : a.package = some q)
    (h : a.finish.failure = none) :
    a.failure = none ∧ ∃ p, q.finalize = .ok p ∧ a.finish.package = some p := by
  unfold finish at h ⊢
  rw [hq] at h ⊢
  cases hfailure : a.failure with
  | some failure => simp [hfailure] at h
  | none =>
    cases hfinal : q.finalize with
    | error fault => simp [hfailure, hfinal] at h
    | ok p =>
      refine ⟨rfl, p, rfl, ?_⟩
      simp [hfinal]

theorem package_placeAll (place : Package → Placement → Except Failure Package)
    (us : List Placement) : ∀ p, ∃ q, (placeAll place p us).package = some q := by
  induction us with
  | nil => exact fun p => ⟨p, rfl⟩
  | cons u us ih =>
    intro p
    rw [placeAll]
    cases place p u with
    | error failure => exact ⟨p, rfl⟩
    | ok p' => exact ih p'

/-- **The stages of the assembly of a compiled book** that does not fail. -/
theorem assembleBook_finished {inputs : Inputs} {book : CompiledBook}
    (h : (assembleBook disk pictureDir plan inputs book).failure = none) :
    ∃ placements opened filled p,
      layout book.actions = .ok placements
      ∧ openPackage plan inputs = .ok opened
      ∧ (placeAll (place disk pictureDir plan book) opened placements).failure = none
      ∧ (placeAll (place disk pictureDir plan book) opened placements).package = some filled
      ∧ filled.finalize = .ok p
      ∧ (assembleBook disk pictureDir plan inputs book).package = some p := by
  unfold assembleBook at h ⊢
  cases hlayout : layout book.actions with
  | error fault => simp [hlayout] at h
  | ok placements =>
    cases hopen : openPackage plan inputs with
    | error failure => simp [hlayout, hopen] at h
    | ok opened =>
      simp only [hlayout, hopen] at h ⊢
      -- the filled package is there, failed or not, so its finish can be opened
      obtain ⟨filled, hfilled⟩ :=
        package_placeAll (place disk pictureDir plan book) placements opened
      obtain ⟨hplaced, p, hfinal, hp⟩ := Assembly.finish_of_package hfilled h
      exact ⟨placements, opened, filled, p, rfl, rfl, hplaced, hfilled, hfinal, hp⟩

/-- An assembly that does not fail has read what the book is made from, and assembled it; all texts
of its plan can be written. -/
theorem assembleLoaded_eq_assembleBook {plan : LoadedPlan}
    (h : (assembleLoaded disk pictureDir plan).failure = none) :
    ∃ inputs book, readInputs disk plan pictureDir = .ok inputs
      ∧ plan.compile disk = .ok book
      ∧ plan.textFault? book.tocMarkup.isSome = none
      ∧ (assembleBook disk pictureDir plan.shown inputs book).failure = none
      ∧ (assembleLoaded disk pictureDir plan).package
        = (assembleBook disk pictureDir plan.shown inputs book).package := by
  unfold assembleLoaded at h ⊢
  cases hinputs : readInputs disk plan pictureDir with
  | error failure => simp [hinputs] at h
  | ok inputs =>
    cases hraw : plan.readText disk with
    | error failure => simp [hinputs, hraw] at h
    | ok raw =>
      cases hbook : compileText plan.shown raw with
      | error fault => simp [hinputs, hraw, hbook] at h
      | ok book =>
        simp only [hinputs, hraw, hbook] at h ⊢
        cases hfault : plan.textFault? book.tocMarkup.isSome with
        | some fault =>
          simp only [hfault, refuseBook] at h
          split at h <;> contradiction
        | none =>
          simp only [hfault] at h ⊢
          exact ⟨inputs, book, rfl, by simp [LoadedPlan.compile, hraw, hbook], hfault, h, rfl⟩

theorem assemble_eq_assembleBook (h : (assemble disk pictureDir plan).failure = none) :
    ∃ inputs book, readInputs disk plan.loaded pictureDir = .ok inputs
      ∧ compilePlan disk plan = .ok book
      ∧ (assembleBook disk pictureDir plan inputs book).failure = none
      ∧ (assemble disk pictureDir plan).package
        = (assembleBook disk pictureDir plan inputs book).package := by
  obtain ⟨inputs, book, hinputs, hbook, -, hassembled, hpackage⟩ :=
    assembleLoaded_eq_assembleBook h
  rw [BookPlan.shown_loaded] at hassembled hpackage
  exact ⟨inputs, book, hinputs, hbook, hassembled, hpackage⟩

/-- **The stages of an assembly** that does not fail. -/
theorem assemble_finished (h : (assemble disk pictureDir plan).failure = none) :
    ∃ inputs book placements opened filled p,
      readInputs disk plan.loaded pictureDir = .ok inputs
      ∧ compilePlan disk plan = .ok book
      ∧ layout book.actions = .ok placements
      ∧ openPackage plan inputs = .ok opened
      ∧ (placeAll (place disk pictureDir plan book) opened placements).failure = none
      ∧ (placeAll (place disk pictureDir plan book) opened placements).package = some filled
      ∧ filled.finalize = .ok p
      ∧ (assemble disk pictureDir plan).package = some p := by
  obtain ⟨inputs, book, hinputs, hbook, hassembled, hpackage⟩ := assemble_eq_assembleBook h
  obtain ⟨placements, opened, filled, p, hlayout, hopen, hplaced, hfilled, hfinal, hp⟩ :=
    assembleBook_finished hassembled
  exact ⟨inputs, book, placements, opened, filled, p, hinputs, hbook, hlayout, hopen, hplaced,
    hfilled, hfinal, hpackage.trans hp⟩

theorem exists_package {plan : LoadedPlan}
    (h : (assembleLoaded disk pictureDir plan).failure = none) :
    ∃ p, (assembleLoaded disk pictureDir plan).package = some p := by
  obtain ⟨_, _, -, -, -, hassembled, hpackage⟩ := assembleLoaded_eq_assembleBook h
  obtain ⟨_, _, _, p, -, -, -, -, -, hp⟩ := assembleBook_finished hassembled
  exact ⟨p, hpackage.trans hp⟩

end Kumihan.Epub
