import Kumihan.Proofs.Yaml.Graph
import Kumihan.Proofs.Yaml.Scanner
import Kumihan.Proofs.Yaml.Source
import Kumihan.Yaml.Document

/-!
# Documents of files that are no text

A graph gives its value without a look at the text, so it fails with faults of its own only.  With
what is known of the tokens and of the graph, a text that is broken off has no value, whatever it
holds before, and a file is found to be no text exactly if it is none, unless another fault is
found first.

## Main results

* `Graph.ownFaults_value` — the value of a graph fails with faults of its own.
* `load_spec` — a text that is broken off has no value.
* `load_ofFile` — **a file that is no text has no value.**
-/

namespace Kumihan.Yaml

variable {α : Type}

namespace Graph

/-! ### Looking into a graph -/

theorem ownFaults_at? (graph : Graph) (place : Nat) : OwnFaults (graph.at? place) := by
  unfold at?
  split
  · exact .ok _
  · exact .error (isDue_malformed _)

theorem ownFaults_text (graph : Graph) (n place : Nat) : OwnFaults (graph.text n place) := by
  induction n generalizing place with
  | zero => exact .error (isDue_unreadable _)
  | succ n ih =>
    refine .bind (ownFaults_at? _ _) fun node => ?_
    split
    · exact .ok _
    · exact .error (isDue_malformed _)
    · split
      · exact ih _
      · exact .error (isDue_malformed _)

theorem ownFaults_dateText (graph : Graph) (place : Nat) : OwnFaults (graph.dateText place) := by
  refine .bind (ownFaults_text _ _ _) fun text => .bind (ownFaults_at? _ _) fun node => ?_
  split
  · exact .error (isDue_unreadable _)
  · exact .ok _

/-- A text that is read as a scalar. -/
theorem ownFaults_read {text : Except Fault (List Text.Letter)} (htext : OwnFaults text)
    (how : List Text.Letter → Scalar α) :
    OwnFaults (text >>= fun ls => (how ls).mapError .unreadable) := by
  refine .bind htext fun ls => ?_
  cases how ls with
  | error fault => exact .error (isDue_unreadable _)
  | ok a => exact .ok a

theorem ownFaults_scalar? (graph : Graph) (place : Nat) (tag : Tag) :
    OwnFaults (graph.scalar? place tag) := by
  have htext := graph.ownFaults_text (graph.size + 1) place
  cases tag with
  | null => exact .bind (.map _ htext) fun _ => .ok _
  | bool => exact .bind (ownFaults_read htext _) fun _ => .ok _
  | int => exact .bind (ownFaults_read htext _) fun _ => .ok _
  | float => exact .bind (ownFaults_read htext _) fun _ => .ok _
  | str => exact .bind htext fun _ => .ok _
  | binary =>
    refine .bind htext fun ls => ?_
    split
    · exact .ok _
    · exact .error (isDue_malformed _)
  | timestamp => exact .bind (ownFaults_read (graph.ownFaults_dateText place) _) fun _ => .ok _
  | seq => exact .ok _
  | map => exact .ok _
  | set => exact .ok _
  | pairs => exact .ok _
  | merge => exact .error (isDue_malformed _)
  | value => exact .error (isDue_malformed _)
  | other name => exact .error (isDue_malformed _)

theorem ownFaults_items (graph : Graph) (place : Nat) : OwnFaults (graph.items place) := by
  refine .bind (ownFaults_at? _ _) fun node => ?_
  split
  · exact .ok _
  · exact .error (isDue_malformed _)

section

variable {entries : Nat → Except Fault (List (Nat × Nat))}

/-- The entries of a mapping that is merged into another one. -/
theorem ownFaults_mapping (graph : Graph) (hentries : ∀ place, OwnFaults (entries place))
    (place : Nat) :
    OwnFaults (do
      match (← graph.at? place).content with
      | .mapping _ => entries place
      | _ => throw (.malformed .badMerge)) := by
  refine .bind (ownFaults_at? _ _) fun node => ?_
  split
  · exact hentries _
  · exact .error (isDue_malformed _)

theorem ownFaults_merged (graph : Graph) (hentries : ∀ place, OwnFaults (entries place))
    (source : Nat) : OwnFaults (graph.merged entries source) := by
  refine .bind (ownFaults_at? _ _) fun node => ?_
  split
  · exact .bind (.mapM (graph.ownFaults_mapping hentries) _) fun _ => .ok _
  · exact graph.ownFaults_mapping hentries _

end

theorem ownFaults_entriesOf (graph : Graph) (n : Nat) (path : List Nat) (place : Nat) :
    OwnFaults (graph.entriesOf n path place) := by
  induction n generalizing path place with
  | zero => exact .ok _
  | succ n ih =>
    refine .bind (ownFaults_at? _ _) fun node => ?_
    split
    · refine .ite (.ok _) (.bind (.mapM (fun _ => ownFaults_merged _ (ih _) _) _) fun _ => .ok _)
    · exact .error (isDue_malformed _)

end Graph

/-! ### Giving values -/

instance : Course Builder where
  fault _ := none
  Leads _ _ := True
  leads_refl _ := trivial
  leads_trans _ _ := trivial
  fault_eq _ := rfl

namespace Build

theorem onCourse_known (place : Nat) : OnCourse (known place) := .bind .get fun _ => .pure _

theorem onCourse_note (place : Nat) (what : Built) : OnCourse (note place what) :=
  .modify fun _ => trivial

theorem onCourse_meet (graph : Graph) (place : Nat) (tag : Tag) :
    OnCourse (meet graph place tag) := by
  refine .bind (onCourse_known _) fun _ => .ite ?_ (.pure _)
  refine .bind (.lift (graph.ownFaults_scalar? _ _)) fun v => ?_
  split
  · exact onCourse_note _ _
  · exact .bind (onCourse_note _ _) fun _ => .modify fun _ => trivial

theorem onCourse_visit (graph : Graph) (place : Nat) : OnCourse (visit graph place) :=
  .bind (.lift (graph.ownFaults_at? _)) fun _ => onCourse_meet _ _ _

theorem onCourse_key (graph : Graph) (place : Nat) : OnCourse (key graph place) := by
  refine .bind (.lift (graph.ownFaults_at? _)) fun _ => .bind (onCourse_meet _ _ _) fun _ =>
    .bind (onCourse_known _) fun what => ?_
  split
  · exact .pure _
  · exact .throw (isDue_malformed _)

theorem onCourse_entries (graph : Graph) (place : Nat) : OnCourse (entries graph place) := by
  refine .bind (.lift (graph.ownFaults_entriesOf _ _ _)) fun all =>
    .bind (.foldlM (fun _ (k, v) => ?_) _ _) fun _ => .pure _
  exact .bind (onCourse_key _ _) fun _ => .bind (onCourse_visit _ _) fun _ => .pure _

theorem onCourse_pair (graph : Graph) (place : Nat) : OnCourse (pair graph place) := by
  refine .bind (.lift (graph.ownFaults_at? _)) fun node => ?_
  split
  · exact .bind (onCourse_visit _ _) fun _ => .bind (onCourse_visit _ _) fun _ => .pure _
  · exact .throw (isDue_malformed _)

theorem onCourse_lookInto (graph : Graph) (place : Nat) : OnCourse (lookInto graph place) := by
  refine .bind (.lift (graph.ownFaults_at? _)) fun node => ?_
  split
  · exact .bind (onCourse_entries _ _) fun _ => onCourse_note _ _
  · exact .bind (onCourse_entries _ _) fun _ => onCourse_note _ _
  · refine .bind (.lift (graph.ownFaults_items _)) fun items => .bind ?_ fun _ => onCourse_note _ _
    exact .mapM (onCourse_pair graph) _
  · refine .bind (.lift (graph.ownFaults_items _)) fun items => .bind ?_ fun _ => onCourse_note _ _
    exact .forM (onCourse_visit graph) _

theorem onCourse_drain (graph : Graph) (n : Nat) : OnCourse (drain graph n) := by
  induction n with
  | zero => exact .pure _
  | succ n ih =>
    refine .bind .get fun s => ?_
    split
    · exact .pure _
    · exact .bind (.modify fun _ => trivial) fun _ => .bind (onCourse_lookInto _ _) fun _ => ih

end Build

theorem Graph.ownFaults_value (graph : Graph) (root : Nat) : OwnFaults (graph.value root) := by
  have hbuild : OnCourse (do
      Build.visit graph root
      Build.drain graph graph.size) :=
    .bind (Build.onCourse_visit _ _) fun _ => Build.onCourse_drain _ _
  refine .bind (hbuild.ownFaults rfl) fun (_, s) => ?_
  dsimp only
  split
  · exact .ok _
  · exact .ok _

/-! ### Texts -/

theorem load_eq (source : Source) :
    load source = compose (scan source).1 (scan source).2 >>= fun
      | (none, _) => .ok .null
      | (some root, graph) => graph.value root := rfl

/-- A text that is broken off before its first character fails with this fault. -/
theorem load_of_nil (fault : Fault) : load ⟨[], some fault⟩ = .error fault := rfl

/-- **A text that is broken off has no value**, and a fault about bytes is the one that it is broken
off with. -/
theorem load_spec (source : Source) :
    match load source with
    | .ok _ => source.fault = none
    | .error fault => IsDue source.fault fault := by
  have hcompose := compose_spec (scan source).1 (scan source).2
  rw [load_eq]
  cases hrun : compose (scan source).1 (scan source).2 with
  | error fault =>
    rw [hrun] at hcompose
    exact fun reason hfault => fault_scan (hcompose reason hfault) reason hfault
  | ok result =>
    rw [hrun] at hcompose
    have hnone : source.fault = none := by
      cases hfault : source.fault with
      | none => rfl
      | some fault =>
        have hsome : (scan source).2.isSome := isSome_fault_scan (by rw [hfault]; rfl)
        rw [show (scan source).2 = none from hcompose] at hsome
        contradiction
    obtain ⟨root, graph⟩ := result
    cases root with
    | none => exact hnone
    | some root =>
      show match graph.value root with
        | .ok _ => source.fault = none
        | .error fault => IsDue source.fault fault
      cases hvalue : graph.value root with
      | error fault => exact (graph.ownFaults_value root fault hvalue).of_none
      | ok v => exact hnone

/-- **Files that are no text have no value**, and only for those is the fault one about bytes. -/
theorem load_ofFile (bs : Text.Bytes) :
    match load (.ofFile bs) with
    | .ok _ => Text.IsText bs
    | .error (.undecodable _) => ¬ Text.IsText bs
    | .error _ => True := by
  have hload := load_spec (.ofFile bs)
  split
  · next hok =>
    rw [hok] at hload
    refine Decidable.byContradiction fun hno => ?_
    have hsome := Source.isSome_fault_ofFile hno
    rw [show (Source.ofFile bs).fault = none from hload] at hsome
    contradiction
  · next reason herror =>
    rw [herror] at hload
    exact Source.not_isText_of_fault_ofFile (hload reason rfl)
  · trivial

end Kumihan.Yaml
