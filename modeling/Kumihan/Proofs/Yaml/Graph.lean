import Kumihan.Proofs.Yaml.Course
import Kumihan.Yaml.Graph

/-!
# The composer is on course

The composer reads tokens, which end with a fault where the text is broken off.  Its readers of
nodes call one another; that they are on course is proved of all of them at once, turn by turn.  A
document is read up to the end of the tokens, to which there is no way past their fault.

## Main definitions

* `NodesOnCourse` — the readers of nodes are on course.
* `NeedsEnd` — the program comes to an answer only if the tokens end without a fault.

## Main results

* `Compose.needsEnd_document` — a document needs the end of the tokens.
* `compose_spec` — a graph is composed only of tokens that end without a fault.
-/

namespace Kumihan.Yaml

variable {α : Type}

/-- The tokens always end with the same fault. -/
instance : Course Composer where
  fault := Composer.fault
  Leads s s' := s'.fault = s.fault
  leads_refl _ := rfl
  leads_trans h h' := h'.trans h
  fault_eq h := h

namespace Compose

/-! ### Tokens -/

theorem onCourse_fail (complaint : Complaint) : OnCourse (fail complaint : Compose α) :=
  .throw (isDue_malformed complaint)

/-- There is a next token unless the stream has ended without a fault. -/
theorem ends_peek (s : Composer) :
    Ends s peek fun token s' => s' = s ∧ (token = none → s.fault = none) := by
  refine .get_bind ?_
  split
  · next fault _ hfault => exact fun _ _ => hfault
  · next hsome =>
    refine .pure _ ⟨rfl, fun h => ?_⟩
    exact Option.eq_none_iff_forall_ne_some.mpr fun fault hfault =>
      hsome fault (List.head?_eq_none_iff.mp h) hfault

theorem onCourse_peek : OnCourse peek := fun s => (ends_peek s).mono fun _ _ _ _ => trivial

theorem onCourse_advance : OnCourse advance := .modify fun _ => rfl

theorem onCourse_nextIn (ts : List Token) : OnCourse (nextIn ts) :=
  .bind onCourse_peek fun _ => .pure _

theorem onCourse_add (node : Node) : OnCourse (add node) := fun _ =>
  .get_bind <| .put_bind rfl <| .pure _ trivial

theorem onCourse_fill (place : Nat) (content : Content) : OnCourse (fill place content) :=
  .bind (.modify fun _ => rfl) fun _ => .pure _

theorem onCourse_tagName (handle : Option String) (suffix : String) :
    OnCourse (tagName handle suffix) := by
  cases handle with
  | none => exact .pure _
  | some handle =>
    refine .bind .get fun s => ?_
    cases s.handles.lookup handle with
    | none => exact onCourse_fail _
    | some meaning => exact .pure _

theorem onCourse_properties : OnCourse properties := by
  refine .bind onCourse_peek fun first => ?_
  split
  · refine .bind onCourse_advance fun _ => .bind onCourse_peek fun second => ?_
    split
    · exact .bind onCourse_advance fun _ => .bind (onCourse_tagName _ _) fun _ => .pure _
    · exact .pure _
  · refine .bind onCourse_advance fun _ => .bind onCourse_peek fun second => ?_
    split
    · exact .bind onCourse_advance fun _ => .bind (onCourse_tagName _ _) fun _ => .pure _
    · exact .bind (onCourse_tagName _ _) fun _ => .pure _
  · exact .pure _

theorem onCourse_nameNext (anchor : Option String) : OnCourse (nameNext anchor) := by
  cases anchor with
  | none => exact .pure _
  | some name =>
    intro s
    exact .get_bind <| .when (.throw (isDue_malformed _)) (fun _ => .put rfl trivial) ()

theorem onCourse_addScalar (props : Properties) (text : List Text.Letter) (plain : Bool) :
    OnCourse (addScalar props text plain) :=
  .bind (onCourse_nameNext _) fun _ => onCourse_add _

theorem onCourse_addCollection (props : Properties) (usual : Tag) (content : Content) :
    OnCourse (addCollection props usual content) :=
  .bind (onCourse_nameNext _) fun _ => onCourse_add _

/-- A collection of which the entries are read and put into its place. -/
theorem onCourse_collection (props : Properties) (usual : Tag) {entries : Compose α}
    (hentries : OnCourse entries) (empty : Content) (content : α → Content) :
    OnCourse (do
      let place ← addCollection props usual empty
      fill place (content (← entries))) :=
  .bind (onCourse_addCollection _ _ _) fun _ => .bind hentries fun _ => onCourse_fill _ _

/-! ### Nodes -/

/-- The comma before an entry in flow style. -/
theorem onCourse_comma (first : Bool) (closing : Token) {rest : Compose α} (hrest : OnCourse rest) :
    OnCourse (do
      unless first || (← nextIn [closing]) do
        unless ← nextIn [.comma] do fail .missingComma
        advance
      rest) :=
  .bind (onCourse_nextIn _) fun _ => .ite hrest <| .bind (onCourse_nextIn _) fun _ =>
    .whenNot (onCourse_fail _) (fun _ => .bind onCourse_advance fun _ => hrest) ()

/-- The end of a collection in block style. -/
theorem onCourse_blockEnd (a : α) :
    OnCourse (do
      if ← nextIn [.blockEnd] then
        advance
        return a
      else
        fail .missingBlockEnd) :=
  .bind (onCourse_nextIn _) fun _ =>
    .ite (.bind onCourse_advance fun _ => .pure _) (onCourse_fail _)

/-- All readers of nodes are on course that have so many turns. -/
structure NodesOnCourse (n : Nat) : Prop where
  node (block loose : Bool) : OnCourse (node n block loose)
  blockNodeBefore (stops : List Token) (loose : Bool) : OnCourse (blockNodeBefore n stops loose)
  flowNodeBefore (stops : List Token) : OnCourse (flowNodeBefore n stops)
  valueBefore (stops : List Token) (block : Bool) : OnCourse (valueBefore n stops block)
  blockItems : OnCourse (blockItems n)
  looseItems : OnCourse (looseItems n)
  blockEntries : OnCourse (blockEntries n)
  flowItems (first : Bool) : OnCourse (flowItems n first)
  flowEntries (first : Bool) : OnCourse (flowEntries n first)

theorem nodesOnCourse_zero : NodesOnCourse 0 where
  node _ _ := onCourse_fail _
  blockNodeBefore _ _ := onCourse_fail _
  flowNodeBefore _ := onCourse_fail _
  valueBefore _ _ := onCourse_fail _
  blockItems := onCourse_fail _
  looseItems := onCourse_fail _
  blockEntries := onCourse_fail _
  flowItems _ := onCourse_fail _
  flowEntries _ := onCourse_fail _

theorem nodesOnCourse_succ {n : Nat} (ih : NodesOnCourse n) : NodesOnCourse (n + 1) where
  node block loose := by
    refine .bind onCourse_peek fun first => ?_
    split
    · refine .bind onCourse_advance fun _ => .bind .get fun s => ?_
      split
      · exact .pure _
      · exact onCourse_fail _
    · refine .bind onCourse_properties fun props => .bind onCourse_peek fun token => ?_
      split
      · exact onCourse_collection _ _ ih.looseItems _ _
      · exact .bind onCourse_advance fun _ => onCourse_addScalar _ _ _
      · exact .bind onCourse_advance fun _ => onCourse_collection _ _ (ih.flowItems _) _ _
      · exact .bind onCourse_advance fun _ => onCourse_collection _ _ (ih.flowEntries _) _ _
      · exact .bind onCourse_advance fun _ => onCourse_collection _ _ ih.blockItems _ _
      · exact .bind onCourse_advance fun _ => onCourse_collection _ _ ih.blockEntries _ _
      · exact .when (onCourse_fail _) (fun _ => onCourse_addScalar _ _ _) ()
  blockNodeBefore _ _ := .bind (onCourse_nextIn _) fun _ => .ite (onCourse_add _) (ih.node _ _)
  flowNodeBefore _ := .bind (onCourse_nextIn _) fun _ => .ite (onCourse_add _) (ih.node _ _)
  valueBefore _ _ := by
    refine .bind (onCourse_nextIn _) fun _ => .ite ?_ (onCourse_add _)
    exact .bind onCourse_advance fun _ => .ite (ih.blockNodeBefore _ _) (ih.flowNodeBefore _)
  blockItems := by
    refine .bind (onCourse_nextIn _) fun _ => .ite ?_ (onCourse_blockEnd _)
    exact .bind onCourse_advance fun _ => .bind (ih.blockNodeBefore _ _) fun _ =>
      .bind ih.blockItems fun _ => .pure _
  looseItems := by
    refine .bind (onCourse_nextIn _) fun _ => .ite ?_ (.pure _)
    exact .bind onCourse_advance fun _ => .bind (ih.blockNodeBefore _ _) fun _ =>
      .bind ih.looseItems fun _ => .pure _
  blockEntries := by
    refine .bind (onCourse_nextIn _) fun _ => .ite ?_ (onCourse_blockEnd _)
    exact .bind onCourse_advance fun _ => .bind (ih.blockNodeBefore _ _) fun _ =>
      .bind (ih.valueBefore _ _) fun _ => .bind ih.blockEntries fun _ => .pure _
  flowItems first := by
    refine onCourse_comma first _ <| .bind (onCourse_nextIn _) fun _ => .ite
      (.bind onCourse_advance fun _ => .pure _) <| .bind (onCourse_nextIn _) fun _ => .ite ?_ ?_
    · exact .bind onCourse_advance fun _ => .bind (onCourse_addCollection _ _ _) fun _ =>
        .bind (ih.flowNodeBefore _) fun _ => .bind (ih.valueBefore _ _) fun _ =>
        .bind (onCourse_fill _ _) fun _ => .bind (ih.flowItems _) fun _ => .pure _
    · exact .bind (ih.node _ _) fun _ => .bind (ih.flowItems _) fun _ => .pure _
  flowEntries first := by
    refine onCourse_comma first _ <| .bind (onCourse_nextIn _) fun _ => .ite
      (.bind onCourse_advance fun _ => .pure _) <| .bind (onCourse_nextIn _) fun _ => .ite ?_ ?_
    · exact .bind onCourse_advance fun _ => .bind (ih.flowNodeBefore _) fun _ =>
        .bind (ih.valueBefore _ _) fun _ => .bind (ih.flowEntries _) fun _ => .pure _
    · exact .bind (ih.node _ _) fun _ => .bind (onCourse_add _) fun _ =>
        .bind (ih.flowEntries _) fun _ => .pure _

theorem nodesOnCourse (n : Nat) : NodesOnCourse n := by
  induction n with
  | zero => exact nodesOnCourse_zero
  | succ n ih => exact nodesOnCourse_succ ih

/-! ### Documents -/

theorem onCourse_directives (n : Nat) (hasVersion : Bool) : OnCourse (directives n hasVersion) := by
  induction n generalizing hasVersion with
  | zero => exact .pure _
  | succ n ih =>
    refine .bind onCourse_peek fun token => ?_
    split
    · exact .bind onCourse_advance fun _ => .when (onCourse_fail _)
        (fun _ => .when (onCourse_fail _) (fun _ => ih _) ()) ()
    · exact .bind onCourse_advance fun _ s => .get_bind <| .when (.throw (isDue_malformed _))
        (fun _ => .put_bind rfl (ih _ _)) ()
    · exact .bind onCourse_advance fun _ => ih _
    · exact .pure _

theorem onCourse_documentEnds (n : Nat) : OnCourse (documentEnds n) := by
  induction n with
  | zero => exact .pure _
  | succ n ih =>
    exact .bind (onCourse_nextIn _) fun _ => .ite (.bind onCourse_advance fun _ => ih) (.pure _)

theorem onCourse_atDirective : OnCourse atDirective := .bind onCourse_peek fun _ => .pure _

theorem onCourse_documentStart (turns : Nat) : OnCourse (documentStart turns) := by
  refine .bind onCourse_atDirective fun _ => .bind (onCourse_nextIn _) fun _ => .ite ?_ (.pure _)
  refine .bind (onCourse_directives _ _) fun _ => .bind (onCourse_nextIn _) fun _ => ?_
  exact .whenNot (onCourse_fail _) (fun _ => .bind onCourse_advance fun _ => .pure _) ()

theorem onCourse_atEmptyDocument : OnCourse atEmptyDocument :=
  .bind onCourse_peek fun _ => .bind onCourse_atDirective fun _ =>
    .bind (onCourse_nextIn _) fun _ => .pure _

theorem onCourse_documentRoot (turns : Nat) (explicit : Bool) :
    OnCourse (documentRoot turns explicit) := by
  have hempty : OnCourse (pure explicit <&&> atEmptyDocument) := by
    refine .bind (.pure _) fun explicit => ?_
    cases explicit with
    | false => exact .pure _
    | true => exact onCourse_atEmptyDocument
  exact .bind (.modify fun _ => rfl) fun _ => .bind hempty fun _ =>
    .ite (onCourse_add _) ((nodesOnCourse _).node _ _)

/-- The program comes to an answer only if the tokens end without a fault. -/
def NeedsEnd (m : Compose α) : Prop := ∀ s, Ends s m fun _ _ => s.fault = none

namespace NeedsEnd

variable {β : Type} {m : Compose α} {f : α → Compose β}

theorem fail (complaint : Complaint) : NeedsEnd (fail complaint : Compose α) := fun _ =>
  .throw (isDue_malformed complaint)

theorem behind (hm : OnCourse m) (hf : ∀ a, NeedsEnd (f a)) : NeedsEnd (m >>= f) := fun s =>
  (hm s).bind fun a s' hleads _ => (hf a s').mono fun _ _ _ h => hleads ▸ h

theorem ite {p : Prop} [Decidable p] {m m' : Compose α} (hm : NeedsEnd m) (hm' : NeedsEnd m') :
    NeedsEnd (if p then m else m') := by
  split
  · exact hm
  · exact hm'

theorem whenNot {p : Prop} [Decidable p] (hm : OnCourse m) (hf : ∀ a, NeedsEnd (f a)) (a : α) :
    NeedsEnd (if p then f a else m >>= f) := ite (hf a) (behind hm hf)

/-- Only behind the last token there is none. -/
theorem peek {a : α} {rest : Compose α} (hrest : NeedsEnd rest) :
    NeedsEnd (do if (← peek).isNone then return a else rest) := by
  refine fun s => (ends_peek s).bind fun token s' _ h => ?_
  obtain ⟨rfl, hfault⟩ := h
  split
  · next hnone => exact .pure _ (hfault (Option.isNone_iff_eq_none.mp hnone))
  · exact hrest s'

end NeedsEnd

theorem needsEnd_onlyRoot (turns root : Nat) : NeedsEnd (onlyRoot turns root) := by
  refine .behind (onCourse_documentEnds _) fun _ => .peek <| .behind (.modify fun _ => rfl) fun _ =>
    .behind (onCourse_directives _ _) fun _ => .behind (onCourse_nextIn _) fun _ => ?_
  exact .whenNot (onCourse_fail _) (fun _ => .fail _) ()

/-- **A document** is read up to the end of the tokens. -/
theorem needsEnd_document : NeedsEnd document :=
  .peek <| .behind .get fun _ => .behind (onCourse_documentStart _) fun _ =>
    .behind (onCourse_documentRoot _ _) fun _ => needsEnd_onlyRoot _ _

end Compose

/-- **Composing** fails with a fault of the tokens or with the one that ends them, and if there is
one, it fails. -/
theorem compose_spec (tokens : List Token) (fault : Option Fault) :
    match compose tokens fault with
    | .ok _ => fault = none
    | .error f => IsDue fault f := by
  have hdocument := Compose.needsEnd_document ⟨tokens, fault, #[], [], []⟩
  unfold compose
  cases hrun : Compose.document.run ⟨tokens, fault, #[], [], []⟩ with
  | error f => exact hdocument.error hrun
  | ok result => exact (hdocument.ok hrun).2

end Kumihan.Yaml
