import Kumihan.Yaml.Fault

/-!
# Programs on the way through a text

Reading a text takes a program from state to state.  A program is on course if each state it comes
to may follow the one it began with, and if it fails with a fault of what it reads, or else with
the one that the text is broken off with.  Programs made of such programs are on course again, so
that only the smallest readers have to be looked into.  A computation without a state fails with
faults of its own only.

## Main definitions

* `IsDue` — a fault about bytes is the one that the text is broken off with.
* `OwnFaults` — a computation without a state fails with faults of what is read only.
* `Course` — which state may follow which.
* `Ends`, `OnCourse` — a program is on course from a state, or from all of them.

## Main results

* `Ends.bind`, `OnCourse.bind` — one program behind another.
-/

namespace Kumihan.Yaml

/-- The fault is one of what is read, or the one that the text is broken off with. -/
def IsDue (broken : Option Fault) (fault : Fault) : Prop :=
  ∀ reason, fault = .undecodable reason → broken = some fault

theorem isDue_malformed {broken : Option Fault} (complaint : Complaint) :
    IsDue broken (.malformed complaint) := nofun

theorem isDue_unreadable {broken : Option Fault} (fault : ScalarFault) :
    IsDue broken (.unreadable fault) := nofun

theorem IsDue.of_none {broken : Option Fault} {fault : Fault} (h : IsDue none fault) :
    IsDue broken fault := fun reason hfault => nomatch h reason hfault

/-- A computation fails only with faults of what is read. -/
def OwnFaults {α : Type} (x : Except Fault α) : Prop := ∀ fault, x = .error fault → IsDue none fault

namespace OwnFaults

variable {α β : Type} {x : Except Fault α} {f : α → Except Fault β}

theorem ok (a : α) : OwnFaults (.ok a) := nofun

theorem error {fault : Fault} (h : IsDue none fault) :
    OwnFaults (.error fault : Except Fault α) := by
  rintro _ ⟨⟩
  exact h

theorem bind (hx : OwnFaults x) (hf : ∀ a, OwnFaults (f a)) : OwnFaults (x >>= f) := by
  cases x with
  | error fault => exact error (hx fault rfl)
  | ok a => exact hf a

theorem map (g : α → β) (hx : OwnFaults x) : OwnFaults (x.map g) := by
  cases x with
  | error fault => exact error (hx fault rfl)
  | ok a => exact ok (g a)

theorem ite {c : Prop} [Decidable c] {x y : Except Fault α} (hx : OwnFaults x) (hy : OwnFaults y) :
    OwnFaults (if c then x else y) := by
  split
  · exact hx
  · exact hy

theorem mapM (hf : ∀ a, OwnFaults (f a)) (as : List α) : OwnFaults (as.mapM f) := by
  induction as with
  | nil => exact ok []
  | cons a as ih =>
    rw [List.mapM_cons]
    exact bind (hf a) fun b => bind ih fun bs => ok (b :: bs)

end OwnFaults

/-- States on the way through a text, which may be broken off. -/
class Course (σ : Type) where
  /-- The fault that the text is broken off with. -/
  fault : σ → Option Fault
  /-- The second state may follow the first one. -/
  Leads : σ → σ → Prop
  leads_refl (s : σ) : Leads s s
  leads_trans {s s' s'' : σ} : Leads s s' → Leads s' s'' → Leads s s''
  fault_eq {s s' : σ} : Leads s s' → fault s' = fault s

open Course

variable {σ α β : Type} [Course σ]

/-- From the state a program comes to an answer and a state that may follow, for which `after`
holds, or it fails with a fault that is due. -/
def Ends (s : σ) (m : StateT σ (Except Fault) α) (after : α → σ → Prop) : Prop :=
  match m.run s with
  | .ok (a, s') => Leads s s' ∧ after a s'
  | .error fault => IsDue (Course.fault s) fault

/-- From every state a program comes to one that may follow, or fails with a fault that is due. -/
def OnCourse (m : StateT σ (Except Fault) α) : Prop := ∀ s, Ends s m fun _ _ => True

/-! ### From one state -/

namespace Ends

variable {s : σ} {m : StateT σ (Except Fault) α} {f : α → StateT σ (Except Fault) β}
variable {after after' : α → σ → Prop} {behind : β → σ → Prop}

theorem of_ok {a : α} {s' : σ} (hrun : m.run s = .ok (a, s')) (hleads : Leads s s')
    (hafter : after a s') : Ends s m after := by
  rw [Ends, hrun]
  exact ⟨hleads, hafter⟩

theorem of_error {fault : Fault} (hrun : m.run s = .error fault)
    (hdue : IsDue (Course.fault s) fault) : Ends s m after := by
  rw [Ends, hrun]
  exact hdue

theorem ok {a : α} {s' : σ} (h : Ends s m after) (hrun : m.run s = .ok (a, s')) :
    Leads s s' ∧ after a s' := by
  rwa [Ends, hrun] at h

theorem error {fault : Fault} (h : Ends s m after) (hrun : m.run s = .error fault) :
    IsDue (Course.fault s) fault := by
  rwa [Ends, hrun] at h

theorem mono (h : Ends s m after) (himp : ∀ a s', Leads s s' → after a s' → after' a s') :
    Ends s m after' := by
  cases hrun : m.run s with
  | error fault => exact of_error hrun (h.error hrun)
  | ok result =>
    obtain ⟨hleads, hafter⟩ := h.ok hrun
    exact of_ok hrun hleads (himp _ _ hleads hafter)

theorem pure (a : α) (h : after a s) : Ends s (pure a : StateT σ (Except Fault) α) after :=
  ⟨leads_refl s, h⟩

/-- **One program behind another.** -/
theorem bind (hm : Ends s m after)
    (hf : ∀ a s', Leads s s' → after a s' → Ends s' (f a) behind) : Ends s (m >>= f) behind := by
  cases hrun : m.run s with
  | error fault =>
    exact of_error (by rw [StateT.run_bind, hrun]; rfl) (hm.error hrun)
  | ok result =>
    obtain ⟨a, s'⟩ := result
    obtain ⟨hleads, hafter⟩ := hm.ok hrun
    have hthis : (m >>= f).run s = (f a).run s' := by
      rw [StateT.run_bind, hrun]
      rfl
    have hmore := hf a s' hleads hafter
    cases hrun' : (f a).run s' with
    | error fault =>
      exact of_error (hthis.trans hrun') (fault_eq hleads ▸ hmore.error hrun')
    | ok result' =>
      obtain ⟨hleads', hbehind⟩ := hmore.ok hrun'
      exact of_ok (hthis.trans hrun') (leads_trans hleads hleads') hbehind

theorem throw {fault : Fault} (h : IsDue none fault) :
    Ends s (throw fault : StateT σ (Except Fault) α) after := h.of_none

theorem put {s' : σ} {after : Unit → σ → Prop} (hleads : Leads s s') (hafter : after () s') :
    Ends s (set s' : StateT σ (Except Fault) Unit) after := ⟨hleads, hafter⟩

/-- A computation that does not know the state. -/
theorem lift {x : Except Fault α} (hx : OwnFaults x) :
    Ends s (liftM x : StateT σ (Except Fault) α) fun a s' => s' = s ∧ x = .ok a := by
  cases x with
  | error fault => exact of_error rfl (hx fault rfl).of_none
  | ok a => exact of_ok rfl (leads_refl s) ⟨rfl, rfl⟩

/-- A program that begins with a look at the state. -/
theorem get_bind {g : σ → StateT σ (Except Fault) β} (h : Ends s (g s) behind) :
    Ends s (get >>= g) behind := h

/-- A program that begins with another state that may follow. -/
theorem put_bind {s' : σ} {g : Unit → StateT σ (Except Fault) β} (hleads : Leads s s')
    (h : Ends s' (g ()) behind) : Ends s (set s' >>= g) behind := by
  have hset : Ends s (set s' : StateT σ (Except Fault) Unit) fun _ s'' => s'' = s' :=
    .put hleads rfl
  refine hset.bind fun _ _ _ heq => ?_
  rw [heq]
  exact h

/-- A program behind a test that may look at the state, and leaves it as it is. -/
theorem when {c : Prop} [Decidable c] (hm : Ends s m fun _ s' => s' = s)
    (hf : ∀ a, Ends s (f a) behind) (a : α) : Ends s (if c then m >>= f else f a) behind := by
  split
  · refine hm.bind fun a s' _ h => ?_
    rw [h]
    exact hf a
  · exact hf a

end Ends

/-! ### From every state -/

namespace OnCourse

variable {m : StateT σ (Except Fault) α} {f : α → StateT σ (Except Fault) β}

theorem bind (hm : OnCourse m) (hf : ∀ a, OnCourse (f a)) : OnCourse (m >>= f) := fun s =>
  (hm s).bind fun a s' _ _ => hf a s'

theorem pure (a : α) : OnCourse (pure a : StateT σ (Except Fault) α) := fun _ =>
  Ends.pure a trivial

theorem get : OnCourse (get : StateT σ (Except Fault) σ) := fun s => ⟨leads_refl s, trivial⟩

theorem modify {g : σ → σ} (h : ∀ s, Leads s (g s)) :
    OnCourse (modify g : StateT σ (Except Fault) Unit) := fun s => ⟨h s, trivial⟩

theorem throw {fault : Fault} (h : IsDue none fault) :
    OnCourse (throw fault : StateT σ (Except Fault) α) := fun _ => h.of_none

theorem lift {x : Except Fault α} (hx : OwnFaults x) :
    OnCourse (liftM x : StateT σ (Except Fault) α) := fun _ =>
  (Ends.lift hx).mono fun _ _ _ _ => trivial

theorem ite {c : Prop} [Decidable c] {m m' : StateT σ (Except Fault) α} (hm : OnCourse m)
    (hm' : OnCourse m') : OnCourse (if c then m else m') := by
  split
  · exact hm
  · exact hm'

/-- A program behind one that is run if a test says so. -/
theorem when {c : Prop} [Decidable c] (hm : OnCourse m) (hf : ∀ a, OnCourse (f a)) (a : α) :
    OnCourse (if c then m >>= f else f a) := ite (hm.bind hf) (hf a)

theorem whenNot {c : Prop} [Decidable c] (hm : OnCourse m) (hf : ∀ a, OnCourse (f a)) (a : α) :
    OnCourse (if c then f a else m >>= f) := ite (hf a) (hm.bind hf)

theorem mapM (hf : ∀ a, OnCourse (f a)) (as : List α) : OnCourse (as.mapM f) := by
  induction as with
  | nil => exact pure []
  | cons a as ih =>
    rw [List.mapM_cons]
    exact bind (hf a) fun _ => bind ih fun _ => pure _

theorem forM {g : α → StateT σ (Except Fault) PUnit} (hg : ∀ a, OnCourse (g a)) (as : List α) :
    OnCourse (as.forM g) := by
  induction as with
  | nil => exact pure _
  | cons a as ih => exact bind (hg a) fun _ => ih

theorem foldlM {g : β → α → StateT σ (Except Fault) β} (hg : ∀ b a, OnCourse (g b a)) (b : β)
    (as : List α) : OnCourse (as.foldlM g b) := by
  induction as generalizing b with
  | nil => exact pure b
  | cons a as ih =>
    rw [List.foldlM_cons]
    exact bind (hg b a) ih

/-- Where no text is broken off, a program fails with faults of its own. -/
theorem ownFaults (hm : OnCourse m) {s : σ} (hs : Course.fault s = none) : OwnFaults (m.run s) :=
  fun _ hrun => hs ▸ (hm s).error hrun

end OnCourse

end Kumihan.Yaml
