import Mathlib.Tactic.TypeStar

/-!
# Transition systems with guarded runs

A system is an initial state and an executable step function: `step s e` is the state after the
event `e`, or `none` when `e` cannot happen in `s`. Two things are developed over it.

* `Reachable ok`: the states reached by runs every step of which meets the condition `ok` in the
  state it starts from; `Reachable.invariant` is the induction rule for them and `replay` executes
  one run.
* `Run ok`: the same between two states, with the rule `Run.relates` for what its ends have to do
  with each other.
* `monitored`: the same system with a history variable, which is updated from each step and
  influences none (`monitored_step_iff`). Properties that speak of
  what happened earlier in a run are stated over it.
-/

namespace Hypeman.Foundations

/-- An initial state and a partial step function; `none` means that the event is not enabled. -/
structure System (σ ε : Type*) where
  init : σ
  step : σ → ε → Option σ

namespace System

variable {σ ε τ : Type*} (sys : System σ ε)

/-- The condition every step meets. -/
def Always : σ → ε → Prop := fun _ _ => True

instance (s : σ) (e : ε) : Decidable (Always s e) := inferInstanceAs (Decidable True)

/-- The states reached by runs whose every step meets `ok` in the state it is taken from. -/
inductive Reachable (ok : σ → ε → Prop) : σ → Prop
  | init : Reachable ok sys.init
  | step {s s' : σ} {e : ε} :
      Reachable ok s → ok s e → sys.step s e = some s' → Reachable ok s'

variable {sys} {ok : σ → ε → Prop}

/-- The invariant rule: what holds initially and is kept by every step that meets `ok` holds in
every state such runs reach. -/
theorem Reachable.invariant {I : σ → Prop} (hinit : I sys.init)
    (hstep : ∀ s e s', I s → ok s e → sys.step s e = some s' → I s')
    {s : σ} (h : sys.Reachable ok s) : I s := by
  induction h with
  | init => exact hinit
  | step _ hok hs ih => exact hstep _ _ _ ih hok hs

variable (sys ok) in
/-- `s'` is reached from `s` by steps that meet `ok`. -/
inductive Run (s : σ) : σ → Prop
  | refl : Run s s
  | step {s₁ s₂ : σ} {e : ε} : Run s s₁ → ok s₁ e → sys.step s₁ e = some s₂ → Run s s₂

/-- The rule for what relates the two ends of a run: an invariant of the states the run passes, and
a preorder in which every step goes up. -/
theorem Run.relates {I : σ → Prop} {R : σ → σ → Prop} (hrefl : ∀ s, R s s)
    (htrans : ∀ {a b c}, R a b → R b c → R a c)
    (hstep : ∀ s e s', I s → ok s e → sys.step s e = some s' → I s' ∧ R s s') {s s' : σ}
    (hs : I s) (h : sys.Run ok s s') : I s' ∧ R s s' := by
  induction h with
  | refl => exact ⟨hs, hrefl s⟩
  | step _ hok hnext ih =>
    obtain ⟨hI, hR⟩ := hstep _ _ _ ih.1 hok hnext
    exact ⟨hI, htrans ih.2 hR⟩

theorem Reachable.run {s s' : σ} (hs : sys.Reachable ok s) (h : sys.Run ok s s') :
    sys.Reachable ok s' := by
  induction h with
  | refl => exact hs
  | step _ hok hnext ih => exact .step ih hok hnext

theorem Run.trans {s s₁ s₂ : σ} (h : sys.Run ok s s₁) (h' : sys.Run ok s₁ s₂) :
    sys.Run ok s s₂ := by
  induction h' with
  | refl => exact h
  | step _ hok hs ih => exact .step ih hok hs

theorem Run.cons {s s₁ s₂ : σ} {e : ε} (hok : ok s e) (hs : sys.step s e = some s₁)
    (h : sys.Run ok s₁ s₂) : sys.Run ok s s₂ :=
  .trans (.step .refl hok hs) h

/-! ## Executing one run -/

variable (sys) (ok)

/-- Run `es` from `s`; `none` if some event is not enabled or does not meet `ok`. -/
def replayFrom [∀ s e, Decidable (ok s e)] : σ → List ε → Option σ
  | s, [] => some s
  | s, e :: es =>
    if ok s e then
      match sys.step s e with
      | some s' => replayFrom s' es
      | none => none
    else none

/-- Run `es` from the initial state. -/
def replay [∀ s e, Decidable (ok s e)] (es : List ε) : Option σ :=
  sys.replayFrom ok sys.init es

variable {sys} {ok}

/-- An executed run is a run. -/
theorem replayFrom_run [∀ s e, Decidable (ok s e)] (es : List ε) {s s' : σ}
    (h : sys.replayFrom ok s es = some s') : sys.Run ok s s' := by
  induction es generalizing s with
  | nil =>
    cases h
    exact .refl
  | cons e es ih =>
    unfold replayFrom at h
    split at h
    next hok =>
      split at h
      next s₁ hs₁ => exact .cons hok hs₁ (ih h)
      next => cases h
    next => cases h

/-- The end of an executed run is reachable. -/
theorem replay_reachable [∀ s e, Decidable (ok s e)] {es : List ε} {s : σ}
    (h : sys.replay ok es = some s) : sys.Reachable ok s :=
  .run .init (replayFrom_run es h)

variable (sys ok) in
/-- An executed run whose end is checked to satisfy `P` reaches a state that does. -/
theorem exists_reachable_of_replay [∀ s e, Decidable (ok s e)] (P : σ → Prop) [DecidablePred P]
    (es : List ε) (h : (sys.replay ok es).any (fun s => decide (P s)) = true) :
    ∃ s, sys.Reachable ok s ∧ P s := by
  rw [Option.any_eq_true_iff_get] at h
  obtain ⟨hsome, hP⟩ := h
  exact ⟨_, replay_reachable (Option.some_get hsome).symm, of_decide_eq_true hP⟩

variable (sys ok) in
/-- The same for a run that goes on from a state that is given. -/
theorem exists_run_of_replayFrom [∀ s e, Decidable (ok s e)] {s : σ} (P : σ → Prop)
    [DecidablePred P] (es : List ε)
    (h : (sys.replayFrom ok s es).any (fun s => decide (P s)) = true) :
    ∃ s', sys.Run ok s s' ∧ P s' := by
  rw [Option.any_eq_true_iff_get] at h
  obtain ⟨hsome, hP⟩ := h
  exact ⟨_, replayFrom_run es (Option.some_get hsome).symm, of_decide_eq_true hP⟩

/-! ## History variables -/

variable (sys) in
/-- The system together with a history variable that starts at `start` and is updated by `next`
from the state before the step, the event and the state after it. -/
def monitored (start : τ) (next : τ → σ → ε → σ → τ) : System (σ × τ) ε where
  init := (sys.init, start)
  step x e := (sys.step x.1 e).map fun s' => (s', next x.2 x.1 e s')

variable {start : τ} {next : τ → σ → ε → σ → τ}

@[simp] theorem monitored_step_iff {x y : σ × τ} {e : ε} :
    (sys.monitored start next).step x e = some y ↔
      sys.step x.1 e = some y.1 ∧ y.2 = next x.2 x.1 e y.1 := by
  obtain ⟨s', t'⟩ := y
  simp only [monitored, Option.map_eq_some_iff, Prod.mk.injEq]
  constructor
  · rintro ⟨s₁, hs, rfl, rfl⟩
    exact ⟨hs, rfl⟩
  · rintro ⟨hs, rfl⟩
    exact ⟨s', hs, rfl, rfl⟩

end System

end Hypeman.Foundations
