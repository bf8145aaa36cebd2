import Mathlib.Tactic.TypeStar

/-!
# Sequences of attempts

An attempt changes a state and may fail; what it did before it failed stays in the state, so that a
caller can undo it. Attempts are run one after the other, or once for every element of a list, up to
the first failure.

* `Spec P f Q E`: from a state with `P`, the attempt `f` succeeds in a state with `Q` or fails in
  one with `E`; `Spec.andThen` and `Spec.each` are its rules.
-/

namespace Hypeman.Foundations

/-- A change of the state and the error, if it failed. -/
def Attempt (ε σ : Type*) := σ → Option ε × σ

namespace Attempt

variable {ε σ α : Type*}

/-- Change the state. -/
def modify (f : σ → σ) : Attempt ε σ := fun s => (none, f s)

/-- Fail with the error given, if any, and change nothing. -/
def check (err : Option ε) : Attempt ε σ := fun s => (err, s)

/-- Run `g` if `f` succeeds. -/
def andThen (f g : Attempt ε σ) : Attempt ε σ := fun s =>
  match f s with
  | (none, s) => g s
  | (some err, s) => (some err, s)

theorem andThen_of_none {f g : Attempt ε σ} {s : σ} (h : (f s).1 = none) :
    f.andThen g s = g (f s).2 := by
  unfold andThen
  split
  next heq => rw [heq]
  next heq => exact absurd (heq ▸ h) (by simp)

theorem andThen_of_ne {f g : Attempt ε σ} {s : σ} (h : (f s).1 ≠ none) :
    f.andThen g s = f s := by
  unfold andThen
  split
  next heq => exact absurd (by rw [heq]) h
  next heq => exact heq.symm

/-- Run the attempt only under the condition. -/
def when (b : Bool) (f : Attempt ε σ) : Attempt ε σ := fun s => if b then f s else (none, s)

/-- Run the attempt for every element, up to the first failure. -/
def each (f : α → Attempt ε σ) : List α → Attempt ε σ
  | [] => fun s => (none, s)
  | a :: as => (f a).andThen (each f as)

/-- From `P`, the attempt succeeds with `Q` or fails with `E`. -/
def Spec (P : σ → Prop) (f : Attempt ε σ) (Q E : σ → Prop) : Prop :=
  ∀ s, P s → ((f s).1 = none → Q (f s).2) ∧ ((f s).1 ≠ none → E (f s).2)

variable {P Q R E : σ → Prop} {f g : Attempt ε σ}

theorem Spec.modify {h : σ → σ} (hpq : ∀ s, P s → Q (h s)) :
    Spec P (Attempt.modify h : Attempt ε σ) Q E :=
  fun s hs => ⟨fun _ => hpq s hs, fun hne => absurd rfl hne⟩

theorem Spec.check {err : Option ε} (hpe : ∀ s, P s → E s) : Spec P (Attempt.check err) P E :=
  fun s hs => ⟨fun _ => hs, fun _ => hpe s hs⟩

/-- What an attempt keeps, whether it fails or not. -/
theorem Spec.keeps (h : ∀ s, P s → P (f s).2) : Spec P f P P :=
  fun s hs => ⟨fun _ => h s hs, fun _ => h s hs⟩

theorem Spec.andThen (hf : Spec P f Q E) (hg : Spec Q g R E) : Spec P (f.andThen g) R E := by
  intro s hs
  obtain ⟨hok, herr⟩ := hf s hs
  unfold Attempt.andThen
  split
  next s' heq =>
    rw [heq] at hok
    exact hg s' (hok rfl)
  next err s' heq =>
    rw [heq] at herr
    exact ⟨fun h => (nomatch h), fun _ => herr (nomatch ·)⟩

theorem Spec.when {b : Bool} (hf : b = true → Spec P f Q E) (hpq : b = false → ∀ s, P s → Q s) :
    Spec P (f.when b) Q E := by
  intro s hs
  unfold Attempt.when
  split
  next hb => exact hf hb s hs
  next hb => exact ⟨fun _ => hpq (Bool.eq_false_iff.mpr hb) s hs, fun hne => absurd rfl hne⟩

theorem Spec.weaken {P' Q' E' : σ → Prop} (h : Spec P f Q E) (hp : ∀ s, P' s → P s)
    (hq : ∀ s, Q s → Q' s) (he : ∀ s, E s → E' s) : Spec P' f Q' E' :=
  fun s hs => ⟨fun hok => hq _ ((h s (hp s hs)).1 hok), fun herr => he _ ((h s (hp s hs)).2 herr)⟩

/-- The rule for loops: the invariant speaks of the elements that have been handled. -/
theorem Spec.each {I : List α → σ → Prop} {f : α → Attempt ε σ} (as before : List α)
    (h : ∀ before, ∀ a ∈ as, Spec (I before) (f a) (I (before ++ [a])) E) :
    Spec (I before) (Attempt.each f as) (I (before ++ as)) E := by
  induction as generalizing before with
  | nil =>
    rw [List.append_nil]
    exact fun s hs => ⟨fun _ => hs, fun hne => absurd rfl hne⟩
  | cons a as ih =>
    have htail := ih (before ++ [a]) fun before b hb => h before b (List.mem_cons_of_mem a hb)
    rw [List.append_assoc, List.singleton_append] at htail
    exact (h before a List.mem_cons_self).andThen htail

end Attempt

end Hypeman.Foundations
