import Mathlib.Tactic.TypeStar

/-!
# Programs with a state and errors

An action reads and changes a state and returns a result or an error. What it did to the state
before it failed stays done. Actions form a monad, so that programs can be written in the order of
their statements.

* `Spec P f Q E`: from a state with `P`, the action `f` returns `a` in a state with `Q a` or fails
  in a state with `E`.
* One rule for each way to build actions (`Spec.pure`, `Spec.bind`, `Spec.throw`, …), and
  `Spec.foldlM` for loops that accumulate a value.
-/

namespace Hypeman.Foundations

universe u

/-- A program over the state `σ` that returns an `α` or fails with an `ε`. -/
def Action (ε σ : Type u) (α : Type u) := σ → Except ε α × σ

namespace Action

variable {ε ε' σ α β : Type u}

instance : Monad (Action ε σ) where
  pure a s := (.ok a, s)
  bind f g s :=
    match f s with
    | (.ok a, s) => g a s
    | (.error err, s) => (.error err, s)

/-- Fail and leave the state as it is. -/
def fail (err : ε) : Action ε σ α := fun s => (.error err, s)

def orFail (f : Action ε σ α) (wrap : ε → ε') : Action ε' σ α := fun s =>
  match f s with
  | (.ok a, s) => (.ok a, s)
  | (.error err, s) => (.error (wrap err), s)

/-- The result of `f`, whether it fails or not. -/
def result (f : Action ε σ α) : Action ε' σ (Except ε α) := fun s => (.ok (f s).1, (f s).2)

theorem bind_apply (f : Action ε σ α) (g : α → Action ε σ β) (s : σ) :
    (f >>= g) s =
      match f s with
      | (.ok a, s) => g a s
      | (.error err, s) => (.error err, s) := rfl

/-- From `P`, the action returns `a` with `Q a` or fails with `E`. -/
def Spec (P : σ → Prop) (f : Action ε σ α) (Q : α → σ → Prop) (E : σ → Prop) : Prop :=
  ∀ s, P s → (∀ a, (f s).1 = .ok a → Q a (f s).2) ∧ (∀ err, (f s).1 = .error err → E (f s).2)

namespace Spec

variable {P P' E E' : σ → Prop} {Q Q' : α → σ → Prop} {R : β → σ → Prop} {f : Action ε σ α}

theorem pure {a : α} (h : ∀ s, P s → Q a s) : Spec P (Pure.pure a : Action ε σ α) Q E := by
  refine fun s hs => ⟨fun b hb => ?_, fun err herr => nomatch herr⟩
  obtain rfl : a = b := Except.ok.inj hb
  exact h s hs

theorem fail {err : ε} (h : ∀ s, P s → E s) : Spec P (Action.fail err : Action ε σ α) Q E :=
  fun s hs => ⟨fun _ ha => (nomatch ha), fun _ _ => h s hs⟩

theorem bind {g : α → Action ε σ β} (hf : Spec P f Q E) (hg : ∀ a, Spec (Q a) (g a) R E) :
    Spec P (f >>= g) R E := by
  intro s hs
  obtain ⟨hok, herr⟩ := hf s hs
  rw [bind_apply]
  split
  next a s' heq =>
    rw [heq] at hok
    exact hg a s' (hok a rfl)
  next err s' heq =>
    rw [heq] at herr
    exact ⟨fun _ ha => (nomatch ha), fun _ _ => herr err rfl⟩

theorem orFail {wrap : ε → ε'} (h : Spec P f Q E) : Spec P (f.orFail wrap) Q E := by
  intro s hs
  obtain ⟨hok, herr⟩ := h s hs
  unfold Action.orFail
  split
  next a s' heq =>
    rw [heq] at hok
    refine ⟨fun b hb => ?_, fun _ he => (nomatch he)⟩
    obtain rfl : a = b := Except.ok.inj hb
    exact hok a rfl
  next err s' heq =>
    rw [heq] at herr
    exact ⟨fun _ ha => (nomatch ha), fun _ _ => herr err rfl⟩

/-- The result of an action is given in either case. -/
theorem result {S : Except ε α → σ → Prop} (h : Spec P f Q E)
    (hok : ∀ a s, Q a s → S (.ok a) s) (herr : ∀ err s, E s → S (.error err) s) :
    Spec P (f.result : Action ε' σ (Except ε α)) S E' := by
  intro s hs
  obtain ⟨hq, he⟩ := h s hs
  refine ⟨fun x hx => ?_, fun _ ha => (nomatch ha)⟩
  obtain rfl : (f s).1 = x := Except.ok.inj hx
  cases hr : (f s).1 with
  | ok a => exact hok a _ (hq a hr)
  | error err => exact herr err _ (he err hr)

/-- The rule for loops: the invariant speaks of the value accumulated so far. -/
theorem foldlM {g : α → β → Action ε σ α} (h : ∀ a b, Spec (Q a) (g a b) Q E) (bs : List β)
    (a : α) : Spec (Q a) (bs.foldlM g a) Q E := by
  induction bs generalizing a with
  | nil => exact pure fun _ hs => hs
  | cons b bs ih =>
    rw [List.foldlM_cons]
    exact (h a b).bind ih

/-- What the state before says of values is known. -/
theorem assume {A : Prop} (h : A → Spec P f Q E) : Spec (fun s => A ∧ P s) f Q E :=
  fun s hs => h hs.1 s hs.2

theorem ofExists {ι : Sort*} {P : ι → σ → Prop} (h : ∀ i, Spec (P i) f Q E) :
    Spec (fun s => ∃ i, P i s) f Q E :=
  fun s ⟨i, hs⟩ => h i s hs

theorem weaken (h : Spec P f Q E) (hp : ∀ s, P' s → P s) (hq : ∀ a s, Q a s → Q' a s)
    (he : ∀ s, E s → E' s) : Spec P' f Q' E' :=
  fun s hs => ⟨fun a ha => hq a _ ((h s (hp s hs)).1 a ha),
    fun err herr => he _ ((h s (hp s hs)).2 err herr)⟩

theorem pre (h : Spec P f Q E) (hp : ∀ s, P' s → P s) : Spec P' f Q E :=
  h.weaken hp (fun _ _ hs => hs) fun _ hs => hs

theorem error (h : Spec P f Q E) (he : ∀ s, E s → E' s) : Spec P f Q E' :=
  h.weaken (fun _ hs => hs) (fun _ _ hs => hs) he

end Spec

/-- The action keeps a property of the state, whether it fails or not. -/
def Keeps (I : σ → Prop) (f : Action ε σ α) : Prop := Spec I f (fun _ => I) I

theorem Keeps.result {I : σ → Prop} {f : Action ε σ α} (h : Keeps I f) :
    Keeps I (f.result : Action ε' σ (Except ε α)) :=
  Spec.result h (fun _ _ hs => hs) fun _ _ hs => hs

end Action

end Hypeman.Foundations
