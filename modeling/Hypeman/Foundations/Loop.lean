import Mathlib.Order.Basic

/-!
# Loops by rounds

A loop is given by its body: `round s` is the state after one more round, or `none` where the loop
is left. `rounds n` makes at most `n` rounds. What every round keeps holds at the end, and where a
measure goes down in every round, as many rounds as it says are enough to leave the loop.
`foldl_relates` is the rule for a loop over a list.
-/

namespace Hypeman.Foundations

variable {σ : Type*} (round : σ → Option σ)

/-- At most `n` rounds of the loop. -/
def rounds : ℕ → σ → σ
  | 0, s => s
  | n + 1, s =>
    match round s with
    | some s' => rounds n s'
    | none => s

variable {round} {I : σ → Prop}

theorem rounds_invariant (hround : ∀ s s', I s → round s = some s' → I s') (n : ℕ) {s : σ}
    (hs : I s) : I (rounds round n s) := by
  induction n generalizing s with
  | zero => exact hs
  | succ n ih =>
    unfold rounds
    split
    next s' hs' => exact ih (hround s s' hs hs')
    next => exact hs

/-- The loop is left after as many rounds as the measure says. -/
theorem rounds_exit {f : σ → ℕ} (hround : ∀ s s', I s → round s = some s' → I s')
    (hf : ∀ s s', I s → round s = some s' → f s' < f s) {n : ℕ} {s : σ} (hs : I s)
    (hn : f s ≤ n) : round (rounds round n s) = none := by
  induction n generalizing s with
  | zero =>
    refine Option.eq_none_iff_forall_ne_some.mpr fun s' hs' => ?_
    have := hf s s' hs hs'
    omega
  | succ n ih =>
    unfold rounds
    split
    next s' hs' =>
      have := hf s s' hs hs'
      exact ih (hround s s' hs hs') (by omega)
    next hnone => exact hnone

/-- The two ends of a loop over a list are related by a preorder in which every round goes up. -/
theorem foldl_relates {α : Type*} {R : σ → σ → Prop} (hrefl : ∀ s, R s s)
    (htrans : ∀ {a b c}, R a b → R b c → R a c) {f : σ → α → σ} {l : List α}
    (hf : ∀ a ∈ l, ∀ s, R s (f s a)) (s : σ) : R s (l.foldl f s) := by
  induction l generalizing s with
  | nil => exact hrefl s
  | cons a l ih =>
    exact htrans (hf a List.mem_cons_self s) (ih (fun b hb => hf b (List.mem_cons_of_mem _ hb)) _)

end Hypeman.Foundations
