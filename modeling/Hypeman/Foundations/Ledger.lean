import Mathlib.Tactic.TypeStar

/-!
# Ledgers of exclusive holders

A ledger says, for each address, who holds it and on what terms, where a holder has at most one
address at a time; the record carries that as a field. It is the history an address allocator is
answerable to: `grant` hands an address to a holder, who gives up the one held before, `amend`
changes the terms of the address held, and `revoke` ends the holding.
-/

namespace Hypeman.Foundations

/-- Who holds each address, and on what terms; nobody holds two addresses. -/
structure Ledger (α ι ρ : Type*) where
  /-- The holder of an address with the terms of the holding. -/
  entry : α → Option (ι × ρ)
  /-- A holder has one address. -/
  single : ∀ {a b i r r'}, entry a = some (i, r) → entry b = some (i, r') → a = b

namespace Ledger

variable {α ι ρ : Type*} (l : Ledger α ι ρ)

def holder (a : α) : Option ι := (l.entry a).map Prod.fst

theorem holder_eq_some {a : α} {i : ι} : l.holder a = some i ↔ ∃ r, l.entry a = some (i, r) := by
  simp [holder]

theorem holder_eq_none {a : α} : l.holder a = none ↔ l.entry a = none := by
  simp [holder]

def empty : Ledger α ι ρ where
  entry _ := none
  single h := by cases h

variable [DecidableEq ι]

/-- End the holding of `i`. -/
def revoke (i : ι) : Ledger α ι ρ where
  entry a := if l.holder a = some i then none else l.entry a
  single := by
    intro a b j r r' ha hb
    split at ha
    · cases ha
    split at hb
    · cases hb
    exact l.single ha hb

theorem entry_revoke (i : ι) (a : α) :
    (l.revoke i).entry a = if l.holder a = some i then none else l.entry a := rfl

theorem entry_revoke_of_ne {i : ι} {a : α} (h : l.holder a ≠ some i) :
    (l.revoke i).entry a = l.entry a := by
  rw [entry_revoke, if_neg h]

/-- Change the terms on which `i` holds its address. -/
def amend (i : ι) (r : ρ) : Ledger α ι ρ where
  entry a := if l.holder a = some i then some (i, r) else l.entry a
  single := by
    intro a b j s s' ha hb
    have held : ∀ {c : α} {t : ρ},
        (if l.holder c = some i then some (i, r) else l.entry c) = some (j, t) →
          l.holder c = some j := by
      intro c t hc
      split at hc
      · cases hc
        assumption
      · exact l.holder_eq_some.mpr ⟨_, hc⟩
    obtain ⟨_, ha'⟩ := l.holder_eq_some.mp (held ha)
    obtain ⟨_, hb'⟩ := l.holder_eq_some.mp (held hb)
    exact l.single ha' hb'

theorem entry_amend (i : ι) (r : ρ) (a : α) :
    (l.amend i r).entry a = if l.holder a = some i then some (i, r) else l.entry a := rfl

theorem entry_amend_of_ne {i : ι} {r : ρ} {a : α} (h : l.holder a ≠ some i) :
    (l.amend i r).entry a = l.entry a := by
  rw [entry_amend, if_neg h]

variable [DecidableEq α]

/-- Hand `a` to `i`: whoever held `a` loses it, and `i` gives up any other address. -/
def grant (i : ι) (a : α) (r : ρ) : Ledger α ι ρ where
  entry b := if b = a then some (i, r) else (l.revoke i).entry b
  single := by
    -- an entry elsewhere belongs to somebody other than `i`
    have other : ∀ {b : α} {t : ρ}, (l.revoke i).entry b ≠ some (i, t) := by
      intro b t h
      rw [entry_revoke] at h
      split at h
      · cases h
      · next hb => exact hb (l.holder_eq_some.mpr ⟨_, h⟩)
    intro b c j s s' hb hc
    split at hb <;> split at hc
    · next hb' hc' => rw [hb', hc']
    · cases hb
      exact absurd hc other
    · cases hc
      exact absurd hb other
    · exact (l.revoke i).single hb hc

theorem entry_grant (i : ι) (a b : α) (r : ρ) :
    (l.grant i a r).entry b = if b = a then some (i, r) else (l.revoke i).entry b := rfl

/-- Where neither the old nor the new holder is `i`, a grant to `i` changes nothing. -/
theorem entry_grant_of_ne {i : ι} {a b : α} {r : ρ} (h : l.holder b ≠ some i)
    (h' : (l.grant i a r).holder b ≠ some i) : (l.grant i a r).entry b = l.entry b := by
  have hb : b ≠ a := by
    rintro rfl
    exact h' (by rw [holder, entry_grant, if_pos rfl]; rfl)
  rw [entry_grant, if_neg hb, l.entry_revoke_of_ne h]

end Ledger

end Hypeman.Foundations
