import Hypeman.Foundations.Table
import Mathlib.Algebra.BigOperators.Group.Finset.Basic
import Mathlib.Algebra.Order.BigOperators.Group.List

/-!
# Totals of finite tables

The sum of the values of a table over an additive commutative monoid, which a program keeps as a
running total beside the table.

* `Table.total_insert`, `Table.total_erase`: a running total is kept up to date by subtracting the
  value that is replaced or removed.
* `Table.total_mapValues_insert`, `Table.total_mapValues_erase`: the same for what the values of a
  table contribute.
* `Table.total_eq_sum`: every key counts once.
* `Table.total_nonneg`: a total of values that are not negative.
-/

namespace Hypeman.Foundations

namespace Table

variable {κ M : Type*}

def total [AddCommMonoid M] (t : Table κ M) : M := (t.entries.map (·.2)).sum

variable [DecidableEq κ]

theorem sum_kerase [AddCommMonoid M] (k : κ) (l : List (Σ _ : κ, M)) :
    (l.dlookup k).getD 0 + ((l.kerase k).map (·.2)).sum = (l.map (·.2)).sum := by
  induction l with
  | nil => simp
  | cons e l ih =>
    obtain ⟨k', v⟩ := e
    by_cases h : k = k'
    · subst h
      simp
    · rw [List.dlookup_cons_ne l _ h, List.kerase_cons_ne h, List.map_cons, List.map_cons,
        List.sum_cons, List.sum_cons, ← ih, add_left_comm]

theorem total_nonneg [AddCommMonoid M] [PartialOrder M] [IsOrderedAddMonoid M] {t : Table κ M}
    (h : ∀ k v, t.lookup k = some v → 0 ≤ v) : 0 ≤ total t := by
  refine List.sum_nonneg fun v hv => ?_
  obtain ⟨e, he, rfl⟩ := List.mem_map.mp hv
  exact h e.1 e.2 (AList.mem_lookup_iff.mpr he)

variable [AddCommGroup M] (t : Table κ M) (k : κ)

theorem total_erase : total (t.erase k) = total t - (t.lookup k).getD 0 := by
  have h := sum_kerase k t.entries
  rw [eq_sub_iff_add_eq, add_comm]
  exact h

theorem total_insert (v : M) : total (t.insert k v) = total t - (t.lookup k).getD 0 + v := by
  have h : total (t.insert k v) = v + total (t.erase k) := by
    rw [total, AList.entries_insert, List.map_cons, List.sum_cons]
    rfl
  rw [h, total_erase, add_comm]

section Contributions

variable {α : Type*} (f : α → M) (t : Table κ α) (k : κ)

theorem total_mapValues_erase :
    total (mapValues f (t.erase k)) = total (mapValues f t) - ((t.lookup k).map f).getD 0 := by
  rw [mapValues_erase, total_erase, lookup_mapValues]

theorem total_mapValues_insert (a : α) :
    total (mapValues f (t.insert k a)) =
      total (mapValues f t) - ((t.lookup k).map f).getD 0 + f a := by
  rw [mapValues_insert, total_insert, lookup_mapValues]

end Contributions

theorem total_eq_sum_keys : total t = (t.keys.map fun k => (t.lookup k).getD 0).sum := by
  rw [AList.keys, List.keys, List.map_map, total]
  congr 1
  apply List.map_congr_left
  intro e he
  have hlookup : t.lookup e.1 = some e.2 := AList.mem_lookup_iff.mpr he
  simp [hlookup]

/-- The total is the sum over the keys, each counted once. -/
theorem total_eq_sum : total t = ∑ k ∈ t.keys.toFinset, (t.lookup k).getD 0 := by
  rw [List.sum_toFinset _ t.keys_nodup, total_eq_sum_keys]

end Table

end Hypeman.Foundations
