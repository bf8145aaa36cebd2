import Mathlib.Data.Finset.Card
import Mathlib.Data.List.Range

/-!
# Waiting lists

A waiting list is served by taking out its first eligible element. The rest of the list keeps its
order, so whatever is sorted in the list stays sorted, and nothing is lost or duplicated. What is
being served is a list of elements with different keys, next to the set of these keys.

* `exists_split_of_find?`: what `find?` and `eraseP` do together to a list.
* `nodup_map_concat`, `nodup_map_erase`: the keys of what is being served when an element joins or
  leaves, with the set of keys `toFinset_map_concat`, `toFinset_map_erase`.
* `EachOnce`: every number below a bound occurs exactly once among the numbers of some lists.
-/

namespace Hypeman.Foundations

variable {α β : Type*} {p : α → Bool} {l : List α} {a : α}

/-- The first element that meets `p`, with what stands before and after it in the list. -/
theorem exists_split_of_find? (h : l.find? p = some a) :
    ∃ before after, l = before ++ a :: after ∧ l.eraseP p = before ++ after ∧ p a = true ∧
      ∀ b ∈ before, p b = false := by
  obtain ⟨ha, before, after, rfl, hbefore⟩ := List.find?_eq_some_iff_append.mp h
  have hnone : ∀ b ∈ before, p b = false := fun b hb => by simpa using hbefore b hb
  refine ⟨before, after, rfl, ?_, ha, hnone⟩
  rw [List.eraseP_append_right _ (fun b hb => by simp [hnone b hb]), List.eraseP_cons_of_pos ha]

section Keys

variable {κ : Type*} [DecidableEq κ] {f : α → κ}

theorem toFinset_map_concat (f : α → κ) (l : List α) (a : α) :
    ((l ++ [a]).map f).toFinset = insert (f a) (l.map f).toFinset := by
  rw [List.map_append, List.map_singleton, List.toFinset_append, List.toFinset_cons,
    List.toFinset_nil, insert_empty_eq, Finset.insert_eq, Finset.union_comm]

theorem nodup_map_concat (h : (l.map f).Nodup) (ha : f a ∉ (l.map f).toFinset) :
    ((l ++ [a]).map f).Nodup := by
  rw [List.map_append, List.map_singleton]
  refine h.append (List.nodup_singleton _) fun k hk hk' => ha ?_
  rw [List.mem_toFinset, ← List.mem_singleton.mp hk']
  exact hk

variable [DecidableEq α]

omit [DecidableEq κ] in
theorem nodup_map_cons_erase (h : (l.map f).Nodup) (ha : a ∈ l) :
    (f a :: (l.erase a).map f).Nodup :=
  ((List.perm_cons_erase ha).map f).nodup_iff.mp h

omit [DecidableEq κ] in
theorem nodup_map_erase (h : (l.map f).Nodup) (ha : a ∈ l) : ((l.erase a).map f).Nodup :=
  (nodup_map_cons_erase h ha).of_cons

theorem toFinset_map_erase (h : (l.map f).Nodup) (ha : a ∈ l) :
    ((l.erase a).map f).toFinset = (l.map f).toFinset.erase (f a) := by
  have hfresh := (List.nodup_cons.mp (nodup_map_cons_erase h ha)).1
  rw [List.toFinset_eq_of_perm _ _ ((List.perm_cons_erase ha).map f), List.map_cons,
    List.toFinset_cons, Finset.erase_insert]
  rw [List.mem_toFinset]
  exact hfresh

end Keys

/-- Every number below `n` occurs exactly once in the list, and no other number occurs. -/
def EachOnce (n : ℕ) (l : List ℕ) : Prop := l.Perm (List.range n)

namespace EachOnce

variable {n : ℕ} {l l' : List ℕ}

theorem zero : EachOnce 0 [] := .refl _

theorem perm (h : EachOnce n l) (hl : l'.Perm l) : EachOnce n l' := hl.trans h

/-- The next number joins the list, wherever it is put. -/
theorem succ (h : EachOnce n l) (hl : l'.Perm (n :: l)) : EachOnce (n + 1) l' := by
  refine hl.trans ((h.cons n).trans ?_)
  rw [List.range_succ]
  exact (List.perm_append_singleton n _).symm

theorem nodup (h : EachOnce n l) : l.Nodup := h.nodup_iff.mpr List.nodup_range

theorem lt_of_mem (h : EachOnce n l) {t : ℕ} (ht : t ∈ l) : t < n :=
  List.mem_range.mp (h.mem_iff.mp ht)

end EachOnce

end Hypeman.Foundations
