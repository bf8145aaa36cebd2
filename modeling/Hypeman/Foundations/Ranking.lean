import Mathlib.Data.List.Sort

/-!
# Rank in a list

The rank of a value is the number of elements above it. What lies beyond the first `n` elements of a
list in falling order has at least the rank `n`.
-/

namespace Hypeman.Foundations

variable {α β : Type*} [LinearOrder β]

/-- The number of elements of `l` that are above `x` under `f`. -/
def rank (f : α → β) (l : List α) (x : α) : ℕ := l.countP fun y => f x < f y

/-- `l` falls strictly under `f`. -/
abbrev Falling (f : α → β) (l : List α) : Prop := l.Pairwise fun a b => f b < f a

variable {f : α → β} {l l' : List α} {x : α}

theorem rank_perm (h : l.Perm l') : rank f l x = rank f l' x := h.countP_eq _

/-- The elements of a part and of the rest add up. -/
theorem rank_filter_add (p : α → Bool) :
    rank f (l.filter p) x + rank f (l.filter (!p ·)) x = rank f l x := by
  simp only [rank, List.countP_filter]
  rw [List.countP_eq_countP_filter_add l (fun y => f x < f y) p]
  simp only [List.countP_filter]

theorem rank_pos {y : α} (hmem : y ∈ l) (hlt : f x < f y) : 0 < rank f l x :=
  List.countP_pos_iff.mpr ⟨y, hmem, by simpa using hlt⟩

theorem rank_anti {y : α} (h : f x ≤ f y) : rank f l y ≤ rank f l x :=
  List.countP_mono_left fun z _ hz => by simpa using h.trans_lt (by simpa using hz)

/-- In a falling list the rank is the position. -/
theorem rank_append_cons {above below : List α} (h : Falling f (above ++ x :: below)) :
    rank f (above ++ x :: below) x = above.length := by
  obtain ⟨-, hbelow, habove⟩ := List.pairwise_append.mp h
  have hfirst : above.countP (fun y => f x < f y) = above.length :=
    List.countP_eq_length.mpr fun y hy => by simpa using habove y hy x (by simp)
  have hlast : (x :: below).countP (fun y => f x < f y) = 0 := by
    refine List.countP_eq_zero.mpr fun y hy => ?_
    rcases List.mem_cons.mp hy with rfl | hy
    · simp
    · simpa using (List.rel_of_pairwise_cons hbelow hy).le
  rw [rank, List.countP_append, hfirst, hlast, Nat.add_zero]

theorem mem_drop_iff_rank (h : Falling f l) (n : ℕ) (hmem : x ∈ l) :
    x ∈ l.drop n ↔ n ≤ rank f l x := by
  induction l generalizing n with
  | nil => cases hmem
  | cons a l ih =>
    obtain ⟨ha, hl⟩ := List.pairwise_cons.mp h
    cases n with
    | zero => simp [hmem]
    | succ n =>
      rw [List.drop_succ_cons]
      rcases List.mem_cons.mp hmem with rfl | hx
      · have hrank : rank f (x :: l) x = 0 :=
          (rank_append_cons h : rank f ([] ++ x :: l) x = 0)
        have hnot : x ∉ l := fun hx => lt_irrefl _ (ha x hx)
        simp only [hrank, Nat.le_zero, Nat.add_one_ne_zero, iff_false]
        exact fun hx => hnot (List.mem_of_mem_drop hx)
      · have hrank : rank f (a :: l) x = rank f l x + 1 :=
          List.countP_cons_of_pos (by simpa using ha x hx)
        rw [ih hl n hx, hrank, Nat.add_le_add_iff_right]

/-- Every rank up to that of an element is taken by an element that is not below it. -/
theorem exists_rank_eq (h : Falling f l) {n : ℕ} (hmem : x ∈ l) (hn : n ≤ rank f l x) :
    ∃ y ∈ l, rank f l y = n ∧ f x ≤ f y := by
  have hx := (mem_drop_iff_rank h n hmem).mpr hn
  cases hdrop : l.drop n with
  | nil =>
    rw [hdrop] at hx
    cases hx
  | cons y below =>
    have hl : l = l.take n ++ y :: below := by rw [← hdrop, List.take_append_drop]
    have hlength : n < l.length := by
      by_contra hge
      rw [List.drop_eq_nil_of_le (by omega)] at hdrop
      cases hdrop
    refine ⟨y, hl ▸ by simp, ?_, ?_⟩
    · have hrank := rank_append_cons (hl ▸ h)
      rwa [← hl, List.length_take_of_le hlength.le] at hrank
    · have hfall := h.drop (i := n)
      rw [hdrop] at hx hfall
      rcases List.mem_cons.mp hx with rfl | hx
      · exact le_rfl
      · exact (List.rel_of_pairwise_cons hfall hx).le

end Hypeman.Foundations
