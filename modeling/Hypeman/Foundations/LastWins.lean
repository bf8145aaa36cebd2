import Mathlib.Data.List.Nodup

/-!
# Lists in which the last entry of a key wins

From a list of entries with keys, one entry for each key: the last one, at the place of the first.

* `lastWith`: the last entry with a key.
* `lastWins`: the list that remains.
* `lastWins_append`, `lastWins_append_self`: what remains may be extended in place of the list, and
  is not changed by itself.
-/

namespace Hypeman.Foundations

variable {α κ : Type*} [DecidableEq κ]

theorem eraseDups_of_nodup {ks : List κ} (h : ks.Nodup) : ks.eraseDups = ks := by
  induction ks with
  | nil => rfl
  | cons k ks ih =>
    obtain ⟨hk, hks⟩ := List.nodup_cons.mp h
    have hfilter : ks.filter (fun k' => !k' == k) = ks := by
      refine List.filter_eq_self.mpr fun k' hk' => ?_
      simpa using fun heq : k' = k => hk (heq ▸ hk')
    rw [List.eraseDups_cons, hfilter, ih hks]

theorem nodup_eraseDups (ks : List κ) : ks.eraseDups.Nodup := by
  induction hn : ks.length using Nat.strongRecOn generalizing ks with
  | ind n ih =>
    cases ks with
    | nil => exact List.nodup_nil
    | cons k ks =>
      rw [List.eraseDups_cons, List.nodup_cons, List.mem_eraseDups]
      refine ⟨by simp, ih _ ?_ _ rfl⟩
      rw [← hn, List.length_cons]
      exact Nat.lt_succ_of_le (List.length_filter_le _ _)

/-- The first occurrences in a list that begins with first occurrences. -/
theorem eraseDups_eraseDups_append (ks ks' : List κ) :
    (ks.eraseDups ++ ks').eraseDups = (ks ++ ks').eraseDups := by
  rw [List.eraseDups_append, List.eraseDups_append, eraseDups_of_nodup (nodup_eraseDups ks)]
  congr 2
  unfold List.removeAll
  refine List.filter_congr fun k _ => ?_
  simp [List.mem_eraseDups]

theorem eraseDups_append_singleton (ks : List κ) (k : κ) :
    (ks ++ [k]).eraseDups = if k ∈ ks then ks.eraseDups else ks.eraseDups ++ [k] := by
  rw [List.eraseDups_append]
  split
  · next h => simp [List.removeAll, h]
  · next h => simp [List.removeAll, h, eraseDups_of_nodup (List.nodup_singleton k)]

section

variable (key : α → κ)

def lastWith (k : κ) (xs : List α) : Option α :=
  (xs.filter fun x => key x = k).getLast?

/-- The last entry of each key, in the order in which the keys come first. -/
def lastWins (xs : List α) : List α :=
  (xs.map key).eraseDups.filterMap fun k => lastWith key k xs

end

variable {key : α → κ} {k : κ} {x : α} {xs ys : List α}

theorem key_of_lastWith (h : lastWith key k xs = some x) : x ∈ xs ∧ key x = k := by
  simpa using List.mem_of_getLast? h

theorem exists_lastWith (key : α → κ) (hx : x ∈ xs) : ∃ y, lastWith key (key x) xs = some y := by
  have hmem : x ∈ xs.filter fun y => key y = key x := List.mem_filter.mpr ⟨hx, by simp⟩
  exact ⟨_, List.getLast?_eq_some_getLast (List.ne_nil_of_mem hmem)⟩

theorem isSome_lastWith : (lastWith key k xs).isSome = true ↔ k ∈ xs.map key := by
  rw [Option.isSome_iff_exists, List.mem_map]
  constructor
  · rintro ⟨x, hx⟩
    exact ⟨x, key_of_lastWith hx⟩
  · rintro ⟨x, hx, rfl⟩
    exact exists_lastWith key hx

theorem lastWith_singleton : lastWith key k [x] = if k = key x then some x else none := by
  by_cases h : k = key x
  · simp [lastWith, h]
  · simp [lastWith, h, Ne.symm h]

theorem lastWith_append :
    lastWith key k (xs ++ ys) = (lastWith key k ys).or (lastWith key k xs) := by
  rw [lastWith, List.filter_append, List.getLast?_append]
  rfl

/-- With distinct keys the only entry of a key is the last one. -/
theorem lastWith_of_nodup (h : (xs.map key).Nodup) (hx : x ∈ xs) :
    lastWith key (key x) xs = some x := by
  obtain ⟨y, hy⟩ := exists_lastWith key hx
  obtain ⟨hmem, hkey⟩ := key_of_lastWith hy
  rw [hy, List.inj_on_of_nodup_map h hmem hx hkey]

theorem mem_lastWins : x ∈ lastWins key xs ↔ lastWith key (key x) xs = some x := by
  rw [lastWins, List.mem_filterMap]
  constructor
  · rintro ⟨k, -, hk⟩
    rwa [(key_of_lastWith hk).2]
  · intro h
    refine ⟨key x, ?_, h⟩
    rw [List.mem_eraseDups]
    exact List.mem_map_of_mem (key_of_lastWith h).1

/-- The keys that remain are the first occurrences of the keys. -/
theorem map_key_lastWins (xs : List α) : (lastWins key xs).map key = (xs.map key).eraseDups := by
  rw [lastWins, List.map_filterMap]
  conv_rhs => rw [← List.filterMap_some (l := (xs.map key).eraseDups)]
  refine List.filterMap_congr fun k hk => ?_
  obtain ⟨x, hx, rfl⟩ := List.mem_map.mp (List.mem_eraseDups.mp hk)
  obtain ⟨y, hy⟩ := exists_lastWith key hx
  rw [hy, Option.map_some, (key_of_lastWith hy).2]

theorem lastWith_lastWins : lastWith key k (lastWins key xs) = lastWith key k xs := by
  have hnodup : ((lastWins key xs).map key).Nodup := by
    rw [map_key_lastWins]
    exact nodup_eraseDups _
  refine Option.ext fun x => ⟨fun h => ?_, fun h => ?_⟩
  · obtain ⟨hmem, rfl⟩ := key_of_lastWith h
    exact mem_lastWins.mp hmem
  · obtain ⟨-, rfl⟩ := key_of_lastWith h
    exact lastWith_of_nodup hnodup (mem_lastWins.mpr h)

/-- What remains depends on the order of the keys and on the last entry of each. -/
theorem lastWins_congr (hkeys : (xs.map key).eraseDups = (ys.map key).eraseDups)
    (hlast : ∀ k, lastWith key k xs = lastWith key k ys) : lastWins key xs = lastWins key ys := by
  rw [lastWins, lastWins, hkeys]
  simp only [hlast]

/-- What remains of a list may be extended in its place. -/
theorem lastWins_append (xs ys : List α) :
    lastWins key (lastWins key xs ++ ys) = lastWins key (xs ++ ys) := by
  refine lastWins_congr ?_ fun k => ?_
  · rw [List.map_append, List.map_append, map_key_lastWins, eraseDups_eraseDups_append]
  · rw [lastWith_append, lastWith_append, lastWith_lastWins]

/-- What remains of a list is not changed by itself. -/
theorem lastWins_append_self (xs : List α) :
    lastWins key (lastWins key xs ++ lastWins key xs) = lastWins key xs := by
  refine lastWins_congr ?_ fun k => ?_
  · have hnone : ((xs.map key).eraseDups.removeAll (xs.map key)) = [] := by
      refine List.filter_eq_nil_iff.mpr fun k hk => ?_
      simpa using List.mem_eraseDups.mp hk
    rw [List.map_append, map_key_lastWins, eraseDups_eraseDups_append, List.eraseDups_append, hnone,
      List.eraseDups_nil, List.append_nil]
  · rw [lastWith_append, lastWith_lastWins, Option.or_self]

end Hypeman.Foundations
