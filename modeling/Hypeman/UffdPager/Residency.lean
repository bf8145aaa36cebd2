import Hypeman.UffdPager.Cache

/-!
# The page that was added last stays

A new entry is put at the front of the ring that the sweep walks from the back, with its reference
bit set. The hand comes to it after all others, clears its bit and goes round once more; by then the
bits of the others are clear, and they are evicted before it.
-/

namespace Hypeman.UffdPager

open Foundations

namespace Shard

variable {s s' : Shard}

/-- The entries that the hand comes to in at most `n` rounds, as it finds them. -/
def hand : ℕ → Shard → List CacheEntry
  | 0, _ => []
  | n + 1, s =>
    match s.evictRound, s.ring.getLast? with
    | some s', some elem => s.entries elem :: hand n s'
    | _, _ => []

/-- The entry `elem` holds the value and either has all entries that were passed in front of it, or
is at the front with no reference bit set any more. -/
structure Spared (elem : ℕ) (value : List UInt8) (s : Shard) : Prop where
  linked : s.Linked
  fits : value.length ≤ s.maxBytes
  stored : (s.entries elem).data = value
  place : (∃ passed rest, s.ring = passed ++ elem :: rest ∧ (s.entries elem).ref = true ∧
      ∀ other ∈ passed, (s.entries other).ref = false) ∨
    ∃ rest, s.ring = elem :: rest ∧ ∀ other ∈ s.ring, (s.entries other).ref = false

theorem Spared.round {elem : ℕ} {value : List UInt8} (h : Spared elem value s)
    (hround : s.evictRound = some s') : Spared elem value s' := by
  have hsweep := evictRound_sweeps hround
  have hlinked := hsweep.linked h.linked
  have hnodup := h.linked.nodup
  cases hsweep with
  | @spare front back hring href =>
    refine ⟨hlinked, h.fits, (setRef_data ..).trans h.stored, ?_⟩
    have hclear (other : ℕ) (hne : other ≠ back) :
        ((s.setRef back false).entries other).ref = (s.entries other).ref := by
      simp [setRef, Function.update_of_ne hne]
    have hback : ((s.setRef back false).entries back).ref = false := by simp [setRef]
    rcases h.place with ⟨passed, rest, hplace, hset, hpassed⟩ | ⟨rest, hplace, hall⟩
    · rcases List.eq_nil_or_concat rest with rfl | ⟨rest, last, rfl⟩
      · -- the hand has come to the new entry, and no bit is left
        obtain ⟨rfl, hback'⟩ := List.append_inj' (hring.symm.trans hplace) rfl
        obtain rfl : back = elem := by simpa using hback'
        refine .inr ⟨front, rfl, List.forall_mem_cons.mpr ⟨hback, fun other hother => ?_⟩⟩
        have hne : other ≠ back := fun heq => h.linked.not_mem_front hring (heq ▸ hother)
        exact (hclear other hne).trans (hpassed other hother)
      · rw [List.concat_eq_append, ← List.cons_append, ← List.append_assoc] at hplace
        obtain ⟨rfl, hback'⟩ := List.append_inj' (hring.symm.trans hplace) rfl
        obtain rfl : back = last := by simpa using hback'
        have hnot := h.linked.not_mem_front hring
        refine .inl ⟨back :: passed, rest, by simp, ?_, List.forall_mem_cons.mpr ⟨hback, ?_⟩⟩
        · exact (hclear elem fun heq => hnot (by simp [heq])).trans hset
        · intro other hother
          have hne : other ≠ back := fun heq => hnot (by simp [← heq, hother])
          exact (hclear other hne).trans (hpassed other hother)
    · rw [hall back (by simp [hring])] at href
      cases href
  | @evict front back hring href =>
    refine ⟨hlinked, h.fits, h.stored, ?_⟩
    rcases h.place with ⟨passed, rest, hplace, hset, hpassed⟩ | ⟨rest, hplace, hall⟩
    · rcases List.eq_nil_or_concat rest with rfl | ⟨rest, last, rfl⟩
      · obtain ⟨rfl, hback'⟩ := List.append_inj' (hring.symm.trans hplace) rfl
        obtain rfl : back = elem := by simpa using hback'
        rw [hset] at href
        cases href
      · rw [List.concat_eq_append, ← List.cons_append, ← List.append_assoc] at hplace
        obtain ⟨rfl, -⟩ := List.append_inj' (hring.symm.trans hplace) rfl
        exact .inl ⟨passed, rest, rfl, hset, hpassed⟩
    · rcases List.eq_nil_or_concat rest with rfl | ⟨rest, last, rfl⟩
      · -- alone in the ring it is within the budget, and the loop is left
        have hbytes : s.bytes = value.length := by
          rw [h.linked.counted, pages, hplace]
          simp [h.stored]
        rw [evictRound, if_neg (by have := h.fits; omega)] at hround
        cases hround
      · rw [List.concat_eq_append, ← List.cons_append] at hplace
        obtain ⟨rfl, -⟩ := List.append_inj' (hring.symm.trans hplace) rfl
        exact .inr ⟨rest, rfl, fun other hother =>
          hall other (hring ▸ List.mem_append_left _ hother)⟩

/-- Within the budget nothing is swept. -/
theorem evictLocked_of_le (h : s.bytes ≤ s.maxBytes) (n : ℕ) :
    rounds evictRound n s = s ∧ hand n s = [] := by
  have hnone : s.evictRound = none := by rw [evictRound, if_neg (by omega)]
  cases n <;> simp [rounds, hand, hnone]

/-- A page that is spared is found. -/
theorem Spared.lookup {elem : ℕ} {value : List UInt8} (h : Spared elem value s) {key : PageKey}
    (hkey : (s.entries elem).key = key) : (s.lookup key).2 = some value := by
  have hmem : elem ∈ s.ring := by
    rcases h.place with ⟨passed, rest, hplace, -⟩ | ⟨rest, hplace, -⟩ <;> simp [hplace]
  have hitem := (h.linked.indexed key elem).mpr ⟨hmem, hkey⟩
  simp [Shard.lookup, hitem, h.stored]

/-- The page is found after it was added, where a page under its key has its length. -/
theorem add_lookup (h : s.Linked) (hle : s.bytes ≤ s.maxBytes) {key : PageKey} {value : List UInt8}
    (hfits : value.length ≤ s.maxBytes)
    (hsame : ∀ page ∈ s.pages, page.1 = key → page.2.length = value.length) :
    ((s.add key value).lookup key).2 = some value := by
  cases helem : s.items.lookup key with
  | some elem =>
    obtain ⟨hmem, hkey⟩ := (h.indexed key elem).mp helem
    have hlen : (s.entries elem).data.length = value.length :=
      hsame _ (List.mem_map_of_mem hmem) hkey
    have hbytes : (s.store key value).bytes ≤ (s.store key value).maxBytes := by
      simp only [store, helem]
      omega
    rw [add, Shard.evictLocked, (evictLocked_of_le hbytes _).1]
    simp [Shard.lookup, store, helem]
  | none =>
    have hspared : Spared s.fresh value (s.store key value) := by
      refine ⟨h.store key value, ?_, ?_, .inl ⟨[], s.ring, ?_, ?_, by simp⟩⟩ <;>
        simp [store, helem, hfits]
    have hkey : ((s.store key value).entries s.fresh).key = key := by simp [store, helem]
    have hkept := rounds_invariant
      (I := fun s' => Spared s.fresh value s' ∧ (s'.entries s.fresh).key = key)
      (fun s₁ s₂ hs hs' => ⟨hs.1.round hs', by
        cases evictRound_sweeps hs' with
        | spare => exact (setRef_key ..).trans hs.2
        | evict => exact hs.2⟩) (2 * (s.store key value).ring.length) ⟨hspared, hkey⟩
    exact hkept.1.lookup hkept.2

/-- The pages that are gone are those that the hand found with a clear bit; a bit was found set no
more often than there were entries with one. -/
theorem hand_evicts (h : s.Linked) (n : ℕ) :
    s.pages.Perm ((rounds evictRound n s).pages ++
      ((hand n s).filter (!·.ref)).map fun e => (e.key, e.data)) ∧
    ((hand n s).filter (·.ref)).length ≤ s.ring.countP fun elem => (s.entries elem).ref := by
  induction n generalizing s with
  | zero => simp [hand, rounds]
  | succ n ih =>
    unfold hand rounds
    cases hround : s.evictRound with
    | none => simp
    | some s' =>
      have hsweep := evictRound_sweeps hround
      have hwork := hsweep.work_lt h
      obtain ⟨hperm, hcount⟩ := ih (hsweep.linked h)
      cases hsweep with
      | @spare front back hring href =>
        have hpages : s.pages.Perm
            { s.setRef back false with ring := back :: front : Shard }.pages := by
          simp only [pages, setRef_key, setRef_data, hring]
          exact (List.perm_append_singleton back front).map _
        dsimp only at hcount
        simp only [work, hring, List.length_cons, List.length_append, List.length_nil] at hwork
        simp only [hring, List.getLast?_append, List.getLast?_singleton, Option.some_or,
          List.filter_cons, href, Bool.not_true, Bool.false_eq_true, if_false, if_true,
          List.length_cons]
        exact ⟨hpages.trans hperm, by omega⟩
      | @evict front back hring href =>
        simp only [hring, List.getLast?_append, List.getLast?_singleton, Option.some_or,
          List.filter_cons, href, Bool.not_false, Bool.false_eq_true, if_false, if_true,
          List.map_cons, List.countP_append]
        refine ⟨?_, Nat.le_add_right_of_le hcount⟩
        rw [pages, hring, List.map_append]
        exact (hperm.append_right _).trans (by
          rw [List.append_assoc]
          exact (List.perm_append_singleton _ _).append_left _)

end Shard

/-- The length of a page is in its key. -/
theorem latest_sized {maxBytes : ℤ} {x : PageCache × (PageKey → Option (List UInt8))}
    (h : (auditedCache maxBytes).Reachable System.Always x) :
    ∀ key data, x.2 key = some data → key.size = data.length := by
  refine h.invariant (I := fun x => ∀ key data, x.2 key = some data → key.size = data.length)
    (fun _ _ h => by cases h) fun y e z hy _ hs => ?_
  obtain ⟨-, hlatest⟩ := System.monitored_step_iff.mp hs
  rw [hlatest]
  cases e with
  | add cacheKey offset data =>
    intro key value hvalue
    simp only [latestAdd, Function.update_apply] at hvalue
    split at hvalue
    next heq =>
      cases hvalue
      rw [heq]
    · exact hy key value hvalue
  | get | borrow => exact hy

/-- After any calls, a page that is not empty and within the budget of its shard is found right
after it was added. The pages evicted for it are those that the hand found with a clear bit, and it
found a bit set at most once for each entry of the ring. -/
theorem added_page_stays (maxBytes : ℤ) {x : PageCache × (PageKey → Option (List UInt8))}
    (hreach : (auditedCache maxBytes).Reachable System.Always x) (cacheKey : String)
    (offset : Int64) (data : List UInt8) (hdata : data ≠ []) :
    let key : PageKey := ⟨cacheKey, offset, data.length⟩
    ∃ shard, x.1.shards[x.1.shardFor key]? = some shard ∧ (data.length ≤ shard.maxBytes →
      ((x.1.Add cacheKey offset data).Get cacheKey offset data.length).2 = some data ∧
      ((x.1.Add cacheKey offset data).Borrow cacheKey offset data.length).2 = some data ∧
      let s := shard.store key data
      s.pages.Perm ((shard.add key data).pages ++
        ((s.hand (2 * s.ring.length)).filter (!·.ref)).map fun e => (e.key, e.data)) ∧
      ((s.hand (2 * s.ring.length)).filter (·.ref)).length ≤ s.ring.length) := by
  intro key
  have hinv := reachable_cacheInvariant hreach
  have hindex : x.1.shardFor key < x.1.shards.length := by
    have hpos := pageCacheShardCount_pos (normalizeCacheMaxBytes maxBytes)
    rw [PageCache.shardFor, hinv.length, shardIndex]
    split
    · exact hpos
    · exact Nat.mod_lt _ hpos
  refine ⟨x.1.shards[x.1.shardFor key], List.getElem?_eq_getElem hindex, fun hfits => ?_⟩
  have hshard := List.getElem?_eq_getElem hindex
  generalize x.1.shards[x.1.shardFor key] = shard at *
  have hsound := hinv.sound _ shard hshard
  have hfound : ((shard.add key data).lookup key).2 = some data :=
    Shard.add_lookup hsound.linked hsound.bounded hfits fun page hpage hkey => by
      have hsize := latest_sized hreach page.1 page.2 (hsound.current page hpage)
      rw [hkey] at hsize
      exact Int.ofNat_inj.mp hsize.symm
  have hadd : x.1.Add cacheKey offset data =
      ⟨x.1.shards.set (x.1.shardFor key) (shard.add key data)⟩ := by
    rw [PageCache.Add, if_neg (by simpa using hdata)]
    simp only [key, hshard]
  have hlookup : ((x.1.Add cacheKey offset data).lookup key).2 = some data := by
    have hfor : (x.1.Add cacheKey offset data).shardFor key = x.1.shardFor key := by
      simp [hadd, PageCache.shardFor]
    rw [PageCache.lookup, hfor, hadd, List.getElem?_set_self hindex]
    exact hfound
  obtain ⟨hperm, hcount⟩ := Shard.hand_evicts (hsound.linked.store key data)
    (2 * (shard.store key data).ring.length)
  exact ⟨hlookup, hlookup, hperm, hcount.trans List.countP_le_length⟩

/-- A third page in a cache of eight bytes whose entries are both referenced. -/
theorem added_page_stays_third :
    ∃ x, (auditedCache 8).Reachable System.Always x ∧
      x.1.shards.map (fun s => s.ring.map fun e => (s.entries e).ref) = [[true, true]] ∧
      ((x.1.Add "m" 8 [5, 6, 7, 8]).Get "m" 8 4).2 = some [5, 6, 7, 8] := by
  obtain ⟨x, hx, hrefs, hmax⟩ := System.exists_reachable_of_replay (auditedCache 8) System.Always
    (fun x => x.1.shards.map (fun s => s.ring.map fun e => (s.entries e).ref) = [[true, true]] ∧
      x.1.shards.map (·.maxBytes) = [8])
    [.add "m" 0 [1, 2, 3, 4], .add "m" 4 [9, 9, 9, 9], .borrow "m" 0 4, .borrow "m" 4 4]
    (by decide +kernel)
  obtain ⟨shard, hshard, h⟩ := added_page_stays 8 hx "m" 8 [5, 6, 7, 8] (by decide)
  have hbudget : shard.maxBytes = 8 := by
    have hmem := List.mem_map_of_mem (f := Shard.maxBytes) (List.mem_of_getElem? hshard)
    rw [hmax] at hmem
    simpa using hmem
  exact ⟨x, hx, hrefs, (h (by rw [hbudget]; decide)).1⟩

/-- An empty page is not stored. -/
theorem empty_page_missed :
    (((NewPageCache 8).Add "m" 0 []).Get "m" 0 0).2 = none := by
  decide +kernel

end Hypeman.UffdPager
