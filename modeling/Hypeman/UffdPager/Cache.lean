import Hypeman.Foundations.Loop
import Hypeman.Foundations.System
import Hypeman.Foundations.Table
import Mathlib.Algebra.Order.Ring.Int
import Mathlib.Algebra.Order.BigOperators.Group.List

/-!
# The page cache

The pager's cache of guest memory pages (`lib/uffdpager/cache.go`): pages are spread over shards by
a hash of their key, and each shard evicts by a CLOCK sweep over its ring of entries. A shard's ring
and its index share the entries by pointer; here a pointer is a number, and the entries are a
function of it.

* `Shard.lookup`, `Shard.add`, `Shard.evictLocked`: one shard.
* `Shard.pages`: what a shard stores; `Shard.Linked`: the byte counter, the index and the ring agree
  on it.
* `evictLocked_exit`: the sweep ends.
* `cache_sound`: what holds after any calls.
-/

namespace Hypeman.UffdPager

open Foundations

structure PageKey where
  cacheKey : String
  offset : Int64
  /-- An `int`, the length of the page. -/
  size : ℤ
deriving DecidableEq, Repr

structure CacheEntry where
  key : PageKey
  data : List UInt8
  /-- The CLOCK reference bit. -/
  ref : Bool
deriving DecidableEq, Repr

/-- `pageCacheShard`, with the entries its pointers lead to. -/
structure Shard where
  maxBytes : ℤ
  bytes : ℤ
  items : Table PageKey ℕ
  /-- The CLOCK sweep order, front first. -/
  ring : List ℕ
  entries : ℕ → CacheEntry
  /-- The next pointer to allocate. -/
  fresh : ℕ

/-! ## One shard -/

namespace Shard

variable (s : Shard)

def setRef (elem : ℕ) (ref : Bool) : Shard :=
  { s with entries := Function.update s.entries elem { s.entries elem with ref } }

/-- `lookup`, in the shard of the key. -/
def lookup (key : PageKey) : Shard × Option (List UInt8) :=
  match s.items.lookup key with
  | none => (s, none)
  | some elem => (s.setRef elem true, some (s.entries elem).data)

/-- One round of the loop of `evictLocked`: an entry at the back of the ring whose reference bit is
set loses it and moves to the front, another one is evicted. -/
def evictRound : Option Shard :=
  if s.bytes > s.maxBytes then
    match s.ring.getLast? with
    | none => none
    | some elem =>
      if (s.entries elem).ref then
        some { s.setRef elem false with ring := elem :: s.ring.dropLast }
      else
        some { s with items := s.items.erase (s.entries elem).key
                      bytes := s.bytes - (s.entries elem).data.length
                      ring := s.ring.dropLast }
  else none

/-- `evictLocked`. An entry is passed over once at most before it is evicted. -/
def evictLocked : Shard := rounds evictRound (2 * s.ring.length) s

/-- `Add` before it evicts, in the shard of the key. -/
def store (key : PageKey) (value : List UInt8) : Shard :=
  match s.items.lookup key with
  | some elem =>
    { s with bytes := s.bytes - (s.entries elem).data.length + value.length
             entries := Function.update s.entries elem
               { s.entries elem with data := value, ref := true } }
  | none =>
    { s with bytes := s.bytes + value.length
             items := s.items.insert key s.fresh
             ring := s.fresh :: s.ring
             entries := Function.update s.entries s.fresh { key, data := value, ref := true }
             fresh := s.fresh + 1 }

/-- `Add`, in the shard of the key. -/
def add (key : PageKey) (value : List UInt8) : Shard := (s.store key value).evictLocked

/-- What the shard stores, in the order of the ring. -/
def pages : List (PageKey × List UInt8) :=
  s.ring.map fun elem => ((s.entries elem).key, (s.entries elem).data)

/-- The byte counter, the index and the ring agree. -/
structure Linked : Prop where
  /-- The counter is the sum of the lengths of the stored pages. -/
  counted : s.bytes = (s.pages.map fun page => (page.2.length : ℤ)).sum
  /-- The index leads to the entries of the ring, each under its key. -/
  indexed : ∀ key elem, s.items.lookup key = some elem ↔ elem ∈ s.ring ∧ (s.entries elem).key = key
  /-- No key is stored twice. -/
  distinct : (s.pages.map Prod.fst).Nodup
  older : ∀ elem ∈ s.ring, elem < s.fresh

variable {s}

@[simp] theorem setRef_data (elem other : ℕ) (ref : Bool) :
    ((s.setRef elem ref).entries other).data = (s.entries other).data := by
  simp only [setRef, Function.update_apply]
  split
  next h => rw [h]
  next => rfl

@[simp] theorem setRef_key (elem other : ℕ) (ref : Bool) :
    ((s.setRef elem ref).entries other).key = (s.entries other).key := by
  simp only [setRef, Function.update_apply]
  split
  next h => rw [h]
  next => rfl

@[simp] theorem setRef_pages (elem : ℕ) (ref : Bool) : (s.setRef elem ref).pages = s.pages := by
  simp only [pages, setRef_data, setRef_key]
  rfl

theorem Linked.setRef (h : s.Linked) (elem : ℕ) (ref : Bool) : (s.setRef elem ref).Linked where
  counted := by
    rw [setRef_pages]
    exact h.counted
  indexed key other := by
    rw [setRef_key]
    exact h.indexed key other
  distinct := by
    rw [setRef_pages]
    exact h.distinct
  older := h.older

theorem Linked.nodup (h : s.Linked) : s.ring.Nodup := by
  have hdistinct := h.distinct
  rw [pages, List.map_map] at hdistinct
  exact hdistinct.of_map

/-- The entry at the back of the ring is there once. -/
theorem Linked.not_mem_front (h : s.Linked) {front : List ℕ} {elem : ℕ}
    (hring : s.ring = front ++ [elem]) : elem ∉ front := by
  have hnodup := h.nodup
  rw [hring] at hnodup
  exact fun hmem =>
    (List.nodup_append.mp hnodup).2.2 elem hmem elem (List.mem_singleton.mpr rfl) rfl

/-- Two entries of the ring with one key are one entry. -/
theorem Linked.elem_unique (h : s.Linked) {a b : ℕ} (ha : a ∈ s.ring) (hb : b ∈ s.ring)
    (hkey : (s.entries a).key = (s.entries b).key) : a = b := by
  have ha' := (h.indexed _ a).mpr ⟨ha, hkey⟩
  have hb' := (h.indexed _ b).mpr ⟨hb, rfl⟩
  rw [ha'] at hb'
  exact Option.some.inj hb'

theorem lookup_pages (key : PageKey) : (s.lookup key).1.pages = s.pages := by
  unfold lookup
  split
  · rfl
  · exact setRef_pages _ _

theorem Linked.lookup (h : s.Linked) (key : PageKey) : (s.lookup key).1.Linked := by
  unfold Shard.lookup
  split
  · exact h
  · exact h.setRef _ _

/-- A hit returns what is stored under the key. -/
theorem Linked.lookup_mem (h : s.Linked) {key : PageKey} {data : List UInt8}
    (hhit : (s.lookup key).2 = some data) : (key, data) ∈ s.pages := by
  unfold Shard.lookup at hhit
  split at hhit
  · cases hhit
  · next elem helem =>
    cases hhit
    obtain ⟨hmem, rfl⟩ := (h.indexed key elem).mp helem
    exact List.mem_map_of_mem hmem

/-! ## The sweep -/

/-- The ways a round of the sweep can go, for the entry at the back of the ring. -/
inductive Sweeps (s : Shard) : Shard → Prop
  | spare {front : List ℕ} {elem : ℕ} (hring : s.ring = front ++ [elem])
      (href : (s.entries elem).ref = true) :
      Sweeps s { s.setRef elem false with ring := elem :: front }
  | evict {front : List ℕ} {elem : ℕ} (hring : s.ring = front ++ [elem])
      (href : (s.entries elem).ref = false) :
      Sweeps s { s with items := s.items.erase (s.entries elem).key
                        bytes := s.bytes - (s.entries elem).data.length
                        ring := front }

theorem evictRound_sweeps {s' : Shard} (h : s.evictRound = some s') : Sweeps s s' := by
  unfold evictRound at h
  split at h
  next =>
    split at h
    · cases h
    · next elem helem =>
      obtain ⟨front, hring⟩ := List.getLast?_eq_some_iff.mp helem
      rw [hring, List.dropLast_concat] at h
      split at h
      · next href =>
        cases h
        exact .spare hring href
      · next href =>
        cases h
        exact .evict hring (Bool.eq_false_iff.mpr href)
  next => cases h

/-- A loop that is left has brought the shard back under its budget, or emptied it. -/
theorem le_of_evictRound (h : s.evictRound = none) : s.bytes ≤ s.maxBytes ∨ s.ring = [] := by
  unfold evictRound at h
  split at h
  next =>
    split at h
    · next hnone => exact .inr (List.getLast?_eq_none_iff.mp hnone)
    · split at h <;> cases h
  next hle => exact .inl (not_lt.mp hle)

theorem Sweeps.linked {s' : Shard} (hs : Sweeps s s') (h : s.Linked) : s'.Linked := by
  cases hs with
  | @spare front elem hring href =>
    have h' := h.setRef elem false
    have hperm : (elem :: front).Perm s.ring := by
      rw [hring]
      exact (List.perm_append_singleton elem front).symm
    have hpages := hperm.map fun e =>
      (((s.setRef elem false).entries e).key, ((s.setRef elem false).entries e).data)
    refine ⟨?_, fun key other => ?_, ?_, fun other hother =>
      h.older other (hperm.mem_iff.mp hother)⟩
    · exact h'.counted.trans (hpages.map _).sum_eq.symm
    · exact (h'.indexed key other).trans (and_congr_left' hperm.mem_iff.symm)
    · exact (hpages.map Prod.fst).nodup_iff.mpr h'.distinct
  | @evict front elem hring href =>
    have hcounted := h.counted
    have hdistinct := h.distinct
    rw [pages, hring, List.map_append] at hcounted hdistinct
    refine ⟨?_, fun key other => ?_, ?_, fun other hother => h.older other ?_⟩
    · simp only [List.map_append, List.map_cons, List.map_nil, List.sum_append, List.sum_cons,
        List.sum_nil, add_zero] at hcounted
      exact sub_eq_of_eq_add hcounted
    · rw [Table.lookup_erase]
      split
      next hkey =>
        -- the key of the evicted entry is no other entry's
        refine iff_of_false (by simp) ?_
        rintro ⟨hother, hkey'⟩
        have hother' : other ∈ s.ring := by simp [hring, hother]
        have heq := h.elem_unique hother' (by simp [hring]) (hkey'.trans hkey)
        exact h.not_mem_front hring (heq ▸ hother)
      next hkey =>
        rw [h.indexed, hring, List.mem_append, List.mem_singleton]
        refine and_congr_left fun hkey' => or_iff_left ?_
        rintro rfl
        exact hkey hkey'.symm
    · rw [List.map_append] at hdistinct
      exact hdistinct.of_append_left
    · rw [hring]
      exact List.mem_append_left _ hother

theorem Sweeps.pages_subset {s' : Shard} (hs : Sweeps s s') : s'.pages ⊆ s.pages := by
  cases hs with
  | @spare front elem hring href =>
    intro page hpage
    obtain ⟨other, hother, rfl⟩ := List.mem_map.mp hpage
    dsimp only
    rw [setRef_key, setRef_data]
    refine List.mem_map_of_mem ?_
    rw [hring]
    exact (List.perm_append_singleton elem front).mem_iff.mpr hother
  | @evict front elem hring href =>
    refine List.map_subset _ ?_
    rw [hring]
    exact List.subset_append_left _ _

/-- What is left to sweep: every entry once, and once more for its reference bit. -/
def work (s : Shard) : ℕ := s.ring.length + s.ring.countP fun elem => (s.entries elem).ref

theorem Sweeps.work_lt {s' : Shard} (hs : Sweeps s s') (h : s.Linked) : s'.work < s.work := by
  cases hs with
  | @spare front elem hring href =>
    have hfront : front.countP (fun e => ((s.setRef elem false).entries e).ref) =
        front.countP (fun e => (s.entries e).ref) := by
      refine List.countP_congr fun e he => ?_
      have hne : e ≠ elem := fun heq => h.not_mem_front hring (heq ▸ he)
      simp only [setRef, Function.update_of_ne hne]
    simp only [work, hring, List.length_cons, List.length_append, List.length_nil,
      List.countP_cons, List.countP_append, List.countP_nil, href, hfront]
    simp [setRef]
  | @evict front elem hring href =>
    simp only [work, hring, List.length_cons, List.length_append, List.length_nil,
      List.countP_cons, List.countP_append, List.countP_nil]
    omega

/-- **The sweep ends**, from every shard whose ring and index agree. -/
theorem evictLocked_exit (h : s.Linked) : s.evictLocked.evictRound = none := by
  refine rounds_exit (I := Linked) (f := work)
    (fun s s' hs hs' => (evictRound_sweeps hs').linked hs)
    (fun s s' hs hs' => (evictRound_sweeps hs').work_lt hs) h ?_
  have : s.ring.countP (fun elem => (s.entries elem).ref) ≤ s.ring.length := List.countP_le_length
  unfold work
  omega

theorem Linked.evictLocked (h : s.Linked) : s.evictLocked.Linked :=
  rounds_invariant (fun _ _ hs hs' => (evictRound_sweeps hs').linked hs) _ h

theorem evictLocked_pages_subset (s : Shard) : s.evictLocked.pages ⊆ s.pages :=
  rounds_invariant (I := fun s' => s'.pages ⊆ s.pages)
    (fun _ _ hs hs' => List.Subset.trans (evictRound_sweeps hs').pages_subset hs) _
    (List.Subset.refl _)

theorem evictLocked_maxBytes (s : Shard) : s.evictLocked.maxBytes = s.maxBytes := by
  refine rounds_invariant (I := fun s' : Shard => s'.maxBytes = s.maxBytes)
    (fun s₁ s₂ hs hs' => ?_) _ rfl
  cases evictRound_sweeps hs' with
  | spare | evict => exact hs

/-! ## Adding a page -/

/-- A page under a known key replaces the one that is stored. -/
theorem Linked.store_pages_of_some (h : s.Linked) {key : PageKey} {elem : ℕ} (value : List UInt8)
    (helem : s.items.lookup key = some elem) :
    (s.store key value).pages =
      s.pages.map fun page => if page.1 = key then (key, value) else page := by
  obtain ⟨hmem, hkey⟩ := (h.indexed key elem).mp helem
  simp only [store, helem, pages, List.map_map]
  refine List.map_congr_left fun other hother => ?_
  simp only [Function.comp_apply]
  split
  next hother' =>
    rw [h.elem_unique hother hmem (hother'.trans hkey.symm), Function.update_self]
    exact Prod.ext hkey rfl
  next hne =>
    have : other ≠ elem := by
      rintro rfl
      exact hne hkey
    rw [Function.update_of_ne this]

/-- A page under a new key comes to the front. -/
theorem Linked.store_pages_of_none (h : s.Linked) {key : PageKey} (value : List UInt8)
    (hnone : s.items.lookup key = none) :
    (s.store key value).pages = (key, value) :: s.pages := by
  simp only [store, hnone, pages, List.map_cons, Function.update_self]
  congr 1
  refine List.map_congr_left fun other hother => ?_
  rw [Function.update_of_ne (h.older other hother).ne]

/-- After `Add`, what is stored under the key is the new page, and the other pages were stored
before. -/
theorem Linked.mem_store_pages (h : s.Linked) {key : PageKey} {value : List UInt8}
    {page : PageKey × List UInt8} (hpage : page ∈ (s.store key value).pages) :
    page = (key, value) ∨ page.1 ≠ key ∧ page ∈ s.pages := by
  cases helem : s.items.lookup key with
  | some elem =>
    rw [h.store_pages_of_some value helem] at hpage
    obtain ⟨old, hold, rfl⟩ := List.mem_map.mp hpage
    split
    next => exact .inl rfl
    next hne => exact .inr ⟨hne, hold⟩
  | none =>
    rw [h.store_pages_of_none value helem] at hpage
    rcases List.mem_cons.mp hpage with rfl | hpage
    · exact .inl rfl
    · refine .inr ⟨fun hkey => ?_, hpage⟩
      obtain ⟨other, hother, rfl⟩ := List.mem_map.mp hpage
      rw [(h.indexed key other).mpr ⟨hother, hkey⟩] at helem
      cases helem

theorem Linked.store_of_some (h : s.Linked) {key : PageKey} {elem : ℕ} (value : List UInt8)
    (helem : s.items.lookup key = some elem) : (s.store key value).Linked := by
  obtain ⟨hmem, hkey⟩ := (h.indexed key elem).mp helem
  have hkeys : ∀ other, ((s.store key value).entries other).key = (s.entries other).key := by
    intro other
    simp only [Shard.store, helem, Function.update_apply]
    split
    next heq => rw [heq]
    next => rfl
  have hring : (s.store key value).ring = s.ring := by simp only [Shard.store, helem]
  constructor
  case counted =>
    have hcounted := h.counted
    have herase := List.sum_map_erase (fun e => ((s.entries e).data.length : ℤ)) hmem
    have hrest : ((s.ring.erase elem).map fun e =>
          (((s.store key value).entries e).data.length : ℤ)) =
        (s.ring.erase elem).map fun e => ((s.entries e).data.length : ℤ) := by
      refine List.map_congr_left fun other hother => ?_
      have hne : other ≠ elem := fun heq =>
        h.nodup.not_mem_erase (heq ▸ hother)
      simp only [Shard.store, helem, Function.update_of_ne hne]
    have herase' := List.sum_map_erase
      (fun e => (((s.store key value).entries e).data.length : ℤ)) hmem
    rw [hrest] at herase'
    simp only [pages, List.map_map, Function.comp_def, hring] at hcounted ⊢
    rw [← hcounted] at herase
    rw [← herase']
    simp only [Shard.store, helem, Function.update_self]
    omega
  case indexed =>
    intro key' other
    rw [hkeys, hring]
    simp only [Shard.store, helem]
    exact h.indexed key' other
  case distinct =>
    have hdistinct := h.distinct
    simp only [pages, List.map_map, Function.comp_def, hring, hkeys] at hdistinct ⊢
    exact hdistinct
  case older =>
    intro other hother
    simp only [Shard.store, helem] at hother ⊢
    exact h.older other hother

theorem Linked.store_of_none (h : s.Linked) {key : PageKey} (value : List UInt8)
    (helem : s.items.lookup key = none) : (s.store key value).Linked := by
  have hne : ∀ other ∈ s.ring, other ≠ s.fresh := fun other hother => (h.older other hother).ne
  have hpages := h.store_pages_of_none value helem
  constructor
  case counted =>
    rw [hpages, List.map_cons, List.sum_cons, ← h.counted]
    simp only [Shard.store, helem]
    omega
  case indexed =>
    intro key' other
    simp only [Shard.store, helem, Table.lookup_insert, List.mem_cons]
    by_cases hother : other = s.fresh
    · subst hother
      simp only [Function.update_self, true_or, true_and, eq_comm (a := key)]
      split
      next hkey => exact iff_of_true rfl hkey
      next hkey =>
        refine iff_of_false (fun hlookup => ?_) hkey
        exact hne _ ((h.indexed key' _).mp hlookup).1 rfl
    · simp only [hother, false_or, Function.update_of_ne hother, ← h.indexed key' other]
      split
      next hkey =>
        subst hkey
        refine iff_of_false (fun heq => hother (Option.some.inj heq).symm) ?_
        rw [helem]
        exact fun heq => by cases heq
      next => rfl
  case distinct =>
    rw [hpages, List.map_cons, List.nodup_cons]
    refine ⟨fun hmem => ?_, h.distinct⟩
    obtain ⟨page, hpage, hkey⟩ := List.mem_map.mp hmem
    obtain ⟨other, hother, rfl⟩ := List.mem_map.mp hpage
    rw [(h.indexed key other).mpr ⟨hother, hkey⟩] at helem
    cases helem
  case older =>
    intro other hother
    simp only [Shard.store, helem, List.mem_cons] at hother ⊢
    rcases hother with rfl | hother
    · exact Nat.lt_succ_self _
    · exact (h.older other hother).trans (Nat.lt_succ_self _)

theorem Linked.store (h : s.Linked) (key : PageKey) (value : List UInt8) :
    (s.store key value).Linked := by
  cases helem : s.items.lookup key with
  | some elem => exact h.store_of_some value helem
  | none => exact h.store_of_none value helem

theorem Linked.add (h : s.Linked) (key : PageKey) (value : List UInt8) :
    (s.add key value).Linked := (h.store key value).evictLocked

theorem Linked.mem_add_pages (h : s.Linked) {key : PageKey} {value : List UInt8}
    {page : PageKey × List UInt8} (hpage : page ∈ (s.add key value).pages) :
    page = (key, value) ∨ page.1 ≠ key ∧ page ∈ s.pages :=
  h.mem_store_pages (evictLocked_pages_subset _ hpage)

theorem add_maxBytes (key : PageKey) (value : List UInt8) :
    (s.add key value).maxBytes = s.maxBytes := by
  rw [add, evictLocked_maxBytes]
  unfold store
  split <;> rfl

/-- The budget is kept. -/
theorem Linked.add_bytes_le (h : s.Linked) (hpos : 0 ≤ s.maxBytes) (key : PageKey)
    (value : List UInt8) : (s.add key value).bytes ≤ (s.add key value).maxBytes := by
  rcases le_of_evictRound (evictLocked_exit (h.store key value)) with hle | hnil
  · exact hle
  · have hcounted := (h.add key value).counted
    rw [pages, Shard.add, hnil] at hcounted
    rw [add_maxBytes, Shard.add, hcounted]
    exact hpos

end Shard

/-! ## The cache -/

structure PageCache where
  shards : List Shard

/-- `defaultCacheMaxBytes`: 4 GiB. -/
def defaultCacheMaxBytes : ℤ := 4294967296

def normalizeCacheMaxBytes (v : ℤ) : ℤ := if v ≤ 0 then defaultCacheMaxBytes else v

/-- `pageCacheShardCount`: one shard for 64 MiB. -/
def pageCacheShardCount (maxBytes : ℤ) : ℕ :=
  let count := maxBytes / 67108864
  if count < 1 then 1 else if count > 64 then 64 else count.toNat

def newShard (maxBytes : ℤ) : Shard where
  maxBytes := maxBytes
  bytes := 0
  items := ∅
  ring := []
  entries _ := { key := { cacheKey := "", offset := 0, size := 0 }, data := [], ref := false }
  fresh := 0

def NewPageCache (maxBytes : ℤ) : PageCache :=
  let maxBytes := normalizeCacheMaxBytes maxBytes
  let shardCount := pageCacheShardCount maxBytes
  let shardMax := if maxBytes / shardCount ≤ 0 then maxBytes else maxBytes / shardCount
  { shards := List.replicate shardCount (newShard shardMax) }

def mixPageHash (hash : UInt64) : UInt64 :=
  let hash := hash ^^^ (hash >>> 33)
  let hash := hash * 0xff51afd7ed558ccd
  let hash := hash ^^^ (hash >>> 33)
  let hash := hash * 0xc4ceb9fe1a85ec53
  hash ^^^ (hash >>> 33)

def hashPageKey (key : PageKey) : UInt64 :=
  let mix (hash word : UInt64) : UInt64 := (hash ^^^ word) * 1099511628211
  let hash := key.cacheKey.toUTF8.toList.foldl (fun hash byte => mix hash byte.toUInt64)
    14695981039346656037
  let hash := mix hash key.offset.toUInt64
  let hash := mix hash (key.offset >>> 32).toUInt64
  let hash := mix hash (Int64.ofInt key.size).toUInt64
  mixPageHash hash

def shardIndex (count : ℕ) (key : PageKey) : ℕ :=
  if count = 1 then 0 else (hashPageKey key).toNat % count

namespace PageCache

variable (c : PageCache)

def shardFor (key : PageKey) : ℕ := shardIndex c.shards.length key

/-- `lookup`; the first component is the cache with the reference bit set. -/
def lookup (key : PageKey) : PageCache × Option (List UInt8) :=
  match c.shards[c.shardFor key]? with
  | none => (c, none)
  | some shard =>
    ({ shards := c.shards.set (c.shardFor key) (shard.lookup key).1 }, (shard.lookup key).2)

def Get (cacheKey : String) (offset : Int64) (size : ℤ) : PageCache × Option (List UInt8) :=
  c.lookup { cacheKey, offset, size }

def Borrow (cacheKey : String) (offset : Int64) (size : ℤ) : PageCache × Option (List UInt8) :=
  c.lookup { cacheKey, offset, size }

def Add (cacheKey : String) (offset : Int64) (data : List UInt8) : PageCache :=
  if data.length = 0 then c
  else
    let key := { cacheKey, offset, size := data.length }
    match c.shards[c.shardFor key]? with
    | none => c
    | some shard => { shards := c.shards.set (c.shardFor key) (shard.add key data) }

end PageCache

/-! ## The cache in use -/

inductive CacheCall
  | add (cacheKey : String) (offset : Int64) (data : List UInt8)
  | get (cacheKey : String) (offset : Int64) (size : ℤ)
  | borrow (cacheKey : String) (offset : Int64) (size : ℤ)
deriving DecidableEq, Repr

def cacheSystem (maxBytes : ℤ) : System PageCache CacheCall where
  init := NewPageCache maxBytes
  step c
    | .add cacheKey offset data => some (c.Add cacheKey offset data)
    | .get cacheKey offset size => some (c.Get cacheKey offset size).1
    | .borrow cacheKey offset size => some (c.Borrow cacheKey offset size).1

def latestAdd (latest : PageKey → Option (List UInt8)) (_ : PageCache) (e : CacheCall)
    (_ : PageCache) : PageKey → Option (List UInt8) :=
  match e with
  | .add cacheKey offset data =>
    Function.update latest { cacheKey, offset, size := data.length } (some data)
  | .get .. => latest
  | .borrow .. => latest

/-- The cache under any calls, with the data added for each key. -/
def auditedCache (maxBytes : ℤ) : System (PageCache × (PageKey → Option (List UInt8))) CacheCall :=
  (cacheSystem maxBytes).monitored (fun _ => none) latestAdd

/-- The invariant of the cache, for one of its shards. -/
structure Sound (count : ℕ) (shardMax : ℤ) (latest : PageKey → Option (List UInt8)) (i : ℕ)
    (shard : Shard) : Prop where
  linked : shard.Linked
  budget : shard.maxBytes = shardMax
  bounded : shard.bytes ≤ shard.maxBytes
  home : ∀ page ∈ shard.pages, shardIndex count page.1 = i
  sized : ∀ page ∈ shard.pages, page.1.size ≠ 0
  current : ∀ page ∈ shard.pages, latest page.1 = some page.2

structure CacheInvariant (count : ℕ) (shardMax : ℤ)
    (x : PageCache × (PageKey → Option (List UInt8))) : Prop where
  length : x.1.shards.length = count
  sound : ∀ i shard, x.1.shards[i]? = some shard → Sound count shardMax x.2 i shard

section Invariant

variable {count : ℕ} {shardMax : ℤ} {latest : PageKey → Option (List UInt8)} {i : ℕ} {shard : Shard}

theorem newShard_sound (hmax : 0 ≤ shardMax) (i : ℕ) :
    Sound count shardMax latest i (newShard shardMax) where
  linked := ⟨rfl, fun key elem => by simp [newShard], List.nodup_nil, fun _ h => by cases h⟩
  budget := rfl
  bounded := hmax
  home _ h := by cases h
  sized _ h := by cases h
  current _ h := by cases h

theorem Sound.lookup (h : Sound count shardMax latest i shard) (key : PageKey) :
    Sound count shardMax latest i (shard.lookup key).1 := by
  have hsame : (shard.lookup key).1.maxBytes = shard.maxBytes ∧
      (shard.lookup key).1.bytes = shard.bytes := by
    unfold Shard.lookup
    split <;> exact ⟨rfl, rfl⟩
  have hpages := shard.lookup_pages key
  refine ⟨h.linked.lookup key, hsame.1.trans h.budget, ?_, ?_, ?_, ?_⟩
  · rw [hsame.1, hsame.2]
    exact h.bounded
  · rw [hpages]
    exact h.home
  · rw [hpages]
    exact h.sized
  · rw [hpages]
    exact h.current

theorem Sound.add (h : Sound count shardMax latest i shard) (hmax : 0 ≤ shardMax) {key : PageKey}
    {value : List UInt8} (hkey : shardIndex count key = i) (hsize : key.size ≠ 0) :
    Sound count shardMax (Function.update latest key (some value)) i (shard.add key value) := by
  refine ⟨h.linked.add key value, (shard.add_maxBytes key value).trans h.budget,
    h.linked.add_bytes_le (h.budget ▸ hmax) key value, ?_, ?_, ?_⟩
  all_goals
    intro page hpage
    rcases h.linked.mem_add_pages hpage with rfl | ⟨hne, hold⟩
  · exact hkey
  · exact h.home page hold
  · exact hsize
  · exact h.sized page hold
  · exact Function.update_self ..
  · rw [Function.update_of_ne hne]
    exact h.current page hold

/-- A shard does not see what is added under a key that it does not store. -/
theorem Sound.update (h : Sound count shardMax latest i shard) {key : PageKey}
    (hkey : shardIndex count key ≠ i ∨ key.size = 0) (value : Option (List UInt8)) :
    Sound count shardMax (Function.update latest key value) i shard := by
  refine { h with current := fun page hpage => ?_ }
  have hne : page.1 ≠ key := by
    rintro rfl
    rcases hkey with hkey | hsize
    · exact hkey (h.home page hpage)
    · exact h.sized page hpage hsize
  rw [Function.update_of_ne hne]
  exact h.current page hpage

/-- A shard after one of them has changed. -/
theorem getElem?_set_shard {shards : List Shard} {i j : ℕ} {new other : Shard}
    (h : (shards.set j new)[i]? = some other) :
    i = j ∧ other = new ∨ i ≠ j ∧ shards[i]? = some other := by
  rw [List.getElem?_set] at h
  split at h
  next hij =>
    split at h
    · cases h
      exact .inl ⟨hij.symm, rfl⟩
    · cases h
  next hij => exact .inr ⟨fun heq => hij heq.symm, h⟩

variable {x : PageCache × (PageKey → Option (List UInt8))}

theorem CacheInvariant.lookup (h : CacheInvariant count shardMax x) (key : PageKey) :
    CacheInvariant count shardMax ((x.1.lookup key).1, x.2) := by
  unfold PageCache.lookup
  split
  · exact h
  · next shard hshard =>
    refine ⟨(List.length_set ..).trans h.length, fun i other hother => ?_⟩
    rcases getElem?_set_shard hother with ⟨rfl, rfl⟩ | ⟨-, hother⟩
    · exact (h.sound _ shard hshard).lookup key
    · exact h.sound i other hother

theorem CacheInvariant.add (h : CacheInvariant count shardMax x) (hmax : 0 ≤ shardMax)
    (cacheKey : String) (offset : Int64) (data : List UInt8) :
    CacheInvariant count shardMax (x.1.Add cacheKey offset data,
      Function.update x.2 { cacheKey, offset, size := data.length } (some data)) := by
  unfold PageCache.Add
  split
  · next hempty =>
    refine ⟨h.length, fun i shard hshard => (h.sound i shard hshard).update (.inr ?_) _⟩
    simpa using hempty
  · next hdata =>
    dsimp only
    have hsize : ((data.length : ℕ) : ℤ) ≠ 0 := by simpa using hdata
    split
    · next hnone =>
      refine ⟨h.length, fun i shard hshard => (h.sound i shard hshard).update (.inl ?_) _⟩
      rintro rfl
      rw [PageCache.shardFor, h.length, hshard] at hnone
      cases hnone
    · next shard hshard =>
      refine ⟨(List.length_set ..).trans h.length, fun i other hother => ?_⟩
      rw [PageCache.shardFor, h.length] at hother hshard
      rcases getElem?_set_shard hother with ⟨rfl, rfl⟩ | ⟨hi, hother⟩
      · exact (h.sound _ shard hshard).add hmax rfl hsize
      · exact (h.sound i other hother).update (.inl hi.symm) _

/-- A hit returns the data of the latest `Add`. -/
theorem CacheInvariant.lookup_latest (h : CacheInvariant count shardMax x) {key : PageKey}
    {data : List UInt8} (hhit : (x.1.lookup key).2 = some data) : x.2 key = some data := by
  unfold PageCache.lookup at hhit
  split at hhit
  · cases hhit
  · next shard hshard =>
    have hsound := h.sound _ shard hshard
    exact hsound.current _ (hsound.linked.lookup_mem hhit)

end Invariant

def shardBudget (maxBytes : ℤ) : ℤ := maxBytes / pageCacheShardCount maxBytes

theorem pageCacheShardCount_pos (maxBytes : ℤ) : 0 < pageCacheShardCount maxBytes := by
  unfold pageCacheShardCount
  dsimp only
  split
  · omega
  · split <;> omega

theorem pageCacheShardCount_le {maxBytes : ℤ} (hpos : 0 < maxBytes) :
    (pageCacheShardCount maxBytes : ℤ) ≤ maxBytes := by
  unfold pageCacheShardCount
  dsimp only
  split
  · omega
  · split <;> omega

theorem shardBudget_pos {maxBytes : ℤ} (hpos : 0 < maxBytes) : 0 < shardBudget maxBytes := by
  have hcount : (0 : ℤ) < pageCacheShardCount maxBytes := by
    exact_mod_cast pageCacheShardCount_pos maxBytes
  refine Int.lt_of_lt_of_le Int.zero_lt_one ((Int.le_ediv_iff_mul_le hcount).mpr ?_)
  rw [one_mul]
  exact pageCacheShardCount_le hpos

theorem normalizeCacheMaxBytes_pos (maxBytes : ℤ) : 0 < normalizeCacheMaxBytes maxBytes := by
  unfold normalizeCacheMaxBytes
  split
  · decide
  · omega

theorem NewPageCache_eq (maxBytes : ℤ) :
    NewPageCache maxBytes =
      { shards := List.replicate (pageCacheShardCount (normalizeCacheMaxBytes maxBytes))
          (newShard (shardBudget (normalizeCacheMaxBytes maxBytes))) } := by
  have hbudget := shardBudget_pos (normalizeCacheMaxBytes_pos maxBytes)
  unfold shardBudget at hbudget ⊢
  simp only [NewPageCache, if_neg (not_le.mpr hbudget)]

theorem NewPageCache_invariant (maxBytes : ℤ) (latest : PageKey → Option (List UInt8)) :
    CacheInvariant (pageCacheShardCount (normalizeCacheMaxBytes maxBytes))
      (shardBudget (normalizeCacheMaxBytes maxBytes)) (NewPageCache maxBytes, latest) := by
  rw [NewPageCache_eq]
  refine ⟨List.length_replicate, fun i shard hshard => ?_⟩
  obtain rfl := List.eq_of_mem_replicate (List.mem_of_getElem? hshard)
  exact newShard_sound (shardBudget_pos (normalizeCacheMaxBytes_pos maxBytes)).le i

theorem reachable_cacheInvariant {maxBytes : ℤ}
    {x : PageCache × (PageKey → Option (List UInt8))}
    (h : (auditedCache maxBytes).Reachable System.Always x) :
    CacheInvariant (pageCacheShardCount (normalizeCacheMaxBytes maxBytes))
      (shardBudget (normalizeCacheMaxBytes maxBytes)) x := by
  have hmax := (shardBudget_pos (normalizeCacheMaxBytes_pos maxBytes)).le
  refine h.invariant (NewPageCache_invariant maxBytes _) fun y e z hy _ hs => ?_
  obtain ⟨c, latest⟩ := z
  obtain ⟨hc, hlatest⟩ := System.monitored_step_iff.mp hs
  dsimp only at hc hlatest
  subst hlatest
  cases e with
  | add cacheKey offset data =>
    cases hc
    exact hy.add hmax cacheKey offset data
  | get cacheKey offset size =>
    cases hc
    exact hy.lookup _
  | borrow cacheKey offset size =>
    cases hc
    exact hy.lookup _

/-- **The page cache stays within its budget and returns what was added last**: after any calls of a
cache with a positive budget, the counter, the index and the ring of every shard agree, every sweep
ends, and a hit returns the data of the latest `Add` for its key and size. -/
theorem cache_sound (maxBytes : ℤ) (hpos : 0 < maxBytes)
    (x : PageCache × (PageKey → Option (List UInt8)))
    (h : (auditedCache maxBytes).Reachable System.Always x) :
    (∀ shard ∈ x.1.shards, shard.Linked ∧ shard.bytes ≤ shard.maxBytes ∧
        shard.evictLocked.evictRound = none ∧
        ∀ key value, (shard.store key value).evictLocked.evictRound = none) ∧
      (x.1.shards.map (·.maxBytes)).sum ≤ maxBytes ∧
      ∀ cacheKey offset size data,
        ((x.1.Get cacheKey offset size).2 = some data → x.2 ⟨cacheKey, offset, size⟩ = some data) ∧
        ((x.1.Borrow cacheKey offset size).2 = some data →
          x.2 ⟨cacheKey, offset, size⟩ = some data) := by
  have hx := reachable_cacheInvariant h
  rw [normalizeCacheMaxBytes, if_neg (not_le.mpr hpos)] at hx
  refine ⟨fun shard hshard => ?_, ?_, fun cacheKey offset size data =>
    ⟨hx.lookup_latest, hx.lookup_latest⟩⟩
  · obtain ⟨i, hi⟩ := List.mem_iff_getElem?.mp hshard
    have hsound := hx.sound i shard hi
    exact ⟨hsound.linked, hsound.bounded, Shard.evictLocked_exit hsound.linked,
      fun key value => Shard.evictLocked_exit (hsound.linked.store key value)⟩
  · have hbudgets : x.1.shards.map (·.maxBytes) =
        List.replicate (pageCacheShardCount maxBytes) (shardBudget maxBytes) := by
      refine List.eq_replicate_iff.mpr ⟨by rw [List.length_map, hx.length], fun b hb => ?_⟩
      obtain ⟨shard, hshard, rfl⟩ := List.mem_map.mp hb
      obtain ⟨i, hi⟩ := List.mem_iff_getElem?.mp hshard
      exact (hx.sound i shard hi).budget
    rw [hbudgets, List.sum_replicate, Int.nsmul_eq_mul]
    exact Int.mul_ediv_self_le (by exact_mod_cast (pageCacheShardCount_pos maxBytes).ne')

/-- In a cache of eight bytes, a page is evicted for a third one and another is replaced. -/
theorem cache_sound_evicting :
    ∃ x, (auditedCache 8).Reachable System.Always x ∧
      x.1.shards.map (·.pages) = [[(⟨"m", 8, 4⟩, [5, 6, 7, 8]), (⟨"m", 4, 4⟩, [1, 1, 1, 1])]] ∧
      ∀ shard ∈ x.1.shards, shard.Linked ∧ shard.bytes ≤ shard.maxBytes := by
  obtain ⟨x, hx, hpages⟩ := System.exists_reachable_of_replay (auditedCache 8) System.Always
    (fun x => x.1.shards.map (·.pages) =
      [[(⟨"m", 8, 4⟩, [5, 6, 7, 8]), (⟨"m", 4, 4⟩, [1, 1, 1, 1])]])
    [.add "m" 0 [1, 2, 3, 4], .add "m" 4 [9, 9, 9, 9], .add "m" 4 [1, 1, 1, 1],
      .borrow "m" 4 4, .add "m" 8 [5, 6, 7, 8]] (by decide +kernel)
  exact ⟨x, hx, hpages, fun shard hshard =>
    have h := (cache_sound 8 (by decide) x hx).1 shard hshard
    ⟨h.1, h.2.1⟩⟩

end Hypeman.UffdPager
