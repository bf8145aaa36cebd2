import Hypeman.UffdPager.Completion

/-!
# The lazy and the eager path

A page of guest memory is copied on a fault, by masking the address of the fault, or by a
completion, by stepping through the mapping. The two computations give one page: the same
destination, the same offset of the backing file and the same length.

* `Laid`: mappings of whole pages at aligned bases, with disjoint ranges.
* `findMapping_eq`: the page of a fault is the page of the step.
* `Session.Faithful`: all that was copied are pages of the backing file, each at its place.
* `paths_agree`: the two paths, and what they leave in guest memory.
-/

namespace Hypeman.UffdPager

open Foundations

/-- Mappings with disjoint ranges, aligned bases, and sizes that are positive multiples of a page
size that is a power of two; bases and sizes are below 2^63. -/
structure Laid (mappings : List Mapping) : Prop where
  apart : mappings.Pairwise Mapping.Apart
  aligned : ∀ m ∈ mappings, m.pageSize.toNat ∣ m.baseHostVirtAddr.toNat
  whole : ∀ m ∈ mappings, m.Whole
  size : ∀ m ∈ mappings, m.size ≠ 0
  power : ∀ m ∈ mappings, ∃ k, m.pageSize.toNat = 2 ^ k
  base : ∀ m ∈ mappings, m.baseHostVirtAddr.toNat < 9223372036854775808

/-- The ranges end below 2^63. -/
def Below (mappings : List Mapping) : Prop := ∀ m ∈ mappings, m.stop < 9223372036854775808

variable {mappings : List Mapping} {m : Mapping} {d : UInt64}

theorem Below.stop_le (h : Below mappings) : ∀ m ∈ mappings, m.stop ≤ 18446744073709551616 :=
  fun m hm => Nat.le_of_lt (Nat.lt_of_lt_of_le (h m hm) (by decide))

/-! ## The page of a fault -/

/-- The comparisons of `findMapping`, below 2^63. -/
theorem Mapping.holds_iff {addr : UInt64} (hstop : m.stop < 9223372036854775808)
    (haddr : addr.toNat < 9223372036854775808) :
    m.holds addr.toInt64 = true ↔
      m.baseHostVirtAddr.toNat ≤ addr.toNat ∧ addr.toNat < m.stop := by
  have hend : (m.baseHostVirtAddr + m.size).toNat = m.stop :=
    toNat_add_of_lt (Nat.lt_trans hstop (by decide))
  have hbase : m.baseHostVirtAddr.toNat < 9223372036854775808 := by
    unfold stop at hstop
    omega
  unfold holds
  dsimp only
  rw [← UInt64.toInt64_add, Bool.not_eq_true', Bool.or_eq_false_iff, decide_eq_false_iff_not,
    decide_eq_false_iff_not, Int64.not_lt, Int64.not_le, Int64.le_iff_toInt_le,
    Int64.lt_iff_toInt_lt, toInt_toInt64 hbase, toInt_toInt64 haddr,
    toInt_toInt64 (hend.symm ▸ hstop), hend]
  omega

/-- An address is found in its mapping. -/
theorem Laid.find?_eq (h : Laid mappings) (hbelow : Below mappings) (hm : m ∈ mappings)
    (hd : d < m.size) :
    mappings.find? (·.holds (m.baseHostVirtAddr + d).toInt64) = some m := by
  have hstop := hbelow m hm
  have haddr := m.toNat_addr (hbelow.stop_le m hm) hd
  have hd' := UInt64.lt_iff_toNat_lt.mp hd
  have hlt : (m.baseHostVirtAddr + d).toNat < 9223372036854775808 := by
    unfold Mapping.stop at hstop
    omega
  have hown : m.holds (m.baseHostVirtAddr + d).toInt64 = true := by
    rw [Mapping.holds_iff hstop hlt, haddr]
    unfold Mapping.stop
    omega
  have hsome : (mappings.find? (·.holds (m.baseHostVirtAddr + d).toInt64)).isSome = true :=
    List.find?_isSome.mpr ⟨m, hm, hown⟩
  obtain ⟨m', hfind⟩ := Option.isSome_iff_exists.mp hsome
  have hm' := List.mem_of_find?_eq_some hfind
  have hholds := List.find?_some hfind
  rw [Mapping.holds_iff (hbelow m' hm') hlt] at hholds
  -- the address is in the mapping that was found as well
  have heq : m = m' := by
    have hd' : m.baseHostVirtAddr + d - m'.baseHostVirtAddr < m'.size := by
      rw [UInt64.lt_iff_toNat_lt, toNat_sub_of_le hholds.1]
      have := hholds.2
      unfold Mapping.stop at this
      omega
    exact eq_of_apart h.apart hbelow.stop_le hm hm' hd hd' (by grind)
  rw [hfind, heq]

def Mapping.pageOf (m : Mapping) (d : UInt64) : UInt64 := d - d % m.pageSize

theorem Mapping.toNat_pageOf (m : Mapping) (d : UInt64) :
    (m.pageOf d).toNat = d.toNat / m.pageSize.toNat * m.pageSize.toNat := by
  have hmod : (d % m.pageSize).toNat = d.toNat % m.pageSize.toNat := UInt64.toNat_mod ..
  have hdiv := Nat.div_add_mod d.toNat m.pageSize.toNat
  rw [Nat.mul_comm] at hdiv
  rw [pageOf, toNat_sub_of_le (by rw [hmod]; exact Nat.mod_le _ _), hmod]
  omega

/-- The page of a byte of the mapping is a page of the mapping and holds the byte. -/
theorem Mapping.Whole.pageOf (h : m.Whole) (hsize : m.size ≠ 0) (hd : d < m.size) :
    m.PageAt (m.pageOf d) ∧ (m.pageOf d).toNat ≤ d.toNat ∧
      d.toNat < (m.pageOf d).toNat + m.pageSize.toNat := by
  have hpos := h.pageSize_pos hsize
  have hd' := UInt64.lt_iff_toNat_lt.mp hd
  obtain ⟨n, hn⟩ := h.2
  have hdiv : d.toNat / m.pageSize.toNat < n := by
    rw [Nat.div_lt_iff_lt_mul hpos, Nat.mul_comm]
    omega
  have hmul : (d.toNat / m.pageSize.toNat + 1) * m.pageSize.toNat ≤ n * m.pageSize.toNat :=
    Nat.mul_le_mul_right _ hdiv
  rw [Nat.add_mul, Nat.one_mul, Nat.mul_comm n, ← hn] at hmul
  have hlow := Nat.div_mul_le_self d.toNat m.pageSize.toNat
  have hhigh := Nat.lt_div_mul_add (a := d.toNat) hpos
  unfold PageAt
  rw [toNat_pageOf]
  exact ⟨⟨Nat.dvd_mul_left _ _, hmul⟩, hlow, hhigh⟩

/-- Masking an address gives the address of the page. -/
theorem Laid.mask_eq (h : Laid mappings) (hbelow : Below mappings) (hm : m ∈ mappings)
    (hd : d < m.size) :
    (m.baseHostVirtAddr + d) &&& ~~~(m.pageSize - 1) = m.baseHostVirtAddr + m.pageOf d := by
  obtain ⟨k, hk⟩ := h.power m hm
  obtain ⟨n, hn⟩ := h.aligned m hm
  have hpos : 0 < m.pageSize.toNat := hk ▸ Nat.two_pow_pos k
  obtain ⟨-, hle, -⟩ := (h.whole m hm).pageOf (h.size m hm) hd
  have hlt : m.pageOf d < m.size :=
    UInt64.lt_iff_toNat_lt.mpr (Nat.lt_of_le_of_lt hle (UInt64.lt_iff_toNat_lt.mp hd))
  refine UInt64.toNat_inj.mp ?_
  rw [toNat_and_not_sub_one hk, m.toNat_addr (hbelow.stop_le m hm) hd,
    m.toNat_addr (hbelow.stop_le m hm) hlt, m.toNat_pageOf, hn,
    Nat.mul_add_div hpos, Nat.add_mul, Nat.mul_comm n]

/-- **The page of a fault is the page of the step** at that byte of the mapping. -/
theorem Laid.findMapping_eq (h : Laid mappings) (hbelow : Below mappings) (hm : m ∈ mappings)
    (hd : d < m.size) :
    findMapping mappings (m.baseHostVirtAddr + d).toInt64 =
      some ⟨m, (m.baseHostVirtAddr + m.pageOf d).toInt64, (m.offset + m.pageOf d).toInt64,
        m.pageSize.toInt64⟩ := by
  have hmask : (m.baseHostVirtAddr + d).toInt64 &&& ~~~(m.pageSize.toInt64 - 1) =
      (m.baseHostVirtAddr + m.pageOf d).toInt64 := by
    rw [← h.mask_eq hbelow hm hd, UInt64.toInt64_and, UInt64.toInt64_not, UInt64.toInt64_sub]
    rfl
  unfold findMapping
  rw [h.find?_eq hbelow hm hd, Option.map_some, Mapping.fault, hmask]
  congr 2
  rw [UInt64.toInt64_add, UInt64.toInt64_add]
  grind

/-- A fault is found at a byte of a mapping only. -/
theorem exists_of_findMapping (hbelow : Below mappings) {addr : Int64} {f : Fault}
    (hfind : findMapping mappings addr = some f) :
    ∃ m ∈ mappings, ∃ d < m.size, addr = (m.baseHostVirtAddr + d).toInt64 := by
  obtain ⟨m, hfound, -⟩ := Option.map_eq_some_iff.mp hfind
  have hm := List.mem_of_find?_eq_some hfound
  have hholds := List.find?_some hfound
  have hstop := hbelow m hm
  have hbase : m.baseHostVirtAddr.toNat < 9223372036854775808 := by
    unfold Mapping.stop at hstop
    omega
  -- below its start the address would not be found, so that it is not negative
  have hnot : ¬ addr.toUInt64.toInt64 < 0 := by
    rw [Int64.toInt64_toUInt64]
    intro hneg
    have hlt : addr < m.baseHostVirtAddr.toInt64 := by
      rw [Int64.lt_iff_toInt_lt] at hneg ⊢
      rw [toInt_toInt64 hbase]
      exact Int.lt_of_lt_of_le hneg (Int.natCast_nonneg _)
    simp [Mapping.holds, hlt] at hholds
  have hrange : m.holds addr.toUInt64.toInt64 = true := by
    rw [Int64.toInt64_toUInt64]
    exact hholds
  rw [Mapping.holds_iff hstop (toNatClampNeg_toInt64 hnot).2] at hrange
  have hsub := toNat_sub_of_le hrange.1
  refine ⟨m, hm, addr.toUInt64 - m.baseHostVirtAddr, UInt64.lt_iff_toNat_lt.mpr ?_, ?_⟩
  · have := hrange.2
    unfold Mapping.stop at this
    omega
  · have haddr : m.baseHostVirtAddr + (addr.toUInt64 - m.baseHostVirtAddr) = addr.toUInt64 := by
      grind
    rw [haddr, Int64.toInt64_toUInt64]

/-! ## What the cache holds -/

/-- The cache has pages of the backing file under the session's key. -/
def Coherent (b : Backing) (cache : PageCache) : Prop :=
  ∃ count shardMax latest, 0 ≤ shardMax ∧ CacheInvariant count shardMax (cache, latest) ∧
    ∀ offset size data, latest ⟨b.cacheKey, offset, size⟩ = some data →
      readAt b.file offset size.toNat = some data

variable {b : Backing}

theorem NewPageCache_coherent (b : Backing) : Coherent b (NewPageCache b.cacheMaxBytes) :=
  ⟨_, _, fun _ => none, (shardBudget_pos (normalizeCacheMaxBytes_pos b.cacheMaxBytes)).le,
    NewPageCache_invariant b.cacheMaxBytes _, nofun⟩

theorem Coherent.add {cache : PageCache} (h : Coherent b cache) {cacheKey : String}
    {offset : Int64} {data : List UInt8}
    (hdata : cacheKey = b.cacheKey → readAt b.file offset data.length = some data) :
    Coherent b (cache.Add cacheKey offset data) := by
  obtain ⟨count, shardMax, latest, hmax, hcache, hlatest⟩ := h
  refine ⟨count, shardMax, _, hmax, hcache.add hmax cacheKey offset data, ?_⟩
  intro offset' size data' hdata'
  rw [Function.update_apply] at hdata'
  split at hdata'
  · next hkey =>
    cases hdata'
    cases hkey
    exact hdata rfl
  · exact hlatest offset' size data' hdata'

theorem Coherent.borrow {cache : PageCache} (h : Coherent b cache) (offset : Int64) (size : ℤ) :
    Coherent b (cache.Borrow b.cacheKey offset size).1 ∧
      ∀ page, (cache.Borrow b.cacheKey offset size).2 = some page →
        readAt b.file offset size.toNat = some page := by
  obtain ⟨count, shardMax, latest, hmax, hcache, hlatest⟩ := h
  exact ⟨⟨count, shardMax, latest, hmax, hcache.lookup _, hlatest⟩,
    fun page hpage => hlatest offset size page (hcache.lookup_latest hpage)⟩

/-- A page that is read is a page of the backing file, whether it was cached or not. -/
theorem Coherent.readPage {s : Session} (h : Coherent b s.cache) {offset pageSize : Int64}
    {readOk : Bool} {cache : PageCache} {r : Option (List UInt8)}
    (hread : s.readPage b offset pageSize readOk = (cache, r)) :
    Coherent b cache ∧ ∀ page, r = some page →
      readAt b.file offset pageSize.toNatClampNeg = some page := by
  obtain ⟨hborrow, hhit⟩ := h.borrow offset pageSize.toInt
  unfold Session.readPage at hread
  split at hread
  · next cache' page heq =>
    cases hread
    rw [heq] at hborrow hhit
    exact ⟨hborrow, fun _ hpage => hhit _ hpage⟩
  · next cache' heq =>
    rw [heq] at hborrow
    split at hread
    · next page hpage =>
      cases hread
      split at hpage
      · refine ⟨hborrow.add fun _ => ?_, ?_⟩
        · rw [readAt_length hpage]
          exact hpage
        · rintro _ ⟨⟩
          exact hpage
      · cases hpage
    · cases hread
      exact ⟨hborrow, nofun⟩

/-! ## What is in guest memory -/

/-- The copy is a page of one of the mappings, with what the backing file has there. -/
def FromFile (b : Backing) (c : Copy) : Prop :=
  ∃ m ∈ b.mappings, ∃ off, m.PageAt off ∧ c.dst = m.baseHostVirtAddr + off ∧
    c.offset = (m.offset + off).toInt64 ∧ readAt b.file c.offset m.pageSize.toNat = some c.page

theorem readAt_getElem? {file page : List UInt8} {offset : Int64} {n k : ℕ}
    (h : readAt file offset n = some page) (hk : k < n) :
    ¬ offset < 0 ∧ page[k]? = file[offset.toNatClampNeg + k]? := by
  unfold readAt at h
  split at h
  · cases h
  · next hneg =>
    split at h
    · cases h
      rw [List.getElem?_take_of_lt hk, List.getElem?_drop]
      exact ⟨hneg, rfl⟩
    · cases h

/-- A byte of a mapping has what the backing file has at its place. -/
theorem FromFile.byte_eq {c : Copy} (h : FromFile b c) (hlaid : Laid b.mappings)
    (hbelow : Below b.mappings) (hm : m ∈ b.mappings) (hd : d < m.size)
    (hcovers : c.covers (m.baseHostVirtAddr + d)) :
    c.page[(m.baseHostVirtAddr + d - c.dst).toNat]? = b.file[(m.offset + d).toNat]? := by
  obtain ⟨m', hm', off, hpage, hdst, hoffset, hread⟩ := h
  have hlength := readAt_length hread
  unfold Copy.covers at hcovers
  rw [hdst, hlength] at hcovers
  obtain rfl := eq_of_apart hlaid.apart hbelow.stop_le hm hm' hd (hpage.lt_size hcovers) (by grind)
  obtain ⟨hneg, hbyte⟩ := readAt_getElem? hread hcovers
  rw [hoffset] at hneg hbyte
  obtain ⟨hclamp, hlt⟩ := toNatClampNeg_toInt64 hneg
  have hsize := (hlaid.whole m hm).1
  have hpages := hpage.2
  have hsum : m.offset + d =
      m.offset + off + (m.baseHostVirtAddr + d - (m.baseHostVirtAddr + off)) := by grind
  rw [hdst, hbyte, hclamp, hsum, toNat_add_of_lt (x := m.offset + off) (by omega)]

/-- The session has copied pages of the backing file only, each to its place. -/
structure Faithful (b : Backing) (s : Session) : Prop where
  fetching : Fetching b s
  coherent : Coherent b s.cache
  pages : ∀ c ∈ s.log, FromFile b c

theorem init_faithful (b : Backing) : Faithful b (session b).init :=
  ⟨init_fetching b, NewPageCache_coherent b, fun _ h => by cases h⟩

/-- The page a fault brings in. -/
theorem Laid.fault_fromFile (h : Laid b.mappings) (hbelow : Below b.mappings) {addr : Int64}
    {f : Fault} (hfind : findMapping b.mappings addr = some f) {page : List UInt8} {eager : Bool}
    (hread : readAt b.file f.pageOffset f.pageSize.toNatClampNeg = some page) :
    FromFile b ⟨f.pageAddr.toUInt64, f.pageOffset, page, eager⟩ := by
  obtain ⟨m, hm, d, hd, rfl⟩ := exists_of_findMapping hbelow hfind
  rw [h.findMapping_eq hbelow hm hd] at hfind
  cases hfind
  have hwhole := h.whole m hm
  rw [hwhole.toNatClampNeg_pageSize (h.size m hm)] at hread
  exact ⟨m, hm, m.pageOf d, (hwhole.pageOf (h.size m hm) hd).1, UInt64.toUInt64_toInt64 _, rfl,
    hread⟩

theorem Faithful.steps {s s' : Session} (h : Faithful b s) (hlaid : Laid b.mappings)
    (hbelow : Below b.mappings) (hs : Steps b s s') : Faithful b s' := by
  have hagree := agree_of_apart hlaid.apart hbelow.stop_le
  have hfetching := h.fetching.steps hlaid.size hlaid.whole hagree hs
  cases hs with
  | cached hdata => exact ⟨hfetching, h.coherent.add hdata, h.pages⟩
  | missed => exact h
  | unread hphase hread => exact ⟨hfetching, (h.coherent.readPage hread).1, h.pages⟩
  | fault hphase hfind hneg hread hcopy =>
    obtain ⟨hcoherent, hpage⟩ := h.coherent.readPage hread
    refine ⟨hfetching, hcoherent, fun c hc => ?_⟩
    rcases hcopy.mem hc with hc | rfl
    · exact h.pages c hc
    · exact hlaid.fault_fromFile hbelow hfind (hpage _ rfl)
  | complete | unreadPage | advance | back | unregister =>
    exact ⟨hfetching, h.coherent, h.pages⟩
  | @page m rest off failed page r hphase hpage hread hcopy =>
    refine ⟨hfetching, h.coherent, fun c hc => ?_⟩
    rcases hcopy.mem hc with hc | rfl
    · exact h.pages c hc
    · obtain ⟨hm, hpage'⟩ := h.fetching.pageAt hlaid.size hlaid.whole hphase hpage
      exact ⟨m, hm, off, hpage', rfl, rfl, hread⟩

/-- **The lazy and the eager path copy the same pages.** For mappings with disjoint ranges that end
below 2^63, aligned bases and whole pages: a fault at a byte of a mapping finds the page at which
`populateAll` copies that byte, with the same offset in the backing file and the same length; and in
every run, faults and completions in any order, guest memory has the bytes of the backing file, all
of them once a completion has returned. -/
theorem paths_agree (b : Backing) (hlaid : Laid b.mappings) (hbelow : Below b.mappings) :
    (∀ m ∈ b.mappings, ∀ d < m.size, ∃ f off, m.hasPage off = true ∧ m.PageAt off ∧
        off.toNat ≤ d.toNat ∧ d.toNat < off.toNat + m.pageSize.toNat ∧
        findMapping b.mappings (m.baseHostVirtAddr + d).toInt64 = some f ∧
        ∀ page, f.pageAddr.toUInt64 = (m.copyAt off page).dst ∧
          f.pageOffset = (m.copyAt off page).offset ∧
          f.pageSize.toNatClampNeg = m.pageSize.toNat) ∧
      ∀ s, (session b).Reachable System.Always s →
        (∀ c ∈ s.log, FromFile b c) ∧
        (∀ m ∈ b.mappings, ∀ d < m.size, ∀ c ∈ s.log, c.covers (m.baseHostVirtAddr + d) →
          c.page[(m.baseHostVirtAddr + d - c.dst).toNat]? = b.file[(m.offset + d).toNat]?) ∧
        (s.phase = .detached →
          ∀ m ∈ b.mappings, ∀ d < m.size, Populated s.log (m.baseHostVirtAddr + d)) := by
  refine ⟨fun m hm d hd => ?_, fun s hs => ?_⟩
  · have hwhole := hlaid.whole m hm
    have hsize := hlaid.size m hm
    obtain ⟨hpage, hle, hlt⟩ := hwhole.pageOf hsize hd
    have hreached : m.Reached (m.pageOf d) := ⟨hpage.1, Nat.le_trans (Nat.le_add_right _ _) hpage.2⟩
    refine ⟨_, m.pageOf d, (hwhole.hasPage_iff hsize hreached).mpr hpage, hpage, hle, hlt,
      hlaid.findMapping_eq hbelow hm hd, fun page => ⟨UInt64.toUInt64_toInt64 _, rfl, ?_⟩⟩
    exact hwhole.toNatClampNeg_pageSize hsize
  · have hfaithful : Faithful b s := hs.invariant (init_faithful b) fun _ _ _ hs _ hstep =>
      hs.steps hlaid hbelow (session_steps hstep)
    refine ⟨hfaithful.pages, fun m hm d hd c hc hcovers => ?_, fun hphase m hm d hd => ?_⟩
    · exact (hfaithful.pages c hc).byte_eq hlaid hbelow hm hd hcovers
    · have hun := hfaithful.fetching.detached hphase
      obtain ⟨c, hc, hcovers, -⟩ :=
        hfaithful.fetching.final hun m hm d (UInt64.lt_iff_toNat_lt.mp hd)
      exact ⟨c, hc, hcovers⟩

theorem twoRegions_laid : Laid twoRegions.mappings where
  apart := by decide
  aligned := by simp [twoRegions]
  whole := by simp [twoRegions, Mapping.Whole]
  size := by simp [twoRegions]
  power := by
    simp only [twoRegions, List.mem_cons, List.not_mem_nil, or_false, forall_eq_or_imp, forall_eq]
    exact ⟨⟨2, rfl⟩, ⟨1, rfl⟩⟩
  base := by simp [twoRegions]

/-- A fault in the second mapping, and the byte of the file it brings in. -/
theorem paths_agree_twoRegions :
    Laid twoRegions.mappings ∧ Below twoRegions.mappings ∧
      ∃ s, (session twoRegions).Reachable System.Always s ∧
        s.log = [⟨8194, 10, [11, 12], false⟩] ∧ ∀ c ∈ s.log, FromFile twoRegions c := by
  have hbelow : Below twoRegions.mappings := by simp [Below, twoRegions, Mapping.stop]
  obtain ⟨s, hs, hlog⟩ := System.exists_reachable_of_replay (session twoRegions) System.Always
    (fun s => s.log = [⟨8194, 10, [11, 12], false⟩]) [.fault 8195 true .copied] (by decide +kernel)
  exact ⟨twoRegions_laid, hbelow, s, hs, hlog,
    ((paths_agree twoRegions twoRegions_laid hbelow).2 s hs).1⟩

def topPage : Mapping := ⟨9223372036854771712, 4096, 0, 4096, 0⟩

/-- A mapping that ends at 2^63 is not found by a fault in it: its end is computed as a negative
number. -/
theorem topPage_not_found :
    Laid [topPage] ∧ 0 < topPage.size ∧
      findMapping [topPage] (topPage.baseHostVirtAddr + 0).toInt64 = none := by
  refine ⟨⟨List.pairwise_singleton _ _, ?_, ?_, ?_, ?_, ?_⟩, by decide, by decide⟩
  · simp [topPage]
  · simp [topPage, Mapping.Whole]
  · simp [topPage]
  · simp only [List.mem_singleton, forall_eq]
    exact ⟨12, rfl⟩
  · simp [topPage]

end Hypeman.UffdPager
