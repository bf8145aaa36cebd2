import Hypeman.Foundations.Words
import Hypeman.UffdPager.Session

/-!
# Completing a session

A completion copies every page of every mapping before it unregisters the ranges: the kernel fills
whatever is still absent with zeros from then on. The loop of `populateAll` makes whole pages only,
and `normalizeMappings` does not ask that a mapping consists of whole pages, nor that two mappings
which overlap agree on the file.

* `Fetched`: a byte of a mapping was copied by the fault path, or by `populateAll` from its place in
  the file.
* `Whole`, `Agree`: mappings of whole pages, and mappings that agree where they overlap.
* `complete_fetches`: with such mappings every byte is fetched before any range is unregistered.
* `detached_without_fetching`: other accepted mappings are unregistered without some of their bytes.
-/

namespace Hypeman.UffdPager

open Foundations

/-- The byte at offset `d` of the mapping was copied by the fault path, or by `populateAll` from
that offset of the mapping's part of the backing file. -/
def Fetched (log : List Copy) (m : Mapping) (d : UInt64) : Prop :=
  ∃ c ∈ log, c.covers (m.baseHostVirtAddr + d) ∧
    (c.eager = false ∨ c.offset.toUInt64 + (m.baseHostVirtAddr + d - c.dst) = m.offset + d)

instance (log : List Copy) (m : Mapping) (d : UInt64) : Decidable (Fetched log m d) :=
  inferInstanceAs (Decidable (∃ c ∈ log, _ ∧ (_ ∨ _)))

/-- The first `n` bytes of the mapping were fetched. -/
def Filled (log : List Copy) (m : Mapping) (n : ℕ) : Prop :=
  ∀ d : UInt64, d.toNat < n → Fetched log m d

/-- The mapping consists of whole pages, and its size is below 2^63. -/
def Mapping.Whole (m : Mapping) : Prop :=
  m.size.toNat < 9223372036854775808 ∧ m.pageSize.toNat ∣ m.size.toNat

/-- Mappings that share an address have it at one place in the backing file. -/
def Agree (mappings : List Mapping) : Prop :=
  ∀ m ∈ mappings, ∀ m' ∈ mappings, ∀ d d' : UInt64, d < m.size → d' < m'.size →
    m.baseHostVirtAddr + d = m'.baseHostVirtAddr + d' → m.offset + d = m'.offset + d'

theorem Fetched.mono {log log' : List Copy} {m : Mapping} {d : UInt64} (h : Fetched log m d)
    (hsub : log ⊆ log') : Fetched log' m d := by
  obtain ⟨c, hc, hcovers⟩ := h
  exact ⟨c, hsub hc, hcovers⟩

theorem Filled.mono {log log' : List Copy} {m : Mapping} {n : ℕ} (h : Filled log m n)
    (hsub : log ⊆ log') : Filled log' m n := fun d hd => (h d hd).mono hsub

theorem Filled.zero (log : List Copy) (m : Mapping) : Filled log m 0 :=
  fun _ hd => absurd hd (Nat.not_lt_zero _)

/-- A page of a mapping: a multiple of the page size that leaves room for a page. -/
def Mapping.PageAt (m : Mapping) (off : UInt64) : Prop :=
  m.pageSize.toNat ∣ off.toNat ∧ off.toNat + m.pageSize.toNat ≤ m.size.toNat

/-- The loop of `populateAll` has come to this offset of the mapping. -/
def Mapping.Reached (m : Mapping) (off : UInt64) : Prop :=
  m.pageSize.toNat ∣ off.toNat ∧ off.toNat ≤ m.size.toNat

namespace Mapping.Whole

variable {m : Mapping} {off : UInt64}

theorem pageSize_pos (h : m.Whole) (hsize : m.size ≠ 0) : 0 < m.pageSize.toNat := by
  refine Nat.pos_of_ne_zero fun hzero => hsize ?_
  have hdvd := h.2
  rw [hzero, Nat.zero_dvd] at hdvd
  exact UInt64.toNat_inj.mp hdvd

theorem pageSize_le (h : m.Whole) (hsize : m.size ≠ 0) : m.pageSize.toNat ≤ m.size.toNat :=
  Nat.le_of_dvd (Nat.pos_of_ne_zero fun hzero => hsize (UInt64.toNat_inj.mp hzero)) h.2

/-- The length of a page, as the fault path computes it. -/
theorem toNatClampNeg_pageSize (h : m.Whole) (hsize : m.size ≠ 0) :
    m.pageSize.toInt64.toNatClampNeg = m.pageSize.toNat := by
  have hle := h.pageSize_le hsize
  have hlt := h.1
  rw [Int64.toNatClampNeg, toInt_toInt64 (by omega), Int.toNat_natCast]

/-- The condition of the loop, read without wrapping. -/
theorem hasPage_iff (h : m.Whole) (hsize : m.size ≠ 0) (hoff : m.Reached off) :
    m.hasPage off = true ↔ m.PageAt off := by
  have hpos := h.pageSize_pos hsize
  have hle := h.pageSize_le hsize
  obtain ⟨hlt, -⟩ := h
  obtain ⟨hdvd, hoff⟩ := hoff
  have hint : ¬ m.pageSize.toInt64 ≤ 0 := by
    rw [Int64.le_iff_toInt_le, toInt_toInt64 (by omega)]
    change ¬ (m.pageSize.toNat : ℤ) ≤ 0
    omega
  have hadd : (off + m.pageSize).toNat = off.toNat + m.pageSize.toNat :=
    toNat_add_of_lt (by omega)
  simp [hasPage, PageAt, hint, hdvd, UInt64.le_iff_toNat_le, hadd]

/-- The loop is left at the end of the mapping. -/
theorem eq_size (h : m.Whole) (hsize : m.size ≠ 0) (hoff : m.Reached off)
    (hpage : m.hasPage off = false) : off.toNat = m.size.toNat := by
  have hpos := h.pageSize_pos hsize
  have hnot : ¬ m.PageAt off := by
    rw [← h.hasPage_iff hsize hoff, hpage]
    exact Bool.false_ne_true
  obtain ⟨hdvd, hoff⟩ := hoff
  obtain ⟨k, hk⟩ := Nat.dvd_sub h.2 hdvd
  have hlt : m.size.toNat - off.toNat < m.pageSize.toNat := by
    by_contra hge
    exact hnot ⟨hdvd, by omega⟩
  have hzero : k = 0 := by
    by_contra hne
    have := Nat.le_mul_of_pos_right m.pageSize.toNat (Nat.pos_of_ne_zero hne)
    omega
  rw [hzero, Nat.mul_zero] at hk
  omega

theorem reached_add (h : m.Whole) (hpage : m.PageAt off) : m.Reached (off + m.pageSize) := by
  obtain ⟨hdvd, hle⟩ := hpage
  have hlt := h.1
  have hadd : (off + m.pageSize).toNat = off.toNat + m.pageSize.toNat :=
    toNat_add_of_lt (by omega)
  unfold Reached
  rw [hadd]
  exact ⟨Nat.dvd_add hdvd (Nat.dvd_refl _), hle⟩

end Mapping.Whole

theorem readAt_length {file page : List UInt8} {offset : Int64} {n : ℕ}
    (h : readAt file offset n = some page) : page.length = n := by
  unfold readAt at h
  split at h
  · cases h
  · split at h
    · next hle =>
      cases h
      rw [List.length_take, List.length_drop]
      omega
    · cases h

/-- The page at an offset of the mapping covers the bytes of the mapping from there on. -/
theorem Mapping.copyAt_covers_iff (m : Mapping) (off d : UInt64) (page : List UInt8) :
    (m.copyAt off page).covers (m.baseHostVirtAddr + d) ↔ (d - off).toNat < page.length := by
  have hsub : m.baseHostVirtAddr + d - (m.baseHostVirtAddr + off) = d - off := by grind
  unfold Copy.covers copyAt
  rw [hsub]

/-- The bytes of a page of the mapping are bytes of the mapping. -/
theorem Mapping.PageAt.lt_size {m : Mapping} {off addr : UInt64} (h : m.PageAt off)
    (hcovers : (addr - (m.baseHostVirtAddr + off)).toNat < m.pageSize.toNat) :
    addr - m.baseHostVirtAddr < m.size := by
  have hadd : addr - m.baseHostVirtAddr = off + (addr - (m.baseHostVirtAddr + off)) := by grind
  have hle : (addr - m.baseHostVirtAddr).toNat ≤
      off.toNat + (addr - (m.baseHostVirtAddr + off)).toNat := by
    rw [hadd, UInt64.toNat_add]
    exact Nat.mod_le _ _
  have := h.2
  exact UInt64.lt_iff_toNat_lt.mpr (by omega)

def FromPage (mappings : List Mapping) (c : Copy) : Prop :=
  ∃ m ∈ mappings, ∃ off page, m.PageAt off ∧ page.length = m.pageSize.toNat ∧ c = m.copyAt off page

/-- Where mappings agree, an eager copy has the byte of every mapping from its place in the file. -/
theorem FromPage.offset_eq {mappings : List Mapping} {c : Copy} (h : FromPage mappings c)
    (hagree : Agree mappings) {m : Mapping} (hm : m ∈ mappings) {d : UInt64} (hd : d < m.size)
    (hcovers : c.covers (m.baseHostVirtAddr + d)) :
    c.offset.toUInt64 + (m.baseHostVirtAddr + d - c.dst) = m.offset + d := by
  obtain ⟨m', hm', off, page, hpage, hlength, rfl⟩ := h
  -- the byte of the page is a byte of the mapping the page is from
  have hbyte : m.baseHostVirtAddr + d - m'.baseHostVirtAddr < m'.size :=
    hpage.lt_size (hlength ▸ hcovers)
  have hoffset := hagree m hm m' hm' d _ hd hbyte (by grind)
  rw [hoffset]
  change (m'.offset + off).toInt64.toUInt64 + (m.baseHostVirtAddr + d -
    (m'.baseHostVirtAddr + off)) = m'.offset + (m.baseHostVirtAddr + d - m'.baseHostVirtAddr)
  rw [UInt64.toUInt64_toInt64]
  grind

/-! ## The invariant -/

/-- What a completion under way has fetched, unless it has noted an error. -/
def Phase.Progress (mappings : List Mapping) (log : List Copy) : Phase → Prop
  | .serving => True
  | .populating rest off failed =>
    ∃ done, mappings = done ++ rest ∧ (∀ m ∈ rest.head?, m.Reached off) ∧
      (failed = false → (∀ m ∈ done, Filled log m m.size.toNat) ∧
        ∀ m ∈ rest.head?, Filled log m off.toNat)
  | .detached => True

structure Fetching (b : Backing) (s : Session) : Prop where
  origin : ∀ c ∈ s.log, c.eager = true → FromPage b.mappings c
  progress : s.phase.Progress b.mappings s.log
  final : s.unregistered = true → ∀ m ∈ b.mappings, Filled s.log m m.size.toNat
  detached : s.phase = .detached → s.unregistered = true

variable {b : Backing} {s s' : Session}

theorem init_fetching (b : Backing) : Fetching b (session b).init where
  origin _ h := by cases h
  progress := trivial
  final h := by cases h
  detached h := by cases h

theorem Copies.subset {log : List Copy} {c : Copy} {r : List Copy × Bool} (h : Copies log c r) :
    log ⊆ r.1 := by
  cases h with
  | copied => exact List.subset_append_left _ _
  | present | error => exact List.Subset.refl _

theorem Copies.mem {log : List Copy} {c other : Copy} {r : List Copy × Bool} (h : Copies log c r)
    (hother : other ∈ r.1) : other ∈ log ∨ other = c := by
  cases h with
  | copied => exact (List.mem_append.mp hother).imp_right List.mem_singleton.mp
  | present | error => exact .inl hother

/-- A page that was copied, or was there before, fills its part of the mapping. -/
theorem Copies.filled {log : List Copy} {m : Mapping} {off : UInt64} {page : List UInt8}
    {r : List Copy × Bool} (h : Copies log (m.copyAt off page) r) (hr : r.2 = true)
    (hm : m ∈ b.mappings) (hagree : Agree b.mappings)
    (horigin : ∀ c ∈ log, c.eager = true → FromPage b.mappings c) (hpage : m.PageAt off)
    (hlength : page.length = m.pageSize.toNat) (hfilled : Filled log m off.toNat) :
    Filled r.1 m (off.toNat + m.pageSize.toNat) := by
  intro d hd
  rcases Nat.lt_or_ge d.toNat off.toNat with hlt | hge
  · exact (hfilled d hlt).mono h.subset
  have hsub := toNat_sub_of_le hge
  have hcovers : (m.copyAt off page).covers (m.baseHostVirtAddr + d) := by
    rw [Mapping.copyAt_covers_iff, hlength, hsub]
    omega
  cases h with
  | copied =>
    refine ⟨_, List.mem_append_right _ (List.mem_singleton.mpr rfl), hcovers, .inr ?_⟩
    simp only [Mapping.copyAt, UInt64.toUInt64_toInt64]
    grind
  | present hpresent =>
    have hk := hpresent (d - off).toNat (by
      rw [Mapping.copyAt_covers_iff] at hcovers
      exact hcovers)
    have haddr : (m.copyAt off page).dst + UInt64.ofNat (d - off).toNat =
        m.baseHostVirtAddr + d := by
      simp only [Mapping.copyAt, UInt64.ofNat_toNat]
      grind
    rw [haddr] at hk
    obtain ⟨c, hc, hcovers⟩ := hk
    refine ⟨c, hc, hcovers, ?_⟩
    -- what is there came by a fault, or from a page of a mapping that agrees with this one
    cases heager : c.eager with
    | false => exact .inl rfl
    | true =>
      have hlt : d < m.size := UInt64.lt_iff_toNat_lt.mpr (Nat.lt_of_lt_of_le hd hpage.2)
      exact .inr ((horigin c hc heager).offset_eq hagree hm hlt hcovers)
  | error => cases hr

/-- `populateAll` is at a page of one of the mappings. -/
theorem Fetching.pageAt (h : Fetching b s) (hsize : ∀ m ∈ b.mappings, m.size ≠ 0)
    (hwhole : ∀ m ∈ b.mappings, m.Whole) {m : Mapping} {rest : List Mapping} {off : UInt64}
    {failed : Bool} (hphase : s.phase = .populating (m :: rest) off failed)
    (hpage : m.hasPage off = true) : m ∈ b.mappings ∧ m.PageAt off := by
  have hprogress := h.progress
  rw [hphase] at hprogress
  obtain ⟨done, hmappings, hreached, -⟩ := hprogress
  have hm : m ∈ b.mappings := by simp [hmappings]
  exact ⟨hm, ((hwhole m hm).hasPage_iff (hsize m hm) (hreached m rfl)).mp hpage⟩

theorem Fetching.steps (h : Fetching b s) (hsize : ∀ m ∈ b.mappings, m.size ≠ 0)
    (hwhole : ∀ m ∈ b.mappings, m.Whole) (hagree : Agree b.mappings) (hs : Steps b s s') :
    Fetching b s' := by
  cases hs with
  | cached => exact ⟨h.origin, h.progress, h.final, h.detached⟩
  | missed => exact h
  | unread => exact ⟨h.origin, h.progress, h.final, h.detached⟩
  | fault hphase hfind hneg hread hcopy =>
    refine ⟨fun c hc heager => ?_, ?_, fun hun m hm => (h.final hun m hm).mono hcopy.subset,
      h.detached⟩
    · rcases hcopy.mem hc with hc | rfl
      · exact h.origin c hc heager
      · cases heager
    · dsimp only
      rw [hphase]
      trivial
  | complete =>
    refine ⟨h.origin, ⟨[], rfl, fun m _ => ⟨Nat.dvd_zero _, Nat.zero_le _⟩, fun _ => ⟨?_, ?_⟩⟩,
      h.final, nofun⟩
    · exact fun m hm => absurd hm List.not_mem_nil
    · exact fun m _ => Filled.zero _ m
  | @unreadPage m rest off failed hphase hpage =>
    obtain ⟨hm, hpage'⟩ := h.pageAt hsize hwhole hphase hpage
    have hprogress := h.progress
    rw [hphase] at hprogress
    obtain ⟨done, hmappings, -, -⟩ := hprogress
    refine ⟨h.origin, ⟨done, hmappings, ?_, nofun⟩, h.final, nofun⟩
    rintro _ ⟨⟩
    exact (hwhole m hm).reached_add hpage'
  | @page m rest off failed page r hphase hpage hread hcopy =>
    obtain ⟨hm, hpage'⟩ := h.pageAt hsize hwhole hphase hpage
    have hprogress := h.progress
    rw [hphase] at hprogress
    obtain ⟨done, hmappings, -, hfilled⟩ := hprogress
    have hlength := readAt_length hread
    refine ⟨fun c hc heager => ?_, ⟨done, hmappings, ?_, fun hok => ?_⟩,
      fun hun m hm => (h.final hun m hm).mono hcopy.subset, nofun⟩
    · rcases hcopy.mem hc with hc | rfl
      · exact h.origin c hc heager
      · exact ⟨m, hm, off, page, hpage', hlength, rfl⟩
    · rintro _ ⟨⟩
      exact (hwhole m hm).reached_add hpage'
    · rw [Bool.or_eq_false_iff, Bool.not_eq_false'] at hok
      obtain ⟨hdone, hhead⟩ := hfilled hok.1
      refine ⟨fun m' hm' => (hdone m' hm').mono hcopy.subset, ?_⟩
      rintro _ ⟨⟩
      have hlt := (hwhole m hm).1
      have hle := hpage'.2
      rw [toNat_add_of_lt (by omega)]
      exact hcopy.filled hok.2 hm hagree h.origin hpage' hlength (hhead m rfl)
  | @advance m rest off failed hphase hpage =>
    have hprogress := h.progress
    rw [hphase] at hprogress
    obtain ⟨done, hmappings, hreached, hfilled⟩ := hprogress
    have hm : m ∈ b.mappings := by simp [hmappings]
    have hend := (hwhole m hm).eq_size (hsize m hm) (hreached m rfl) hpage
    refine ⟨h.origin, ⟨done ++ [m], by simp [hmappings], fun m' _ =>
      ⟨Nat.dvd_zero _, Nat.zero_le _⟩, fun hok => ⟨fun m' hm' => ?_, fun m' _ => .zero _ m'⟩⟩,
      h.final, nofun⟩
    obtain ⟨hdone, hhead⟩ := hfilled hok
    rcases List.mem_append.mp hm' with hm' | hm'
    · exact hdone m' hm'
    · rw [List.mem_singleton.mp hm', ← hend]
      exact hhead m rfl
  | back => exact ⟨h.origin, trivial, h.final, nofun⟩
  | unregister ok hphase =>
    have hprogress := h.progress
    rw [hphase] at hprogress
    obtain ⟨done, hmappings, -, hfilled⟩ := hprogress
    rw [List.append_nil] at hmappings
    refine ⟨h.origin, ?_, fun _ m hm => (hfilled rfl).1 m (hmappings ▸ hm), fun _ => rfl⟩
    cases ok <;> trivial

/-! ## Accepted mappings -/

theorem normalizeFrom_size {getpagesize : UInt64} {raw ms : List Mapping} {i : ℕ}
    (h : normalizeFrom getpagesize i raw = .ok ms) : ∀ m ∈ ms, m.size ≠ 0 := by
  induction raw generalizing i ms with
  | nil =>
    cases h
    exact fun m hm => absurd hm List.not_mem_nil
  | cons m raw ih =>
    unfold normalizeFrom at h
    dsimp only at h
    split at h
    · cases h
    next hsize =>
    split at h
    · cases h
    split at h
    · next ms' hms' =>
      cases h
      rintro m' hm'
      rcases List.mem_cons.mp hm' with rfl | hm'
      · exact hsize
      · exact ih hms' m' hm'
    · cases h

/-- No accepted mapping is empty. -/
theorem normalizeMappings_size {getpagesize : UInt64} {raw ms : List Mapping}
    (h : normalizeMappings getpagesize raw = .ok ms) : ∀ m ∈ ms, m.size ≠ 0 := by
  unfold normalizeMappings at h
  split at h
  · cases h
  · exact normalizeFrom_size h

def Mapping.stop (m : Mapping) : ℕ := m.baseHostVirtAddr.toNat + m.size.toNat

def Mapping.Apart (m m' : Mapping) : Prop :=
  m.stop ≤ m'.baseHostVirtAddr.toNat ∨ m'.stop ≤ m.baseHostVirtAddr.toNat

instance (m m' : Mapping) : Decidable (m.Apart m') :=
  inferInstanceAs (Decidable (_ ∨ _))

theorem Mapping.toNat_addr {m : Mapping} {d : UInt64} (hstop : m.stop ≤ 18446744073709551616)
    (hd : d < m.size) :
    (m.baseHostVirtAddr + d).toNat = m.baseHostVirtAddr.toNat + d.toNat := by
  have hlt := UInt64.lt_iff_toNat_lt.mp hd
  unfold stop at hstop
  exact toNat_add_of_lt (by omega)

/-- An address is in one mapping only. -/
theorem eq_of_apart {mappings : List Mapping} (hapart : mappings.Pairwise Mapping.Apart)
    (hstop : ∀ m ∈ mappings, m.stop ≤ 18446744073709551616) {m m' : Mapping} (hm : m ∈ mappings)
    (hm' : m' ∈ mappings) {d d' : UInt64} (hd : d < m.size) (hd' : d' < m'.size)
    (haddr : m.baseHostVirtAddr + d = m'.baseHostVirtAddr + d') : m = m' := by
  by_contra hne
  have : Std.Symm Mapping.Apart := ⟨fun _ _ h => h.symm⟩
  have hrange := hapart.forall hm hm' hne
  have haddr' := congrArg UInt64.toNat haddr
  rw [Mapping.toNat_addr (hstop m hm) hd, Mapping.toNat_addr (hstop m' hm') hd'] at haddr'
  rw [UInt64.lt_iff_toNat_lt] at hd hd'
  unfold Mapping.Apart Mapping.stop at hrange
  omega

theorem agree_of_apart {mappings : List Mapping} (hapart : mappings.Pairwise Mapping.Apart)
    (hstop : ∀ m ∈ mappings, m.stop ≤ 18446744073709551616) : Agree mappings := by
  intro m hm m' hm' d d' hd hd' haddr
  obtain rfl := eq_of_apart hapart hstop hm hm' hd hd' haddr
  rw [UInt64.add_right_inj] at haddr
  rw [haddr]

/-- **A completion fetches every byte before it unregisters a range**: where the accepted mappings
consist of whole pages and agree on the file wherever they overlap, in every run of the session,
whatever faults are served and whatever the kernel answers. -/
theorem complete_fetches (getpagesize : UInt64) (raw : List Mapping) (b : Backing)
    (haccepted : normalizeMappings getpagesize raw = .ok b.mappings)
    (hwhole : ∀ m ∈ b.mappings, m.Whole) (hagree : Agree b.mappings) (s : Session)
    (h : (session b).Reachable System.Always s) :
    (s.phase = .detached → s.unregistered = true) ∧
      (s.unregistered = true → ∀ m ∈ b.mappings, ∀ d < m.size, Fetched s.log m d) := by
  have hs : Fetching b s := h.invariant (init_fetching b) fun _ _ _ hs _ hstep =>
    hs.steps (normalizeMappings_size haccepted) hwhole hagree (session_steps hstep)
  refine ⟨hs.detached, fun hun m hm d hd => hs.final hun m hm d ?_⟩
  exact UInt64.lt_iff_toNat_lt.mp hd

def twoRegions : Backing where
  mappings := [⟨4096, 8, 0, 4, 0⟩, ⟨8192, 4, 8, 2, 0⟩]
  file := [1, 2, 3, 4, 5, 6, 7, 8, 9, 10, 11, 12]
  cacheKey := "snapshot"
  cacheMaxBytes := 64

/-- One page is faulted in, and the completion copies the others. -/
theorem complete_fetches_twoRegions :
    ∃ s, (session twoRegions).Reachable System.Always s ∧ s.phase = .detached ∧
      ∀ m ∈ twoRegions.mappings, ∀ d < m.size, Fetched s.log m d := by
  obtain ⟨s, hs, hphase⟩ := System.exists_reachable_of_replay (session twoRegions) System.Always
    (fun s => s.phase = .detached)
    [.fault 4101 true .copied, .complete, .page true [.copied], .page true [.again, .present],
      .advance, .page true [.copied], .page true [.copied], .advance, .unregister true]
    (by decide +kernel)
  have hwhole : ∀ m ∈ twoRegions.mappings, m.Whole := by
    simp [twoRegions, Mapping.Whole]
  have hagree : Agree twoRegions.mappings :=
    agree_of_apart (by decide) (by simp [twoRegions, Mapping.stop])
  have h := complete_fetches 4096 twoRegions.mappings twoRegions rfl hwhole hagree s hs
  exact ⟨s, hs, hphase, h.2 (h.1 hphase)⟩

/-- A session with a mapping of one page and a half. -/
def halfPage : Backing where
  mappings := [⟨139637976727552, 6144, 0, 4096, 0⟩]
  file := List.replicate 8192 7
  cacheKey := "snapshot"
  cacheMaxBytes := 0

/-- A session with two mappings of one range to different places in the file. -/
def overlap : Backing where
  mappings := [⟨4096, 4, 0, 4, 0⟩, ⟨4096, 4, 4, 4, 0⟩]
  file := [1, 2, 3, 4, 5, 6, 7, 8]
  cacheKey := "snapshot"
  cacheMaxBytes := 0

/-- Accepted mappings that are unregistered without some of their bytes: the second half of the page
that is not whole, and the mapping whose range was filled for another one. -/
theorem detached_without_fetching :
    (normalizeMappings 4096 halfPage.mappings = .ok halfPage.mappings ∧
      ∃ s, (session halfPage).Reachable System.Always s ∧ s.phase = .detached ∧
        ∃ m ∈ halfPage.mappings, 4096 < m.size ∧ ¬ Fetched s.log m 4096) ∧
    (normalizeMappings 4096 overlap.mappings = .ok overlap.mappings ∧
      ∃ s, (session overlap).Reachable System.Always s ∧ s.phase = .detached ∧
        ∃ m ∈ overlap.mappings, 0 < m.size ∧ ¬ Fetched s.log m 0) := by
  refine ⟨⟨rfl, ?_⟩, rfl, ?_⟩
  · exact System.exists_reachable_of_replay (session halfPage) System.Always
      (fun s => s.phase = .detached ∧
        ∃ m ∈ halfPage.mappings, 4096 < m.size ∧ ¬ Fetched s.log m 4096)
      [.complete, .page true [.copied], .advance, .unregister true] (by decide +kernel)
  · exact System.exists_reachable_of_replay (session overlap) System.Always
      (fun s => s.phase = .detached ∧
        ∃ m ∈ overlap.mappings, 0 < m.size ∧ ¬ Fetched s.log m 0)
      [.complete, .page true [.copied], .advance, .page true [.present], .advance,
        .unregister true] (by decide +kernel)

end Hypeman.UffdPager
