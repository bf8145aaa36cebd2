import Hypeman.UffdPager.Session

/-!
# Completing a session again

A completion whose `unregisterAll` fails for one mapping has unregistered others. The next one
ignores the error of unregistering those again, so that it could be repeated; but before that it
copies every page once more, and copying into a range that is no longer registered fails.
`run_completeAndUnregister`: a session completes so.
-/

namespace Hypeman.UffdPager

open Foundations

def Mapping.Holds (m : Mapping) (addr : UInt64) : Prop := addr - m.baseHostVirtAddr < m.size

instance (m : Mapping) (addr : UInt64) : Decidable (m.Holds addr) :=
  inferInstanceAs (Decidable (_ < _))

/-- The offsets of the loop of `populateAll` over a mapping, for at most `n` rounds. -/
def Mapping.pagesFrom (m : Mapping) : ℕ → UInt64 → List UInt64
  | 0, _ => []
  | n + 1, off => if m.hasPage off then off :: m.pagesFrom n (off + m.pageSize) else []

/-- A round takes a byte of the mapping at least. -/
def Mapping.pages (m : Mapping) : List UInt64 := m.pagesFrom m.size.toNat 0

/-- What the kernel has registered, and what else happens in a completion: which pages are read and
copied if they are registered, whether the caller still waits, and for which mappings the call to
unregister them fails, other than because they are not registered. -/
structure Completion where
  served : Mapping → UInt64 → Bool
  waits : Bool
  fails : Mapping → Bool

/-- `UFFDIO_COPY` into a range that is not registered fails. -/
def Mapping.copied (m : Mapping) (registered : UInt64 → Bool) (off : UInt64) : Bool :=
  decide (∀ k < m.pageSize.toNat, registered (m.baseHostVirtAddr + off + UInt64.ofNat k) = true)

/-- `populateAll` returns no error. -/
def populateAll (env : Completion) (registered : UInt64 → Bool) (mappings : List Mapping) : Bool :=
  mappings.all fun m => m.pages.all fun off => env.served m off && m.copied registered off

/-- One round of `unregisterAll`. The error of a range that is not registered is ignored, and there
is nothing to remove. -/
def unregister (env : Completion) (s : (UInt64 → Bool) × Bool) (m : Mapping) :
    (UInt64 → Bool) × Bool :=
  if env.fails m then (s.1, false)
  else (fun addr => s.1 addr && !decide (m.Holds addr), s.2)

/-- `completeAndUnregister`: what is registered after it, and whether it succeeds. -/
def completeAndUnregister (env : Completion) (registered : UInt64 → Bool)
    (mappings : List Mapping) : (UInt64 → Bool) × Bool :=
  if populateAll env registered mappings && env.waits then
    mappings.foldl (unregister env) (registered, true)
  else (registered, false)

/-! ## The completion of a session -/

section Session

variable {b : Backing} {env : Completion} (registered : UInt64 → Bool) {m : Mapping}

/-- The loop over the mapping ends, and the pages that are served are in the backing file. -/
structure Mapping.Readable (m : Mapping) (b : Backing) (env : Completion) : Prop where
  pos : 0 < m.pageSize.toNat
  fits : m.size.toNat + m.pageSize.toNat < 2 ^ 64
  read : ∀ off, env.served m off = true →
    ∃ page ≠ [], readAt b.file (m.offset + off).toInt64 m.pageSize.toNat = some page

/-- A session goes through the pages of a mapping one after the other. -/
theorem run_pages (hm : m.Readable b env) {rest : List Mapping} (n : ℕ) {off : UInt64}
    {failed : Bool} {s : Session} (hoff : off.toNat ≤ m.size.toNat)
    (hn : m.size.toNat ≤ off.toNat + n) (hs : s.phase = .populating (m :: rest) off failed) :
    ∃ t, (session b).Run System.Always s t ∧ t.phase = .populating rest 0 (failed ||
      !(m.pagesFrom n off).all fun off => env.served m off && m.copied registered off) := by
  cases hpage : m.hasPage off with
  | false =>
    have hstep : (session b).step s .advance =
        some { s with phase := .populating rest 0 failed } := by simp [session, hs, hpage]
    refine ⟨_, .step .refl trivial hstep, ?_⟩
    cases n <;> simp [Mapping.pagesFrom, hpage]
  | true =>
    have hpos := hm.pos
    have hadd : (off + m.pageSize).toNat = off.toNat + m.pageSize.toNat := by
      rw [UInt64.toNat_add, Nat.mod_eq_of_lt (by have := hm.fits; omega)]
    have hle : (off + m.pageSize).toNat ≤ m.size.toNat :=
      UInt64.le_iff_toNat_le.mp (of_decide_eq_true (Bool.and_eq_true_iff.mp hpage).2)
    cases n with
    | zero => omega
    | succ n =>
      let ok := env.served m off && m.copied registered off
      obtain ⟨log, hlog⟩ : ∃ log, m.populate b off s.log ok [.copied] = some (log, ok) := by
        cases hok : ok with
        | false => exact ⟨s.log, rfl⟩
        | true =>
          obtain ⟨page, hne, hread⟩ := hm.read off (Bool.and_eq_true_iff.mp hok).1
          refine ⟨s.log ++ [m.copyAt off page], ?_⟩
          rw [Mapping.populate, if_pos rfl, hread]
          exact if_neg hne
      let s' : Session :=
        { s with log, phase := .populating (m :: rest) (off + m.pageSize) (failed || !ok) }
      have hstep : (session b).step s (.page ok [.copied]) = some s' := by
        simp [session, hs, hpage, hlog, s']
      obtain ⟨t, hrun, ht⟩ := run_pages hm n hle (by omega) (rfl : s'.phase = _)
      refine ⟨t, .cons trivial hstep hrun, ht.trans ?_⟩
      simp [Mapping.pagesFrom, hpage, ok, Bool.or_assoc]

/-- From the start of `populateAll`, a session comes to its end with an error noted exactly if
`populateAll` returns one. -/
theorem run_populateAll {mappings : List Mapping} (hmappings : ∀ m ∈ mappings, m.Readable b env)
    {failed : Bool} {s : Session} (hs : s.phase = .populating mappings 0 failed) :
    ∃ t, (session b).Run System.Always s t ∧
      t.phase = .populating [] 0 (failed || !populateAll env registered mappings) := by
  induction mappings generalizing s failed with
  | nil => exact ⟨s, .refl, by simpa [populateAll] using hs⟩
  | cons m rest ih =>
    obtain ⟨hm, hrest⟩ := List.forall_mem_cons.mp hmappings
    obtain ⟨t, hrun, ht⟩ := run_pages registered hm m.size.toNat (Nat.zero_le _) (by simp) hs
    obtain ⟨u, hrun', hu⟩ := ih hrest ht
    refine ⟨u, hrun.trans hrun', hu.trans ?_⟩
    simp [populateAll, Mapping.pages, Bool.or_assoc]

/-- A session completes as `completeAndUnregister` does. -/
theorem run_completeAndUnregister (hmappings : ∀ m ∈ b.mappings, m.Readable b env) {s : Session}
    (hs : s.phase = .serving) : ∃ t, (session b).Run System.Always s t ∧ t.phase =
      if (completeAndUnregister env registered b.mappings).2 then .detached else .serving := by
  obtain ⟨t, hrun, ht⟩ := run_populateAll registered hmappings
    (rfl : { s with phase := .populating b.mappings 0 false }.phase = _)
  have hrun : (session b).Run System.Always s t :=
    .cons (e := .complete) trivial (by simp [session, hs]) hrun
  cases hpop : populateAll env registered b.mappings with
  | false =>
    refine ⟨_, .step (e := .unregister true) hrun trivial (by simp [session, ht, hpop]; rfl), ?_⟩
    simp [completeAndUnregister, hpop]
  | true =>
    cases hwaits : env.waits with
    | false =>
      refine ⟨_, .step (e := .abandon) hrun trivial (by simp [session, ht]; rfl), ?_⟩
      simp [completeAndUnregister, hwaits]
    | true =>
      refine ⟨_, .step (e := .unregister (completeAndUnregister env registered b.mappings).2) hrun
        trivial (by simp [session, ht, hpop]; rfl), rfl⟩

end Session

/-- Nothing fails of itself. -/
def calm : Completion := ⟨fun _ _ => true, true, fun _ => false⟩

/-- What all rounds leave registered. -/
theorem foldl_unregister (env : Completion) (mappings : List Mapping)
    (s : (UInt64 → Bool) × Bool) : mappings.foldl (unregister env) s =
      (fun addr => s.1 addr && !mappings.any fun m => !env.fails m && decide (m.Holds addr),
        s.2 && !mappings.any env.fails) := by
  induction mappings generalizing s with
  | nil => simp
  | cons m mappings ih =>
    rw [List.foldl_cons, ih, unregister]
    cases hfail : env.fails m <;> simp [hfail, Bool.and_assoc]

/-- After a completion that copied every page and failed to unregister some mappings, one in which
nothing fails of itself succeeds exactly if no page of a mapping has an address in a mapping that
was unregistered. -/
theorem retry_succeeds_iff (env : Completion) (mappings : List Mapping)
    (registered : UInt64 → Bool) (hpopulated : populateAll env registered mappings = true)
    (hwaits : env.waits = true) (hfails : mappings.any env.fails = true) :
    (completeAndUnregister env registered mappings).2 = false ∧
    ((completeAndUnregister calm (completeAndUnregister env registered mappings).1 mappings).2 =
        true ↔
      ∀ m ∈ mappings, env.fails m = false → ∀ m' ∈ mappings, ∀ off ∈ m'.pages,
        ∀ k < m'.pageSize.toNat, ¬ m.Holds (m'.baseHostVirtAddr + off + UInt64.ofNat k)) := by
  have hfirst : completeAndUnregister env registered mappings = _ :=
    if_pos (by rw [hpopulated, hwaits]; rfl)
  rw [foldl_unregister] at hfirst
  refine ⟨by simp [hfirst, hfails], ?_⟩
  have hsecond (reg : UInt64 → Bool) :
      (completeAndUnregister calm reg mappings).2 = populateAll calm reg mappings := by
    have hwait : calm.waits = true := rfl
    have hnone : mappings.any calm.fails = false := by simp [calm]
    cases hpop : populateAll calm reg mappings <;>
      simp [completeAndUnregister, hpop, foldl_unregister, hwait, hnone]
  -- every page was registered when it was copied
  have hwas : ∀ m ∈ mappings, ∀ off ∈ m.pages, ∀ k < m.pageSize.toNat,
      registered (m.baseHostVirtAddr + off + UInt64.ofNat k) = true := by
    simp only [populateAll, List.all_eq_true, Bool.and_eq_true, Mapping.copied,
      decide_eq_true_eq] at hpopulated
    exact fun m hm off hoff => (hpopulated m hm off hoff).2
  rw [hsecond, hfirst]
  simp only [populateAll, calm, Mapping.copied, List.all_eq_true, decide_eq_true_eq, Bool.true_and]
  constructor
  · intro h m hm hok m' hm' off hoff k hk hholds
    have hreg := h m' hm' off hoff k hk
    simp only [Bool.and_eq_true, Bool.not_eq_true', List.any_eq_false] at hreg
    exact hreg.2 m hm (by simp [hok, hholds])
  · intro h m' hm' off hoff k hk
    simp only [Bool.and_eq_true, Bool.not_eq_true', List.any_eq_false]
    refine ⟨hwas m' hm' off hoff k hk, fun m hm => ?_⟩
    cases hfail : env.fails m
    · simpa using h m hm hfail m' hm' off hoff k hk
    · simp

/-- Mappings of one page each, and of less than a page. -/
def onePage (base size : UInt64) : Mapping := ⟨base, size, 0, 4, 0⟩

/-- The first of two mappings is less than a page, and the second one fails. -/
theorem retry_succeeds_short :
    let env : Completion := ⟨fun _ _ => true, true, fun m => m.baseHostVirtAddr == 64⟩
    let mappings := [onePage 0 3, onePage 64 4]
    (completeAndUnregister calm (completeAndUnregister env (fun _ => true) mappings).1
      mappings).2 = true := by
  intro env mappings
  have hshort : (onePage 0 3).pages = [] := by decide +kernel
  have hpage : (onePage 64 4).pages = [0] := by decide +kernel
  refine (retry_succeeds_iff env mappings _ (by decide +kernel) rfl (by decide +kernel)).2.mpr ?_
  -- only the first mapping is unregistered, and only the second one has a page
  intro m hm hok m' hm' off hoff
  have hm : m = onePage 0 3 ∨ m = onePage 64 4 := by simpa [mappings] using hm
  have hm' : m' = onePage 0 3 ∨ m' = onePage 64 4 := by simpa [mappings] using hm'
  rcases hm with rfl | rfl
  · rcases hm' with rfl | rfl
    · simp [hshort] at hoff
    · obtain rfl : off = 0 := by simpa [hpage] using hoff
      decide +kernel
  · simp [env, onePage] at hok

/-- The second of two mappings fails, and no completion succeeds after that. -/
theorem retry_fails :
    let env : Completion := ⟨fun _ _ => true, true, fun m => m.baseHostVirtAddr == 64⟩
    let mappings := [onePage 0 4, onePage 64 4]
    let first := completeAndUnregister env (fun _ => true) mappings
    populateAll env (fun _ => true) mappings = true ∧ first.2 = false ∧
      (completeAndUnregister calm first.1 mappings).2 = false := by
  decide +kernel

end Hypeman.UffdPager
