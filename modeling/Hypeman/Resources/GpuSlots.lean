import Mathlib.Algebra.BigOperators.Ring.Finset
import Hypeman.Resources.Admission

/-!
# Admission to GPU slots

`ReserveAllocation` asks the status provider for the free GPU slots before it takes the lock under
which reservations are counted (`gpuAdmissionFor`, `lib/resources/resource.go`). The calls are
therefore modelled in two steps, and between them other instances are admitted, take their slot on
the host and finish.

* `GpuState`, `gpuSystem`: the calls that have read the status, the manager and the instances that
  hold a slot.
* `gpuSlots_eq_card`: the slots in the totals are the number of instances with a GPU reservation.
* `admitted_le_slots`: no more instances are admitted than there are slots, as long as a status is
  not used after an instance has taken a slot and finished.
-/

namespace Hypeman.Resources

open Foundations

/-! ## Calls in two steps -/

inductive ProviderAnswer
  | counted
  /-- The health of the slots is not known, so none is allocatable. -/
  | disabled (err : String)
  /-- There is no GPU, or discovery failed. -/
  | absent
deriving DecidableEq, Repr

/-- A `ReserveAllocation` call that has read the GPU status and not yet taken the lock. -/
structure ReserveCall where
  instanceID : String
  args : AllocationRequest
  gpu : GPUAdmission

/-- The manager, what its listers answer, the calls in flight and the instances that hold a slot. -/
structure GpuState where
  manager : Manager := {}
  listers : Listers
  calls : List ReserveCall := []
  holding : Finset String := ∅

/-- The steps of the calls and of the instances. -/
inductive GpuEvent
  | sample (instanceID : String) (args : AllocationRequest) (answer : ProviderAnswer)
  | reserve (call : Nat)
  /-- An instance that is being created takes its slot on the host. -/
  | take (instanceID : String)
  /-- An instance gives its slot back. -/
  | free (instanceID : String)
  | finish (instanceID : String)
  | listed (listers : Listers)

/-- The instances with a reservation that includes a GPU. -/
def Manager.pendingGPU (m : Manager) : Finset String :=
  m.pending.keys.toFinset.filter fun id => ∃ req ∈ m.pending.lookup id, 0 < req.gpuSlots

namespace GpuState

variable {R : Type} (lib : ResourceLib R) (host : Host R) (mode : GPUMode) (slots : Nat)

/-- The instances that were admitted with a GPU: those with a reservation and those with a slot. -/
def admitted (s : GpuState) : Finset String := s.manager.pendingGPU ∪ s.holding

/-- `GetGPUStatus` on a host with `slots` slots. -/
def status (s : GpuState) : ProviderAnswer → GPUAdmission
  | .counted => ⟨some ⟨mode, slots, s.holding.card, slots - s.holding.card⟩, none⟩
  | .disabled err => ⟨some ⟨mode, slots, s.holding.card, 0⟩, some err⟩
  | .absent => {}

def step (s : GpuState) : GpuEvent → Option GpuState
  | .sample id args answer =>
    some { s with calls := s.calls ++
      [⟨id, args, gpuAdmissionFor (s.status mode slots answer) (newPendingAllocation args)⟩] }
  | .reserve i =>
    match s.calls[i]? with
    | none => none
    | some call =>
      some
        { s with
          manager := (s.manager.reserveLocked lib host s.listers call.instanceID
            (newPendingAllocation call.args) call.gpu).1
          calls := s.calls.eraseIdx i }
  | .take id =>
    if id ∈ s.manager.pendingGPU ∧ id ∉ s.holding ∧ s.holding.card < slots then
      some { s with holding := insert id s.holding }
    else none
  | .free id => some { s with holding := s.holding.erase id }
  | .finish id => some { s with manager := s.manager.FinishAllocation id }
  | .listed listers => some { s with listers := listers }

/-- The condition on the steps: a call is admitted on a status in which every instance that has a
slot and no reservation was counted as using it. -/
def freshStatus (s : GpuState) : GpuEvent → Prop
  | .reserve i => ∀ call ∈ s.calls[i]?, ∀ status ∈ call.gpu.status,
      status.allocatableSlots + (s.holding \ s.manager.pendingGPU).card ≤ slots
  | _ => True

instance (s : GpuState) : (e : GpuEvent) → Decidable (s.freshStatus slots e)
  | .reserve i => inferInstanceAs (Decidable (∀ call ∈ s.calls[i]?, _))
  | .sample _ _ _ => .isTrue trivial
  | .take _ => .isTrue trivial
  | .free _ => .isTrue trivial
  | .finish _ => .isTrue trivial
  | .listed _ => .isTrue trivial

end GpuState

/-- The calls and the instances of a host with `slots` GPU slots. -/
def gpuSystem {R : Type} (lib : ResourceLib R) (host : Host R) (mode : GPUMode) (slots : Nat)
    (listers : Listers) : System GpuState GpuEvent where
  init := { listers := listers }
  step s e := s.step lib host mode slots e

/-! ## Counting reservations -/

namespace Manager

variable {m : Manager} {id : String}

theorem mem_pendingGPU : id ∈ m.pendingGPU ↔ ∃ req ∈ m.pending.lookup id, 0 < req.gpuSlots := by
  simp only [pendingGPU, Finset.mem_filter, List.mem_toFinset, and_iff_right_iff_imp]
  rintro ⟨req, hreq, -⟩
  exact AList.mem_keys.mp (AList.lookup_isSome.mp (Option.isSome_of_mem hreq))

def UnitSlots (m : Manager) : Prop :=
  ∀ id req, m.pending.lookup id = some req → req.gpuSlots = 0 ∨ req.gpuSlots = 1

/-- The slots of an allocation, as an additive map. -/
def slotsHom : PendingAllocation →+ Int where
  toFun := PendingAllocation.gpuSlots
  map_zero' := rfl
  map_add' _ _ := rfl

@[simp] theorem slotsHom_apply (req : PendingAllocation) : slotsHom req = req.gpuSlots := rfl

/-- **The slots in the totals count instances.** -/
theorem gpuSlots_eq_card (hbalanced : m.Balanced) (hunit : m.UnitSlots) :
    m.pendingTotals.gpuSlots = m.pendingGPU.card := by
  have hterm : ∀ id ∈ m.pending.keys.toFinset, slotsHom ((m.pending.lookup id).getD 0) =
      if ∃ req ∈ m.pending.lookup id, 0 < req.gpuSlots then 1 else 0 := by
    intro id _
    cases hlookup : m.pending.lookup id with
    | none => simp
    | some req =>
      rcases hunit id req hlookup with h | h <;> simp [h]
  rw [hbalanced, Table.total_eq_sum, pendingGPU, Finset.card_filter]
  show slotsHom _ = _
  rw [map_sum, Finset.sum_congr rfl hterm]
  push_cast
  rfl

end Manager

/-! ## Whole runs -/

section Runs

variable {R : Type} {lib : ResourceLib R} {host : Host R} {mode : GPUMode} {slots : Nat}
  {listers : Listers}

structure GpuState.Bounded (slots : Nat) (s : GpuState) : Prop where
  balanced : s.manager.Balanced
  unit : s.manager.UnitSlots
  admitted : s.admitted.card ≤ slots

theorem newPendingAllocation_unit (args : AllocationRequest) :
    (newPendingAllocation args).gpuSlots = 0 ∨ (newPendingAllocation args).gpuSlots = 1 := by
  cases h : args.needsGPU <;> simp [newPendingAllocation, h]

/-- A passed GPU check leaves a slot of the status for the request. -/
theorem of_checkGPU {gpu : GPUAdmission} {pending req : PendingAllocation}
    (h : checkGPU gpu pending req = .ok ()) (hpos : 0 < req.gpuSlots) :
    ∃ status ∈ gpu.status, req.gpuSlots + pending.gpuSlots ≤ status.allocatableSlots := by
  unfold checkGPU at h
  rw [if_pos hpos] at h
  split at h
  · cases h
  · next status hstatus =>
    refine ⟨status, hstatus, ?_⟩
    by_cases hfits : status.allocatableSlots - pending.gpuSlots < req.gpuSlots
    · rw [if_pos hfits] at h
      split at h
      · cases h
      · split at h <;> cases h
    · omega

/-- An insertion adds at most the instance itself, and only for a request with a GPU. -/
theorem Manager.of_mem_pendingGPU_insert {m : Manager} {id id' : String}
    {req totals : PendingAllocation}
    (h : id' ∈ (Manager.mk (m.pending.insert id req) totals).pendingGPU) :
    id' ∈ m.pendingGPU ∨ id' = id ∧ 0 < req.gpuSlots := by
  obtain ⟨req', hreq', hpos⟩ := Manager.mem_pendingGPU.mp h
  rw [Table.lookup_insert] at hreq'
  split at hreq'
  · next heq =>
    cases hreq'
    exact .inr ⟨heq, hpos⟩
  · exact .inl (Manager.mem_pendingGPU.mpr ⟨req', hreq', hpos⟩)

theorem Manager.pendingGPU_FinishAllocation_subset (m : Manager) (id : String) :
    (m.FinishAllocation id).pendingGPU ⊆ m.pendingGPU := by
  by_cases hid : id = ""
  · rw [Manager.FinishAllocation, if_pos hid]
  rcases m.FinishAllocation_eq hid with heq | ⟨-, heq⟩
  · intro id' hid'
    rw [heq] at hid'
    obtain ⟨req, hreq, hpos⟩ := Manager.mem_pendingGPU.mp hid'
    rw [Table.lookup_erase] at hreq
    split at hreq
    · cases hreq
    · exact Manager.mem_pendingGPU.mpr ⟨req, hreq, hpos⟩
  · rw [heq]

theorem Manager.UnitSlots.FinishAllocation {m : Manager} (h : m.UnitSlots) (id : String) :
    (m.FinishAllocation id).UnitSlots := by
  by_cases hid : id = ""
  · rw [Manager.FinishAllocation, if_pos hid]
    exact h
  rcases m.FinishAllocation_eq hid with heq | ⟨-, heq⟩
  · rw [heq]
    exact (Table.Sets.erase id m.pending).all h (by simp)
  · rw [heq]
    exact h

theorem Manager.UnitSlots.insert {m : Manager} (h : m.UnitSlots) (id : String)
    (args : AllocationRequest) (totals : PendingAllocation) :
    (Manager.mk (m.pending.insert id (newPendingAllocation args)) totals).UnitSlots := by
  apply (Table.Sets.insert id _ m.pending).all h
  intro req hreq
  cases hreq
  exact newPendingAllocation_unit args

namespace GpuState.Bounded

variable {s : GpuState}

/-- A request for a GPU that passes the check finds a slot that nobody was admitted to. -/
theorem admitted_lt (h : s.Bounded slots) {id : String} {req : PendingAllocation}
    {gpu : GPUAdmission} (hid : id ∉ s.admitted) (hpos : 0 < req.gpuSlots)
    (hcheck : checkGPU gpu (s.manager.pendingTotalsExcludingLocked id) req = .ok ())
    (hfresh : ∀ status ∈ gpu.status,
      status.allocatableSlots + (s.holding \ s.manager.pendingGPU).card ≤ slots) :
    s.admitted.card < slots := by
  obtain ⟨status, hstatus, hfits⟩ := of_checkGPU hcheck hpos
  have hallocatable := hfresh status hstatus
  -- the instance has no GPU reservation, so the check has left out no slot
  have hexcluded :
      (s.manager.pendingTotalsExcludingLocked id).gpuSlots = s.manager.pendingGPU.card := by
    rw [← Manager.gpuSlots_eq_card h.balanced h.unit, Manager.pendingTotalsExcludingLocked]
    split
    · rfl
    · cases hlookup : s.manager.pending.lookup id with
      | none => rfl
      | some existing =>
        have hnone : ¬ 0 < existing.gpuSlots := fun hpos' =>
          hid (Finset.mem_union_left _ (Manager.mem_pendingGPU.mpr ⟨existing, hlookup, hpos'⟩))
        have hzero : existing.gpuSlots = 0 := by
          rcases h.unit id existing hlookup with h' | h' <;> omega
        simp [hzero]
  have hunion : s.admitted.card =
      s.manager.pendingGPU.card + (s.holding \ s.manager.pendingGPU).card := by
    rw [GpuState.admitted, ← Finset.union_sdiff_self_eq_union,
      Finset.card_union_of_disjoint Finset.disjoint_sdiff]
  omega

theorem reserveLocked (h : s.Bounded slots) {call : ReserveCall} {calls : List ReserveCall}
    (hfresh : ∀ status ∈ call.gpu.status,
      status.allocatableSlots + (s.holding \ s.manager.pendingGPU).card ≤ slots) :
    GpuState.Bounded slots
      { s with
        manager := (s.manager.reserveLocked lib host s.listers call.instanceID
          (newPendingAllocation call.args) call.gpu).1
        calls := calls } := by
  cases hresult : (s.manager.reserveLocked lib host s.listers call.instanceID
      (newPendingAllocation call.args) call.gpu).2 with
  | error err =>
    rw [s.manager.reserveLocked_error lib host hresult]
    exact ⟨h.balanced, h.unit, h.admitted⟩
  | ok u =>
    obtain ⟨hvalid, hmanager⟩ := s.manager.reserveLocked_ok lib host hresult
    have hcheck := (Manager.of_validateAllocationLocked hvalid).2
    refine ⟨h.balanced.reserveLocked _ _ _, ?_, ?_⟩
    · show Manager.UnitSlots (Manager.reserveLocked ..).1
      rw [hmanager]
      exact h.unit.insert call.instanceID call.args _
    have hnew : ∀ id ∈ (s.manager.reserveLocked lib host s.listers call.instanceID
        (newPendingAllocation call.args) call.gpu).1.pendingGPU ∪ s.holding,
        id ∈ s.admitted ∨ id = call.instanceID ∧ 0 < (newPendingAllocation call.args).gpuSlots := by
      intro id hid
      rw [hmanager] at hid
      rcases Finset.mem_union.mp hid with hid | hid
      · exact (Manager.of_mem_pendingGPU_insert hid).imp_left (Finset.mem_union_left _)
      · exact .inl (Finset.mem_union_right _ hid)
    by_cases hgrows : call.instanceID ∉ s.admitted ∧ 0 < (newPendingAllocation call.args).gpuSlots
    · have hlt := h.admitted_lt hgrows.1 hgrows.2 hcheck hfresh
      calc _ ≤ (insert call.instanceID s.admitted).card := by
            apply Finset.card_le_card
            intro id hid
            rw [Finset.mem_insert]
            exact (hnew id hid).symm.imp_left And.left
        _ = s.admitted.card + 1 := Finset.card_insert_of_notMem hgrows.1
        _ ≤ slots := hlt
    · refine (Finset.card_le_card ?_).trans h.admitted
      intro id hid
      rcases hnew id hid with hid | ⟨rfl, hpos⟩
      · exact hid
      · by_contra hnot
        exact hgrows ⟨hnot, hpos⟩

/-- Where the admitted instances are among those before, the bound goes on to hold. -/
theorem shrink (h : s.Bounded slots) {s' : GpuState} (hbalanced : s'.manager.Balanced)
    (hunit : s'.manager.UnitSlots) (hsub : s'.admitted ⊆ s.admitted) : s'.Bounded slots :=
  ⟨hbalanced, hunit, (Finset.card_le_card hsub).trans h.admitted⟩

theorem step (h : s.Bounded slots) {e : GpuEvent} {s' : GpuState} (hfresh : s.freshStatus slots e)
    (hs : s.step lib host mode slots e = some s') : s'.Bounded slots := by
  cases e with
  | sample id args answer =>
    cases hs
    exact ⟨h.balanced, h.unit, h.admitted⟩
  | reserve i =>
    simp only [GpuState.step] at hs
    split at hs
    · cases hs
    · next call hcall =>
      cases hs
      exact h.reserveLocked (hfresh call hcall)
  | take id =>
    simp only [GpuState.step, Option.ite_none_right_eq_some] at hs
    obtain ⟨⟨hpending, -, -⟩, hs⟩ := hs
    cases hs
    refine h.shrink h.balanced h.unit ?_
    rw [GpuState.admitted, Finset.union_insert, Finset.insert_subset_iff]
    exact ⟨Finset.mem_union_left _ hpending, subset_rfl⟩
  | free id =>
    cases hs
    exact h.shrink h.balanced h.unit
      (Finset.union_subset_union_right (Finset.erase_subset id s.holding))
  | finish id =>
    cases hs
    exact h.shrink (h.balanced.FinishAllocation id) (h.unit.FinishAllocation id)
      (Finset.union_subset_union_left (s.manager.pendingGPU_FinishAllocation_subset id))
  | listed listers =>
    cases hs
    exact ⟨h.balanced, h.unit, h.admitted⟩

end GpuState.Bounded

variable (lib host mode slots listers) in
/-- **GPU slots are not admitted twice.** In every run in which each call is admitted on a fresh
status, the instances with a GPU reservation and those with a slot are no more than the slots. -/
theorem admitted_le_slots {s : GpuState}
    (hs : (gpuSystem lib host mode slots listers).Reachable (GpuState.freshStatus slots) s) :
    s.admitted.card ≤ slots := by
  have hinit : GpuState.Bounded slots { listers := listers } := by
    refine ⟨rfl, ?_, Nat.zero_le slots⟩
    intro id req hreq
    cases hreq
  refine (hs.invariant (I := GpuState.Bounded slots) hinit ?_).admitted
  intro s e s' h hfresh hstep
  exact h.step hfresh hstep

end Runs

def gpuRequest : AllocationRequest := ⟨0, 0, 0, 0, 0, 0, true⟩

/-- One instance after the other on a host with one slot: the second is admitted when the first has
given its slot back. -/
theorem admitted_le_slots_oneSlot :
    ∃ s, (gpuSystem plainLib fiveUnits .vgpu 1 oneRunning).Reachable (GpuState.freshStatus 1) s ∧
      s.admitted = {"b"} ∧ s.admitted.card ≤ 1 := by
  obtain ⟨s, hs, hadmitted⟩ := System.exists_reachable_of_replay
    (gpuSystem plainLib fiveUnits .vgpu 1 oneRunning) (GpuState.freshStatus 1)
    (fun s => s.admitted = {"b"})
    [.sample "a" gpuRequest .counted, .reserve 0, .take "a", .finish "a", .free "a",
      .sample "b" gpuRequest .counted, .reserve 0, .take "b", .finish "b"] (by decide +kernel)
  exact ⟨s, hs, hadmitted, admitted_le_slots plainLib fiveUnits .vgpu 1 oneRunning hs⟩

/-- **A status read before the lock.** A call reads that the only slot is free. Another instance is
admitted, takes the slot and finishes before the call is admitted, and the call passes. -/
theorem stale_status_admits_twice :
    ¬ ∀ s, (gpuSystem plainLib fiveUnits .vgpu 1 oneRunning).Reachable System.Always s →
      s.admitted.card ≤ 1 := by
  intro h
  obtain ⟨s, hs, htwo⟩ := System.exists_reachable_of_replay
    (gpuSystem plainLib fiveUnits .vgpu 1 oneRunning) System.Always
    (fun s => s.admitted.card = 2)
    [.sample "a" gpuRequest .counted, .sample "b" gpuRequest .counted, .reserve 1, .take "b",
      .finish "b", .reserve 0] (by decide +kernel)
  have hone := h s hs
  omega

end Hypeman.Resources
