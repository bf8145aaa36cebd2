import Mathlib.Tactic.SplitIfs
import Hypeman.Foundations.Attempt

/-!
# What a failed restore leaves behind

`restoreInstance` takes a reservation, a network identity with its TAP, an egress proxy
registration, a restore slot and an admission entry one after the other, and gives them back by hand
where a later call fails (`lib/instances/restore.go`). It notes the registration only after two more
calls that may fail.

* `restoreInstance`: its calls in order, each with what it takes and what is undone where it fails.
* `failed_restore_clean_iff`: nothing is left if, and only if, the failing call is none of those two
  and the TAP, if there is one, is found and deleted.
* `registration_left`: a restore whose config disk cannot be written leaves the registration.
-/

namespace Hypeman.Instances.RestoreCleanup

open Foundations Attempt

/-- The calls of `restoreInstance` that may fail, in order; `checkState` stands for the state and
snapshot checks. -/
inductive Call
  | loadMetadata
  | checkState
  | getImage
  | reserveAllocation
  | ensureSnapshotMemoryReady
  | getVMStarter
  | createAllocation
  | prepareFork
  | recreateAllocation
  | getAllocation
  | maybeRegisterEgressProxy
  | getImageForConfigDisk
  | createConfigDisk
  | firecrackerSnapshotRestoreOptions
  | acquireRestoreSlot
  | restoreFromSnapshot
  | resume
  | reconfigureGuestNetwork
deriving DecidableEq

/-- What `restoreInstance` finds: whether there is a resource validator, a limit of restores and a
loaded admission cache, and the fields of the metadata it reads; `freshIdentity` says that the
instance has no IP or MAC address. -/
structure Setup where
  resourceValidator : Bool
  restoreSlots : Bool
  admissionLoaded : Bool
  networkEnabled : Bool
  freshIdentity : Bool
  egressEnabled : Bool
  skipGuestAgent : Bool

def Setup.requiresRestoreConfigDiskRefresh (m : Setup) : Bool := m.networkEnabled && m.egressEnabled

/-- What the calls return. The last three are about cleaning up: whether a `createTAPDevice` that
failed has left a device, the outcome of deleting the device, and whether `GetAllocation` finds the
allocation that `releaseNetwork` asks for. -/
structure Calls where
  outcome : Call → Option String
  tapLeft : Bool
  deleteTAP : Option String
  findsAllocation : Bool

/-- What the call holds, with the variables `allocatedNet` and `proxyRegistered`, and the call that
has failed. -/
structure Held where
  reserved : Bool
  pending : Bool
  tap : Bool
  registered : Bool
  slot : Bool
  active : Bool
  allocatedNet : Bool
  proxyRegistered : Bool
  failedAt : Option Call

/-- Nothing yet. -/
def Held.start : Held := ⟨false, false, false, false, false, false, false, false, none⟩

/-- Neither reservation, network allocation, TAP, registration, slot nor admission entry. -/
structure Held.Clean (s : Held) : Prop where
  reserved : s.reserved = false
  pending : s.pending = false
  tap : s.tap = false
  registered : s.registered = false
  slot : s.slot = false
  active : s.active = false

variable (m : Setup) (c : Calls)

/-! ## The procedure -/

/-- A call that takes nothing; `undo` is done where it fails. -/
def call (p : Call) (undo : Held → Held) : Attempt String Held := fun s =>
  match c.outcome p with
  | none => (none, s)
  | some err => (some err, undo { s with failedAt := some p })

/-- `ReleaseAllocation`: the pending entry is forgotten in any case. -/
def ReleaseAllocation (s : Held) : Held :=
  { s with pending := false, tap := s.tap && c.deleteTAP.isSome }

def releaseNetwork (s : Held) : Held :=
  if !m.networkEnabled then s
  else
    let s := if s.proxyRegistered then { s with registered := false, proxyRegistered := false }
      else s
    if s.allocatedNet || c.findsAllocation then ReleaseAllocation c s else s

/-- `CreateAllocation`: where the TAP cannot be made it is deleted, and the pending entry stays if
it is still there. -/
def createAllocation : Attempt String Held :=
  (call c .createAllocation fun s => { s with
    tap := c.tapLeft && c.deleteTAP.isSome
    pending := c.tapLeft && c.deleteTAP.isSome }).andThen
  (.modify fun s => { s with tap := true, pending := true, allocatedNet := true })

def recreateAllocation : Attempt String Held :=
  (call c .recreateAllocation fun s => { s with tap := c.tapLeft && c.deleteTAP.isSome }).andThen
  (.modify fun s => { s with tap := true })

def restoreNetwork : Attempt String Held :=
  if m.freshIdentity then (createAllocation c).andThen (call c .prepareFork (releaseNetwork m c))
  else recreateAllocation c

/-- The proxy and the config disk: `proxyRegistered` is set last. -/
def refreshConfigDisk : Attempt String Held :=
  (call c .getAllocation (releaseNetwork m c)).andThen <|
  (call c .maybeRegisterEgressProxy (releaseNetwork m c)).andThen <|
  (Attempt.modify fun s => { s with registered := true }).andThen <|
  (call c .getImageForConfigDisk (releaseNetwork m c)).andThen <|
  (call c .createConfigDisk (releaseNetwork m c)).andThen <|
  .modify fun s => { s with proxyRegistered := true }

/-- `restoreInstance` up to the deferred functions; what follows the last call cannot fail. -/
def restoreSteps : Attempt String Held :=
  (call c .loadMetadata id).andThen <|
  (call c .checkState id).andThen <|
  (call c .getImage id).andThen <|
  (Attempt.when m.resourceValidator ((call c .reserveAllocation id).andThen
    (.modify fun s => { s with reserved := true }))).andThen <|
  (call c .ensureSnapshotMemoryReady id).andThen <|
  (call c .getVMStarter id).andThen <|
  (Attempt.when m.networkEnabled (restoreNetwork m c)).andThen <|
  (Attempt.when m.requiresRestoreConfigDiskRefresh (refreshConfigDisk m c)).andThen <|
  (call c .firecrackerSnapshotRestoreOptions (releaseNetwork m c)).andThen <|
  (call c .acquireRestoreSlot (releaseNetwork m c)).andThen <|
  (Attempt.modify fun s => { s with slot := m.restoreSlots }).andThen <|
  (call c .restoreFromSnapshot (releaseNetwork m c)).andThen <|
  (call c .resume (releaseNetwork m c)).andThen <|
  (Attempt.modify fun s => { s with active := m.admissionLoaded, reserved := false }).andThen <|
  Attempt.when (m.networkEnabled && m.freshIdentity && !m.skipGuestAgent)
    (call c .reconfigureGuestNetwork fun s => releaseNetwork m c { s with active := false })

/-- The deferred functions: `FinishAllocation` and `releaseRestoreSlotOnce`. -/
def deferred (s : Held) : Held := { s with reserved := false, slot := false }

/-- `restoreInstance`: the error, if any, and what is held afterwards. -/
def restoreInstance : Option String × Held :=
  let (err, s) := restoreSteps m c .start
  (err, deferred s)

/-! ## What is left -/

/-- What a failure at a call needs for nothing to be left. -/
def Undone : Call → Prop
  | .loadMetadata | .checkState | .getImage | .reserveAllocation | .ensureSnapshotMemoryReady
  | .getVMStarter => True
  | .createAllocation | .recreateAllocation => c.tapLeft = true → c.deleteTAP = none
  | .getImageForConfigDisk | .createConfigDisk => False
  | _ => m.networkEnabled = true →
      c.deleteTAP = none ∧ (m.freshIdentity = true ∨ c.findsAllocation = true)

/-- A failure leaves nothing exactly where it is undone. -/
def Settled (s : Held) : Prop := ∃ p, s.failedAt = some p ∧ ((deferred s).Clean ↔ Undone m c p)

variable {m c}

theorem call_spec {p : Call} {undo : Held → Held} {a : Held}
    (h : Settled m c (undo { a with failedAt := some p })) :
    Spec (· = a) (call c p undo) (· = a) (Settled m c) := by
  rintro s rfl
  unfold call
  cases c.outcome p with
  | none => exact ⟨fun _ => rfl, fun hne => absurd rfl hne⟩
  | some err => exact ⟨fun hok => (nomatch hok), fun _ => h⟩

theorem clean_iff {s : Held} : s.Clean ↔ s.reserved = false ∧ s.pending = false ∧
    s.tap = false ∧ s.registered = false ∧ s.slot = false ∧ s.active = false :=
  ⟨fun h => ⟨h.1, h.2, h.3, h.4, h.5, h.6⟩,
    fun ⟨h₁, h₂, h₃, h₄, h₅, h₆⟩ => ⟨h₁, h₂, h₃, h₄, h₅, h₆⟩⟩

@[simp] theorem releaseNetwork_failedAt (s : Held) :
    (releaseNetwork m c s).failedAt = s.failedAt := by
  simp only [releaseNetwork, ReleaseAllocation]
  split_ifs <;> rfl

@[simp] theorem releaseNetwork_registered (s : Held) :
    (releaseNetwork m c s).registered =
      (s.registered && !(m.networkEnabled && s.proxyRegistered)) := by
  simp only [releaseNetwork, ReleaseAllocation]
  split_ifs <;> simp_all

/-- The variables say what is held: all of it is within the reach of `releaseNetwork`. -/
structure Held.Balanced (m : Setup) (s : Held) : Prop where
  tap : s.tap = m.networkEnabled
  pending : s.pending = (m.networkEnabled && m.freshIdentity)
  allocatedNet : s.allocatedNet = (m.networkEnabled && m.freshIdentity)
  proxy : s.registered = s.proxyRegistered
  networked : s.registered = true → m.networkEnabled = true
  inactive : s.active = false

/-- Then it gives all of it back, if the TAP is found and deleted. -/
theorem Held.Balanced.settled {s : Held} (h : s.Balanced m) {p : Call}
    (hp : Undone m c p ↔ (m.networkEnabled = true →
      c.deleteTAP = none ∧ (m.freshIdentity = true ∨ c.findsAllocation = true))) :
    Settled m c (releaseNetwork m c { s with failedAt := some p }) := by
  obtain ⟨htap, hpending, halloc, hproxy, hnet, hactive⟩ := h
  cases hn : m.networkEnabled with
  | false =>
    have hreg : s.registered = false := by
      cases hr : s.registered with
      | false => rfl
      | true => exact absurd (hnet hr) (by simp [hn])
    refine ⟨p, releaseNetwork_failedAt _, ?_⟩
    rw [hp, clean_iff]
    simp [releaseNetwork, deferred, hn, htap, hpending, hactive, hreg]
  | true =>
    refine ⟨p, releaseNetwork_failedAt _, ?_⟩
    rw [hp, clean_iff]
    cases hf : m.freshIdentity <;> cases hfind : c.findsAllocation <;>
      cases hreg : s.proxyRegistered <;>
      simp [releaseNetwork, deferred, ReleaseAllocation, hn, hf, hfind, hreg, htap, hpending,
        halloc, hproxy, hactive]

/-- A registration that has not been noted stays. -/
theorem settled_of_registered {s : Held} (hreg : s.registered = true)
    (hnoted : s.proxyRegistered = false) {p : Call} (hp : ¬ Undone m c p) :
    Settled m c (releaseNetwork m c { s with failedAt := some p }) := by
  refine ⟨p, releaseNetwork_failedAt _, iff_of_false (fun hclean => ?_) hp⟩
  have hgone : (releaseNetwork m c { s with failedAt := some p }).registered = false :=
    hclean.registered
  simp [hreg, hnoted] at hgone

/-! ## The states between the calls -/

/-- After the reservation. -/
def Held.reserving (m : Setup) : Held := { Held.start with reserved := m.resourceValidator }

def Held.networked (m : Setup) : Held :=
  { Held.reserving m with
    tap := m.networkEnabled
    pending := m.networkEnabled && m.freshIdentity
    allocatedNet := m.networkEnabled && m.freshIdentity }

/-- With the registration. -/
def Held.proxied (m : Setup) : Held :=
  { Held.networked m with
    registered := m.requiresRestoreConfigDiskRefresh
    proxyRegistered := m.requiresRestoreConfigDiskRefresh }

theorem networked_balanced (m : Setup) : (Held.networked m).Balanced m :=
  ⟨rfl, rfl, rfl, rfl, fun h => (nomatch h), rfl⟩

theorem proxied_balanced (m : Setup) : (Held.proxied m).Balanced m :=
  ⟨rfl, rfl, rfl, rfl, fun h => (Bool.and_eq_true_iff.mp h).1, rfl⟩

/-- Up to the network only the reservation is held, which is given back in any case. -/
theorem settled_early {s : Held} (h : (deferred s).Clean) {p : Call} (hp : Undone m c p) :
    Settled m c { s with failedAt := some p } :=
  ⟨p, rfl, iff_of_true ⟨rfl, h.pending, h.tap, h.registered, rfl, h.active⟩ hp⟩

theorem restoreNetwork_spec (hn : m.networkEnabled = true) :
    Spec (· = .reserving m) (restoreNetwork m c) (· = .networked m) (Settled m c) := by
  unfold restoreNetwork
  split
  next hf =>
    have hsplit : { Held.reserving m with tap := true, pending := true, allocatedNet := true } =
        Held.networked m := by simp [Held.networked, hn, hf]
    refine ((call_spec ?_).andThen (Spec.modify ?_)).andThen
      (call_spec ((networked_balanced m).settled Iff.rfl))
    · refine ⟨_, rfl, ?_⟩
      rw [clean_iff]
      simp [deferred, Held.reserving, Held.start, Undone]
    · rintro s rfl
      exact hsplit
  next hf =>
    refine (call_spec ?_).andThen (Spec.modify ?_)
    · refine ⟨_, rfl, ?_⟩
      rw [clean_iff]
      simp [deferred, Held.reserving, Held.start, Undone]
    · rintro s rfl
      simp [Held.networked, Held.reserving, Held.start, hn, hf]

theorem refreshConfigDisk_spec (hr : m.requiresRestoreConfigDiskRefresh = true) :
    Spec (· = .networked m) (refreshConfigDisk m c) (· = .proxied m) (Settled m c) := by
  have hbal := networked_balanced m
  refine (call_spec (hbal.settled Iff.rfl)).andThen ?_
  refine (call_spec (hbal.settled Iff.rfl)).andThen ?_
  refine Spec.andThen (Q := (· = { Held.networked m with registered := true }))
    (Spec.modify fun s hs => hs ▸ rfl) ?_
  refine (call_spec (settled_of_registered rfl rfl id)).andThen ?_
  refine (call_spec (settled_of_registered rfl rfl id)).andThen (Spec.modify ?_)
  rintro s rfl
  simp [Held.proxied, hr]

theorem restoreSteps_spec :
    Spec (· = .start) (restoreSteps m c) (fun _ => True) (Settled m c) := by
  have hstart : (deferred .start).Clean := ⟨rfl, rfl, rfl, rfl, rfl, rfl⟩
  have hres : (deferred (.reserving m)).Clean := ⟨rfl, rfl, rfl, rfl, rfl, rfl⟩
  have hprox := proxied_balanced m
  refine (call_spec (settled_early (p := .loadMetadata) hstart trivial)).andThen ?_
  refine (call_spec (settled_early (p := .checkState) hstart trivial)).andThen ?_
  refine (call_spec (settled_early (p := .getImage) hstart trivial)).andThen ?_
  refine Spec.andThen (Q := (· = .reserving m)) ?_ ?_
  · refine Spec.when (fun hb => ?_) (fun hb s hs => ?_)
    · refine (call_spec (settled_early (p := .reserveAllocation) hstart trivial)).andThen
        (Spec.modify fun s hs => ?_)
      simp [hs, Held.reserving, hb]
    · simp [hs, Held.reserving, hb, Held.start]
  refine (call_spec (settled_early (p := .ensureSnapshotMemoryReady) hres trivial)).andThen ?_
  refine (call_spec (settled_early (p := .getVMStarter) hres trivial)).andThen ?_
  refine Spec.andThen (Q := (· = .networked m))
    (Spec.when restoreNetwork_spec fun hb s hs => ?_) ?_
  · simp [hs, Held.networked, hb, Held.reserving, Held.start]
  refine Spec.andThen (Q := (· = .proxied m))
    (Spec.when refreshConfigDisk_spec fun hb s hs => ?_) ?_
  · simp [hs, Held.proxied, hb, Held.networked, Held.reserving, Held.start]
  refine (call_spec (hprox.settled Iff.rfl)).andThen ?_
  refine (call_spec (hprox.settled Iff.rfl)).andThen ?_
  have hslot : Held.Balanced m { Held.proxied m with slot := m.restoreSlots } :=
    ⟨hprox.tap, hprox.pending, hprox.allocatedNet, hprox.proxy, hprox.networked, hprox.inactive⟩
  refine Spec.andThen (Q := (· = { Held.proxied m with slot := m.restoreSlots }))
    (Spec.modify fun s hs => hs ▸ rfl) ?_
  refine (call_spec (hslot.settled Iff.rfl)).andThen ?_
  refine (call_spec (hslot.settled Iff.rfl)).andThen ?_
  refine Spec.andThen (Q := (· = { Held.proxied m with
    slot := m.restoreSlots, active := m.admissionLoaded, reserved := false }))
    (Spec.modify fun s hs => hs ▸ rfl) ?_
  refine (Spec.when (fun _ => call_spec ?_) fun _ _ hs => hs).weaken (fun _ hs => hs)
    (fun _ _ => trivial) fun _ hs => hs
  -- the entry is taken back before the network is released
  have hback : Held.Balanced m { Held.proxied m with slot := m.restoreSlots, reserved := false } :=
    ⟨hprox.tap, hprox.pending, hprox.allocatedNet, hprox.proxy, hprox.networked, hprox.inactive⟩
  exact hback.settled Iff.rfl

/-- **A failed restore leaves nothing behind if, and only if, the failure is not between the
registration with the proxy and the end of the config disk, and the TAP, if one was made, is found
and deleted.** -/
theorem failed_restore_clean_iff (m : Setup) (c : Calls) {err : String}
    (h : (restoreInstance m c).1 = some err) :
    ∃ p, (restoreInstance m c).2.failedAt = some p ∧
      ((restoreInstance m c).2.Clean ↔ Undone m c p) :=
  (restoreSteps_spec .start rfl).2 (fun hnone => by cases hnone.symm.trans h)

/-- A host with all features on, an instance with an identity and an egress policy. -/
def egressSetup : Setup := ⟨true, true, true, true, false, true, false⟩

/-- The given call fails, cleaning up does not. -/
def failingAt (p : Call) : Calls where
  outcome q := if q = p then some "failed" else none
  tapLeft := false
  deleteTAP := none
  findsAllocation := true

theorem failed_restore_clean_iff_resume :
    (restoreInstance egressSetup (failingAt .resume)).2.Clean := by
  obtain ⟨p, hp, hclean⟩ := failed_restore_clean_iff egressSetup (failingAt .resume) rfl
  obtain rfl : Call.resume = p := Option.some.inj hp
  exact hclean.mpr fun _ => ⟨rfl, .inr rfl⟩

theorem registration_left :
    (restoreInstance egressSetup (failingAt .createConfigDisk)).1 = some "failed" ∧
      (restoreInstance egressSetup (failingAt .createConfigDisk)).2.registered = true := by
  decide

end Hypeman.Instances.RestoreCleanup
