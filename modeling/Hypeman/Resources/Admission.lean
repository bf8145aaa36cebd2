import Mathlib.Tactic.Abel
import Hypeman.Foundations.Results
import Hypeman.Foundations.System
import Hypeman.Foundations.Totals
import Hypeman.Instances.State

/-!
# Admission control

A model of the reservations of the resource manager (`lib/resources/resource.go`): the pending
reservations with their running totals, the usage that the listers report, and the check that a
request passes before it is reserved. Amounts are `int64` as in the source, and their sums wrap
around.

* `reserveLocked`, `FinishAllocation`: the updates of the pending reservations, under the lock of
  the manager.
* `pendingTotals_reserveLocked`: what the check adds up is what is pending after the reservation.
* `reserve_within_limit`: in every sequence of calls the totals are the sum of the reservations, and
  a call that succeeds keeps each resource it asks for within its limit.
-/

namespace Hypeman.Resources

open Foundations Instances

/-! ## Resources and amounts -/

inductive ResourceType
  | cpu
  | memory
  | disk
  | network
  | diskIo
deriving DecidableEq, Repr

def ResourceType.text : ResourceType → String
  | .cpu => "cpu"
  | .memory => "memory"
  | .disk => "disk"
  | .network => "network"
  | .diskIo => "disk_io"

/-- `pendingAllocation`. The slots are a count of reservations. -/
@[ext]
structure PendingAllocation where
  cpu : Int64
  memoryBytes : Int64
  diskBytes : Int64
  networkBps : Int64
  diskIOBps : Int64
  gpuSlots : Int
deriving DecidableEq, Repr

namespace PendingAllocation

instance : Zero PendingAllocation := ⟨⟨0, 0, 0, 0, 0, 0⟩⟩

instance : Add PendingAllocation where
  add a b :=
    { cpu := a.cpu + b.cpu
      memoryBytes := a.memoryBytes + b.memoryBytes
      diskBytes := a.diskBytes + b.diskBytes
      networkBps := a.networkBps + b.networkBps
      diskIOBps := a.diskIOBps + b.diskIOBps
      gpuSlots := a.gpuSlots + b.gpuSlots }

instance : Neg PendingAllocation where
  neg a := ⟨-a.cpu, -a.memoryBytes, -a.diskBytes, -a.networkBps, -a.diskIOBps, -a.gpuSlots⟩

instance : Sub PendingAllocation where
  sub a b :=
    { cpu := a.cpu - b.cpu
      memoryBytes := a.memoryBytes - b.memoryBytes
      diskBytes := a.diskBytes - b.diskBytes
      networkBps := a.networkBps - b.networkBps
      diskIOBps := a.diskIOBps - b.diskIOBps
      gpuSlots := a.gpuSlots - b.gpuSlots }

def amount (rt : ResourceType) (a : PendingAllocation) : Int64 :=
  match rt with
  | .cpu => a.cpu
  | .memory => a.memoryBytes
  | .disk => a.diskBytes
  | .network => a.networkBps
  | .diskIo => a.diskIOBps

/-- Two allocations are equal when their amounts and their slots are. -/
theorem ext_amount {a b : PendingAllocation} (hamount : ∀ rt, a.amount rt = b.amount rt)
    (hslots : a.gpuSlots = b.gpuSlots) : a = b := by
  ext1
  · exact hamount .cpu
  · exact hamount .memory
  · exact hamount .disk
  · exact hamount .network
  · exact hamount .diskIo
  · exact hslots

variable (rt : ResourceType) (a b : PendingAllocation)

@[simp] theorem amount_zero : (0 : PendingAllocation).amount rt = 0 := by cases rt <;> rfl

@[simp] theorem amount_add : (a + b).amount rt = a.amount rt + b.amount rt := by cases rt <;> rfl

@[simp] theorem amount_neg : (-a).amount rt = -a.amount rt := by cases rt <;> rfl

@[simp] theorem amount_sub : (a - b).amount rt = a.amount rt - b.amount rt := by cases rt <;> rfl

@[simp] theorem gpuSlots_zero : (0 : PendingAllocation).gpuSlots = 0 := rfl

@[simp] theorem gpuSlots_add : (a + b).gpuSlots = a.gpuSlots + b.gpuSlots := rfl

@[simp] theorem gpuSlots_neg : (-a).gpuSlots = -a.gpuSlots := rfl

@[simp] theorem gpuSlots_sub : (a - b).gpuSlots = a.gpuSlots - b.gpuSlots := rfl

instance : AddCommGroup PendingAllocation where
  add_assoc a b c := by
    apply ext_amount
    · simp [Int64.add_assoc]
    · simp [add_assoc]
  zero_add a := by apply ext_amount <;> simp
  add_zero a := by apply ext_amount <;> simp
  neg_add_cancel a := by
    apply ext_amount
    · simp [Int64.add_left_neg]
    · simp
  add_comm a b := by
    apply ext_amount
    · simp [Int64.add_comm]
    · simp [add_comm]
  sub_eq_add_neg a b := by
    apply ext_amount
    · simp [Int64.sub_eq_add_neg]
    · simp [sub_eq_add_neg]
  nsmul := nsmulRec
  zsmul := zsmulRec

end PendingAllocation

/-- The arguments of `ReserveAllocation` besides the instance. -/
structure AllocationRequest where
  vcpus : Int64
  memoryBytes : Int64
  networkDownloadBps : Int64
  networkUploadBps : Int64
  diskIOBps : Int64
  diskBytes : Int64
  needsGPU : Bool
deriving DecidableEq, Repr

/-- `normalizeNetworkBandwidth`: both directions share the link. -/
def normalizeNetworkBandwidth (downloadBps uploadBps : Int64) : Int64 :=
  if uploadBps > downloadBps then uploadBps else downloadBps

def newPendingAllocation (req : AllocationRequest) : PendingAllocation where
  cpu := req.vcpus
  memoryBytes := req.memoryBytes
  diskBytes := req.diskBytes
  networkBps := normalizeNetworkBandwidth req.networkDownloadBps req.networkUploadBps
  diskIOBps := req.diskIOBps
  gpuSlots := if req.needsGPU then 1 else 0

/-! ## Visible usage -/

/-- The fields of `InstanceAllocation` that admission reads. -/
structure InstanceAllocation where
  id : String
  vcpus : Int64
  memoryBytes : Int64
  overlayBytes : Int64
  volumeOverlayBytes : Int64
  networkDownloadBps : Int64
  networkUploadBps : Int64
  diskIOBps : Int64
  state : State
deriving DecidableEq, Repr

def isActiveState : State → Bool
  | .running | .paused | .created => true
  | _ => false

structure AdmissionUsage where
  cpu : Int64 := 0
  memoryBytes : Int64 := 0
  diskBytes : Int64 := 0
  networkBps : Int64 := 0
  diskIOBps : Int64 := 0
deriving DecidableEq, Repr

def AdmissionUsage.amount (usage : AdmissionUsage) : ResourceType → Int64
  | .cpu => usage.cpu
  | .memory => usage.memoryBytes
  | .disk => usage.diskBytes
  | .network => usage.networkBps
  | .diskIo => usage.diskIOBps

structure ImageLister where
  totalImageBytes : Except String Int64
  totalOCICacheBytes : Except String Int64

/-- What the listers of the manager answer at one time; `none` is a lister that is not set. -/
structure Listers where
  instances : Option (Except String (List InstanceAllocation))
  images : Option ImageLister
  volumes : Option (Except String Int64)

/-- One round of the loop over the instances in `collectAdmissionUsageLocked`. -/
def AdmissionUsage.addInstance (usage : AdmissionUsage) (inst : InstanceAllocation) :
    AdmissionUsage :=
  if isActiveState inst.state then
    { cpu := usage.cpu + inst.vcpus
      memoryBytes := usage.memoryBytes + inst.memoryBytes
      diskBytes := usage.diskBytes + (inst.overlayBytes + inst.volumeOverlayBytes)
      networkBps := usage.networkBps +
        normalizeNetworkBandwidth inst.networkDownloadBps inst.networkUploadBps
      diskIOBps := usage.diskIOBps + inst.diskIOBps }
  else usage

def Listers.instanceUsage (l : Listers) : Except String AdmissionUsage :=
  match l.instances with
  | none => .ok {}
  | some (.error err) => .error ("list instance allocations: " ++ err)
  | some (.ok instances) => .ok (instances.foldl AdmissionUsage.addInstance {})

def Listers.imageBytes (l : Listers) : Except String Int64 :=
  match l.images with
  | none => .ok 0
  | some images => do
    let imageBytes ← images.totalImageBytes.mapError ("total image bytes: " ++ ·)
    let ociCacheBytes ← images.totalOCICacheBytes.mapError ("total OCI cache bytes: " ++ ·)
    return imageBytes + ociCacheBytes

def Listers.volumeBytes (l : Listers) : Except String Int64 :=
  match l.volumes with
  | none => .ok 0
  | some volumeBytes => volumeBytes.mapError ("total volume bytes: " ++ ·)

def collectAdmissionUsageLocked (l : Listers) : Except String AdmissionUsage := do
  let usage ← l.instanceUsage
  let imageBytes ← l.imageBytes
  let volumeBytes ← l.volumeBytes
  return { usage with diskBytes := usage.diskBytes + imageBytes + volumeBytes }

/-! ## The limits of the host -/

/-- What the manager uses of `float64` and of text formatting. -/
structure ResourceLib (R : Type) where
  one : R
  /-- `ratio <= 0`. -/
  nonpos : R → Bool
  /-- `int64(float64(capacity) * ratio)`. -/
  scale : Int64 → R → Int64
  /-- A ratio with one decimal, the verb `%.1f`. -/
  showRatio : R → String
  /-- `datasize.ByteSize(n).HR()`. -/
  byteSize : Int64 → String

/-- The resources that were discovered and the ratios of the configuration. -/
structure Host (R : Type) where
  /-- `Capacity()` of a registered resource. -/
  capacity : ResourceType → Option Int64
  /-- `cfg.Oversubscription`. -/
  oversubscription : ResourceType → R

/-- The fields of `ResourceStatus` that admission reads. -/
structure ResourceStatus (R : Type) where
  effectiveLimit : Int64
  allocated : Int64
  available : Int64
  oversubRatio : R

section Checks

variable {R : Type} (lib : ResourceLib R) (host : Host R)

def GetOversubRatio (rt : ResourceType) : R :=
  let ratio := host.oversubscription rt
  if lib.nonpos ratio then lib.one else ratio

/-- The capacity of a registered resource times its ratio. -/
def effectiveLimit (rt : ResourceType) : Option Int64 :=
  (host.capacity rt).map fun capacity => lib.scale capacity (GetOversubRatio lib host rt)

def admissionStatusLocked (rt : ResourceType) (visibleAllocated : Int64)
    (pending : PendingAllocation) : Except String (ResourceStatus R) :=
  match effectiveLimit lib host rt with
  | none => .error ("unknown resource type: " ++ rt.text)
  | some limit =>
    let allocated := visibleAllocated + pending.amount rt
    let available := limit - allocated
    .ok
      { effectiveLimit := limit
        allocated := allocated
        available := if available < 0 then 0 else available
        oversubRatio := GetOversubRatio lib host rt }

/-- What differs between the five capacity checks of `validateAllocationLocked`. -/
structure CapacityCheck where
  resource : ResourceType
  /-- The resource in the text of a failed lookup. -/
  subject : String
  /-- The resource in the text of a refusal. -/
  shortage : String
  /-- How the text shows an amount. -/
  render : Int64 → String
  /-- The unit of the requested amount in the text. -/
  unit : String := ""

def cpuCheck : CapacityCheck where
  resource := .cpu
  subject := "CPU"
  shortage := "CPU"
  render := toString
  unit := " vCPUs"

def memoryCheck : CapacityCheck where
  resource := .memory
  subject := "memory"
  shortage := "memory"
  render := lib.byteSize

def diskCheck : CapacityCheck where
  resource := .disk
  subject := "disk"
  shortage := "disk"
  render := lib.byteSize

def networkCheck : CapacityCheck where
  resource := .network
  subject := "network"
  shortage := "network bandwidth"
  render n := lib.byteSize n ++ "/s"

def diskIoCheck : CapacityCheck where
  resource := .diskIo
  subject := "disk I/O"
  shortage := "disk I/O"
  render n := lib.byteSize n ++ "/s"

def CapacityCheck.insufficient (c : CapacityCheck) (requested : Int64) (status : ResourceStatus R) :
    String :=
  "insufficient " ++ c.shortage ++ ": requested " ++ c.render requested ++ c.unit ++
    ", but only " ++ c.render status.available ++ " available (currently allocated: " ++
    c.render status.allocated ++ ", effective limit: " ++ c.render status.effectiveLimit ++
    " with " ++ lib.showRatio status.oversubRatio ++ "x oversubscription)"

/-- One capacity check; amounts that are not positive are not checked. -/
def CapacityCheck.run (c : CapacityCheck) (usage : AdmissionUsage)
    (pending req : PendingAllocation) : Except String Unit :=
  if 0 < req.amount c.resource then do
    let status ←
      (admissionStatusLocked lib host c.resource (usage.amount c.resource) pending).mapError
      (("check " ++ c.subject ++ " capacity: ") ++ ·)
    if req.amount c.resource > status.available then
      .error (c.insufficient lib (req.amount c.resource) status)
    else .ok ()
  else .ok ()

/-- The capacity checks in the order of the source. -/
def capacityChecks : List CapacityCheck :=
  [cpuCheck, memoryCheck lib, diskCheck lib, networkCheck lib, diskIoCheck lib]

end Checks

/-! ## GPU slots -/

/-- The values of `GPUResourceStatus.Mode`. -/
inductive GPUMode
  | vgpu
  | passthrough
deriving DecidableEq, Repr

def GPUMode.text : GPUMode → String
  | .vgpu => "vgpu"
  | .passthrough => "passthrough"

/-- The fields of `GPUResourceStatus` that admission reads. -/
structure GPUResourceStatus where
  mode : GPUMode
  totalSlots : Int
  usedSlots : Int
  allocatableSlots : Int
deriving DecidableEq, Repr

/-- `gpuAdmission`: the answer of the status provider. -/
structure GPUAdmission where
  status : Option GPUResourceStatus := none
  err : Option String := none
deriving DecidableEq, Repr

/-- `gpuAdmissionFor`, where `provider` is what the provider answers. -/
def gpuAdmissionFor (provider : GPUAdmission) (req : PendingAllocation) : GPUAdmission :=
  if req.gpuSlots = 0 then {} else provider

/-- The GPU check of `validateAllocationLocked`. -/
def checkGPU (gpu : GPUAdmission) (pending req : PendingAllocation) : Except String Unit :=
  if 0 < req.gpuSlots then
    match gpu.status with
    | none => .error "insufficient GPU: no GPU available on this host"
    | some status =>
      let availableSlots := status.allocatableSlots - pending.gpuSlots
      if availableSlots < req.gpuSlots then
        match gpu.err with
        | some err => .error ("insufficient GPU: vGPU placement is disabled: " ++ err)
        | none =>
          if availableSlots ≤ 0 then
            .error (s!"insufficient GPU: no allocatable {status.mode.text} slots available " ++
              s!"({status.totalSlots} total, {status.usedSlots} in use)")
          else
            .error (s!"insufficient GPU: requested {req.gpuSlots} {status.mode.text} slot(s), " ++
              s!"but only {availableSlots} available")
      else .ok ()
  else .ok ()

/-! ## The manager -/

/-- The reservations of `Manager`. -/
structure Manager where
  pending : Table String PendingAllocation := ∅
  pendingTotals : PendingAllocation := 0

namespace Manager

variable {R : Type} (lib : ResourceLib R) (host : Host R) (m : Manager)

def addPendingTotalsLocked (req : PendingAllocation) : Manager :=
  { m with pendingTotals := m.pendingTotals + req }

def subtractPendingTotalsLocked (req : PendingAllocation) : Manager :=
  { m with pendingTotals := m.pendingTotals - req }

def pendingTotalsExcludingLocked (excludeID : String) : PendingAllocation :=
  if excludeID = "" then m.pendingTotals
  else
    match m.pending.lookup excludeID with
    | some existing => m.pendingTotals - existing
    | none => m.pendingTotals

def validateAllocationLocked (listers : Listers) (excludeID : String) (req : PendingAllocation)
    (gpu : GPUAdmission) : Except String Unit := do
  let usage ← collectAdmissionUsageLocked listers
  let pending := m.pendingTotalsExcludingLocked excludeID
  (capacityChecks lib).forM fun c => c.run lib host usage pending req
  checkGPU gpu pending req

/-- The part of `ReserveAllocation` under the lock. -/
def reserveLocked (listers : Listers) (instanceID : String) (req : PendingAllocation)
    (gpu : GPUAdmission) : Manager × Except String Unit :=
  match m.validateAllocationLocked lib host listers instanceID req gpu with
  | .error err => (m, .error err)
  | .ok () =>
    let m :=
      match m.pending.lookup instanceID with
      | some existing => m.subtractPendingTotalsLocked existing
      | none => m
    let m := { m with pending := m.pending.insert instanceID req }
    (m.addPendingTotalsLocked req, .ok ())

/-- `ReserveAllocation`, where `provider` is what the GPU status provider answers. -/
def ReserveAllocation (listers : Listers) (provider : GPUAdmission) (instanceID : String)
    (args : AllocationRequest) : Manager × Except String Unit :=
  let req := newPendingAllocation args
  m.reserveLocked lib host listers instanceID req (gpuAdmissionFor provider req)

def FinishAllocation (instanceID : String) : Manager :=
  if instanceID = "" then m
  else
    match m.pending.lookup instanceID with
    | some existing =>
      { m.subtractPendingTotalsLocked existing with pending := m.pending.erase instanceID }
    | none => m

/-! ## What the updates do -/

section Updates

variable {listers : Listers} {id : String} {req : PendingAllocation} {gpu : GPUAdmission}

theorem reserveLocked_error {err : String}
    (h : (m.reserveLocked lib host listers id req gpu).2 = .error err) :
    (m.reserveLocked lib host listers id req gpu).1 = m := by
  unfold reserveLocked at h ⊢
  split
  · rfl
  · next hv =>
    rw [hv] at h
    cases h

/-- A reservation replaces the one that the instance had. -/
theorem reserveLocked_ok (h : (m.reserveLocked lib host listers id req gpu).2 = .ok ()) :
    m.validateAllocationLocked lib host listers id req gpu = .ok () ∧
    (m.reserveLocked lib host listers id req gpu).1 =
      { pending := m.pending.insert id req
        pendingTotals := m.pendingTotals - (m.pending.lookup id).getD 0 + req } := by
  unfold reserveLocked at h ⊢
  split at h
  · cases h
  · next hv =>
    refine ⟨hv, ?_⟩
    cases hlookup : m.pending.lookup id with
    | none => simp [addPendingTotalsLocked]
    | some existing => simp [addPendingTotalsLocked, subtractPendingTotalsLocked]

/-- `FinishAllocation` removes the reservation and its share of the totals. -/
theorem FinishAllocation_eq (hid : id ≠ "") :
    m.FinishAllocation id =
      { pending := m.pending.erase id
        pendingTotals := m.pendingTotals - (m.pending.lookup id).getD 0 } ∨
    m.pending.lookup id = none ∧ m.FinishAllocation id = m := by
  unfold FinishAllocation
  rw [if_neg hid]
  cases hlookup : m.pending.lookup id with
  | none => exact .inr ⟨rfl, rfl⟩
  | some existing => exact .inl (by simp [subtractPendingTotalsLocked])

end Updates

/-- The reservation that is replaced but that the check has not left out: the one of the empty
identifier, for which `pendingTotalsExcludingLocked` leaves out nothing. -/
def notExcluded (id : String) : PendingAllocation :=
  if id = "" then (m.pending.lookup id).getD 0 else 0

theorem pendingTotalsExcludingLocked_eq (id : String) :
    m.pendingTotalsExcludingLocked id =
      m.pendingTotals - (m.pending.lookup id).getD 0 + m.notExcluded id := by
  unfold pendingTotalsExcludingLocked notExcluded
  split
  · abel
  · cases m.pending.lookup id <;> simp

/-- **The check adds up what will be pending**, and with it the reservation that it has not left
out. -/
theorem pendingTotals_reserveLocked {listers : Listers} {id : String} {req : PendingAllocation}
    {gpu : GPUAdmission} (h : (m.reserveLocked lib host listers id req gpu).2 = .ok ()) :
    (m.reserveLocked lib host listers id req gpu).1.pendingTotals + m.notExcluded id =
      m.pendingTotalsExcludingLocked id + req := by
  rw [(m.reserveLocked_ok lib host h).2, pendingTotalsExcludingLocked_eq]
  show m.pendingTotals - (m.pending.lookup id).getD 0 + req + m.notExcluded id = _
  abel

end Manager

/-! ## What a passed check says -/

/-- Where the difference does not exceed the limit's own range, it bounds the sum as well. -/
theorem add_le_of_le_sub {limit allocated r : Int64} (hlimit : 0 ≤ limit) (hr : 0 < r)
    (h : r ≤ limit - allocated) : allocated + r ≤ limit := by
  rw [Int64.le_iff_toInt_le] at *
  rw [Int64.lt_iff_toInt_lt] at hr
  rw [Int64.toInt_sub, Int.bmod_def] at h
  rw [Int64.toInt_add, Int.bmod_def]
  have hallocated := allocated.toInt_lt
  have hallocated' := allocated.le_toInt
  have hrange := limit.toInt_lt
  have hrange' := r.toInt_lt
  simp only [Int64.toInt_zero] at hlimit hr
  omega

section Checks

variable {R : Type} {lib : ResourceLib R} {host : Host R} {usage : AdmissionUsage}
  {pending req : PendingAllocation}

/-- A positive amount that is available fits under the limit. -/
theorem of_admissionStatusLocked {rt : ResourceType} {visible r : Int64} {status : ResourceStatus R}
    (h : admissionStatusLocked lib host rt visible pending = .ok status) (hpos : 0 < r)
    (hfits : ¬ r > status.available) :
    ∃ limit ∈ effectiveLimit lib host rt, 0 ≤ limit → visible + pending.amount rt + r ≤ limit := by
  unfold admissionStatusLocked at h
  cases hlimit : effectiveLimit lib host rt with
  | none =>
    rw [hlimit] at h
    cases h
  | some limit =>
    rw [hlimit] at h
    cases h
    refine ⟨limit, rfl, fun hnonneg => add_le_of_le_sub hnonneg hpos ?_⟩
    -- what is available is cut off at zero, which a positive amount exceeds
    split at hfits
    · exact absurd hpos hfits
    · exact Int64.not_lt.mp hfits

/-- A passed check bounds the usage with the request by the limit. -/
theorem CapacityCheck.of_run_ok {c : CapacityCheck}
    (h : c.run lib host usage pending req = .ok ()) (hpos : 0 < req.amount c.resource) :
    ∃ limit ∈ effectiveLimit lib host c.resource, 0 ≤ limit →
      usage.amount c.resource + (pending + req).amount c.resource ≤ limit := by
  unfold CapacityCheck.run at h
  rw [if_pos hpos, bind_eq_ok] at h
  obtain ⟨status, hstatus, hle⟩ := h
  rw [PendingAllocation.amount_add, ← Int64.add_assoc]
  split at hle
  · cases hle
  · next hfits => exact of_admissionStatusLocked (mapError_eq_ok.mp hstatus) hpos hfits

theorem exists_capacityCheck (lib : ResourceLib R) (rt : ResourceType) :
    ∃ c ∈ capacityChecks lib, c.resource = rt := by
  cases rt with
  | cpu => exact ⟨cpuCheck, by simp [capacityChecks], rfl⟩
  | memory => exact ⟨memoryCheck lib, by simp [capacityChecks], rfl⟩
  | disk => exact ⟨diskCheck lib, by simp [capacityChecks], rfl⟩
  | network => exact ⟨networkCheck lib, by simp [capacityChecks], rfl⟩
  | diskIo => exact ⟨diskIoCheck lib, by simp [capacityChecks], rfl⟩

/-- What `validateAllocationLocked` has checked when it succeeds. -/
theorem Manager.of_validateAllocationLocked {m : Manager} {listers : Listers} {id : String}
    {gpu : GPUAdmission} (h : m.validateAllocationLocked lib host listers id req gpu = .ok ()) :
    (∃ usage, collectAdmissionUsageLocked listers = .ok usage ∧
      ∀ rt, 0 < req.amount rt → ∃ limit ∈ effectiveLimit lib host rt, 0 ≤ limit →
        usage.amount rt + (m.pendingTotalsExcludingLocked id + req).amount rt ≤ limit) ∧
    checkGPU gpu (m.pendingTotalsExcludingLocked id) req = .ok () := by
  unfold Manager.validateAllocationLocked at h
  simp only [bind_eq_ok] at h
  obtain ⟨usage, husage, ⟨⟩, hchecks, hgpu⟩ := h
  refine ⟨⟨usage, husage, fun rt hpos => ?_⟩, hgpu⟩
  obtain ⟨c, hc, rfl⟩ := exists_capacityCheck lib rt
  exact CapacityCheck.of_run_ok (forM_eq_ok.mp hchecks c hc) hpos

end Checks

/-! ## Exact sums -/

/-- What an instance uses of a resource. -/
def InstanceAllocation.amount (inst : InstanceAllocation) : ResourceType → ℤ
  | .cpu => inst.vcpus.toInt
  | .memory => inst.memoryBytes.toInt
  | .disk => inst.overlayBytes.toInt + inst.volumeOverlayBytes.toInt
  | .network =>
    (normalizeNetworkBandwidth inst.networkDownloadBps inst.networkUploadBps).toInt
  | .diskIo => inst.diskIOBps.toInt

/-- What the active instances use, the images and the volumes, without overflow; what cannot be
listed does not count. -/
def Listers.exactInstances (l : Listers) (rt : ResourceType) : ℤ :=
  match l.instances with
  | some (.ok instances) =>
    ((instances.filter fun i => isActiveState i.state).map (·.amount rt)).sum
  | _ => 0

@[inherit_doc Listers.exactInstances]
def Listers.exactImages (l : Listers) : ℤ :=
  match l.images with
  | some ⟨.ok imageBytes, .ok ociCacheBytes⟩ => imageBytes.toInt + ociCacheBytes.toInt
  | _ => 0

@[inherit_doc Listers.exactInstances]
def Listers.exactVolumes (l : Listers) : ℤ :=
  match l.volumes with
  | some (.ok volumeBytes) => volumeBytes.toInt
  | _ => 0

def Listers.exactUsage (l : Listers) (rt : ResourceType) : ℤ :=
  l.exactInstances rt + if rt = .disk then l.exactImages + l.exactVolumes else 0

theorem amount_addInstance (usage : AdmissionUsage) (inst : InstanceAllocation)
    (rt : ResourceType) : (usage.addInstance inst).amount rt =
      usage.amount rt + Int64.ofInt (if isActiveState inst.state then inst.amount rt else 0) := by
  unfold AdmissionUsage.addInstance
  split <;> cases rt <;> simp [AdmissionUsage.amount, InstanceAllocation.amount, Int64.ofInt_add]

theorem amount_instanceUsage {l : Listers} {usage : AdmissionUsage}
    (h : l.instanceUsage = .ok usage) (rt : ResourceType) :
    usage.amount rt = Int64.ofInt (l.exactInstances rt) := by
  obtain ⟨_ | _ | instances, images, volumes⟩ := l
  · cases h
    cases rt <;> rfl
  · cases h
  · cases h
    suffices hfold : ∀ usage : AdmissionUsage,
        (instances.foldl AdmissionUsage.addInstance usage).amount rt = usage.amount rt + Int64.ofInt
          ((instances.filter fun i => isActiveState i.state).map (·.amount rt)).sum by
      rw [hfold]
      cases rt <;> simp [AdmissionUsage.amount, Listers.exactInstances]
    induction instances with
    | nil => simp
    | cons inst instances ih =>
      intro usage
      rw [List.foldl_cons, ih, amount_addInstance, List.filter_cons]
      split <;> simp [Int64.ofInt_add, Int64.add_assoc]

/-- The usage that is collected is the exact one, in a word. -/
theorem amount_collectAdmissionUsageLocked {l : Listers} {usage : AdmissionUsage}
    (h : collectAdmissionUsageLocked l = .ok usage) (rt : ResourceType) :
    usage.amount rt = Int64.ofInt (l.exactUsage rt) := by
  simp only [collectAdmissionUsageLocked, bind_eq_ok] at h
  obtain ⟨used, hused, images, himages, volumes, hvolumes, ⟨⟩⟩ := h
  have hinstances := amount_instanceUsage hused rt
  have himages : images = Int64.ofInt l.exactImages := by
    obtain ⟨_, _ | ⟨_ | a, _ | b⟩, _⟩ := l <;> cases himages <;>
      simp [Listers.exactImages, Int64.ofInt_add]
  have hvolumes : volumes = Int64.ofInt l.exactVolumes := by
    obtain ⟨_, _, _ | _ | v⟩ := l <;> cases hvolumes <;> simp [Listers.exactVolumes]
  cases rt with
  | disk =>
    rw [Listers.exactUsage, if_pos rfl, Int64.ofInt_add, Int64.ofInt_add, ← hinstances, ← himages,
      ← hvolumes, ← Int64.add_assoc]
    rfl
  | cpu | memory | network | diskIo =>
    rw [Listers.exactUsage, if_neg (by decide), add_zero, ← hinstances]
    rfl

/-- What is pending without overflow. -/
def Manager.exactPending (m : Manager) (rt : ResourceType) : ℤ :=
  Table.total (m.pending.mapValues fun a => (a.amount rt).toInt)

theorem amount_total (t : Table String PendingAllocation) (rt : ResourceType) :
    (Table.total t).amount rt =
      Int64.ofInt (Table.total (t.mapValues fun a => (a.amount rt).toInt)) := by
  rw [Table.total, Table.total, Table.entries_mapValues]
  induction t.entries with
  | nil => simp
  | cons e l ih => simpa [Int64.ofInt_add] using ih

/-! ## Sequences of calls -/

/-- The manager together with what its listers answer. -/
structure Admission where
  manager : Manager
  listers : Listers

/-- The calls, and changes of what the listers answer. -/
inductive AdmissionEvent
  | reserve (instanceID : String) (args : AllocationRequest) (provider : GPUAdmission)
  | finish (instanceID : String)
  | listed (listers : Listers)

section Runs

variable {R : Type} (lib : ResourceLib R) (host : Host R) (listers : Listers)

def Admission.next (s : Admission) : AdmissionEvent → Admission
  | .reserve id args provider =>
    { s with manager := (s.manager.ReserveAllocation lib host s.listers provider id args).1 }
  | .finish id => { s with manager := s.manager.FinishAllocation id }
  | .listed listers => { s with listers := listers }

/-- Sequences of calls on a new manager whose listers first answer `listers`. -/
def admissionSystem : System Admission AdmissionEvent where
  init := ⟨{}, listers⟩
  step s e := some (s.next lib host e)

variable {lib host listers}

def Manager.Balanced (m : Manager) : Prop := m.pendingTotals = Table.total m.pending

theorem Manager.Balanced.reserveLocked {m : Manager} (h : m.Balanced) (id : String)
    (req : PendingAllocation) (gpu : GPUAdmission) :
    (m.reserveLocked lib host listers id req gpu).1.Balanced := by
  cases hresult : (m.reserveLocked lib host listers id req gpu).2 with
  | error err =>
    rw [m.reserveLocked_error lib host hresult]
    exact h
  | ok u =>
    rw [(m.reserveLocked_ok lib host hresult).2, Manager.Balanced, Table.total_insert, h]

theorem Manager.Balanced.FinishAllocation {m : Manager} (h : m.Balanced) (id : String) :
    (m.FinishAllocation id).Balanced := by
  by_cases hid : id = ""
  · rw [Manager.FinishAllocation, if_pos hid]
    exact h
  rcases m.FinishAllocation_eq hid with heq | ⟨-, heq⟩
  · rw [heq, Manager.Balanced, Table.total_erase, h]
  · rw [heq]
    exact h

theorem balanced_next {s : Admission} (h : s.manager.Balanced) (e : AdmissionEvent) :
    (s.next lib host e).manager.Balanced := by
  cases e with
  | reserve id args provider => exact h.reserveLocked id _ _
  | finish id => exact h.FinishAllocation id
  | listed listers => exact h

theorem balanced_of_reachable {s : Admission}
    (hs : (admissionSystem lib host listers).Reachable System.Always s) : s.manager.Balanced := by
  apply hs.invariant (I := fun s => s.manager.Balanced)
  · rfl
  · intro s e s' h _ hstep
    cases hstep
    exact balanced_next h e

/-- What is in use and pending after a reservation, in exact numbers; for the empty identifier the
reservation that was replaced is counted as well. -/
def Admission.exactTotal (s : Admission) (m' : Manager) (id : String) (rt : ResourceType) : ℤ :=
  s.listers.exactUsage rt + m'.exactPending rt + ((s.manager.notExcluded id).amount rt).toInt

variable (lib host listers) in
/-- **Admission.** After every sequence of calls the totals are the sum of the pending reservations.
A reservation that fails changes nothing. One that succeeds leaves the usage and the pending
reservations, with the replaced reservation of the empty identifier still counted, within the limit
of each resource it asks for, if the limit is not negative and their exact sum is a word. -/
theorem reserve_within_limit {s : Admission}
    (hs : (admissionSystem lib host listers).Reachable System.Always s) :
    s.manager.pendingTotals = Table.total s.manager.pending ∧
    ∀ id args provider,
      let r := s.manager.ReserveAllocation lib host s.listers provider id args
      (∀ err, r.2 = .error err → r.1 = s.manager) ∧
      (r.2 = .ok () → ∀ rt, 0 < (newPendingAllocation args).amount rt →
        ∃ limit ∈ effectiveLimit lib host rt, 0 ≤ limit →
          -2 ^ 63 ≤ s.exactTotal r.1 id rt → s.exactTotal r.1 id rt < 2 ^ 63 →
          s.exactTotal r.1 id rt ≤ limit.toInt) := by
  refine ⟨balanced_of_reachable hs, fun id args provider => ⟨fun err herr => ?_,
    fun hok rt hpos => ?_⟩⟩
  · exact s.manager.reserveLocked_error lib host herr
  · have hvalid := (s.manager.reserveLocked_ok lib host hok).1
    obtain ⟨⟨usage, husage, hlimits⟩, -⟩ := Manager.of_validateAllocationLocked hvalid
    obtain ⟨limit, hlimit, hle⟩ := hlimits rt hpos
    refine ⟨limit, hlimit, fun hnonneg hlow hhigh => ?_⟩
    -- what the check has compared is the exact sum, in a word
    have hword : Int64.ofInt (s.exactTotal (s.manager.ReserveAllocation lib host s.listers provider
        id args).1 id rt) ≤ limit := by
      have hle := hle hnonneg
      rw [← s.manager.pendingTotals_reserveLocked lib host hok,
        (balanced_of_reachable hs).reserveLocked id _ _, PendingAllocation.amount_add, amount_total,
        amount_collectAdmissionUsageLocked husage, ← Int64.add_assoc,
        ← Int64.ofInt_toInt ((s.manager.notExcluded id).amount rt), ← Int64.ofInt_add,
        ← Int64.ofInt_add] at hle
      exact hle
    rwa [Int64.le_iff_toInt_le, Int64.toInt_ofInt_of_le hlow hhigh] at hword

end Runs

def plainLib : ResourceLib Unit where
  one := ()
  nonpos _ := false
  scale capacity _ := capacity
  showRatio _ := "1.0"
  byteSize := toString

def fiveUnits : Host Unit where
  capacity _ := some 5
  oversubscription _ := ()

def oneRunning : Listers where
  instances := some (.ok [⟨"db", 1, 0, 0, 0, 0, 0, 0, .running⟩])
  images := none
  volumes := none

def vcpuRequest (n : Int64) : AllocationRequest := ⟨n, 0, 0, 0, 0, 0, false⟩

theorem reserve_within_limit_twoReservations :
    ∃ s, (admissionSystem plainLib fiveUnits oneRunning).Reachable System.Always s ∧
      s.manager.pendingTotals = Table.total s.manager.pending ∧ s.manager.pendingTotals.cpu = 2 ∧
      s.exactTotal (s.manager.ReserveAllocation plainLib fiveUnits s.listers {} "web"
        (vcpuRequest 2)).1 "web" .cpu ≤ 5 := by
  obtain ⟨s, hs, hcpu, hok, hlow, hhigh⟩ := System.exists_reachable_of_replay
    (admissionSystem plainLib fiveUnits oneRunning) System.Always
    (fun s =>
      let r := s.manager.ReserveAllocation plainLib fiveUnits s.listers {} "web" (vcpuRequest 2)
      s.manager.pendingTotals.cpu = 2 ∧ r.2 = .ok () ∧ -2 ^ 63 ≤ s.exactTotal r.1 "web" .cpu ∧
        s.exactTotal r.1 "web" .cpu < 2 ^ 63)
    [.reserve "web" (vcpuRequest 3) {}, .reserve "web" (vcpuRequest 2) {},
      .reserve "api" (vcpuRequest 3) {}] (by decide +kernel)
  obtain ⟨htotals, hcalls⟩ := reserve_within_limit plainLib fiveUnits oneRunning hs
  obtain ⟨limit, hlimit, hle⟩ := (hcalls "web" (vcpuRequest 2) {}).2 hok .cpu (by decide)
  cases hlimit
  exact ⟨s, hs, htotals, hcpu, hle (by decide) hlow hhigh⟩

/-- Every reservation that succeeds leaves what is in use and pending of each resource that it asks
for within the limit. -/
def WithinLimit (lib : ResourceLib Unit) (listers : Listers) : Prop :=
  ∀ s, (admissionSystem lib fiveUnits listers).Reachable System.Always s → ∀ id args provider,
    (s.manager.ReserveAllocation lib fiveUnits s.listers provider id args).2 = .ok () →
    ∀ rt, 0 < (newPendingAllocation args).amount rt → ∃ limit ∈ effectiveLimit lib fiveUnits rt,
      s.listers.exactUsage rt + (s.manager.ReserveAllocation lib fiveUnits s.listers provider id
        args).1.exactPending rt ≤ limit.toInt

theorem not_withinLimit {lib : ResourceLib Unit} {listers : Listers} (es : List AdmissionEvent)
    (id : String) (n : Int64) {limit : Int64}
    (hn : 0 < (newPendingAllocation (vcpuRequest n)).amount .cpu)
    (hlimit : effectiveLimit lib fiveUnits .cpu = some limit)
    (h : ((admissionSystem lib fiveUnits listers).replay System.Always es).any (fun s =>
      decide ((s.manager.ReserveAllocation lib fiveUnits s.listers {} id
          (vcpuRequest n)).2 = .ok () ∧
        limit.toInt < s.listers.exactUsage .cpu + (s.manager.ReserveAllocation lib fiveUnits
          s.listers {} id (vcpuRequest n)).1.exactPending .cpu)) = true) :
    ¬ WithinLimit lib listers := by
  intro hwithin
  obtain ⟨s, hs, hok, hover⟩ := System.exists_reachable_of_replay _ _ _ es h
  obtain ⟨limit', hlimit', hle⟩ := hwithin s hs id (vcpuRequest n) {} hok .cpu hn
  cases hlimit.symm.trans hlimit'
  omega

/-- Four running instances with 2⁶² vCPUs each. -/
def wrapping : Listers where
  instances := some (.ok (List.replicate 4 ⟨"db", 2 ^ 62, 0, 0, 0, 0, 0, 0, .running⟩))
  images := none
  volumes := none

/-- A ratio that takes every limit out of the range of a word, on amd64. -/
def saturatedLib : ResourceLib Unit := { plainLib with scale := fun _ _ => Int64.minValue }

/-- **Beyond the limit.** The check leaves out the reservation that a call replaces unless the
identifier is empty, so a negative reservation makes room for a request beyond the limit and is
replaced by it. A usage that wraps around to zero leaves room for everything, and so does a negative
limit, from which no usage can be taken away without wrapping around. -/
theorem reservations_exceed_limit :
    ¬ WithinLimit plainLib oneRunning ∧ ¬ WithinLimit plainLib wrapping ∧
      ¬ WithinLimit saturatedLib oneRunning :=
  ⟨not_withinLimit [.reserve "" (vcpuRequest (-5)) {}] "" 9 (by decide) rfl (by decide +kernel),
    not_withinLimit [] "web" 1 (by decide) rfl (by decide +kernel),
    not_withinLimit [] "web" 1 (by decide) rfl (by decide +kernel)⟩

end Hypeman.Resources
