import Hypeman.Foundations.Words
import Hypeman.Instances.GuestConfig

/-!
# What a create request reserves

`createInstance` adds up the memory and the disk space of a request in 64-bit words, after its
checks of the single sizes (`lib/instances/create.go`, `lib/instances/admission.go`), and hands the
totals to `ReserveAllocation`.

* `requestedTotals`: the defaults, the limits and the two sums.
* `validateCreateRequest_sizes`: the sizes of an accepted request are not negative.
* `requestedTotals_exact_iff`: the totals are the sums, and within the limit, if, and only if, the
  sums fit into a word.
* `memory_total_wraps`: a request for 2 ^ 63 bytes under a limit of 32 GiB.
-/

namespace Hypeman.Instances

open Foundations

/-- `ResourceLimits`; the memory limit is off at zero. -/
structure ResourceLimits where
  maxOverlaySize : Int64
  maxVcpusPerInstance : Int
  maxMemoryPerInstance : Int64

def volumeOverlayReservationBytes (volumes : List VolumeAttachment) : Int64 :=
  volumes.foldl (fun total vol =>
    if vol.overlay then total + Int64.ofInt vol.overlaySize else total) 0

def requestedDiskReservationBytes (overlaySize : Int64) (volumes : List VolumeAttachment) : Int64 :=
  overlaySize + volumeOverlayReservationBytes volumes

/-- The memory of a request, with the default of 1 GiB. -/
def CreateInstanceRequest.effectiveSize (req : CreateInstanceRequest) : Int :=
  if req.size = 0 then 1073741824 else req.size

/-- The overlay of a request, with the default of 10 GiB. -/
def CreateInstanceRequest.effectiveOverlay (req : CreateInstanceRequest) : Int :=
  if req.overlaySize = 0 then 10737418240 else req.overlaySize

/-- What is handed to `ReserveAllocation`. -/
structure Totals where
  vcpus : Int
  memoryBytes : Int64
  diskBytes : Int64
deriving DecidableEq

/-- The size checks of `createInstance`. -/
def requestedTotals (limits : ResourceLimits) (req : CreateInstanceRequest) :
    Except String Totals :=
  let size := Int64.ofInt req.effectiveSize
  let overlaySize := Int64.ofInt req.effectiveOverlay
  let vcpus := if req.vcpus = 0 then 2 else req.vcpus
  let totalMemory := size + Int64.ofInt req.hotplugSize
  if limits.maxOverlaySize < overlaySize then
    .error s!"overlay size {overlaySize} exceeds maximum allowed size {limits.maxOverlaySize}"
  else if 0 < limits.maxVcpusPerInstance ∧ limits.maxVcpusPerInstance < vcpus then
    .error s!"vcpus {vcpus} exceeds maximum allowed {limits.maxVcpusPerInstance} per instance"
  else if 0 < limits.maxMemoryPerInstance ∧ limits.maxMemoryPerInstance < totalMemory then
    .error (s!"total memory {totalMemory} (size + hotplug_size) exceeds maximum allowed " ++
      s!"{limits.maxMemoryPerInstance} per instance")
  else .ok ⟨vcpus, totalMemory, requestedDiskReservationBytes overlaySize req.volumes⟩

/-! ## The sizes of an accepted request -/

/-- The space that the overlays of the volumes take. -/
def overlaySum (volumes : List VolumeAttachment) : Int :=
  (volumes.map fun vol => if vol.overlay then vol.overlaySize else 0).sum

def CreateInstanceRequest.memorySum (req : CreateInstanceRequest) : Int :=
  req.effectiveSize + req.hotplugSize

def CreateInstanceRequest.diskSum (req : CreateInstanceRequest) : Int :=
  req.effectiveOverlay + overlaySum req.volumes

variable {lib : StdLib} {req r : CreateInstanceRequest}

theorem validateVolumeAttachment_overlay {allow : Bool} {allowed seen : List String}
    {vol : VolumeAttachment} {path : String}
    (h : validateVolumeAttachment lib allow allowed seen vol = .ok path) :
    vol.overlay = true → 0 < vol.overlaySize := by
  intro hoverlay
  unfold validateVolumeAttachment at h
  dsimp only at h
  repeat' split at h
  all_goals cases h
  next hsize => simpa [hoverlay] using hsize

theorem validateVolumeAttachments_overlay {attachments : List VolumeAttachment} {allow : Bool}
    {allowed : List String}
    (h : validateVolumeAttachments lib attachments allow allowed = .ok ()) :
    ∀ vol ∈ attachments, vol.overlay = true → 0 < vol.overlaySize := by
  unfold validateVolumeAttachments at h
  split at h
  · cases h
  next hdevices =>
  obtain ⟨paths, hfold, -⟩ := map_eq_ok.mp h
  generalize [] = seen at hfold
  clear h hdevices
  induction attachments generalizing seen with
  | nil => exact fun vol hvol => absurd hvol List.not_mem_nil
  | cons vol rest ih =>
    rw [List.foldlM_cons, bind_eq_ok] at hfold
    obtain ⟨seen', hfirst, hrest⟩ := hfold
    obtain ⟨path, hpath, -⟩ := map_eq_ok.mp hfirst
    rw [List.forall_mem_cons]
    exact ⟨validateVolumeAttachment_overlay hpath, ih _ hrest⟩

theorem validateBasics_sizes (h : validateBasics req = .ok ()) :
    0 ≤ req.size ∧ 0 ≤ req.hotplugSize ∧ 0 ≤ req.overlaySize := by
  unfold validateBasics at h
  repeat' split at h
  all_goals cases h
  exact ⟨by omega, by omega, by omega⟩

/-- The sizes of an accepted request are not negative. -/
theorem validateCreateRequest_sizes (h : validateCreateRequest lib req = .ok r) :
    (0 ≤ r.size ∧ 0 ≤ r.hotplugSize ∧ 0 ≤ r.overlaySize) ∧
      ∀ vol ∈ r.volumes, vol.overlay = true → 0 < vol.overlaySize := by
  unfold validateCreateRequest at h
  simp only [bind_eq_ok] at h
  obtain ⟨_, hbasics, egress, -, credentials, -, _, -, _, -, _, -, auto, -, health, -, _, -,
    restart, -, _, hvol, hr⟩ := h
  cases hr
  exact ⟨validateBasics_sizes hbasics, validateVolumeAttachments_overlay hvol⟩

theorem memorySum_nonneg (h : validateCreateRequest lib req = .ok r) : 0 ≤ r.memorySum := by
  obtain ⟨⟨hsize, hhotplug, -⟩, -⟩ := validateCreateRequest_sizes h
  unfold CreateInstanceRequest.memorySum CreateInstanceRequest.effectiveSize
  split_ifs <;> omega

theorem overlaySum_nonneg {volumes : List VolumeAttachment}
    (h : ∀ vol ∈ volumes, vol.overlay = true → 0 < vol.overlaySize) : 0 ≤ overlaySum volumes := by
  induction volumes with
  | nil => exact le_rfl
  | cons vol rest ih =>
    rw [List.forall_mem_cons] at h
    have hfirst := h.1
    have hrest := ih h.2
    rw [overlaySum, List.map_cons, List.sum_cons]
    rw [overlaySum] at hrest
    split_ifs with hoverlay
    · have := hfirst hoverlay
      omega
    · omega

theorem diskSum_nonneg (h : validateCreateRequest lib req = .ok r) : 0 ≤ r.diskSum := by
  obtain ⟨⟨-, -, hoverlay⟩, hvol⟩ := validateCreateRequest_sizes h
  have hsum := overlaySum_nonneg hvol
  unfold CreateInstanceRequest.diskSum CreateInstanceRequest.effectiveOverlay
  split_ifs <;> omega

/-! ## The totals -/

/-- The words add up to the sum modulo 2 ^ 64, in whatever order. -/
theorem volumeOverlayReservationBytes_eq (volumes : List VolumeAttachment) :
    volumeOverlayReservationBytes volumes = Int64.ofInt (overlaySum volumes) := by
  have hfold : ∀ total : Int, volumes.foldl (fun total vol =>
      if vol.overlay then total + Int64.ofInt vol.overlaySize else total) (Int64.ofInt total) =
        Int64.ofInt (total + overlaySum volumes) := by
    induction volumes with
    | nil => simp [overlaySum]
    | cons vol rest ih =>
      intro total
      rw [List.foldl_cons]
      split_ifs with h
      · rw [← Int64.ofInt_add, ih, add_assoc]
        simp [overlaySum, h]
      · rw [ih]
        simp [overlaySum, h]
  simpa [volumeOverlayReservationBytes] using hfold 0

/-- The totals are the sums, not negative, and the memory is within the limit. -/
structure Totals.Exact (limits : ResourceLimits) (req : CreateInstanceRequest) (t : Totals) :
    Prop where
  memory : t.memoryBytes.toInt = req.memorySum
  disk : t.diskBytes.toInt = req.diskSum
  memory_nonneg : 0 ≤ t.memoryBytes.toInt
  disk_nonneg : 0 ≤ t.diskBytes.toInt
  within : 0 < limits.maxMemoryPerInstance → t.memoryBytes ≤ limits.maxMemoryPerInstance

theorem requestedTotals_eq_ok {limits : ResourceLimits} {t : Totals}
    (h : requestedTotals limits req = .ok t) :
    t.memoryBytes = Int64.ofInt req.memorySum ∧ t.diskBytes = Int64.ofInt req.diskSum ∧
      (0 < limits.maxMemoryPerInstance → t.memoryBytes ≤ limits.maxMemoryPerInstance) := by
  unfold requestedTotals at h
  dsimp only at h
  generalize (if req.vcpus = 0 then 2 else req.vcpus) = vcpus at h
  repeat' split at h
  all_goals cases h
  next hmem =>
  refine ⟨(Int64.ofInt_add _ _).symm, ?_, fun hpos => ?_⟩
  · change requestedDiskReservationBytes _ _ = _
    rw [requestedDiskReservationBytes, volumeOverlayReservationBytes_eq, ← Int64.ofInt_add]
    rfl
  · exact Int64.not_lt.mp fun hlt => hmem ⟨hpos, hlt⟩

theorem toInt_ofInt_iff {x : Int} (hx : 0 ≤ x) :
    (Int64.ofInt x).toInt = x ↔ x < 9223372036854775808 := by
  constructor
  · intro h
    rw [← h]
    exact Int64.toInt_lt _
  · intro h
    exact Int64.toInt_ofInt_of_le (by omega) h

/-- **The totals of an accepted request are right if, and only if, both sums fit into a word.** -/
theorem requestedTotals_exact_iff {limits : ResourceLimits} {t : Totals}
    (hreq : validateCreateRequest lib req = .ok r) (ht : requestedTotals limits r = .ok t) :
    t.Exact limits r ↔
      r.memorySum < 9223372036854775808 ∧ r.diskSum < 9223372036854775808 := by
  obtain ⟨hmem, hdisk, hlimit⟩ := requestedTotals_eq_ok ht
  have hm := toInt_ofInt_iff (memorySum_nonneg hreq)
  have hd := toInt_ofInt_iff (diskSum_nonneg hreq)
  rw [← hmem] at hm
  rw [← hdisk] at hd
  constructor
  · exact fun h => ⟨hm.mp h.memory, hd.mp h.disk⟩
  · rintro ⟨hmlt, hdlt⟩
    have hmeq := hm.mpr hmlt
    have hdeq := hd.mpr hdlt
    exact ⟨hmeq, hdeq, hmeq ▸ memorySum_nonneg hreq, hdeq ▸ diskSum_nonneg hreq, hlimit⟩

/-- The limits of the default configuration: 100 GB of overlay, 16 vCPUs, 32 GB of memory. -/
def defaultLimits : ResourceLimits := ⟨107374182400, 16, 34359738368⟩

def memoryRequest (size hotplugSize : Int) : CreateInstanceRequest :=
  { tokenRequest "" "" "" with
    size := size
    hotplugSize := hotplugSize
    networkEgress := none
    credentials := ∅ }

/-- Such a request is accepted, and validation leaves its totals alone. -/
theorem memoryRequest_accepted (size hotplugSize : Int) {t : Totals}
    (h : (validateCreateRequest plainStd (memoryRequest size hotplugSize)).isOk = true)
    (ht : requestedTotals defaultLimits (memoryRequest size hotplugSize) = .ok t) :
    ∃ r, validateCreateRequest plainStd (memoryRequest size hotplugSize) = .ok r ∧
      requestedTotals defaultLimits r = .ok t ∧
      r.memorySum = (memoryRequest size hotplugSize).memorySum ∧
      r.diskSum = (memoryRequest size hotplugSize).diskSum := by
  obtain ⟨r, hr⟩ := exists_of_isOk h
  refine ⟨r, hr, ?_⟩
  rw [(validateCreateRequest_spec hr).2.2.1]
  exact ⟨ht, rfl, rfl⟩

theorem requestedTotals_exact_iff_default :
    ∃ r t, validateCreateRequest plainStd (memoryRequest 0 1073741824) = .ok r ∧
      requestedTotals defaultLimits r = .ok t ∧ t.Exact defaultLimits r := by
  obtain ⟨r, hr, ht, hmem, hdisk⟩ := memoryRequest_accepted 0 1073741824
    (t := ⟨2, 2147483648, 10737418240⟩) (by decide) (by decide)
  refine ⟨r, _, hr, ht, (requestedTotals_exact_iff hr ht).mpr ?_⟩
  rw [hmem, hdisk]
  decide

/-- A request for 2 ^ 63 bytes passes under a limit of 32 GB, as one for less than nothing. -/
theorem memory_total_wraps :
    ∃ r t, validateCreateRequest plainStd
        (memoryRequest 4611686018427387904 4611686018427387904) = .ok r ∧
      requestedTotals defaultLimits r = .ok t ∧ t.memoryBytes.toInt = -9223372036854775808 := by
  obtain ⟨r, hr, ht, -⟩ := memoryRequest_accepted 4611686018427387904 4611686018427387904
    (t := ⟨2, Int64.minValue, 10737418240⟩) (by decide) (by decide)
  exact ⟨r, _, hr, ht, by decide⟩

end Hypeman.Instances
