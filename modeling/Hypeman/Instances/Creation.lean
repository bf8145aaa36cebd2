import Hypeman.Foundations.Attempt
import Hypeman.Instances.World

/-!
# Creating an instance

`createInstance` (`lib/instances/create.go`) from the first device on: it attaches the devices,
claims the vGPU, allocates the network identity, attaches the volumes, saves the metadata and boots
the VM. When a step fails, what was acquired is given back in the opposite order, and the instance
directory is removed unless the vGPU could not be released or the removal fails.

* `acquire_spec`: what holds of the resources acquired, however far the creation came.
* `createInstance_spec`: a creation is refused, rolled back or complete.
-/

namespace Hypeman.Instances

open Foundations Attempt

/-- The fields of `CreateInstanceRequest` that name resources. -/
structure ResourceRequest where
  name : String
  networkEnabled : Bool
  devices : List String
  volumes : List VolumeAttachment
  gpuProfile : String
  skipGuestAgent : Bool
deriving DecidableEq, Repr

def ResourceRequest.volumeIDs (req : ResourceRequest) : List String :=
  req.volumes.map VolumeAttachment.volumeID

/-- What a creation meets on the host: the error of each step, if it fails. -/
structure CreateHost where
  /-- The checks before the first device. -/
  refused : Option String
  bind : String → Devices.HostOutcome
  markAttached : String → Option WriteFailure
  directories : Option String
  claimVGPU : Option String
  /-- The vGPU claim writes the metadata file. -/
  claimPersists : Bool
  configureVGPU : Option String
  overlayDisk : Option String
  network : NetworkHost
  attachVolume : String → Option WriteFailure
  volumeOverlay : String → Option String
  /-- Egress proxy and config disk. -/
  configDisk : Option String
  saveMetadata : Option String
  boot : Option String
  markDetached : String → Option WriteFailure
  detachVolume : String → Option WriteFailure
  /-- The instance directory stays after the roll-back, with what is left of the VMM. -/
  retained : Bool
  leftVMM : Option VMState

/-- What a creation has acquired; `saved` is the content of the metadata file. -/
structure Creation where
  devices : Devices.DeviceTable
  attachedDevices : List String
  pending : Table String Network.Allocation
  volumes : Volumes.VolumeTable
  attachedVolumes : List String
  stored : StoredMetadata
  saved : Option StoredMetadata

variable (cfg : Network.Config) (w : World) (id : String) (req : ResourceRequest)
  (host : CreateHost)

/-- One round of the device loop. -/
def attachDevice (deviceRef : String) : Attempt String Creation := fun c =>
  match Devices.GetDevice c.devices deviceRef with
  | none => (some s!"device {deviceRef}: {Devices.DeviceError.notFound.text}", c)
  | some (deviceID, device) =>
    match device.attachedTo with
    | some holder => (some s!"device {deviceRef} is already attached to instance {holder}", c)
    | none =>
      -- the device is bound to VFIO first if it is not yet
      match (if device.boundToVfio then (none, c.devices)
          else Devices.BindToVfio c.devices deviceID (host.bind deviceID)) with
      | (some err, devices) =>
        (some s!"bind device {deviceRef} to VFIO: {err.text}", { c with devices := devices })
      | (none, devices) =>
        match Devices.MarkAttached devices deviceID id (host.markAttached deviceID) with
        | (some err, devices) =>
          (some s!"mark device {deviceRef} as attached: {err.text}", { c with devices := devices })
        | (none, devices) => (none, { c with
            devices := devices
            attachedDevices := c.attachedDevices ++ [deviceID]
            stored := { c.stored with devices := c.stored.devices ++ [deviceID] } })

def acquireVGPU : Attempt String Creation :=
  ((check host.claimVGPU).andThen
    ((Attempt.modify fun c =>
      { c with saved := if host.claimPersists then some c.stored else c.saved }).andThen
    (check host.configureVGPU))).when (req.gpuProfile != "")

def acquireNetwork : Attempt String Creation := fun c =>
  match CreateAllocation cfg w.guests c.pending ⟨id, req.name⟩ host.network with
  | (.error err, pending) => (some s!"allocate network: {err}", { c with pending := pending })
  | (.ok config, pending) => (none, { c with
      pending := pending
      stored := c.stored.withIdentity ⟨config.ip, config.mac⟩ })

/-- One round of the volume loop. -/
def attachVolume (volAttach : VolumeAttachment) : Attempt String Creation := fun c =>
  match c.volumes.lookup volAttach.volumeID with
  | none => (some s!"volume {volAttach.volumeID}: {Volumes.VolumeError.notFound.text}", c)
  | some _ =>
    match Volumes.AttachVolume c.volumes volAttach.volumeID
        ⟨id, volAttach.mountPath, volAttach.readonly⟩ (host.attachVolume volAttach.volumeID) with
    | .error err => (some s!"attach volume {volAttach.volumeID}: {err.text}",
        { c with volumes := err.leaves c.volumes volAttach.volumeID })
    | .ok volumes =>
      -- a failing overlay disk finds the volume attached
      (if volAttach.overlay then
          (host.volumeOverlay volAttach.volumeID).map fun err =>
            s!"create volume overlay disk {volAttach.volumeID}: {err}"
        else none,
        { c with
          volumes := volumes
          attachedVolumes := c.attachedVolumes ++ [volAttach.volumeID] })

/-- The metadata before any resource is acquired. -/
def ResourceRequest.initial (req : ResourceRequest) : StoredMetadata where
  name := req.name
  networkEnabled := req.networkEnabled
  ip := ""
  mac := ""
  devices := []
  volumes := []
  gpuProfile := req.gpuProfile
  skipGuestAgent := req.skipGuestAgent
  programStarted := false
  guestAgentReady := false

def Creation.start : Creation where
  devices := w.devices
  attachedDevices := []
  pending := w.pending
  volumes := w.volumes
  attachedVolumes := []
  stored := req.initial
  saved := none

/-- The steps of `createInstance` from the device loop to the boot. -/
def acquire : Attempt String Creation :=
  (each (attachDevice id host) req.devices).andThen <|
  (check host.directories).andThen <|
  (acquireVGPU req host).andThen <|
  (check host.overlayDisk).andThen <|
  ((acquireNetwork cfg w id req host).when req.networkEnabled).andThen <|
  (each (attachVolume id host) req.volumes).andThen <|
  (Attempt.modify fun c => { c with stored := { c.stored with volumes := req.volumes } }).andThen <|
  (check host.configDisk).andThen <|
  (check host.saveMetadata).andThen <|
  (Attempt.modify fun c => { c with saved := some c.stored }).andThen <|
  check host.boot

/-- The clean-up stack of `createInstance`, last entry first. -/
def rollback (c : Creation) : World := { w with
  volumes := Volumes.detachVolumes id host.detachVolume c.attachedVolumes.reverse c.volumes
  pending := c.pending.erase id
  devices := Devices.detachDevices host.markDetached c.attachedDevices c.devices
  guests := match c.saved with
    | some stored => if host.retained then w.guests.insert id ⟨stored, host.leftVMM, false⟩
      else w.guests
    | none => w.guests
  used := id :: w.used }

def committed (c : Creation) : World := { w with
  volumes := c.volumes
  pending := c.pending
  devices := c.devices
  guests := w.guests.insert id ⟨c.stored, some .running, false⟩
  used := id :: w.used }

/-- `createInstance`; the id is newly generated. -/
def createInstance : Option String × World :=
  match host.refused with
  | some err => (some err, w)
  | none =>
    if id ∈ w.used then (some "instance already exists", w)
    else match acquire cfg w id req host (.start w req) with
      | (some err, c) => (some err, rollback w id host c)
      | (none, c) => (none, committed w id c)

/-! ## What a creation has acquired -/

variable {w id req host}

/-- However far the creation came: its devices are attached to it and were free, the records of the
others are as before, and its identity is new. -/
structure Creation.Sound (w : World) (id : String) (req : ResourceRequest) (host : CreateHost)
    (c : Creation) : Prop where
  attached : ∀ d ∈ c.attachedDevices, Devices.holder c.devices d = some id
  distinct : c.attachedDevices.Nodup
  others : ∀ k inst, Devices.holder w.devices k = some inst → Devices.holder c.devices k = some inst
  listed : c.stored.devices = c.attachedDevices
  savedListed : ∀ stored ∈ c.saved, stored.devices = c.attachedDevices
  shareable : Volumes.AllShareable w.volumes → Volumes.AllShareable c.volumes
  sameBut : Volumes.KeepsOthers host.attachVolume id req.volumeIDs w.volumes →
    Volumes.SameBut id w.volumes c.volumes
  notedVolumes : c.attachedVolumes ⊆ req.volumeIDs
  enabled : c.stored.networkEnabled = req.networkEnabled
  identity : AllWellFormed w.guests → c.stored.Acquired w.guests
  savedIdentity : AllWellFormed w.guests → ∀ stored ∈ c.saved, stored.Acquired w.guests
  requested : c.stored.volumes ⊆ req.volumes
  savedRequested : ∀ stored ∈ c.saved, stored.volumes ⊆ req.volumes

theorem Creation.sound_start : (Creation.start w req).Sound w id req host where
  attached _ hd := (nomatch hd)
  distinct := List.nodup_nil
  others _ _ h := h
  listed := rfl
  savedListed _ h := (nomatch h)
  shareable h := h
  sameBut _ := .refl _ _
  notedVolumes := List.nil_subset _
  enabled := rfl
  identity _ := .inl rfl
  savedIdentity _ _ h := (nomatch h)
  requested := List.nil_subset _
  savedRequested _ h := (nomatch h)

/-- A free device may change its record, and be attached to the new instance. -/
theorem Creation.Sound.setDevice {c : Creation} (h : c.Sound w id req host)
    (hsaved : c.saved = none)
    {d : String} {new : Option Devices.Device} {devices : Devices.DeviceTable}
    (hset : Table.Sets d new c.devices devices) (hfree : Devices.holder c.devices d = none) :
    ({ c with devices := devices } : Creation).Sound w id req host where
  attached k hk := by
    have hheld := h.attached k hk
    rw [Devices.holder_of_sets hset, if_neg (by rintro rfl; rw [hfree] at hheld; cases hheld)]
    exact hheld
  distinct := h.distinct
  others k inst hk := by
    have hheld := h.others k inst hk
    rw [Devices.holder_of_sets hset, if_neg (by rintro rfl; rw [hfree] at hheld; cases hheld)]
    exact hheld
  listed := h.listed
  savedListed := by
    intro stored hstored
    rw [hsaved] at hstored
    cases hstored
  shareable := h.shareable
  sameBut := h.sameBut
  notedVolumes := h.notedVolumes
  enabled := h.enabled
  identity := h.identity
  savedIdentity := h.savedIdentity
  requested := h.requested
  savedRequested := h.savedRequested

theorem attachDevice_spec (deviceRef : String) :
    Spec (fun c => c.Sound w id req host ∧ c.saved = none) (attachDevice id host deviceRef)
      (fun c => c.Sound w id req host ∧ c.saved = none) (·.Sound w id req host) := by
  rintro c ⟨h, hsaved⟩
  unfold attachDevice
  split
  · exact ⟨fun he => absurd he (Option.some_ne_none _), fun _ => h⟩
  next deviceID device hget =>
  have hid : (c.devices.lookup deviceID).isSome := by
    rw [Devices.lookup_of_GetDevice hget]
    rfl
  split
  · exact ⟨fun he => absurd he (Option.some_ne_none _), fun _ => h⟩
  next hnone =>
  have hfree : Devices.holder c.devices deviceID = none :=
    (Devices.holder_of_GetDevice hget).trans hnone
  -- binding changes this device only
  have hbound : ∀ r, (if device.boundToVfio then (none, c.devices)
      else Devices.BindToVfio c.devices deviceID (host.bind deviceID)) = r →
      ∃ new, Table.Sets deviceID new c.devices r.2 ∧ (r.1 = none → new.isSome) := by
    rintro r rfl
    split
    · exact ⟨_, .refl deviceID c.devices, fun _ => hid⟩
    · obtain ⟨new, hset, -, hdone⟩ := Devices.BindToVfio_sets hid (host.bind deviceID)
      exact ⟨new, hset, hdone⟩
  split
  next err devices heq =>
    obtain ⟨new, hset, -⟩ := hbound _ heq
    exact ⟨fun he => absurd he (Option.some_ne_none _), fun _ => h.setDevice hsaved hset hfree⟩
  next devices heq =>
  obtain ⟨new, hset, hsome⟩ := hbound _ heq
  have hid' : (devices.lookup deviceID).isSome := by
    rw [hset deviceID, if_pos rfl]
    exact hsome rfl
  obtain ⟨new', hset', hmark⟩ := Devices.MarkAttached_sets hid' id (host.markAttached deviceID)
  split
  next err devices' heq' =>
    rw [heq'] at hset'
    exact ⟨fun he => absurd he (Option.some_ne_none _),
      fun _ => h.setDevice hsaved (hset.trans hset') hfree⟩
  next devices' heq' =>
  rw [heq'] at hset' hmark
  have hboth := hset.trans hset'
  have hsound := h.setDevice hsaved hboth hfree
  refine ⟨fun _ => ⟨{ hsound with
    attached := ?_, distinct := ?_, listed := ?_, savedListed := ?_, identity := ?_ }, hsaved⟩,
    fun hne => absurd rfl hne⟩
  · intro d hd
    rcases List.mem_append.mp hd with hd | hd
    · exact hsound.attached d hd
    · rw [List.mem_singleton.mp hd, Devices.holder_of_sets hboth, if_pos rfl]
      exact hmark.elim (·.2) fun hfailed => absurd rfl hfailed.1
  · -- a device that is attached already is not free
    refine List.Nodup.append h.distinct (List.nodup_singleton _) ?_
    rw [List.disjoint_singleton]
    intro hmem
    rw [h.attached deviceID hmem] at hfree
    cases hfree
  · exact congrArg (· ++ [deviceID]) h.listed
  · intro stored hstored
    rw [hsaved] at hstored
    cases hstored
  · exact h.identity

theorem acquireVGPU_spec :
    Spec (·.Sound w id req host) (acquireVGPU req host) (·.Sound w id req host)
      (·.Sound w id req host) := by
  refine .when (fun _ => ?_) fun _ _ h => h
  refine .andThen (.check fun _ h => h) (.andThen (.modify fun c h => ?_) (.check fun _ h => h))
  refine { h with savedListed := ?_, savedIdentity := ?_, savedRequested := ?_ }
  · intro stored hstored
    dsimp only at hstored
    split at hstored
    · cases hstored
      exact h.listed
    · exact h.savedListed stored hstored
  · intro hwf stored hstored
    dsimp only at hstored
    split at hstored
    · cases hstored
      exact h.identity hwf
    · exact h.savedIdentity hwf stored hstored
  · intro stored hstored
    dsimp only at hstored
    split at hstored
    · cases hstored
      exact h.requested
    · exact h.savedRequested stored hstored

theorem acquireNetwork_spec (cfg : Network.Config) (hnet : req.networkEnabled = true) :
    Spec (·.Sound w id req host) (acquireNetwork cfg w id req host) (·.Sound w id req host)
      (·.Sound w id req host) := by
  intro c h
  unfold acquireNetwork
  split
  · exact ⟨fun he => (nomatch he), fun _ => { h with }⟩
  next config pending heq =>
  refine ⟨fun _ => { h with identity := fun hwf => ?_ }, fun hne => absurd rfl hne⟩
  obtain ⟨hip, hmac, hfresh⟩ := CreateAllocation_fresh hwf (by rw [heq])
  exact .inr ⟨h.enabled.trans hnet, hip, hmac, hfresh⟩

theorem attachVolume_spec (before : List VolumeAttachment) {volAttach : VolumeAttachment}
    (hmem : volAttach ∈ req.volumes) :
    Spec
      (fun c => c.Sound w id req host ∧ ∀ vol ∈ before, Volumes.Attached c.volumes vol.volumeID id)
      (attachVolume id host volAttach)
      (fun c => c.Sound w id req host ∧
        ∀ vol ∈ before ++ [volAttach], Volumes.Attached c.volumes vol.volumeID id)
      (·.Sound w id req host) := by
  rintro c ⟨h, hatt⟩
  have hid : volAttach.volumeID ∈ req.volumeIDs := List.mem_map_of_mem hmem
  unfold attachVolume
  split
  · exact ⟨fun he => (nomatch he), fun _ => h⟩
  split
  next err hfailed =>
    refine ⟨fun he => (nomatch he), fun _ => { h with
      shareable := fun hs => (h.shareable hs).leaves err _
      sameBut := fun hkeeps => (h.sameBut hkeeps).trans (.leaves ?_) }⟩
    rintro failure rfl hlost
    rw [h.sameBut hkeeps]
    exact hkeeps _ hid failure (Volumes.AttachVolume_failed hfailed).1 hlost
  next volumes hok =>
  have hsound : ({ c with
      volumes := volumes
      attachedVolumes := c.attachedVolumes ++ [volAttach.volumeID] } : Creation).Sound
        w id req host :=
    { h with
      shareable := fun hs => Volumes.AttachVolume_shareable (h.shareable hs) hok
      sameBut := fun hkeeps => (h.sameBut hkeeps).trans (Volumes.AttachVolume_sameBut hok)
      notedVolumes := List.append_subset.mpr
        ⟨h.notedVolumes, List.cons_subset.mpr ⟨hid, List.nil_subset _⟩⟩ }
  refine ⟨fun _ => ⟨hsound, fun vol hvol => ?_⟩, fun _ => hsound⟩
  rcases List.mem_append.mp hvol with hvol | hvol
  · exact Volumes.AttachVolume_keeps hok (hatt vol hvol)
  · rw [List.mem_singleton.mp hvol]
    exact Volumes.AttachVolume_attached hok

def Creation.Complete (id : String) (req : ResourceRequest) (c : Creation) : Prop :=
  c.stored.volumes = req.volumes ∧ ∀ vol ∈ req.volumes, Volumes.Attached c.volumes vol.volumeID id

/-- **The resources of a creation.** They are sound when a step fails, and complete as well when
none does. -/
theorem acquire_spec (cfg : Network.Config) (host : CreateHost) :
    Spec (fun c => c.Sound w id req host ∧ c.saved = none) (acquire cfg w id req host)
      (fun c => c.Sound w id req host ∧ c.Complete id req) (·.Sound w id req host) := by
  have hdevices : Spec (fun c => c.Sound w id req host ∧ c.saved = none)
      (each (attachDevice id host) req.devices)
      (fun c => c.Sound w id req host ∧ c.saved = none) (·.Sound w id req host) :=
    .each req.devices [] fun _ d _ => attachDevice_spec d
  have hvolumes : Spec (·.Sound w id req host) (each (attachVolume id host) req.volumes)
      (fun c => c.Sound w id req host ∧
        ∀ vol ∈ req.volumes, Volumes.Attached c.volumes vol.volumeID id) (·.Sound w id req host) :=
    (Spec.each req.volumes [] fun before _ => attachVolume_spec before).weaken
      (fun _ h => ⟨h, fun _ hv => (nomatch hv)⟩) (fun _ h => h) fun _ h => h
  refine hdevices.andThen (.andThen (.check fun _ h => h.1) ?_)
  refine .andThen (acquireVGPU_spec.weaken (fun _ h => h.1) (fun _ h => h) fun _ h => h) ?_
  refine .andThen (.check fun _ h => h) ?_
  refine .andThen (.when (acquireNetwork_spec cfg) fun _ _ h => h) (hvolumes.andThen ?_)
  -- from here on the volumes are listed, and saving copies the metadata
  refine .andThen (Q := fun c => c.Sound w id req host ∧ c.Complete id req)
    (.modify fun c h => ⟨{ h.1 with requested := List.Subset.refl _ }, rfl, h.2⟩) ?_
  refine .andThen (.check fun _ h => h.1) (.andThen (.check fun _ h => h.1) ?_)
  refine .andThen (Q := fun c => c.Sound w id req host ∧ c.Complete id req)
    (.modify fun c h => ⟨{ h.1 with
      savedListed := ?_, savedIdentity := ?_, savedRequested := ?_ }, h.2⟩)
    (.check fun _ h => h.1)
  · rintro stored ⟨⟩
    exact h.1.listed
  · rintro hwf stored ⟨⟩
    exact h.1.identity hwf
  · rintro stored ⟨⟩
    exact h.1.requested

/-- A roll-back leaves the guest directories as they are, or what was saved of the new one. -/
theorem rollback_guests (w : World) (id : String) (host : CreateHost) (c : Creation) :
    ∃ new, Table.Sets id new w.guests (rollback w id host c).guests ∧
      ∀ guest ∈ new, w.guests.lookup id = some guest ∨
        host.retained = true ∧ ∃ stored ∈ c.saved, guest = ⟨stored, host.leftVMM, false⟩ := by
  unfold rollback
  dsimp only
  split
  next stored hsaved =>
    split
    next hretained =>
      refine ⟨_, .insert _ _ _, ?_⟩
      rintro guest ⟨⟩
      exact .inr ⟨hretained, stored, hsaved, rfl⟩
    next => exact ⟨_, .refl _ _, fun _ hguest => .inl hguest⟩
  next => exact ⟨_, .refl _ _, fun _ hguest => .inl hguest⟩

/-- A creation is refused, rolled back or complete. -/
theorem createInstance_spec (cfg : Network.Config) (w : World) (id : String)
    (req : ResourceRequest) (host : CreateHost) :
    (∃ err, createInstance cfg w id req host = (some err, w)) ∨
      id ∉ w.used ∧ ∃ c : Creation, c.Sound w id req host ∧
        ((∃ err, createInstance cfg w id req host = (some err, rollback w id host c)) ∨
          c.Complete id req ∧ createInstance cfg w id req host = (none, committed w id c)) := by
  have hstart : (Creation.start w req).Sound w id req host ∧ (Creation.start w req).saved = none :=
    ⟨Creation.sound_start, rfl⟩
  have hspec := acquire_spec cfg host (Creation.start w req) hstart
  unfold createInstance
  split
  · exact .inl ⟨_, rfl⟩
  split
  · exact .inl ⟨_, rfl⟩
  next hused =>
  refine .inr ⟨hused, ?_⟩
  split
  next err c heq =>
    rw [heq] at hspec
    exact ⟨c, hspec.2 (nomatch ·), .inl ⟨_, rfl⟩⟩
  next c heq =>
    rw [heq] at hspec
    obtain ⟨hsound, hcomplete⟩ := hspec.1 rfl
    exact ⟨c, hsound, .inr ⟨hcomplete, rfl⟩⟩

end Hypeman.Instances
