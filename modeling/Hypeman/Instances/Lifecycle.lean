import Hypeman.Instances.World

/-!
# Operations on existing instances

The internal operations of `lib/instances` that start, stop, suspend, resume, delete, copy and
replace instances (`start.go`, `stop.go`, `standby.go`, `restore.go`, `delete.go`, `snapshot.go`,
`fork.go`). Each takes what it meets on the host as an argument and returns its error, if it fails,
with the world it leaves; the public operations are sequences of these.

* `Revision`: what starting, stopping, suspending and resuming have in common. They touch one guest,
  which keeps its devices and volumes, and keeps its identity or gets a new one.
* `deleteInstance_cases`, `replaceInstance_cases`, `forkInstance_spec` and so on: the worlds the
  other operations leave.
-/

namespace Hypeman.Instances

open Foundations

def State.text : State → String
  | .stopped => "Stopped"
  | .created => "Created"
  | .initializing => "Initializing"
  | .running => "Running"
  | .paused => "Paused"
  | .shutdown => "Shutdown"
  | .standby => "Standby"
  | .unknown => "Unknown"

/-- `ErrNotFound`. -/
def notFound : String := "instance not found"

/-- An error that wraps `ErrInvalidState`. -/
def invalidState (text : String) : String := s!"invalid state transition: {text}"

def StoredMetadata.clearMarkers (stored : StoredMetadata) : StoredMetadata :=
  { stored with programStarted := false, guestAgentReady := false }

def World.setGuest (w : World) (id : String) (guest : Guest) : World :=
  { w with guests := w.guests.insert id guest }

/-- `ReleaseAllocation` for an instance with networking. -/
def World.releaseNetwork (w : World) (id : String) (stored : StoredMetadata) : World :=
  if stored.networkEnabled then { w with pending := w.pending.erase id } else w

variable (cfg : Network.Config) (w : World) (id : String)

def allocateIdentity (stored : StoredMetadata) (network : NetworkHost) :
    Except String StoredMetadata × World :=
  match CreateAllocation cfg w.guests w.pending ⟨id, stored.name⟩ network with
  | (.error err, pending) => (.error s!"allocate network: {err}", { w with pending := pending })
  | (.ok config, pending) =>
    (.ok (stored.withIdentity ⟨config.ip, config.mac⟩), { w with pending := pending })

/-! ## Starting and stopping -/

structure StartHost where
  /-- The steps before the network allocation. -/
  refused : Option String
  network : NetworkHost
  /-- A step after the network allocation, and what is left of the VMM when it fails. -/
  failed : Option String
  leftVMM : Option VMState
  /-- The metadata was saved with the vGPU claim, and is not rolled back. -/
  savedWithVGPU : Bool
  /-- The metadata is saved after the boot. -/
  saved : Bool

/-- The network step of `startInstance`: a new identity on every start. -/
def startNetwork (stored : StoredMetadata) (network : NetworkHost) :
    Except String StoredMetadata × World :=
  if stored.networkEnabled then allocateIdentity cfg w id stored network else (.ok stored, w)

def startInstance (host : StartHost) : Option String × World :=
  match w.guests.lookup id with
  | none => (some notFound, w)
  | some guest =>
    if deriveState guest ≠ .stopped then
      (some (invalidState
        s!"cannot start from state {(deriveState guest).text}, must be Stopped"), w)
    else match host.refused with
      | some err => (some err, w)
      | none =>
        match startNetwork cfg w id guest.stored.clearMarkers host.network with
        | (.error err, w) => (some err, w)
        | (.ok stored, w) =>
          let early := host.savedWithVGPU && stored.gpuProfile != ""
          match host.failed with
          | some err => (some err, (w.releaseNetwork id stored).setGuest id { guest with
              stored := if early then stored else guest.stored
              vmm := host.leftVMM })
          | none => (none, w.setGuest id { guest with
              stored := if early || host.saved then stored else guest.stored
              vmm := some .running })

structure StopHost where
  killErr : Option String
  snapshotStays : Bool
  saveErr : Option String

def stopInstance (host : StopHost) : Option String × World :=
  match w.guests.lookup id with
  | none => (some notFound, w)
  | some guest =>
    if deriveState guest ≠ .running ∧ deriveState guest ≠ .initializing then
      (some (invalidState (s!"cannot stop from state {(deriveState guest).text}, " ++
        "must be Running or Initializing")), w)
    else match host.killErr with
      | some err => (some err, w)
      | none => (host.saveErr, (w.releaseNetwork id guest.stored).setGuest id {
          stored := if host.saveErr.isSome then guest.stored else guest.stored.clearMarkers
          vmm := none
          snapshot := guest.snapshot && host.snapshotStays })

/-! ## Standby -/

/-- How a standby ends on the host; a failed one may leave the VMM and a snapshot directory. -/
inductive StandbyOutcome
  | failed (err : String) (vmm : Option VMState) (snapshot : Bool)
  | done (saveErr : Option String)

def standbyInstance (outcome : StandbyOutcome) : Option String × World :=
  match w.guests.lookup id with
  | none => (some notFound, w)
  | some guest =>
    if deriveState guest ≠ .running then
      (some (invalidState s!"cannot standby from state {(deriveState guest).text}"), w)
    else if guest.stored.gpuProfile ≠ "" then
      (some (invalidState
        "standby is not supported for instances with vGPU attached (driver limitation)"), w)
    else match outcome with
      | .failed err vmm snapshot =>
        (some err, w.setGuest id { guest with vmm := vmm, snapshot := snapshot })
      | .done saveErr => (saveErr, (w.releaseNetwork id guest.stored).setGuest id { guest with
          vmm := none
          snapshot := true })

structure RestoreHost where
  /-- The steps before the network. -/
  refused : Option String
  network : NetworkHost
  recreateErr : Option String
  /-- A step after the network, and what is left of the VMM when it fails. -/
  failed : Option String
  leftVMM : Option VMState
  snapshotStays : Bool
  saved : Bool

/-- The network step of `restoreInstance`: the identity in the metadata is taken as it is. -/
def restoreNetwork (stored : StoredMetadata) (host : RestoreHost) :
    Except String StoredMetadata × World :=
  if !stored.networkEnabled then (.ok stored, w)
  else if stored.ip = "" ∨ stored.mac = "" then allocateIdentity cfg w id stored host.network
  else match host.recreateErr with
    | some err => (.error s!"recreate network: {err}", w)
    | none => (.ok stored, w)

def restoreInstance (host : RestoreHost) : Option String × World :=
  match w.guests.lookup id with
  | none => (some notFound, w)
  | some guest =>
    if deriveState guest ≠ .standby then
      (some (invalidState s!"cannot restore from state {(deriveState guest).text}"), w)
    else match host.refused with
      | some err => (some err, w)
      | none =>
        match restoreNetwork cfg w id guest.stored host with
        | (.error err, w) => (some err, w)
        | (.ok stored, w) =>
          match host.failed with
          | some err => (some err, (w.releaseNetwork id stored).setGuest id { guest with
              vmm := host.leftVMM })
          | none => (none, w.setGuest id {
              stored := if host.saved then stored else guest.stored
              vmm := some .running
              snapshot := host.snapshotStays })

/-- Removal of the standby snapshot of an instance. -/
def removeSnapshot (err : Option String) : Option String × World :=
  match w.guests.lookup id with
  | none => (none, w)
  | some guest =>
    match err with
    | some err => (some s!"remove instance snapshot: {err}", w)
    | none => (none, w.setGuest id { guest with snapshot := false })

/-! ## The VMM on its own -/

/-- The VMM of an instance answers in another way. -/
def vmmReports (vmm : VMState) : World :=
  match w.guests.lookup id with
  | none => w
  | some guest => if guest.vmm.isSome then w.setGuest id { guest with vmm := some vmm } else w

/-- `hydrateBootMarkersFromLogs`: boot markers are found in the log of a running VM and saved. -/
def hydrateBootMarkers (programStarted guestAgentReady : Bool) : World :=
  match w.guests.lookup id with
  | none => w
  | some guest =>
    if guest.vmm = some .running then
      w.setGuest id { guest with stored := { guest.stored with
        programStarted := guest.stored.programStarted || programStarted
        guestAgentReady := guest.stored.guestAgentReady || guestAgentReady } }
    else w

/-! ## Deletion -/

structure DeleteHost where
  /-- The steps up to the end of the VMM. -/
  refused : Option String
  vgpuErr : Option String
  markDetached : String → Option WriteFailure
  unbind : String → Devices.HostOutcome
  detachVolume : String → Option WriteFailure
  /-- The removal of the instance directory fails. -/
  retained : Option String

/-- One round of the device loop of `deleteInstance`. -/
def releaseDevice (host : DeleteHost) (devices : Devices.DeviceTable) (deviceID : String) :
    Devices.DeviceTable :=
  let devices := (Devices.MarkDetached devices deviceID (host.markDetached deviceID)).2
  (Devices.UnbindFromVfio devices deviceID (host.unbind deviceID)).2

def deleteInstance (host : DeleteHost) : Option String × World :=
  match w.guests.lookup id with
  | none => (some notFound, w)
  | some guest =>
    match host.refused with
    | some err => (some err, w)
    | none =>
      match host.vgpuErr with
      | some err => (some s!"release vGPU: {err}", w.setGuest id { guest with vmm := none })
      | none =>
        let w := w.releaseNetwork id guest.stored
        let w := { w with
          devices := guest.stored.devices.foldl (releaseDevice host) w.devices
          volumes := Volumes.detachVolumes id host.detachVolume
            (guest.stored.volumes.map VolumeAttachment.volumeID) w.volumes }
        match host.retained with
        | some err =>
          (some s!"delete instance data: {err}", w.setGuest id { guest with vmm := none })
        | none => (none, { w with guests := w.guests.erase id })

/-! ## Snapshots and forks -/

/-- An error that wraps `ErrNotSupported`. -/
def notSupported (text : String) : String := s!"operation not supported: {text}"

/-- `validateForkVolumeSafety`; ids and paths are quoted as they are. -/
def validateForkVolumeSafety (volumes : List VolumeAttachment) : Option String :=
  (volumes.find? (!·.readonly)).map fun vol => notSupported
    (s!"cannot fork instance with writable volume \"{vol.volumeID}\" mounted at " ++
      s!"\"{vol.mountPath}\"; use readonly+overlay for safe concurrent forks")

def validateSnapshotVolumes (volumes : List VolumeAttachment) : Option String :=
  (validateForkVolumeSafety volumes).map fun err =>
    notSupported s!"snapshot requires readonly volume attachments: {err}"

def SnapshotKind.sourceState : SnapshotKind → State
  | .standby => .standby
  | .stopped => .stopped

/-- The error of a snapshot of an instance in another state. -/
def SnapshotKind.requires (kind : SnapshotKind) (state : State) : String :=
  match kind with
  | .standby => invalidState
      s!"standby snapshot requires source in Running or Standby, got {state.text}"
  | .stopped => invalidState s!"stopped snapshot requires source in Stopped, got {state.text}"

/-- The copy that `createSnapshot` makes of the directory and the metadata of an instance. -/
def copySnapshot (snapshotID : String) (kind : SnapshotKind) (copyErr : Option String) :
    Option String × World :=
  match w.guests.lookup id with
  | none => (some notFound, w)
  | some guest =>
    match validateSnapshotVolumes guest.stored.volumes with
    | some err => (some err, w)
    | none =>
      if (w.snapshots.lookup snapshotID).isSome then
        (some "instance already exists: generated snapshot id already exists", w)
      else if deriveState guest ≠ kind.sourceState then
        (some (kind.requires (deriveState guest)), w)
      else match copyErr with
        | some err => (some err, w)
        | none => (none, { w with
            snapshots := w.snapshots.insert snapshotID ⟨id, kind, guest.stored⟩ })

def deleteSnapshot (snapshotID : String) : World :=
  { w with snapshots := w.snapshots.erase snapshotID }

/-- How the replacement of an instance directory by a snapshot ends. -/
inductive ReplaceOutcome
  /-- Refused, or the directory is cleared in part; whether the metadata file is gone. -/
  | notCleared (err : String) (gone : Bool)
  /-- The copy fails; whether the metadata file has been copied. -/
  | notCopied (err : String) (copied : Bool)
  | notSaved (err : String)
  | done

/-- The metadata file of the snapshot takes the place of that of the instance. -/
def ReplaceOutcome.replaces : ReplaceOutcome → Bool
  | .notCleared _ _ => false
  | .notCopied _ copied => copied
  | .notSaved _ | .done => true

/-- The directory of an instance that was copied from a snapshot; the socket is not copied. -/
def SnapshotRecord.toGuest (record : SnapshotRecord) : Guest where
  stored := record.stored
  vmm := none
  snapshot := record.kind = .standby

/-- `restoreSnapshot` up to the saving of the metadata. The name of the instance stays, everything
else is as in the snapshot. -/
def replaceInstance (snapshotID : String) (outcome : ReplaceOutcome) : Option String × World :=
  match w.snapshots.lookup snapshotID with
  | none => (some "snapshot not found", w)
  | some record =>
    if record.sourceInstanceID ≠ id then
      (some (s!"invalid request: snapshot {snapshotID} belongs to instance " ++
        record.sourceInstanceID), w)
    else match w.guests.lookup id with
      | none => (some notFound, w)
      | some guest =>
        if deriveState guest = .running then
          (some (invalidState s!"cannot restore snapshot while source is {State.running.text}"), w)
        else match outcome with
          | .notCleared err gone =>
            (some err, if gone then { w with guests := w.guests.erase id } else w)
          | .notCopied err copied =>
            (some err, if copied then w.setGuest id record.toGuest
              else { w with guests := w.guests.erase id })
          | .notSaved err => (some s!"save restored metadata: {err}", w.setGuest id record.toGuest)
          | .done => (none, w.setGuest id { record.toGuest with
              stored := { record.stored with name := guest.stored.name } })

/-- The metadata of a fork: devices and volumes are copied, the identity is not. -/
def StoredMetadata.fork (stored : StoredMetadata) (name : String) : StoredMetadata :=
  if stored.networkEnabled then { stored with name := name, ip := "", mac := "" }
  else { stored with name := name }

/-- The end of `forkInstanceFromStoppedOrStandby` and of `forkSnapshot`: the check of the name and
the new instance. A fork that fails removes its directory; that this may fail as well is left
out. -/
def addFork (source : Guest) (forkID name : String) (failed : Option String) :
    Option String × World :=
  if w.guests.entries.any (·.2.stored.name == name) then
    (some s!"instance already exists: instance name '{name}' already exists", w)
  else if forkID ∈ w.used then
    (some "instance already exists: generated fork id already exists", w)
  else match failed with
    | some err => (some err, w)
    | none => (none, { w with
        guests := w.guests.insert forkID ⟨source.stored.fork name, none, source.snapshot⟩
        used := forkID :: w.used })

/-- `forkInstanceFromStoppedOrStandby`. -/
def forkInstance (forkID name : String) (failed : Option String) : Option String × World :=
  match w.guests.lookup id with
  | none => (some notFound, w)
  | some guest =>
    if deriveState guest ≠ .stopped ∧ deriveState guest ≠ .standby then
      (some (invalidState (s!"cannot fork from state {(deriveState guest).text} " ++
        "(must be Stopped or Standby)")), w)
    else match validateForkVolumeSafety guest.stored.volumes with
      | some err => (some err, w)
      | none => addFork w guest forkID name failed

/-- `forkSnapshot` up to the saving of the metadata. -/
def forkSnapshot (snapshotID forkID name : String) (failed : Option String) :
    Option String × World :=
  match w.snapshots.lookup snapshotID with
  | none => (some "snapshot not found", w)
  | some record =>
    match validateSnapshotVolumes record.stored.volumes with
    | some err => (some err, w)
    | none => addFork w record.toGuest forkID name failed

/-! ## The host -/

/-- A restart of the server: the pending allocations are lost, and the devices are reconciled with
the instances that run. -/
def restartServer (host : Devices.ReconcileHost) : World := { w with
  pending := ∅
  devices := Devices.ReconcileDevices w.devices w.isInstanceRunning host }

def deleteVolume (volumeID : String) (fails : Option WriteFailure) : World :=
  { w with volumes :=
      Volumes.settled w.volumes volumeID (Volumes.DeleteVolume w.volumes volumeID fails) }

/-! ## What these operations change -/

/-- A guest keeps its devices and volumes, and its identity unless it gets a new one. It comes to
use its devices only if it `starts`. -/
structure Revised (guests : Table String Guest) (starts : Bool) (guest guest' : Guest) : Prop where
  devices : guest'.stored.devices = guest.stored.devices
  volumes : guest'.stored.volumes = guest.stored.volumes
  enabled : guest'.stored.networkEnabled = guest.stored.networkEnabled
  identity : AllWellFormed guests →
    guest'.stored.identity = guest.stored.identity ∨ guest'.stored.Acquired guests
  uses : (deriveState guest').usesDevices = true →
    starts = true ∨ (deriveState guest).usesDevices = true

/-- The operation touches the pending allocations and one guest, which is `Revised`. -/
structure Revision (w : World) (id : String) (starts : Bool) (w' : World) : Prop where
  snapshots : w'.snapshots = w.snapshots
  devices : w'.devices = w.devices
  volumes : w'.volumes = w.volumes
  used : w'.used = w.used
  guests : w'.guests = w.guests ∨ ∃ guest guest', w.guests.lookup id = some guest ∧
    w'.guests = w.guests.insert id guest' ∧ Revised w.guests starts guest guest'

variable {cfg w id} {starts : Bool}

theorem Revised.refl (guests : Table String Guest) (starts : Bool) (guest : Guest) :
    Revised guests starts guest guest :=
  ⟨rfl, rfl, rfl, fun _ => .inl rfl, fun huses => .inr huses⟩

/-- The guest directories after a revision: that of the instance is revised, if there is one. -/
theorem Revision.sets {w' : World} (h : Revision w id starts w') :
    ∃ new, Table.Sets id new w.guests w'.guests ∧ ∀ guest' ∈ new,
      ∃ guest, w.guests.lookup id = some guest ∧ Revised w.guests starts guest guest' := by
  rcases h.guests with hsame | ⟨guest, guest', hguest, hinsert, hrevised⟩
  · rw [hsame]
    exact ⟨_, .refl _ _, fun guest hguest => ⟨guest, hguest, .refl _ _ _⟩⟩
  · rw [hinsert]
    refine ⟨_, .insert _ _ _, ?_⟩
    rintro _ ⟨⟩
    exact ⟨guest, hguest, hrevised⟩

theorem Revision.refl : Revision w id starts w := ⟨rfl, rfl, rfl, rfl, .inl rfl⟩

theorem Revision.pending (pending : Table String Network.Allocation) :
    Revision w id starts { w with pending := pending } := ⟨rfl, rfl, rfl, rfl, .inl rfl⟩

/-- One guest is put into a world that differs in the pending allocations at most. -/
theorem Revision.setGuest {w₁ : World} {guest guest' : Guest}
    (hw : ∃ pending, w₁ = { w with pending := pending }) (hguest : w.guests.lookup id = some guest)
    (hrev : Revised w.guests starts guest guest') :
    Revision w id starts (w₁.setGuest id guest') := by
  obtain ⟨pending, rfl⟩ := hw
  exact ⟨rfl, rfl, rfl, rfl, .inr ⟨guest, guest', hguest, rfl, hrev⟩⟩

theorem exists_releaseNetwork {w₁ : World} (hw : ∃ pending, w₁ = { w with pending := pending })
    (id : String) (stored : StoredMetadata) :
    ∃ pending, w₁.releaseNetwork id stored = { w with pending := pending } := by
  obtain ⟨pending, rfl⟩ := hw
  unfold World.releaseNetwork
  split
  · exact ⟨_, rfl⟩
  · exact ⟨pending, rfl⟩

/-- The metadata a network step returns: as it was, or with a new identity. -/
structure Networked (guests : Table String Guest) (stored stored' : StoredMetadata) : Prop where
  devices : stored'.devices = stored.devices
  volumes : stored'.volumes = stored.volumes
  enabled : stored'.networkEnabled = stored.networkEnabled
  identity : AllWellFormed guests →
    stored'.identity = stored.identity ∨ stored'.Acquired guests

theorem Networked.refl (guests : Table String Guest) (stored : StoredMetadata) :
    Networked guests stored stored := ⟨rfl, rfl, rfl, fun _ => .inl rfl⟩

/-- What a network step does: it changes the pending allocations, and the identity perhaps. -/
def NetworkStep (w : World) (stored : StoredMetadata)
    (r : Except String StoredMetadata × World) : Prop :=
  (∃ pending, r.2 = { w with pending := pending }) ∧
    ∀ stored', r.1 = .ok stored' → Networked w.guests stored stored'

theorem NetworkStep.guests {stored : StoredMetadata} {r : Except String StoredMetadata × World}
    (h : NetworkStep w stored r) : r.2.guests = w.guests := by
  obtain ⟨⟨pending, hw⟩, -⟩ := h
  rw [hw]

theorem allocateIdentity_step (stored : StoredMetadata) (network : NetworkHost)
    (henabled : stored.networkEnabled = true) :
    NetworkStep w stored (allocateIdentity cfg w id stored network) := by
  unfold allocateIdentity
  split
  · exact ⟨⟨_, rfl⟩, fun _ h => (nomatch h)⟩
  next config pending heq =>
  refine ⟨⟨_, rfl⟩, ?_⟩
  rintro stored' ⟨⟩
  refine ⟨rfl, rfl, rfl, fun hwf => .inr ?_⟩
  obtain ⟨hip, hmac, hfresh⟩ := CreateAllocation_fresh hwf (by rw [heq])
  exact .inr ⟨henabled, hip, hmac, hfresh⟩

theorem startNetwork_step (cfg : Network.Config) (w : World) (id : String)
    (stored : StoredMetadata) (network : NetworkHost) :
    NetworkStep w stored (startNetwork cfg w id stored network) := by
  unfold startNetwork
  split
  next henabled => exact allocateIdentity_step stored network henabled
  next =>
    refine ⟨⟨w.pending, rfl⟩, ?_⟩
    rintro stored' ⟨⟩
    exact .refl _ _

theorem restoreNetwork_step (cfg : Network.Config) (w : World) (id : String)
    (stored : StoredMetadata) (host : RestoreHost) :
    NetworkStep w stored (restoreNetwork cfg w id stored host) := by
  unfold restoreNetwork
  split
  · refine ⟨⟨w.pending, rfl⟩, ?_⟩
    rintro stored' ⟨⟩
    exact .refl _ _
  next henabled =>
  split
  · exact allocateIdentity_step stored host.network (by simpa using henabled)
  split
  · exact ⟨⟨w.pending, rfl⟩, fun _ h => (nomatch h)⟩
  · refine ⟨⟨w.pending, rfl⟩, ?_⟩
    rintro stored' ⟨⟩
    exact .refl _ _

/-- A guest that starts may take the metadata of a network step. -/
theorem Networked.revised {guests : Table String Guest} {guest guest' : Guest}
    (h : Networked guests guest.stored guest'.stored) : Revised guests true guest guest' :=
  ⟨h.devices, h.volumes, h.enabled, h.identity, fun _ => .inl rfl⟩

theorem Networked.ite {guests : Table String Guest} {stored stored' : StoredMetadata}
    (h : Networked guests stored stored') (b : Bool) :
    Networked guests stored (if b then stored' else stored) := by
  split
  · exact h
  · exact .refl _ _

theorem startInstance_revision (host : StartHost) :
    Revision w id true (startInstance cfg w id host).2 := by
  unfold startInstance
  split
  · exact .refl
  next guest hguest =>
  split
  · exact .refl
  split
  · exact .refl
  obtain ⟨hw, hstored⟩ := startNetwork_step cfg w id
    guest.stored.clearMarkers host.network
  split
  next err w₁ heq =>
    rw [heq] at hw
    obtain ⟨pending, rfl⟩ := hw
    exact .pending pending
  next stored w₁ heq =>
  rw [heq] at hw hstored
  -- the boot markers carry neither devices nor volumes nor an identity
  have hnet : Networked w.guests guest.stored stored := by
    obtain ⟨hd, hv, he, hi⟩ := hstored stored rfl
    exact ⟨hd, hv, he, hi⟩
  dsimp only
  split
  · exact .setGuest (exists_releaseNetwork hw _ _) hguest (hnet.ite _).revised
  · exact .setGuest hw hguest (hnet.ite _).revised

/-- Without a VMM no device is in use. -/
theorem usesDevices_of_stopped (stored : StoredMetadata) (snapshot : Bool) :
    (deriveState ⟨stored, none, snapshot⟩).usesDevices = false := by
  cases snapshot <;> rfl

theorem stopInstance_revision (host : StopHost) :
    Revision w id false (stopInstance w id host).2 := by
  unfold stopInstance
  split
  · exact .refl
  next guest hguest =>
  split
  · exact .refl
  split
  · exact .refl
  refine .setGuest (exists_releaseNetwork ⟨w.pending, rfl⟩ _ _) hguest ?_
  refine ⟨?_, ?_, ?_, fun _ => .inl ?_, fun huses => ?_⟩
  · split <;> rfl
  · split <;> rfl
  · split <;> rfl
  · split <;> rfl
  · rw [usesDevices_of_stopped] at huses
    cases huses

theorem standbyInstance_revision (outcome : StandbyOutcome) :
    Revision w id false (standbyInstance w id outcome).2 := by
  unfold standbyInstance
  split
  · exact .refl
  next guest hguest =>
  split
  · exact .refl
  next hrunning =>
  have huses : (deriveState guest).usesDevices = true := by
    rw [not_not.mp hrunning]
    rfl
  split
  · exact .refl
  split
  · exact .setGuest ⟨w.pending, rfl⟩ hguest ⟨rfl, rfl, rfl, fun _ => .inl rfl, fun _ => .inr huses⟩
  · exact .setGuest (exists_releaseNetwork ⟨w.pending, rfl⟩ _ _) hguest
      ⟨rfl, rfl, rfl, fun _ => .inl rfl, fun _ => .inr huses⟩

theorem restoreInstance_revision (host : RestoreHost) :
    Revision w id true (restoreInstance cfg w id host).2 := by
  unfold restoreInstance
  split
  · exact .refl
  next guest hguest =>
  split
  · exact .refl
  split
  · exact .refl
  obtain ⟨hw, hstored⟩ := restoreNetwork_step cfg w id guest.stored host
  split
  next err w₁ heq =>
    rw [heq] at hw
    obtain ⟨pending, rfl⟩ := hw
    exact .pending pending
  next stored w₁ heq =>
  rw [heq] at hw hstored
  split
  · exact .setGuest (exists_releaseNetwork hw _ _) hguest
      ⟨rfl, rfl, rfl, fun _ => .inl rfl, fun _ => .inl rfl⟩
  · exact .setGuest hw hguest ((hstored stored rfl).ite _).revised

theorem removeSnapshot_revision (err : Option String) :
    Revision w id false (removeSnapshot w id err).2 := by
  unfold removeSnapshot
  split
  · exact .refl
  next guest hguest =>
  split
  · exact .refl
  refine .setGuest ⟨w.pending, rfl⟩ hguest ⟨rfl, rfl, rfl, fun _ => .inl rfl, fun huses => .inr ?_⟩
  obtain ⟨stored, vmm, snapshot⟩ := guest
  cases vmm with
  | none => cases huses
  | some vmm => cases vmm <;> exact huses

theorem vmmReports_revision (vmm : VMState) : Revision w id true (vmmReports w id vmm) := by
  unfold vmmReports
  split
  · exact .refl
  next guest hguest =>
  split
  · exact .setGuest ⟨w.pending, rfl⟩ hguest ⟨rfl, rfl, rfl, fun _ => .inl rfl, fun _ => .inl rfl⟩
  · exact .refl

theorem deriveRunningState_uses (stored : StoredMetadata) :
    (deriveRunningState stored).usesDevices = true := by
  unfold deriveRunningState
  split
  · rfl
  split <;> rfl

theorem hydrateBootMarkers_revision (programStarted guestAgentReady : Bool) :
    Revision w id false (hydrateBootMarkers w id programStarted guestAgentReady) := by
  unfold hydrateBootMarkers
  split
  · exact .refl
  next guest hguest =>
  split
  next hvmm =>
    refine .setGuest ⟨w.pending, rfl⟩ hguest ⟨rfl, rfl, rfl, fun _ => .inl rfl, fun _ => .inr ?_⟩
    simp only [deriveState, hvmm, deriveRunningState_uses]
  next => exact .refl

/-! ## What deletions, snapshots and forks change -/

theorem deleteInstance_cases (w : World) (id : String) (host : DeleteHost) :
    (deleteInstance w id host).2 = w ∨ ∃ guest, w.guests.lookup id = some guest ∧
      ((deleteInstance w id host).2 = w.setGuest id { guest with vmm := none } ∨
        ∃ pending, (deleteInstance w id host).2 = { w with
          pending := pending
          devices := guest.stored.devices.foldl (releaseDevice host) w.devices
          volumes := Volumes.detachVolumes id host.detachVolume
            (guest.stored.volumes.map VolumeAttachment.volumeID) w.volumes
          guests := if host.retained.isSome then w.guests.insert id { guest with vmm := none }
            else w.guests.erase id }) := by
  unfold deleteInstance
  split
  · exact .inl rfl
  next guest hguest =>
  split
  · exact .inl rfl
  refine .inr ⟨guest, hguest, ?_⟩
  split
  · exact .inl rfl
  right
  obtain ⟨pending, hw⟩ := exists_releaseNetwork (w := w) ⟨w.pending, rfl⟩ id guest.stored
  refine ⟨pending, ?_⟩
  dsimp only
  rw [hw]
  split
  next hretained =>
    rw [hretained]
    rfl
  next hretained =>
    rw [hretained]
    rfl

/-- The guest directories after a deletion: that of the instance is gone, unless it is retained. -/
theorem sets_retained (guests : Table String Guest) (id : String) (guest : Guest)
    (retained : Bool) :
    Table.Sets id (if retained then some guest else none) guests
      (if retained then guests.insert id guest else guests.erase id) := by
  split
  · exact .insert _ _ _
  · exact .erase _ _

theorem copySnapshot_cases (w : World) (id snapshotID : String) (kind : SnapshotKind)
    (copyErr : Option String) :
    (copySnapshot w id snapshotID kind copyErr).2 = w ∨
      ∃ guest, w.guests.lookup id = some guest ∧
        (copySnapshot w id snapshotID kind copyErr).2 = { w with
          snapshots := w.snapshots.insert snapshotID ⟨id, kind, guest.stored⟩ } := by
  unfold copySnapshot
  split
  · exact .inl rfl
  next guest hguest =>
  split
  · exact .inl rfl
  split
  · exact .inl rfl
  split
  · exact .inl rfl
  split
  · exact .inl rfl
  · exact .inr ⟨guest, hguest, rfl⟩

/-- A replacement leaves the world, removes the guest, or puts the snapshot of the same instance in
its place, under one name or another. -/
theorem replaceInstance_cases (w : World) (id snapshotID : String) (outcome : ReplaceOutcome) :
    (replaceInstance w id snapshotID outcome).2 = w ∨
      ∃ record guest, w.snapshots.lookup snapshotID = some record ∧
        record.sourceInstanceID = id ∧ w.guests.lookup id = some guest ∧
        ((replaceInstance w id snapshotID outcome).2 = { w with guests := w.guests.erase id } ∨
          deriveState guest ≠ .running ∧ outcome.replaces = true ∧
            ∃ name, (replaceInstance w id snapshotID outcome).2 = w.setGuest id
            { record.toGuest with stored := { record.stored with name := name } }) := by
  unfold replaceInstance
  split
  · exact .inl rfl
  next record hrecord =>
  split
  · exact .inl rfl
  next hsource =>
  split
  · exact .inl rfl
  next guest hguest =>
  split
  · exact .inl rfl
  next hrunning =>
  have hfacts : ∀ {P : Prop}, P → w.snapshots.lookup snapshotID = some record ∧
      record.sourceInstanceID = id ∧ w.guests.lookup id = some guest ∧ P :=
    fun h => ⟨hrecord, not_not.mp hsource, hguest, h⟩
  split
  · split
    · exact .inr ⟨record, guest, hfacts (.inl rfl)⟩
    · exact .inl rfl
  · split
    next hcopied =>
      exact .inr ⟨record, guest, hfacts (.inr ⟨hrunning, hcopied, record.stored.name, rfl⟩)⟩
    · exact .inr ⟨record, guest, hfacts (.inl rfl)⟩
  · exact .inr ⟨record, guest, hfacts (.inr ⟨hrunning, rfl, record.stored.name, rfl⟩)⟩
  · exact .inr ⟨record, guest, hfacts (.inr ⟨hrunning, rfl, guest.stored.name, rfl⟩)⟩

def World.withFork (w : World) (source : Guest) (forkID name : String) : World := { w with
  guests := w.guests.insert forkID ⟨source.stored.fork name, none, source.snapshot⟩
  used := forkID :: w.used }

/-- A fork fails and leaves the world, or succeeds under a new id. -/
theorem addFork_spec (w : World) (source : Guest) (forkID name : String)
    (failed : Option String) :
    (∃ err, addFork w source forkID name failed = (some err, w)) ∨
      forkID ∉ w.used ∧
        addFork w source forkID name failed = (none, w.withFork source forkID name) := by
  unfold addFork
  split
  · exact .inl ⟨_, rfl⟩
  split
  · exact .inl ⟨_, rfl⟩
  next hused =>
  split
  · exact .inl ⟨_, rfl⟩
  · exact .inr ⟨hused, rfl⟩

/-- What the fork of a source leaves: it fails and leaves the world, or succeeds under a new id. -/
def Forks (w : World) (isSource : Guest → Prop) (forkID name : String)
    (result : Option String × World) : Prop :=
  (∃ err, result = (some err, w)) ∨
    ∃ source, isSource source ∧ forkID ∉ w.used ∧ result = (none, w.withFork source forkID name)

/-- What holds before a fork holds after it, if it holds with the fork. -/
theorem Forks.keeps {isSource : Guest → Prop} {forkID name : String}
    {result : Option String × World} (h : Forks w isSource forkID name result) {P : World → Prop}
    (hw : P w)
    (hfork : ∀ source, isSource source → forkID ∉ w.used → P (w.withFork source forkID name)) :
    P result.2 := by
  obtain ⟨err, rfl⟩ | ⟨source, hsource, hfresh, rfl⟩ := h
  · exact hw
  · exact hfork source hsource hfresh

theorem forkInstance_spec (w : World) (id forkID name : String) (failed : Option String) :
    Forks w (w.guests.lookup id = some ·) forkID name (forkInstance w id forkID name failed) := by
  unfold forkInstance
  split
  · exact .inl ⟨_, rfl⟩
  next guest hguest =>
  split
  · exact .inl ⟨_, rfl⟩
  split
  · exact .inl ⟨_, rfl⟩
  · exact (addFork_spec w guest forkID name failed).imp (fun h => h)
      fun h => ⟨guest, hguest, h⟩

theorem forkSnapshot_spec (w : World) (snapshotID forkID name : String) (failed : Option String) :
    Forks w (fun source => ∃ record, w.snapshots.lookup snapshotID = some record ∧
      source = record.toGuest) forkID name (forkSnapshot w snapshotID forkID name failed) := by
  unfold forkSnapshot
  split
  · exact .inl ⟨_, rfl⟩
  next record hrecord =>
  split
  · exact .inl ⟨_, rfl⟩
  · exact (addFork_spec w record.toGuest forkID name failed).imp (fun h => h)
      fun h => ⟨record.toGuest, ⟨record, hrecord, rfl⟩, h⟩

end Hypeman.Instances
