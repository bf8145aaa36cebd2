import Hypeman.Devices.Manager
import Hypeman.Instances.Request
import Hypeman.Instances.State
import Hypeman.Network.Allocation
import Hypeman.Volumes.Manager

/-!
# Instances, snapshots, devices and volumes of a host

The state that the lifecycle operations of `lib/instances` share: the guest directories, the
snapshot records, the pending network allocations, the device records and the volume records.

A guest directory holds the stored metadata and, while there is one, the control socket of the VMM
and the standby snapshot. The state of an instance is derived from these.

* `CreateAllocation_fresh`: an identity that is handed out is in the metadata of no instance.
-/

namespace Hypeman.Instances

open Foundations

/-- What the VMM answers on its control socket; `unreachable` is a failed query. -/
inductive VMState
  | created
  | running
  | paused
  | shutdown
  | unreachable
deriving DecidableEq, Repr

/-- The fields of `StoredMetadata` that decide about identities, devices, volumes and states. -/
structure StoredMetadata where
  name : String
  networkEnabled : Bool
  ip : String
  mac : String
  devices : List String
  volumes : List VolumeAttachment
  gpuProfile : String
  skipGuestAgent : Bool
  programStarted : Bool
  guestAgentReady : Bool
deriving DecidableEq, Repr

/-- A guest directory; there is a socket when `vmm` is present. -/
structure Guest where
  stored : StoredMetadata
  vmm : Option VMState
  snapshot : Bool
deriving DecidableEq, Repr

def deriveRunningState (stored : StoredMetadata) : State :=
  if !stored.programStarted then .initializing
  else if stored.skipGuestAgent || stored.guestAgentReady then .running
  else .initializing

def deriveState (guest : Guest) : State :=
  match guest.vmm with
  | none => if guest.snapshot then .standby else .stopped
  | some .created => .created
  | some .running => deriveRunningState guest.stored
  | some .paused => .paused
  | some .shutdown => .shutdown
  | some .unreachable => .unknown

/-- The states in which `IsInstanceRunning` takes the VMM to be using the devices. -/
def State.usesDevices : State → Bool
  | .running | .initializing | .paused | .created => true
  | .stopped | .standby | .shutdown | .unknown => false

inductive SnapshotKind
  | standby
  | stopped
deriving DecidableEq, Repr

/-- A snapshot record, with the metadata its source instance had. -/
structure SnapshotRecord where
  sourceInstanceID : String
  kind : SnapshotKind
  stored : StoredMetadata
deriving DecidableEq, Repr

/-- The state of a host. `used` are the instance ids generated so far, which are not generated
again. -/
structure World where
  guests : Table String Guest
  snapshots : Table String SnapshotRecord
  pending : Table String Network.Allocation
  devices : Devices.DeviceTable
  volumes : Volumes.VolumeTable
  used : List String

def World.isInstanceRunning (w : World) (id : String) : Bool :=
  match w.guests.lookup id with
  | none => false
  | some guest => (deriveState guest).usesDevices

/-! ## Network identities -/

def Guest.toNetwork (guest : Guest) : Network.Guest where
  metadata := some {
    name := guest.stored.name
    networkEnabled := guest.stored.networkEnabled
    ip := guest.stored.ip
    mac := guest.stored.mac }
  socket := guest.vmm.isSome
  snapshotConfig := guest.snapshot
  classID := ""

/-- The guest directories as the network manager sees them. -/
def networkGuests (guests : Table String Guest) : Table String Network.Guest :=
  Table.mapValues Guest.toNetwork guests

/-- What `CreateAllocation` meets on the host. -/
structure NetworkHost where
  initErr : Option String
  draws : Network.Draws
  /-- The error of setting up the TAP device, and whether the entry stays pending after it. -/
  tapErr : Option (String × Bool)

/-- `CreateAllocation`: the identity or the error, and the pending allocations it leaves. -/
def CreateAllocation (cfg : Network.Config) (guests : Table String Guest)
    (pending : Table String Network.Allocation) (req : Network.AllocateRequest)
    (host : NetworkHost) : Except String Network.NetworkConfig × Table String Network.Allocation :=
  match host.initErr with
  | some err => (.error err, pending)
  | none =>
    match Network.reserveAllocationIdentity cfg (networkGuests guests) pending req host.draws with
    | (.error err, pending) => (.error err, pending)
    | (.ok config, pending) =>
      match host.tapErr with
      | none => (.ok config, pending)
      | some (err, stays) =>
        (.error s!"create TAP device: {err}",
          if stays then pending else pending.erase req.instanceID)

structure Identity where
  ip : String
  mac : String
deriving DecidableEq, Repr

def StoredMetadata.identity (stored : StoredMetadata) : Identity := ⟨stored.ip, stored.mac⟩

def StoredMetadata.withIdentity (stored : StoredMetadata) (identity : Identity) : StoredMetadata :=
  { stored with ip := identity.ip, mac := identity.mac }

def Identity.none : Identity := ⟨"", ""⟩

/-- Two identities share no address; an empty field is not an address. -/
def Identity.Apart (a b : Identity) : Prop :=
  (a.ip = b.ip → a.ip = "") ∧ (a.mac = b.mac → a.mac = "")

instance (a b : Identity) : Decidable (a.Apart b) :=
  inferInstanceAs (Decidable ((a.ip = b.ip → a.ip = "") ∧ (a.mac = b.mac → a.mac = "")))

theorem Identity.Apart.symm {a b : Identity} (h : a.Apart b) : b.Apart a :=
  ⟨fun he => by rw [he]; exact h.1 he.symm, fun he => by rw [he]; exact h.2 he.symm⟩

theorem Identity.apart_none (a : Identity) : a.Apart .none :=
  ⟨fun he => he, fun he => he⟩

/-- Metadata whose identity is complete on an enabled network, or empty. -/
def StoredMetadata.WellFormed (stored : StoredMetadata) : Prop :=
  stored.identity = .none ∨
    stored.networkEnabled = true ∧ stored.ip ≠ "" ∧ stored.mac ≠ ""

/-- The identity shares no address with the metadata of any guest. -/
def Fresh (guests : Table String Guest) (identity : Identity) : Prop :=
  ∀ id guest, guests.lookup id = some guest → guest.stored.identity.Apart identity

def AllWellFormed (guests : Table String Guest) : Prop :=
  ∀ id guest, guests.lookup id = some guest → guest.stored.WellFormed

/-- Metadata without an identity, or with a complete one that no guest has. -/
def StoredMetadata.Acquired (guests : Table String Guest) (stored : StoredMetadata) : Prop :=
  stored.identity = .none ∨ stored.networkEnabled = true ∧ stored.ip ≠ "" ∧ stored.mac ≠ "" ∧
    Fresh guests stored.identity

variable {cfg : Network.Config} {guests : Table String Guest}
  {pending : Table String Network.Allocation} {req : Network.AllocateRequest} {host : NetworkHost}

theorem lookup_networkGuests (guests : Table String Guest) (id : String) :
    (networkGuests guests).lookup id = (guests.lookup id).map Guest.toNetwork :=
  Table.lookup_mapValues _ _ _

/-- A complete identity is listed by the network manager. -/
theorem onDisk_of_complete (hnet : cfg.network.ipNet.isSome) {id : String} {guest : Guest}
    (hguest : guests.lookup id = some guest) (henabled : guest.stored.networkEnabled = true)
    (hip : guest.stored.ip ≠ "") (hmac : guest.stored.mac ≠ "") :
    ∃ a, Network.onDisk cfg (networkGuests guests) id = some a ∧ a.ip = guest.stored.ip ∧
      a.mac = guest.stored.mac := by
  obtain ⟨n, hn⟩ := Option.isSome_iff_exists.mp hnet
  unfold Network.onDisk
  rw [lookup_networkGuests, hguest]
  simp [Network.derived, Network.deriveAllocation, Guest.toNetwork, hn, henabled, hip, hmac]

/-- **A new identity.** What `CreateAllocation` hands out is complete and shares no address with the
metadata of any instance. -/
theorem CreateAllocation_fresh {config : Network.NetworkConfig}
    (hwf : AllWellFormed guests)
    (h : (CreateAllocation cfg guests pending req host).1 = .ok config) :
    config.ip ≠ "" ∧ config.mac ≠ "" ∧ Fresh guests ⟨config.ip, config.mac⟩ := by
  have hok : (Network.reserveAllocationIdentity cfg (networkGuests guests) pending req
      host.draws).1 = .ok config := by
    unfold CreateAllocation at h
    split at h
    · cases h
    split at h
    · cases h
    next heq =>
    split at h
    · rw [heq]
      exact h
    · cases h
  obtain ⟨⟨err, herr⟩, -⟩ | ⟨c, p, hc, -, -, -, -, -, hip, hmac, hnet, hfresh⟩ :=
    Network.reserve_spec cfg (networkGuests guests) pending req host.draws
  · rw [herr] at hok
    cases hok
  · rw [hc] at hok
    cases hok
    refine ⟨hip, hmac, fun id guest hguest => ?_⟩
    rcases hwf id guest hguest with hnone | ⟨henabled, hip', hmac'⟩
    · rw [hnone]
      exact (Identity.apart_none _).symm
    · obtain ⟨a, ha, haip, hamac⟩ := onDisk_of_complete hnet hguest henabled hip' hmac'
      obtain ⟨⟨hneip, hnemac⟩, -⟩ := hfresh a (Network.mem_listAllocations_of_onDisk ha)
      exact ⟨fun he => absurd (haip.trans he) hneip, fun he => absurd (hamac.trans he) hnemac⟩

end Hypeman.Instances
