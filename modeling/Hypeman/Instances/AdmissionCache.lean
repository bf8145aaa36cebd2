import Hypeman.Resources.Admission

/-!
# The cache of visible allocations

A model of the allocations that admission control reads (`lib/instances/admission_allocations.go`)
together with everything that writes them: the scan that loads the cache, the reconciler, and the
lifecycle operations, which save metadata (`lib/instances/storage.go`) and set or delete entries.
Each disk read, socket check and cache write is a step of its own. The file system does not fail;
a save fails when the directory of the instance is gone.

* `Action`: the steps of lifecycle operations. An operation holds the lock of its instance, except
  creation, which holds none.
* `Task`: the steps of `ensureAdmissionAllocations` and `reconcileAdmissionAllocations`, which hold
  no lock of an instance either.
* `cacheSystem`: all interleavings of these.
-/

namespace Hypeman.Instances.AdmissionCache

open Foundations Resources

/-! ## Metadata and entries -/

/-- The fields of a volume attachment that count for disk usage. -/
structure VolumeOverlay where
  overlay : Bool
  overlaySize : Int64
deriving DecidableEq, Repr

/-- The fields of `StoredMetadata` that the cache reads. -/
structure StoredMetadata where
  id : String
  vcpus : Int64
  size : Int64
  hotplugSize : Int64
  overlaySize : Int64
  volumes : List VolumeOverlay
  networkBandwidthDownload : Int64
  networkBandwidthUpload : Int64
  diskIOBps : Int64
  hypervisorPID : Option Nat
  socketPath : String
deriving DecidableEq, Repr

def allocationFromStoredMetadata (stored : StoredMetadata) (active : Bool) :
    InstanceAllocation where
  id := stored.id
  vcpus := stored.vcpus
  memoryBytes := stored.size + stored.hotplugSize
  overlayBytes := stored.overlaySize
  volumeOverlayBytes :=
    stored.volumes.foldl (fun sum vol => if vol.overlay then sum + vol.overlaySize else sum) 0
  networkDownloadBps := stored.networkBandwidthDownload
  networkUploadBps := stored.networkBandwidthUpload
  diskIOBps := stored.diskIOBps
  state := if active then .created else .stopped

def isActiveAdmissionAllocationState : State → Bool
  | .running | .paused | .created | .initializing => true
  | _ => false

def isActive (a : InstanceAllocation) : Bool := isActiveAdmissionAllocationState a.state

@[simp] theorem isActive_allocationFromStoredMetadata (stored : StoredMetadata) (active : Bool) :
    isActive (allocationFromStoredMetadata stored active) = active := by
  cases active <;> rfl

def admissionMetadataActive (stored : StoredMetadata) : Bool := stored.hypervisorPID.isSome

/-- The metadata with another process identity. -/
def StoredMetadata.withPID (stored : StoredMetadata) (pid : Option Nat) : StoredMetadata :=
  { stored with hypervisorPID := pid }

/-! ## Lifecycle operations -/

/-- The steps of lifecycle operations that concern the cache. -/
inductive Action
  /-- `ensureDirectories`. -/
  | mkdir
  /-- The file of `saveMetadata`. -/
  | persist (stored : StoredMetadata)
  /-- `syncAdmissionAllocation`, the end of `saveMetadata`. -/
  | sync (stored : StoredMetadata)
  /-- `setAdmissionAllocationActive`. -/
  | setActive (stored : StoredMetadata) (active : Bool)
  | spawn
  /-- The VMM makes its control socket. -/
  | listen
  | exit
  | unlink
  /-- The directory is removed, the first part of `deleteInstanceData`. -/
  | removeData
  /-- `deleteAdmissionAllocation`, the second part. -/
  | deleteEntry
deriving DecidableEq, Repr

/-- How `startAndBootVM` ends. -/
inductive Boot
  /-- It fails before there is a VMM. -/
  | notSpawned
  /-- It fails, and the VMM has ended unless its shutdown failed as well. -/
  | failed (ended : Bool)
  | booted (pid : Nat)
deriving DecidableEq, Repr

/-- A shutdown whose error is ignored. -/
def shutdown (ended : Bool) : List Action := if ended then [.exit] else []

/-- `createInstance`, where the cleanup of a failed creation removes the data. -/
def creationProgram (stored : StoredMetadata) : Boot → List Action
  | .notSpawned => [.mkdir, .persist stored, .sync stored, .removeData, .deleteEntry]
  | .failed ended =>
    [.mkdir, .persist stored, .sync stored, .spawn, .listen] ++ shutdown ended ++
      [.removeData, .deleteEntry]
  | .booted pid =>
    [.mkdir, .persist stored, .sync stored, .spawn, .listen,
      .setActive (stored.withPID (some pid)) true,
      .persist (stored.withPID (some pid)), .sync (stored.withPID (some pid))]

inductive Operation
  /-- `startInstance`, or `restoreInstance` that succeeds or fails to start the VMM. -/
  | start (boot : Boot)
  /-- `restoreInstance` that fails when the VM has been resumed. -/
  | rollback (pid : Nat) (ended : Bool)
  /-- `stopInstance`, `standbyInstance`. -/
  | stop
  /-- Any other update of the metadata. -/
  | save (stored : StoredMetadata)
  | delete
deriving DecidableEq, Repr

def Operation.program (stored : StoredMetadata) : Operation → List Action
  | .start .notSpawned => []
  | .start (.failed ended) => [.spawn, .listen] ++ shutdown ended
  | .start (.booted pid) =>
    [.spawn, .listen, .setActive (stored.withPID (some pid)) true,
      .persist (stored.withPID (some pid)), .sync (stored.withPID (some pid))]
  | .rollback pid ended =>
    [.spawn, .listen, .setActive (stored.withPID (some pid)) true] ++ shutdown ended ++
      [.setActive (stored.withPID none) false]
  | .stop =>
    [.exit, .unlink, .persist (stored.withPID none), .sync (stored.withPID none)]
  | .save stored' => [.persist stored', .sync stored']
  | .delete => [.exit, .unlink, .removeData, .deleteEntry]

/-! ## The scan and the reconciler -/

/-- What the reconciler has read of the first of its remaining instances. -/
inductive Reading
  | unread
  | loaded (stored : StoredMetadata)
  /-- `loadMetadata` has failed. -/
  | missing
  | checked (stored : StoredMetadata) (active : Bool)
deriving DecidableEq, Repr

/-- A call of `ensureAdmissionAllocations` or of `reconcileAdmissionAllocations`. -/
inductive Task
  /-- The scan has found the cache not loaded and lists the metadata files. -/
  | listing
  | scan (remaining : List String) (reading : Option StoredMetadata)
      (collected : Table String InstanceAllocation)
  | reconcile (remaining : List String) (reading : Reading)

/-! ## The server -/

/-- The files and processes of the host, the cache, and what is in progress: the rest of creations
and of operations under the lock of an instance, and the tasks. -/
structure Server where
  dirs : Finset String := ∅
  disk : Table String StoredMetadata := ∅
  running : Finset String := ∅
  sockets : Finset String := ∅
  loaded : Bool := false
  cache : Table String InstanceAllocation := ∅
  creating : Table String (List Action) := ∅
  locked : Table String (List Action) := ∅
  tasks : List Task := []

/-- Record what is left of the operation of an instance. -/
def setRest (t : Table String (List Action)) (id : String) (rest : List Action) :
    Table String (List Action) :=
  if rest = [] then t.erase id else t.insert id rest

/-- What is left of the operation of an instance. -/
def restOf (t : Table String (List Action)) (id : String) : List Action := (t.lookup id).getD []

namespace Server

variable (s : Server)

/-- `admissionSocketActive`; the socket of an instance is in its directory. -/
def admissionSocketActive (id : String) (stored : StoredMetadata) : Bool :=
  stored.socketPath != "" && decide (id ∈ s.sockets)

def setEntry (id : String) (allocation : InstanceAllocation) : Server :=
  if s.loaded then { s with cache := s.cache.insert id allocation } else s

def deleteAdmissionAllocation (id : String) : Server :=
  if s.loaded then { s with cache := s.cache.erase id } else s

/-- One step of a lifecycle operation. -/
def perform (id : String) : Action → Server
  | .mkdir => { s with dirs := insert id s.dirs }
  | .persist stored => if id ∈ s.dirs then { s with disk := s.disk.insert id stored } else s
  | .sync stored =>
    s.setEntry id (allocationFromStoredMetadata stored (admissionMetadataActive stored))
  | .setActive stored active => s.setEntry id (allocationFromStoredMetadata stored active)
  | .spawn => { s with running := insert id s.running }
  | .listen => { s with sockets := insert id s.sockets }
  | .exit => { s with running := s.running.erase id }
  | .unlink => { s with sockets := s.sockets.erase id }
  | .removeData =>
    { s with dirs := s.dirs.erase id, disk := s.disk.erase id, sockets := s.sockets.erase id }
  | .deleteEntry => s.deleteAdmissionAllocation id

/-- What is left after a step: a save that fails ends the operation. -/
def remaining (id : String) (a : Action) (rest : List Action) : List Action :=
  match a with
  | .persist _ => if id ∈ s.dirs then rest else []
  | _ => rest

/-- What each operation checks of the instance before it begins. -/
def allows (id : String) (stored : StoredMetadata) : Operation → Prop
  | .start _ | .rollback _ _ => id ∉ s.sockets
  | .save stored' =>
    stored'.hypervisorPID = stored.hypervisorPID ∧ stored'.socketPath = stored.socketPath
  | .stop | .delete => True

instance (id : String) (stored : StoredMetadata) :
    (op : Operation) → Decidable (s.allows id stored op)
  | .start _ => inferInstanceAs (Decidable (id ∉ s.sockets))
  | .rollback _ _ => inferInstanceAs (Decidable (id ∉ s.sockets))
  | .save _ => inferInstanceAs (Decidable (_ ∧ _))
  | .stop => .isTrue trivial
  | .delete => .isTrue trivial

/-- One step of a task, with what is left of it. -/
def advance : Task → Server × Option Task
  | .listing => (s, some (.scan s.disk.keys none ∅))
  | .scan [] _ collected =>
    (if s.loaded then s else { s with cache := collected, loaded := true }, none)
  | .scan (id :: ids) none collected =>
    match s.disk.lookup id with
    | none => (s, some (.scan ids none collected))
    | some stored => (s, some (.scan (id :: ids) (some stored) collected))
  | .scan (id :: ids) (some stored) collected =>
    (s, some (.scan ids none (collected.insert id
      (allocationFromStoredMetadata stored (s.admissionSocketActive id stored)))))
  | .reconcile [] _ => (s, none)
  | .reconcile (id :: ids) .unread =>
    match s.disk.lookup id with
    | none => (s, some (.reconcile (id :: ids) .missing))
    | some stored => (s, some (.reconcile (id :: ids) (.loaded stored)))
  | .reconcile (id :: ids) (.loaded stored) =>
    (s, some (.reconcile (id :: ids) (.checked stored (s.admissionSocketActive id stored))))
  | .reconcile (id :: ids) .missing =>
    (s.deleteAdmissionAllocation id, some (.reconcile ids .unread))
  | .reconcile (id :: ids) (.checked stored active) =>
    (s.setEntry id (allocationFromStoredMetadata stored active), some (.reconcile ids .unread))

def activeAdmissionAllocationIDs : List String :=
  (s.cache.entries.filter fun e => isActive e.2).map (·.1)

end Server

/-! ## Interleavings -/

inductive CacheEvent
  /-- `CreateInstance` with a new identifier. -/
  | create (stored : StoredMetadata) (boot : Boot)
  | creation (id : String)
  /-- An operation takes the lock of the instance and loads its metadata. -/
  | call (id : String) (op : Operation)
  /-- The next step of the operation under the lock. -/
  | operation (id : String)
  /-- A VMM ends by itself. -/
  | crash (id : String)
  /-- `ensureAdmissionAllocations` is called. -/
  | ensure
  /-- `reconcileAdmissionAllocations` takes the active identifiers. -/
  | reconcile
  | advance (task : Nat)
deriving DecidableEq, Repr

namespace Server

variable (s : Server)

def step : CacheEvent → Option Server
  | .create stored boot =>
    if s.creating.lookup stored.id = none ∧ s.locked.lookup stored.id = none ∧
        stored.id ∉ s.dirs ∧ stored.hypervisorPID = none ∧ stored.socketPath ≠ "" then
      some { s with creating := setRest s.creating stored.id (creationProgram stored boot) }
    else none
  | .creation id =>
    match restOf s.creating id with
    | [] => none
    | a :: rest =>
      some { s.perform id a with creating := setRest s.creating id (s.remaining id a rest) }
  | .call id op =>
    match s.disk.lookup id with
    | none => none
    | some stored =>
      if s.locked.lookup id = none ∧ s.allows id stored op then
        some { s with locked := setRest s.locked id (op.program stored) }
      else none
  | .operation id =>
    match restOf s.locked id with
    | [] => none
    | a :: rest =>
      some { s.perform id a with locked := setRest s.locked id (s.remaining id a rest) }
  | .crash id => some { s with running := s.running.erase id }
  | .ensure => if s.loaded then none else some { s with tasks := s.tasks ++ [.listing] }
  | .reconcile =>
    if s.loaded then
      some { s with tasks := s.tasks ++ [.reconcile s.activeAdmissionAllocationIDs .unread] }
    else none
  | .advance i =>
    match s.tasks[i]? with
    | none => none
    | some task =>
      match s.advance task with
      | (s', some task') => some { s' with tasks := s.tasks.set i task' }
      | (s', none) => some { s' with tasks := s.tasks.eraseIdx i }

end Server

/-- A host on which the server starts: metadata is a file in the directory of its instance and names
the socket, and a VMM that runs has its socket and its process in the metadata. -/
structure HostAtStart where
  dirs : Finset String
  disk : Table String StoredMetadata
  running : Finset String
  sockets : Finset String
  saved : ∀ id, ∀ stored ∈ disk.lookup id, id ∈ dirs ∧ stored.socketPath ≠ ""
  known : ∀ id ∈ running, id ∈ sockets ∧
    ∃ stored ∈ disk.lookup id, stored.hypervisorPID.isSome = true

def HostAtStart.empty : HostAtStart where
  dirs := ∅
  disk := ∅
  running := ∅
  sockets := ∅
  saved id stored h := by cases h
  known id h := absurd h (Finset.notMem_empty id)

def cacheSystem (host : HostAtStart) : System Server CacheEvent where
  init :=
    { dirs := host.dirs, disk := host.disk, running := host.running, sockets := host.sockets }
  step s e := s.step e

end Hypeman.Instances.AdmissionCache
