import Hypeman.Foundations.Actions
import Hypeman.Tags.Validation

/-!
# Builders

Model of `lib/builders/manager.go` for one builder: its metadata file, its disk volume with the
instances attached to it, and the build that holds it. The functions are written in the order of
their statements. Every step that touches the file or the volume may fail, and is entered in a log
with what was there after it, so that one can speak of a crash between two steps and of what was
done to the disk while a build held the builder.

The volume manager creates and deletes volumes in one step and refuses to delete a volume that is
attached.
-/

namespace Hypeman.Builders

open Foundations Action

/-! ## The state of a builder -/

inductive BuilderStatus
  | ready
  | pruning
  | deleting
  | error
deriving DecidableEq, Repr

/-- `storedMetadata`, without id, name and tags. -/
structure Metadata where
  diskSizeGb : Int
  status : BuilderStatus
  createdAt : Int
  lastUsedAt : Option Int
deriving DecidableEq, Repr

inductive Change
  | saved
  | removed
  | created
  | deleted
  | detached
deriving DecidableEq, Repr

def Change.ofDisk : Change → Bool
  | .saved | .removed => false
  | .created | .deleted | .detached => true

/-- The metadata and the disk with its attachments, as they are on disk. -/
structure Durable where
  metadata : Option Metadata
  disk : Option (List String)
deriving DecidableEq, Repr

/-- A step, and what was there after it. -/
structure Entry where
  change : Change
  durable : Durable
  acquired : Option String
deriving DecidableEq, Repr

/-- A builder, with the instances there are, which of the next steps succeed, and the log. -/
structure World extends Durable where
  acquired : Option String
  instances : List String
  outcomes : List Bool
  log : List Entry
deriving DecidableEq, Repr

/-- The errors that are told apart. -/
inductive Failure
  | notFound
  | alreadyExists
  | inUse
  | invalid
  | quotaExceeded
  | volumeNotFound
  | volumeExists
  | instanceNotFound
  | other
deriving DecidableEq, Repr

abbrev Op := Action Failure World

def attempt : Op Unit := fun w =>
  match w.outcomes with
  | false :: rest => (.error .other, { w with outcomes := rest })
  | true :: rest => (.ok (), { w with outcomes := rest })
  | [] => (.ok (), w)

def change (c : Change) (f : Durable → Durable) : Op Unit := do
  attempt
  fun w => (.ok (), { w with
    toDurable := f w.toDurable, log := ⟨c, f w.toDurable, w.acquired⟩ :: w.log })

/-! ## Files, volumes and instances -/

def loadMetadata : Op Metadata := do
  attempt
  fun w => match w.metadata with
    | some m => (.ok m, w)
    | none => (.error .notFound, w)

def saveMetadata (m : Metadata) : Op Unit := change .saved fun d => { d with metadata := some m }

def deleteBuilderData : Op Unit := change .removed fun d => { d with metadata := none }

def getVolume : Op (List String) := do
  attempt
  fun w => match w.disk with
    | some attachments => (.ok attachments, w)
    | none => (.error .volumeNotFound, w)

def createVolume : Op Unit := fun w =>
  match w.disk with
  | some _ => (.error .volumeExists, w)
  | none => change .created (fun d => { d with disk := some [] }) w

def deleteVolume : Op Unit := fun w =>
  match w.disk with
  | none => (.error .volumeNotFound, w)
  | some (_ :: _) => (.error .other, w)
  | some [] => change .deleted (fun d => { d with disk := none }) w

def detachVolume (inst : String) : Op Unit := fun w =>
  match w.disk with
  | none => (.error .volumeNotFound, w)
  | some attachments =>
    if inst ∈ attachments then
      change .detached (fun d => { d with disk := d.disk.map (·.filter (· ≠ inst)) }) w
    else (.error .other, w)

def getInstance (inst : String) : Op Unit := do
  attempt
  fun w => (if inst ∈ w.instances then .ok () else .error .instanceNotFound, w)

/-- The detachment only warns when it fails. -/
def deleteInstance (inst : String) : Op Unit := do
  getInstance inst
  attempt
  fun w => (.ok (), { w with instances := w.instances.filter (· ≠ inst) })
  let _ ← (detachVolume inst).result

/-- Go on where the error is this one. -/
def Op.ignoring (f : Op Unit) (err : Failure) : Op Unit := do
  match ← f.result with
  | .ok () => pure ()
  | .error e => if e = err then pure () else fail e

/-! ## The manager -/

def createDisk : Op Unit := createVolume

def ensureDisk : Op Unit := do
  match ← getVolume.result with
  | .ok _ => pure ()
  | .error e =>
    if e ≠ .volumeNotFound then fail e
    else createDisk.ignoring .volumeExists

def diskAttached : Op Bool := do
  match ← getVolume.result with
  | .ok attachments => pure (attachments ≠ [])
  | .error e => if e = .volumeNotFound then pure false else fail e

/-- The first loop of `clearStaleAttachments`: whether an instance was deleted. -/
def clearEach : List String → Bool → Op Bool
  | [], deletedInstance => pure deletedInstance
  | inst :: rest, deletedInstance => do
    match ← (getInstance inst).result with
    | .ok () =>
      (deleteInstance inst).ignoring .instanceNotFound
      clearEach rest true
    | .error e =>
      if e ≠ .instanceNotFound then fail e
      else
        detachVolume inst
        clearEach rest deletedInstance

def detachEach : List String → Op Unit
  | [] => pure ()
  | inst :: rest => do
    detachVolume inst
    detachEach rest

def clearStaleAttachments : Op Unit := do
  match ← getVolume.result with
  | .error e => if e = .volumeNotFound then pure () else fail e
  | .ok attachments =>
    let deletedInstance ← clearEach attachments false
    if deletedInstance then
      match ← getVolume.result with
      | .error e => if e = .volumeNotFound then pure () else fail e
      | .ok attachments => detachEach attachments
    else pure ()

def holder : Op (Option String) := fun w => (.ok w.acquired, w)

def setHolder (buildID : Option String) : Op Unit := fun w =>
  (.ok (), { w with acquired := buildID })

structure Config where
  defaultDiskSizeGb : Int
  maxDiskSizeGb : Int
  maxCount : Int

/-- `CreateBuilderRequest`, without the name. -/
structure CreateBuilderRequest where
  id : Option String
  tags : Table String String
  diskSizeGb : Int

/-- `^[A-Za-z0-9][A-Za-z0-9_-]{0,63}$` -/
def ValidateBuilderID (id : String) : Bool :=
  match id.toList with
  | [] => false
  | c :: cs => c.isAlphanum && cs.length ≤ 63 && cs.all fun c => c.isAlphanum || c = '_' || c = '-'

/-- The size of the disk, if the request is in order. -/
def CreateBuilderRequest.check (req : CreateBuilderRequest) (quote : String → String)
    (cfg : Config) : Option Int :=
  let sizeGb := if req.diskSizeGb = 0 then cfg.defaultDiskSizeGb else req.diskSizeGb
  match Tags.Validate quote req.tags with
  | .error _ => none
  | .ok () =>
    if req.id.any fun id => id ≠ "" && !ValidateBuilderID id then none
    else if req.diskSizeGb < 0 then none
    else if 0 < cfg.maxDiskSizeGb ∧ cfg.maxDiskSizeGb < sizeGb then none
    else some sizeGb

/-- `CreateBuilder` of this builder when there are `count` others. -/
def CreateBuilder (quote : String → String) (cfg : Config) (req : CreateBuilderRequest)
    (count now : Int) : Op Unit :=
  match req.check quote cfg with
  | none => fail .invalid
  | some sizeGb => do
    match ← loadMetadata.result with
    | .ok _ => fail .alreadyExists
    | .error e =>
      if e ≠ .notFound then fail e
      else if 0 < cfg.maxCount ∧ cfg.maxCount ≤ count then fail .quotaExceeded
      else
        -- metadata first: a crash before the disk exists is a missing disk
        let m : Metadata := ⟨sizeGb, .ready, now, none⟩
        saveMetadata m
        match ← createDisk.result with
        | .ok () => pure ()
        | .error e =>
          saveMetadata { m with status := .error }
          deleteVolume.ignoring .volumeNotFound
          deleteBuilderData
          fail e

/-- The checks of `DeleteBuilder` and the transition; what it asks the queue of builds for is given
as `hasBuilds`. -/
def beginDelete (hasBuilds : Bool) (m : Metadata) : Op Unit :=
  if m.status = .deleting then pure ()
  else do
    let held ← holder
    if held.isSome || m.status = .pruning || hasBuilds then fail .inUse
    else
      let attached ← diskAttached
      if attached then fail .inUse else saveMetadata { m with status := .deleting }

def DeleteBuilder (hasBuilds : Bool) : Op Unit := do
  let m ← loadMetadata
  beginDelete hasBuilds m
  deleteVolume.ignoring .volumeNotFound
  deleteBuilderData

def AcquireForBuild (buildID : String) : Op Unit := do
  let m ← loadMetadata
  let held ← holder
  if m.status ≠ .ready || held.isSome then fail .inUse
  else
    ensureDisk
    let attached ← diskAttached
    if attached then clearStaleAttachments >>= fun _ => setHolder (some buildID)
    else setHolder (some buildID)

def ReleaseBuild (buildID : String) (now : Int) : Op Unit := do
  let held ← holder
  if held ≠ some buildID then fail .other
  else
    match ← loadMetadata.result with
    | .error e => if e = .notFound then setHolder none else fail e
    | .ok m =>
      saveMetadata { m with lastUsedAt := some now }
      setHolder none

/-- `ResetDisk` up to the start of `resetDisk`. -/
def ResetDisk (hasBuilds : Bool) : Op Unit := do
  let m ← loadMetadata
  let held ← holder
  if held.isSome || (m.status ≠ .ready && m.status ≠ .error) || hasBuilds then fail .inUse
  else
    let attached ← diskAttached
    if attached then fail .inUse else saveMetadata { m with status := .pruning }

/-- What `resetDisk` does to the disk. -/
def recreateDisk : Op Unit := do
  deleteVolume.ignoring .volumeNotFound
  createDisk

def resetDisk : Op Unit := do
  let m ← loadMetadata
  match ← recreateDisk.result with
  | .ok () => saveMetadata { m with status := .ready }
  | .error e =>
    let _ ← (saveMetadata { m with status := .error }).result
    fail e

/-- One builder in `reconcile`. -/
def reconcileBuilder : Op Unit := do
  let m ← loadMetadata
  if m.status = .deleting then
    clearStaleAttachments
    DeleteBuilder false
  else if m.status = .pruning then resetDisk
  else
    ensureDisk
    clearStaleAttachments

/-- Whether the reaper should delete the builder. -/
def markIdleBuilderDeleting (hasBuilds : Bool) (cutoff : Int) : Op Bool := do
  let m ← loadMetadata
  let held ← holder
  if m.status = .deleting then pure true
  else if m.status ≠ .ready || held.isSome || hasBuilds then pure false
  else if cutoff < m.lastUsedAt.getD m.createdAt then pure false
  else
    saveMetadata { m with status := .deleting }
    pure true

end Hypeman.Builders
