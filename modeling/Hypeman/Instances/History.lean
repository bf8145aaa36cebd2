import Hypeman.Foundations.System
import Hypeman.Instances.Creation
import Hypeman.Instances.Lifecycle

/-!
# Histories of public operations

A public operation of the instance manager is a plan: internal operations one after the other, the
next one chosen by how the last one ended. A session runs one plan at a time, step by step, so that
the moments between the internal operations of a call are states of the run as well. The VMMs act on
their own at any moment.

* `perform_populates`: instances come from creations and forks, under new ids.
* `reachable_invariant`: what every internal operation keeps holds at every moment of every session.
-/

namespace Hypeman.Instances

open Foundations

/-- The internal operations, and what the VMMs do on their own. -/
inductive Op
  | createInstance (id : String) (req : ResourceRequest) (host : CreateHost)
  | startInstance (id : String) (host : StartHost)
  | stopInstance (id : String) (host : StopHost)
  | standbyInstance (id : String) (outcome : StandbyOutcome)
  | restoreInstance (id : String) (host : RestoreHost)
  | removeSnapshot (id : String) (err : Option String)
  | deleteInstance (id : String) (host : DeleteHost)
  | copySnapshot (id snapshotID : String) (kind : SnapshotKind) (copyErr : Option String)
  | deleteSnapshot (snapshotID : String)
  | replaceInstance (id snapshotID : String) (outcome : ReplaceOutcome)
  | forkInstance (id forkID name : String) (failed : Option String)
  | forkSnapshot (snapshotID forkID name : String) (failed : Option String)
  | restartServer (host : Devices.ReconcileHost)
  | deleteVolume (volumeID : String) (fails : Option WriteFailure)
  | vmmReports (id : String) (vmm : VMState)
  | hydrateBootMarkers (id : String) (programStarted guestAgentReady : Bool)

/-- The error of an internal operation, if it fails, and the world it leaves. -/
def perform (cfg : Network.Config) (w : World) : Op → Option String × World
  | .createInstance id req host => createInstance cfg w id req host
  | .startInstance id host => startInstance cfg w id host
  | .stopInstance id host => stopInstance w id host
  | .standbyInstance id outcome => standbyInstance w id outcome
  | .restoreInstance id host => restoreInstance cfg w id host
  | .removeSnapshot id err => removeSnapshot w id err
  | .deleteInstance id host => deleteInstance w id host
  | .copySnapshot id snapshotID kind copyErr => copySnapshot w id snapshotID kind copyErr
  | .deleteSnapshot snapshotID => (none, deleteSnapshot w snapshotID)
  | .replaceInstance id snapshotID outcome => replaceInstance w id snapshotID outcome
  | .forkInstance id forkID name failed => forkInstance w id forkID name failed
  | .forkSnapshot snapshotID forkID name failed => forkSnapshot w snapshotID forkID name failed
  | .restartServer host => (none, restartServer w host)
  | .deleteVolume volumeID fails => (none, deleteVolume w volumeID fails)
  | .vmmReports id vmm => (none, vmmReports w id vmm)
  | .hydrateBootMarkers id programStarted guestAgentReady =>
    (none, hydrateBootMarkers w id programStarted guestAgentReady)

/-- The instance whose guest alone an operation revises, and whether it may start its VMM. -/
def Op.revises : Op → Option (String × Bool)
  | .startInstance id _ | .restoreInstance id _ | .vmmReports id _ => some (id, true)
  | .stopInstance id _ | .standbyInstance id _ | .removeSnapshot id _ => some (id, false)
  | .hydrateBootMarkers id _ _ => some (id, false)
  | _ => none

theorem perform_revision (cfg : Network.Config) (w : World) {op : Op} {id : String} {starts : Bool}
    (h : op.revises = some (id, starts)) : Revision w id starts (perform cfg w op).2 := by
  cases op with cases h
  | startInstance _ host => exact startInstance_revision host
  | stopInstance _ host => exact stopInstance_revision host
  | standbyInstance _ outcome => exact standbyInstance_revision outcome
  | restoreInstance _ host => exact restoreInstance_revision host
  | removeSnapshot _ err => exact removeSnapshot_revision err
  | vmmReports _ vmm => exact vmmReports_revision vmm
  | hydrateBootMarkers _ programStarted guestAgentReady =>
    exact hydrateBootMarkers_revision programStarted guestAgentReady

/-- What is left to do of a call. -/
inductive Plan
  | done
  | read (next : World → Plan)
  /-- Perform an operation, and go on by its result. -/
  | op (op : Op) (onOk onErr : Plan)

/-- Perform an operation and end. -/
def Plan.last (op : Op) : Plan := .op op .done .done

/-! ## The public operations -/

structure CreateSnapshotHost where
  guestAgentReady : Bool
  standby : StandbyOutcome
  copyErr : Option String
  restore : RestoreHost
  /-- The record cannot be completed or saved. -/
  recordErr : Bool

/-- `CreateSnapshot`. A running source is suspended for the copy, and there is no record if it
cannot be resumed. -/
def CreateSnapshot (id snapshotID : String) (kind : SnapshotKind) (host : CreateSnapshotHost) :
    Plan :=
  let drop := Plan.last (.deleteSnapshot snapshotID)
  let record := if host.recordErr then drop else .done
  let copy := Op.copySnapshot id snapshotID kind host.copyErr
  .read fun w =>
    match (w.guests.lookup id).map deriveState with
    | none => .done
    | some state =>
      if kind = .standby ∧ state = .running then
        if !host.guestAgentReady then .done
        else .op (.standbyInstance id host.standby)
          (.op copy (.op (.restoreInstance id host.restore) record drop)
            (.last (.restoreInstance id host.restore)))
          .done
      else .op copy record .done

/-- `ResolveTargetState`; without a request it is the state the kind stands for. -/
def ResolveTargetState (kind : SnapshotKind) (requested : Option State) : Option State :=
  match kind, requested with
  | .standby, none => some .running
  | .stopped, none => some .stopped
  | .standby, some target =>
    if target = .running ∨ target = .standby ∨ target = .stopped then some target else none
  | .stopped, some target =>
    if target = .stopped ∨ target = .running then some target else none

structure RestoreSnapshotHost where
  replace : ReplaceOutcome
  removeErr : Option String
  restore : RestoreHost
  start : StartHost

def RestoreSnapshot (id snapshotID : String) (requested : Option State)
    (host : RestoreSnapshotHost) : Plan :=
  .read fun w =>
    match w.snapshots.lookup snapshotID with
    | none => .done
    | some record =>
      match ResolveTargetState record.kind requested with
      | none => .done
      | some target => .op (.replaceInstance id snapshotID host.replace)
          (match record.kind, target with
          | .standby, .running => .last (.restoreInstance id host.restore)
          | .stopped, .running => .last (.startInstance id host.start)
          | _, .stopped => .last (.removeSnapshot id host.removeErr)
          | _, _ => .done)
          .done

structure ForkHost where
  guestAgentReady : Bool
  standby : StandbyOutcome
  failed : Option String
  /-- The vsock address of a running source cannot be rotated. -/
  rotateErr : Bool
  restoreSource : RestoreHost
  start : StartHost
  restore : RestoreHost
  standbyFork : StandbyOutcome
  stop : StopHost
  removeErr : Option String
  forkReady : Bool
  cleanup : DeleteHost

/-- `applyForkTargetState`, and what follows when it succeeds and when it fails. -/
def applyForkTargetState (forkID : String) (target : State) (host : ForkHost) (onOk onErr : Plan) :
    Plan :=
  let ready := if host.forkReady then onOk else onErr
  .read fun w =>
    match (w.guests.lookup forkID).map deriveState with
    | none => onErr
    | some current =>
      if current = target ∨ target = .running ∧ current = .initializing then ready
      else match current, target with
        | .stopped, .running => .op (.startInstance forkID host.start) ready onErr
        | .stopped, .standby => .op (.startInstance forkID host.start)
            (.op (.standbyInstance forkID host.standbyFork) ready onErr) onErr
        | .standby, .running => .op (.restoreInstance forkID host.restore) ready onErr
        | .standby, .stopped => .op (.removeSnapshot forkID host.removeErr) ready onErr
        | .running, .standby => .op (.standbyInstance forkID host.standbyFork) ready onErr
        | .running, .stopped => .op (.stopInstance forkID host.stop) ready onErr
        | _, _ => onErr

/-- The end of `ForkInstance` and `ForkSnapshot`: a fork that cannot reach its state is deleted. -/
def finishFork (forkID : String) (target : State) (host : ForkHost) : Plan :=
  applyForkTargetState forkID target host .done (.last (.deleteInstance forkID host.cleanup))

def resolveForkTargetState (requested : Option State) (source : State) : Option State :=
  match requested with
  | some target => some target
  | none =>
    if source = .running ∨ source = .standby ∨ source = .stopped then some source else none

/-- `forkInstance` for a running source: it is suspended for the copy and resumed at the end. -/
def forkRunning (id forkID name : String) (target : State) (host : ForkHost) : Plan :=
  let giveUp := Plan.last (.restoreInstance id host.restoreSource)
  let discard := Plan.op (.deleteInstance forkID host.cleanup) giveUp giveUp
  let resume :=
    Plan.op (.restoreInstance id host.restoreSource) (finishFork forkID target host) .done
  .op (.standbyInstance id host.standby)
    (.op (.forkInstance id forkID name host.failed)
      (if target ≠ .stopped ∧ host.rotateErr then discard
        else if target = .running then applyForkTargetState forkID .running host resume discard
        else resume)
      giveUp)
    .done

def ForkInstance (id forkID name : String) (fromRunning : Bool) (requested : Option State)
    (host : ForkHost) : Plan :=
  .read fun w =>
    match (w.guests.lookup id).map deriveState with
    | none => .done
    | some state =>
      match resolveForkTargetState requested state with
      | none => .done
      | some target =>
        match state with
        | .running =>
          if fromRunning && host.guestAgentReady then forkRunning id forkID name target host
          else .done
        | .stopped | .standby =>
          .op (.forkInstance id forkID name host.failed) (finishFork forkID target host) .done
        | _ => .done

def ForkSnapshot (snapshotID forkID name : String) (requested : Option State) (host : ForkHost) :
    Plan :=
  .read fun w =>
    match w.snapshots.lookup snapshotID with
    | none => .done
    | some record =>
      match ResolveTargetState record.kind requested with
      | none => .done
      | some target =>
        .op (.forkSnapshot snapshotID forkID name host.failed) (finishFork forkID target host) .done

/-- The calls of the public operations, and server restarts. -/
inductive Call
  | CreateInstance (id : String) (req : ResourceRequest) (host : CreateHost)
  | StartInstance (id : String) (host : StartHost)
  | StopInstance (id : String) (host : StopHost)
  | StandbyInstance (id : String) (outcome : StandbyOutcome)
  | RestoreInstance (id : String) (host : RestoreHost)
  | DeleteInstance (id : String) (host : DeleteHost)
  | CreateSnapshot (id snapshotID : String) (kind : SnapshotKind) (host : CreateSnapshotHost)
  | DeleteSnapshot (snapshotID : String)
  | RestoreSnapshot (id snapshotID : String) (requested : Option State) (host : RestoreSnapshotHost)
  | ForkInstance (id forkID name : String) (fromRunning : Bool) (requested : Option State)
      (host : ForkHost)
  | ForkSnapshot (snapshotID forkID name : String) (requested : Option State) (host : ForkHost)
  | DeleteVolume (volumeID : String) (fails : Option WriteFailure)
  | RestartServer (host : Devices.ReconcileHost)

def Call.plan : Call → Plan
  | .CreateInstance id req host => .last (.createInstance id req host)
  | .StartInstance id host => .last (.startInstance id host)
  | .StopInstance id host => .last (.stopInstance id host)
  | .StandbyInstance id outcome => .last (.standbyInstance id outcome)
  | .RestoreInstance id host => .last (.restoreInstance id host)
  | .DeleteInstance id host => .last (.deleteInstance id host)
  | .CreateSnapshot id snapshotID kind host => Instances.CreateSnapshot id snapshotID kind host
  | .DeleteSnapshot snapshotID => .last (.deleteSnapshot snapshotID)
  | .RestoreSnapshot id snapshotID requested host =>
    Instances.RestoreSnapshot id snapshotID requested host
  | .ForkInstance id forkID name fromRunning requested host =>
    Instances.ForkInstance id forkID name fromRunning requested host
  | .ForkSnapshot snapshotID forkID name requested host =>
    Instances.ForkSnapshot snapshotID forkID name requested host
  | .DeleteVolume volumeID fails => .last (.deleteVolume volumeID fails)
  | .RestartServer host => .last (.restartServer host)

/-! ## Sessions -/

/-- The world, and what is left to do of the call in progress. -/
structure Session where
  world : World
  rest : Plan

inductive Event
  | call (c : Call)
  /-- The call in progress takes its next step. -/
  | proceed
  | vmmReports (id : String) (vmm : VMState)
  | hydrateBootMarkers (id : String) (programStarted guestAgentReady : Bool)

/-- The operation that an event performs. -/
def Session.op (s : Session) : Event → Option Op
  | .call _ => none
  | .proceed =>
    match s.rest with
    | .op op _ _ => some op
    | _ => none
  | .vmmReports id vmm => some (.vmmReports id vmm)
  | .hydrateBootMarkers id programStarted guestAgentReady =>
    some (.hydrateBootMarkers id programStarted guestAgentReady)

variable (cfg : Network.Config)

/-- One step; a call waits for the end of the one before. -/
def sessionStep (s : Session) : Event → Option Session
  | .call c =>
    match s.rest with
    | .done => some { s with rest := c.plan }
    | _ => none
  | .proceed =>
    match s.rest with
    | .done => none
    | .read next => some { s with rest := next s.world }
    | .op op onOk onErr =>
      let (err, w) := perform cfg s.world op
      some ⟨w, if err.isNone then onOk else onErr⟩
  | .vmmReports id vmm => some { s with world := (perform cfg s.world (.vmmReports id vmm)).2 }
  | .hydrateBootMarkers id programStarted guestAgentReady => some { s with
      world := (perform cfg s.world (.hydrateBootMarkers id programStarted guestAgentReady)).2 }

def emptyHost (devices : Devices.DeviceTable) (volumes : Volumes.VolumeTable) : World where
  guests := ∅
  snapshots := ∅
  pending := ∅
  devices := devices
  volumes := volumes
  used := []

def sessions (w : World) : System Session Event where
  init := ⟨w, .done⟩
  step := sessionStep cfg

/-- Every operation performed meets the condition in the world it is performed in. -/
def Each (ok : World → Op → Prop) (s : Session) (e : Event) : Prop :=
  ∀ op ∈ s.op e, ok s.world op

instance (ok : World → Op → Prop) [∀ w op, Decidable (ok w op)] (s : Session) (e : Event) :
    Decidable (Each ok s e) :=
  inferInstanceAs (Decidable (∀ op ∈ s.op e, ok s.world op))

variable {cfg}

/-- A step performs the operation of its event, or leaves the world if there is none. -/
theorem sessionStep_world {s s' : Session} {e : Event} (h : sessionStep cfg s e = some s') :
    s.op e = none ∧ s'.world = s.world ∨
      ∃ op, s.op e = some op ∧ s'.world = (perform cfg s.world op).2 := by
  cases e with
  | call c =>
    simp only [sessionStep] at h
    split at h
    · cases h
      exact .inl ⟨rfl, rfl⟩
    · cases h
  | proceed =>
    simp only [sessionStep] at h
    split at h
    · cases h
    next next hrest =>
      cases h
      exact .inl ⟨by rw [Session.op, hrest], rfl⟩
    next op onOk onErr hrest =>
      cases h
      exact .inr ⟨op, by rw [Session.op, hrest], rfl⟩
  | vmmReports id vmm =>
    cases h
    exact .inr ⟨_, rfl, rfl⟩
  | hydrateBootMarkers id programStarted guestAgentReady =>
    cases h
    exact .inr ⟨_, rfl, rfl⟩

/-! ## Where instances come from -/

/-- Every instance has an id that was generated. -/
def World.Named (w : World) : Prop := ∀ id guest, w.guests.lookup id = some guest → id ∈ w.used

/-- The ids generated stay, and an instance was there before or has a newly generated id. -/
structure Populates (w w' : World) : Prop where
  used : w.used ⊆ w'.used
  origin : ∀ id guest, w'.guests.lookup id = some guest →
    (w.guests.lookup id).isSome ∨ id ∉ w.used ∧ id ∈ w'.used

theorem Populates.named {w w' : World} (h : Populates w w') (hw : w.Named) : w'.Named := by
  intro id guest hguest
  rcases h.origin id guest hguest with hold | ⟨-, hnew⟩
  · obtain ⟨g, hg⟩ := Option.isSome_iff_exists.mp hold
    exact h.used (hw id g hg)
  · exact hnew

theorem Populates.refl (w : World) : Populates w w :=
  ⟨List.Subset.refl _, fun _ _ h => .inl (by rw [h]; rfl)⟩

/-- One guest is set or removed that was there before, or is new. -/
theorem Populates.set {w w' : World} {id : String} {new : Option Guest}
    (hset : Table.Sets id new w.guests w'.guests) (hused : w.used ⊆ w'.used)
    (hnew : ∀ guest ∈ new, (w.guests.lookup id).isSome ∨ id ∉ w.used ∧ id ∈ w'.used) :
    Populates w w' := by
  refine ⟨hused, fun k guest hguest => ?_⟩
  rcases hset.eq_some hguest with ⟨rfl, hg⟩ | ⟨-, hg⟩
  · exact hnew guest hg
  · exact .inl (by rw [hg]; rfl)

theorem Revision.populates {w w' : World} {id : String} {starts : Bool}
    (h : Revision w id starts w') : Populates w w' := by
  obtain ⟨new, hset, hnew⟩ := h.sets
  refine .set hset (by rw [h.used]; exact List.Subset.refl _) fun guest' hguest' => .inl ?_
  obtain ⟨guest, hguest, -⟩ := hnew guest' hguest'
  rw [hguest]
  rfl

theorem Populates.createInstance (cfg : Network.Config) (w : World) (id : String)
    (req : ResourceRequest) (host : CreateHost) :
    Populates w (createInstance cfg w id req host).2 := by
  obtain ⟨err, hsame⟩ | ⟨hfresh, c, -, ⟨err, hroll⟩ | ⟨-, hcommit⟩⟩ :=
    createInstance_spec cfg w id req host
  · rw [hsame]
    exact .refl w
  · rw [hroll]
    obtain ⟨new, hset, hnew⟩ := rollback_guests w id host c
    refine .set hset (List.subset_cons_self _ _) fun guest hguest => ?_
    rcases hnew guest hguest with hold | -
    · exact .inl (by rw [hold]; rfl)
    · exact .inr ⟨hfresh, List.mem_cons_self ..⟩
  · rw [hcommit]
    exact .set (.insert _ _ _) (List.subset_cons_self _ _)
      fun _ _ => .inr ⟨hfresh, List.mem_cons_self ..⟩

theorem Populates.deleteInstance (w : World) (id : String) (host : DeleteHost) :
    Populates w (deleteInstance w id host).2 := by
  obtain hsame | ⟨guest, hguest, hkill | ⟨pending, hdelete⟩⟩ := deleteInstance_cases w id host
  · rw [hsame]
    exact .refl w
  · rw [hkill]
    exact .set (.insert _ _ _) (List.Subset.refl _) fun _ _ => .inl (by rw [hguest]; rfl)
  · rw [hdelete]
    exact .set (sets_retained _ _ _ _) (List.Subset.refl _) fun _ _ => .inl (by rw [hguest]; rfl)

theorem Populates.replaceInstance (w : World) (id snapshotID : String) (outcome : ReplaceOutcome) :
    Populates w (replaceInstance w id snapshotID outcome).2 := by
  obtain hsame | ⟨record, guest, -, -, hguest, hgone | ⟨-, -, name, hset⟩⟩ :=
    replaceInstance_cases w id snapshotID outcome
  · rw [hsame]
    exact .refl w
  · rw [hgone]
    exact .set (.erase _ _) (List.Subset.refl _) nofun
  · rw [hset]
    exact .set (.insert _ _ _) (List.Subset.refl _) fun _ _ => .inl (by rw [hguest]; rfl)

theorem Populates.withFork {w : World} {forkID : String} (hfresh : forkID ∉ w.used)
    (source : Guest) (name : String) : Populates w (w.withFork source forkID name) :=
  .set (.insert _ _ _) (List.subset_cons_self _ _)
    fun _ _ => .inr ⟨hfresh, List.mem_cons_self ..⟩

theorem Forks.fresh {w : World} {isSource : Guest → Prop} {forkID name : String}
    {result : Option String × World} (h : Forks w isSource forkID name result)
    (hdone : result.1.isNone = true) : forkID ∉ w.used ∧ forkID ∈ result.2.used := by
  obtain ⟨err, rfl⟩ | ⟨source, -, hfresh, rfl⟩ := h
  · cases hdone
  · exact ⟨hfresh, List.mem_cons_self ..⟩

/-- The id that an operation generates for an instance. -/
def Op.creates : Op → Option String
  | .createInstance id _ _ => some id
  | .forkInstance _ forkID _ _ => some forkID
  | .forkSnapshot _ forkID _ _ => some forkID
  | _ => none

/-- An instance that is made gets an id that was not used. -/
theorem perform_creates {cfg : Network.Config} {w : World} {op : Op} {id : String}
    (hid : id ∈ op.creates) (hdone : (perform cfg w op).1.isNone = true) :
    id ∉ w.used ∧ id ∈ (perform cfg w op).2.used := by
  cases op with
  | createInstance _ req host =>
    cases hid
    rw [perform] at hdone ⊢
    obtain ⟨err, hsame⟩ | ⟨hfresh, c, -, ⟨err, hroll⟩ | ⟨-, hcommit⟩⟩ :=
      createInstance_spec cfg w id req host
    · rw [hsame] at hdone
      cases hdone
    · rw [hroll] at hdone
      cases hdone
    · rw [hcommit]
      exact ⟨hfresh, List.mem_cons_self ..⟩
  | forkInstance source _ name failed =>
    cases hid
    exact (forkInstance_spec w source id name failed).fresh hdone
  | forkSnapshot snapshotID _ name failed =>
    cases hid
    exact (forkSnapshot_spec w snapshotID id name failed).fresh hdone
  | _ => cases hid

/-- **Instances are created or forked.** An operation leaves no instance that was not there before
except under a newly generated id. -/
theorem perform_populates (cfg : Network.Config) (w : World) (op : Op) :
    Populates w (perform cfg w op).2 := by
  cases op with
  | createInstance id req host => exact .createInstance cfg w id req host
  | startInstance _ _ | stopInstance _ _ | standbyInstance _ _ | restoreInstance _ _
  | removeSnapshot _ _ | vmmReports _ _ | hydrateBootMarkers _ _ _ =>
    exact (perform_revision cfg w rfl).populates
  | deleteInstance id host => exact .deleteInstance w id host
  | copySnapshot id snapshotID kind copyErr =>
    obtain hsame | ⟨guest, -, hcopy⟩ := copySnapshot_cases w id snapshotID kind copyErr
    · rw [perform, hsame]
      exact .refl w
    · rw [perform, hcopy]
      exact ⟨List.Subset.refl _, fun _ _ h => .inl (by rw [h]; rfl)⟩
  | deleteSnapshot snapshotID =>
    exact ⟨List.Subset.refl _, fun _ _ h => .inl (Option.isSome_of_mem h)⟩
  | replaceInstance id snapshotID outcome => exact .replaceInstance w id snapshotID outcome
  | forkInstance id forkID name failed =>
    exact (forkInstance_spec w id forkID name failed).keeps (.refl w) fun source _ hfresh =>
      .withFork hfresh source name
  | forkSnapshot snapshotID forkID name failed =>
    exact (forkSnapshot_spec w snapshotID forkID name failed).keeps (.refl w) fun source _ hfresh =>
      .withFork hfresh source name
  | restartServer host => exact ⟨List.Subset.refl _, fun _ _ h => .inl (Option.isSome_of_mem h)⟩
  | deleteVolume volumeID fails =>
    exact ⟨List.Subset.refl _, fun _ _ h => .inl (Option.isSome_of_mem h)⟩

theorem named_emptyHost (devices : Devices.DeviceTable) (volumes : Volumes.VolumeTable) :
    (emptyHost devices volumes).Named := fun _ _ h => (nomatch h)

/-! ## Invariants of sessions -/

/-- **The invariant rule for sessions.** What every operation that meets the condition keeps holds
at every moment of every session whose operations meet it. -/
theorem reachable_invariant {I : World → Prop} {ok : World → Op → Prop} {w : World} (hinit : I w)
    (hop : ∀ w op, I w → ok w op → I (perform cfg w op).2) {s : Session}
    (h : (sessions cfg w).Reachable (Each ok) s) : I s.world := by
  refine System.Reachable.invariant (I := fun s => I s.world) hinit ?_ h
  intro s e s' hI hok hs
  rcases sessionStep_world hs with ⟨-, hsame⟩ | ⟨op, hmem, hworld⟩
  · rw [hsame]
    exact hI
  · rw [hworld]
    exact hop s.world op hI (hok op hmem)

end Hypeman.Instances
