import Hypeman.Instances.NetworkIdentity
import Hypeman.Instances.PhaseTracking

/-!
# Accumulated phases along histories

The tracker of an instance is part of its metadata: it is recorded to by the operations that change
its state, copied into a snapshot record with the rest of the metadata, and put back from there by
`RestoreSnapshot`. A fork of an instance starts with an empty tracker; a fork of a snapshot starts
with the tracker of the snapshot.

* `accumulated_phases_grow`: as long as no snapshot with smaller totals is restored and no snapshot
  with totals is forked, the totals of an instance never go down and forks start at zero.
* `restored_and_forked_phases`: a session in which a restored snapshot takes away what an instance
  has accumulated, and in which a fork of a snapshot starts with what its source had.
-/

namespace Hypeman.Instances

open Foundations

/-- The trackers in the metadata of the instances and in the snapshot records. -/
structure Phases where
  instances : String → Tracker
  snapshots : String → Tracker

def Phases.set (p : Phases) (id : String) (t : Tracker) : Phases :=
  { p with instances := fun k => if k = id then t else p.instances k }

/-- What an operation reads besides the state. -/
structure Readings where
  /-- The clock; a creation has read it as `bootStart` before the boot. -/
  now : Time
  bootStart : Time
  /-- The times of the boot markers. -/
  programStartedAt : Time
  guestAgentReadyAt : Time
  /-- The metadata is saved after the boot of a new instance, or before it if the boot fails. -/
  saved : Bool

/-- The phase a restored instance resumes in. -/
def resumePhase (stored : StoredMetadata) : Phase :=
  if deriveRunningState stored = .running then .running else .initializing

def StoredMetadata.markers (stored : StoredMetadata) (r : Readings) : Markers where
  programStartedAt := if stored.programStarted then some r.programStartedAt else none
  guestAgentReadyAt := if stored.guestAgentReady then some r.guestAgentReadyAt else none
  skipGuestAgent := stored.skipGuestAgent

/-- `persistBootMarkers` finds a marker that the metadata does not have. -/
def StoredMetadata.misses (stored : StoredMetadata) (programStarted guestAgentReady : Bool) :
    Bool :=
  (!stored.programStarted && programStarted) ||
    (!stored.skipGuestAgent && !stored.guestAgentReady && guestAgentReady)

def createdTracker (r : Readings) : Tracker :=
  let created := Tracker.empty.Record .created r.bootStart
  if r.saved then created.Record .initializing r.now else created

def forkPhase (state : State) : Phase := if state = .standby then .standby else .stopped

variable (cfg : Network.Config) (w : World)

/-- The trackers after an internal operation. -/
def Phases.perform (p : Phases) (r : Readings) (op : Op) : Phases :=
  let (err, w') := Instances.perform cfg w op
  let record := fun id phase => p.set id ((p.instances id).Record phase r.now)
  match op with
  | .createInstance id _ _ =>
    if err.isNone then p.set id (createdTracker r)
    else if (w.guests.lookup id).isNone then
      -- what is retained of a failed creation
      p.set id (if r.saved then Tracker.empty.Record .created r.bootStart else .empty)
    else p
  | .startInstance id host => if err.isNone && host.saved then record id .initializing else p
  | .stopInstance id _ => if err.isNone then record id .stopped else p
  | .standbyInstance id _ => if err.isNone then record id .standby else p
  | .restoreInstance id host =>
    match w.guests.lookup id with
    | none => p
    | some guest =>
      if err.isNone && host.saved then record id (resumePhase guest.stored) else p
  | .hydrateBootMarkers id programStarted guestAgentReady =>
    match w.guests.lookup id, w'.guests.lookup id with
    | some guest, some guest' =>
      if guest.vmm = some .running ∧ guest.stored.misses programStarted guestAgentReady then
        p.set id (advancePhaseIfRunning (p.instances id) (guest'.stored.markers r))
      else p
    | _, _ => p
  | .copySnapshot id snapshotID _ _ =>
    if err.isNone then { p with
      snapshots := fun k => if k = snapshotID then p.instances id else p.snapshots k }
    else p
  | .replaceInstance id snapshotID outcome =>
    match w.snapshots.lookup snapshotID, w.guests.lookup id with
    | some record, some guest =>
      if record.sourceInstanceID = id ∧ deriveState guest ≠ .running then
        match outcome with
        | .notCleared _ _ | .notCopied _ false => p
        | .notCopied _ true | .notSaved _ | .done => p.set id (p.snapshots snapshotID)
      else p
    | _, _ => p
  | .forkInstance id forkID _ _ =>
    match w.guests.lookup id with
    | none => p
    | some guest =>
      if err.isNone then p.set forkID (Tracker.empty.Record (forkPhase (deriveState guest)) r.now)
      else p
  | .forkSnapshot snapshotID forkID _ _ =>
    if err.isNone then p.set forkID (p.snapshots snapshotID) else p
  | .removeSnapshot _ _ | .deleteInstance _ _ | .deleteSnapshot _ | .restartServer _
  | .deleteVolume _ _ | .vmmReports _ _ => p

/-! ## Sessions with trackers -/

structure PhasedSession where
  session : Session
  phases : Phases

def PhasedSession.exists (s : PhasedSession) (id : String) : Bool :=
  (s.session.world.guests.lookup id).isSome

/-- One step of the session, with what its operation reads. -/
def phasedStep (s : PhasedSession) (e : Event × Readings) : Option PhasedSession :=
  (sessionStep cfg s.session e.1).map fun session => {
    session := session
    phases := match s.session.op e.1 with
      | none => s.phases
      | some op => s.phases.perform cfg s.session.world e.2 op }

/-- The sessions that start in a world, with the trackers its instances have. -/
def phasedSessions (phases : Phases) : System PhasedSession (Event × Readings) where
  init := ⟨⟨w, .done⟩, phases⟩
  step := phasedStep cfg

/-- The totals can take one more interval, the longest of which has 2^63 nanoseconds, without
reaching 2^63 milliseconds. -/
def Tracker.HasRoom (t : Tracker) : Prop :=
  ∀ phase, (t.cumulative phase).toInt ≤ 9223362813482738953

instance (t : Tracker) : Decidable t.HasRoom :=
  inferInstanceAs (Decidable (∀ phase, (t.cumulative phase).toInt ≤ 9223362813482738953))

/-- One tracker has at least the totals of the other. -/
def Tracker.Grows (t t' : Tracker) : Prop :=
  ∀ phase, (t.cumulative phase).toInt ≤ (t'.cumulative phase).toInt

instance (t t' : Tracker) : Decidable (t.Grows t') :=
  inferInstanceAs (Decidable (∀ phase, (t.cumulative phase).toInt ≤ (t'.cumulative phase).toInt))

def Tracker.Unspent (t : Tracker) : Prop := ∀ phase, t.cumulative phase = 0

instance (t : Tracker) : Decidable t.Unspent :=
  inferInstanceAs (Decidable (∀ phase, t.cumulative phase = 0))

def Op.forksSnapshot : Op → Option String
  | .forkSnapshot snapshotID _ _ _ => some snapshotID
  | _ => none

/-- No snapshot is restored whose totals are smaller than those of the instance, and no snapshot is
forked that has totals. -/
def KeepsPhases (s : PhasedSession) (e : Event × Readings) : Prop :=
  ∀ op ∈ s.session.op e.1,
    (∀ x ∈ op.replaces s.session.world,
      (s.phases.instances x.1).Grows (s.phases.snapshots x.2)) ∧
      ∀ snapshotID ∈ op.forksSnapshot, (s.phases.snapshots snapshotID).Unspent

instance (s : PhasedSession) (e : Event × Readings) : Decidable (KeepsPhases s e) :=
  inferInstanceAs (Decidable (∀ op ∈ s.session.op e.1,
    (∀ x ∈ op.replaces s.session.world,
      (s.phases.instances x.1).Grows (s.phases.snapshots x.2)) ∧
      ∀ snapshotID ∈ op.forksSnapshot, (s.phases.snapshots snapshotID).Unspent))

/-! ## What one operation does to a tracker -/

variable {cfg w}

theorem Tracker.Grows.refl (t : Tracker) : t.Grows t := fun _ => Int.le_refl _

theorem Tracker.Grows.trans {t t' t'' : Tracker} (h : t.Grows t') (h' : t'.Grows t'') :
    t.Grows t'' := fun phase => (h phase).trans (h' phase)

/-- An interval is at most 2^63 nanoseconds long. -/
theorem milliseconds_le (d : Int64) : (milliseconds d).toInt ≤ 9223372036854 := by
  have hlt := d.toInt_lt
  by_cases hd : 0 ≤ d.toInt
  · rw [milliseconds, toInt_div_of_nonneg _ hd]
    change _ / 1000000 ≤ _
    omega
  · rw [milliseconds, Int64.toInt_div_of_ne_right _ _ (by decide)]
    have hle : d.toInt.tdiv (1000000 : Int64).toInt ≤ 0 := by
      change d.toInt.tdiv 1000000 ≤ 0
      have := Int.neg_tdiv d.toInt 1000000
      have := Int.tdiv_nonneg (a := -d.toInt) (b := 1000000) (by omega) (by omega)
      omega
    omega

/-- Rolling in the time of the current phase makes no total smaller. -/
theorem Tracker.HasRoom.grows {t : Tracker} (h : t.HasRoom) (newPhase : Phase) (now : Time) :
    t.Grows (t.Record newPhase now) := by
  intro phase
  change (t.cumulative phase).toInt ≤ (t.Snapshot now phase).toInt
  rcases t.snapshot_cases now with hsame | ⟨current, hpos, hadds⟩
  · rw [hsame]
  rw [hadds]
  dsimp only
  split
  · have hroom := h phase
    have hle := milliseconds_le (now.Sub t.since)
    have hge := (t.cumulative phase).le_toInt
    rw [toInt_add_of_lt (by omega) (by omega)]
    omega
  · exact Int.le_refl _

theorem Tracker.HasRoom.grows_advance {t : Tracker} (h : t.HasRoom) (markers : Markers) :
    t.Grows (advancePhaseIfRunning t markers) := by
  unfold advancePhaseIfRunning
  split
  · split
    · exact h.grows _ _
    · exact .refl t
  · exact .refl t

/-- The first record of a tracker accrues nothing. -/
theorem Tracker.unspent_record_empty (phase : Phase) (now : Time) :
    (Tracker.empty.Record phase now).Unspent := fun _ => rfl

@[simp] theorem Phases.instances_set (p : Phases) (id k : String) (t : Tracker) :
    (p.set id t).instances k = if k = id then t else p.instances k := rfl

/-- The tracker of one instance is set, to a larger one if it is the instance looked at. -/
theorem Phases.grows_set {p : Phases} {id k : String} {t : Tracker}
    (h : k = id → (p.instances k).Grows t) :
    (p.instances k).Grows ((p.set id t).instances k) := by
  rw [instances_set]
  split
  next heq => exact h heq
  next => exact .refl _

/-- **One operation.** The totals of an instance that is there do not go down, if the operation does
not restore a snapshot with smaller ones. -/
theorem Phases.perform_grows {p : Phases} {r : Readings} {op : Op} {k : String} {guest : Guest}
    (hnamed : w.Named) (hk : w.guests.lookup k = some guest) (hroom : (p.instances k).HasRoom)
    (hrestores : ∀ x ∈ op.replaces w, (p.instances x.1).Grows (p.snapshots x.2)) :
    (p.instances k).Grows ((p.perform cfg w r op).instances k) := by
  have hrecord : ∀ id phase,
      (p.instances k).Grows ((p.set id ((p.instances id).Record phase r.now)).instances k) :=
    fun id phase => Phases.grows_set (by rintro rfl; exact hroom.grows _ _)
  -- the instance is not the one that is made, whose id is new
  have hnew : ∀ id ∈ op.creates, (Instances.perform cfg w op).1.isNone = true → ∀ t,
      (p.instances k).Grows ((p.set id t).instances k) := by
    intro id hid hdone t
    refine Phases.grows_set ?_
    rintro rfl
    exact absurd (hnamed k guest hk) (perform_creates hid hdone).1
  cases op with
  | createInstance id req host =>
    simp only [Phases.perform]
    split
    next hdone => exact hnew _ rfl hdone _
    next =>
    split
    next hnone =>
      refine Phases.grows_set fun heq => absurd heq ?_
      exact Table.ne_of_lookup hk (Option.isNone_iff_eq_none.mp hnone)
    next => exact .refl _
  | startInstance id _ | stopInstance id _ | standbyInstance id _ =>
    simp only [Phases.perform]
    split
    · exact hrecord id _
    · exact .refl _
  | restoreInstance id host =>
    simp only [Phases.perform]
    split
    · exact .refl _
    split
    · exact hrecord id _
    · exact .refl _
  | hydrateBootMarkers id programStarted guestAgentReady =>
    simp only [Phases.perform]
    split
    · split
      · refine Phases.grows_set ?_
        rintro rfl
        exact hroom.grows_advance _
      · exact .refl _
    · exact .refl _
  | copySnapshot id snapshotID kind copyErr =>
    simp only [Phases.perform]
    split <;> exact .refl _
  | replaceInstance id snapshotID outcome =>
    have hset
        (hop : Op.replaces w (.replaceInstance id snapshotID outcome) = some (id, snapshotID)) :
        (p.instances k).Grows ((p.set id (p.snapshots snapshotID)).instances k) :=
      Phases.grows_set (by rintro rfl; exact hrestores _ hop)
    simp only [Op.replaces] at hset
    simp only [Phases.perform]
    split
    next hrecord hguest =>
      rw [hrecord, hguest] at hset
      split
      next hfree =>
        cases outcome with
        | notCleared err gone => exact .refl _
        | notCopied err copied =>
          cases copied with
          | false => exact .refl _
          | true => exact hset (if_pos ⟨hfree.1, hfree.2, rfl⟩)
        | notSaved err => exact hset (if_pos ⟨hfree.1, hfree.2, rfl⟩)
        | done => exact hset (if_pos ⟨hfree.1, hfree.2, rfl⟩)
      next => exact .refl _
    next => exact .refl _
  | forkInstance id forkID name failed =>
    simp only [Phases.perform]
    split
    · exact .refl _
    split
    next hdone => exact hnew _ rfl hdone _
    next => exact .refl _
  | forkSnapshot snapshotID forkID name failed =>
    simp only [Phases.perform]
    split
    next hdone => exact hnew _ rfl hdone _
    next => exact .refl _
  | removeSnapshot _ _ | deleteInstance _ _ | deleteSnapshot _ | restartServer _ | deleteVolume _ _
  | vmmReports _ _ => exact .refl _

def Op.forks : Op → Option String
  | .forkInstance _ forkID _ _ => some forkID
  | .forkSnapshot _ forkID _ _ => some forkID
  | _ => none

/-- **A fork starts at zero**, if it is not one of a snapshot that has totals. -/
theorem Phases.perform_forks {p : Phases} {r : Readings} {op : Op} {forkID : String}
    (hdone : (Instances.perform cfg w op).1 = none) (hfork : forkID ∈ op.forks)
    (hunspent : ∀ snapshotID ∈ op.forksSnapshot, (p.snapshots snapshotID).Unspent) :
    ((p.perform cfg w r op).instances forkID).Unspent := by
  cases op with
  | forkInstance id forkID' name failed =>
    cases hfork
    obtain ⟨err, hsame⟩ | ⟨guest, hguest, -⟩ := forkInstance_spec w id _ name failed
    · rw [Instances.perform, hsame] at hdone
      cases hdone
    simp only [Phases.perform, hguest, hdone, Option.isNone_none, if_true, instances_set]
    exact Tracker.unspent_record_empty _ _
  | forkSnapshot snapshotID forkID' name failed =>
    cases hfork
    simp only [Phases.perform, hdone, Option.isNone_none, if_true, instances_set]
    exact hunspent snapshotID rfl
  | _ => cases hfork

/-! ## Runs -/

/-- The instance exists, its totals have room, and the step keeps the phases. -/
def Lives (id : String) (s : PhasedSession) (e : Event × Readings) : Prop :=
  s.exists id = true ∧ (s.phases.instances id).HasRoom ∧ KeepsPhases s e

instance (id : String) (s : PhasedSession) (e : Event × Readings) : Decidable (Lives id s e) :=
  inferInstanceAs (Decidable
    (s.exists id = true ∧ (s.phases.instances id).HasRoom ∧ KeepsPhases s e))

theorem phasedStep_world {s s' : PhasedSession} {e : Event × Readings}
    (h : phasedStep cfg s e = some s') : sessionStep cfg s.session e.1 = some s'.session ∧
      s'.phases = match s.session.op e.1 with
        | none => s.phases
        | some op => s.phases.perform cfg s.session.world e.2 op := by
  obtain ⟨session, hsession, rfl⟩ := Option.map_eq_some_iff.mp h
  exact ⟨hsession, rfl⟩

theorem phasedStep_named {s s' : PhasedSession} {e : Event × Readings}
    (hnamed : s.session.world.Named) (h : phasedStep cfg s e = some s') :
    s'.session.world.Named := by
  obtain ⟨hsession, -⟩ := phasedStep_world h
  rcases sessionStep_world hsession with ⟨-, hsame⟩ | ⟨op, -, hworld⟩
  · rw [hsame]
    exact hnamed
  · rw [hworld]
    exact (perform_populates cfg _ op).named hnamed

theorem phasedStep_grows {s s' : PhasedSession} {e : Event × Readings} {id : String}
    (hnamed : s.session.world.Named) (hok : Lives id s e) (h : phasedStep cfg s e = some s') :
    (s.phases.instances id).Grows (s'.phases.instances id) := by
  obtain ⟨hexists, hroom, hkeeps⟩ := hok
  obtain ⟨guest, hguest⟩ := Option.isSome_iff_exists.mp hexists
  obtain ⟨-, hphases⟩ := phasedStep_world h
  rw [hphases]
  split
  · exact .refl _
  next op hop => exact Phases.perform_grows hnamed hguest hroom (hkeeps op hop).1

variable {devices : Devices.DeviceTable} {volumes : Volumes.VolumeTable} {phases : Phases}

/-- **Accumulated phases only grow.** From any moment of any session on, the totals of an instance
do not go down as long as it exists, no snapshot with smaller totals is restored, and no total comes
near 2^63 milliseconds. A fork starts with nothing accumulated, unless it is one of a snapshot that
has totals. -/
theorem accumulated_phases_grow {s : PhasedSession}
    (hs : (phasedSessions cfg (emptyHost devices volumes) phases).Reachable System.Always s) :
    (∀ id s', (phasedSessions cfg (emptyHost devices volumes) phases).Run (Lives id) s s' →
        (s.phases.instances id).Grows (s'.phases.instances id)) ∧
      ∀ e s', KeepsPhases s e → phasedStep cfg s e = some s' → ∀ op ∈ s.session.op e.1,
        (perform cfg s.session.world op).1 = none → ∀ forkID ∈ op.forks,
          (s'.phases.instances forkID).Unspent := by
  have hnamed : s.session.world.Named := System.Reachable.invariant
    (I := fun s => s.session.world.Named) (named_emptyHost devices volumes)
    (fun _ _ _ hI _ hstep => phasedStep_named hI hstep) hs
  constructor
  · intro id s' hrun
    exact (System.Run.relates
      (R := fun s s' : PhasedSession => (s.phases.instances id).Grows (s'.phases.instances id))
      (fun _ => .refl _) (fun h h' => h.trans h')
      (fun _ _ _ hI hok hstep => ⟨phasedStep_named hI hstep, phasedStep_grows hI hok hstep⟩)
      hnamed hrun).2
  · intro e s' hkeeps hstep op hop hdone forkID hfork
    obtain ⟨-, hphases⟩ := phasedStep_world hstep
    rw [hphases, hop]
    exact Phases.perform_forks hdone hfork (hkeeps op hop).2

/-! ## A session -/

/-- Events that happen at this second, with boot markers of the same time. -/
def atTime (s : Fin 1000000) (es : List Event) : List (Event × Readings) :=
  es.map fun e => (e, ⟨atSecond s, atSecond s, atSecond s, atSecond s, true⟩)

/-- No instance has been in any phase. -/
def noPhases : Phases := ⟨fun _ => .empty, fun _ => .empty⟩

def plainSessions : System PhasedSession (Event × Readings) :=
  phasedSessions Network.exampleConfig (emptyHost ∅ ∅) noPhases

def successfulFork : ForkHost where
  guestAgentReady := true
  standby := .done none
  failed := none
  rotateErr := false
  restoreSource := quietRestore 9
  start := quietStart 9
  restore := quietRestore 9
  standbyFork := .done none
  stop := quietStop
  removeErr := none
  forkReady := true
  cleanup := quietDelete

/-- A call of `ForkInstance` on `a`, up to its first internal operation. -/
def forkFirst : List Event :=
  [.call (.ForkInstance "a" "b" "web-2" false none successfulFork), .proceed]

/-- A call of `ForkSnapshot`, up to its first internal operation. -/
def forkOfSnapshot : List Event :=
  [.call (.ForkSnapshot "s" "b" "web-2" (some .stopped) successfulFork), .proceed]

def ForksNext (s : PhasedSession) : Prop :=
  (s.session.op .proceed).any fun op =>
    op.forks = some "b" ∧ (perform Network.exampleConfig s.session.world op).1 = none

instance (s : PhasedSession) : Decidable (ForksNext s) :=
  inferInstanceAs (Decidable (Option.any _ _ = true))

theorem ForksNext.exists_op {s : PhasedSession} (h : ForksNext s) :
    ∃ op ∈ s.session.op .proceed, "b" ∈ op.forks ∧
      (perform Network.exampleConfig s.session.world op).1 = none := by
  obtain ⟨op, hop, hforks⟩ := (Option.any_eq_true ..).mp h
  exact ⟨op, hop, of_decide_eq_true hforks⟩

/-- Instance `a` boots at second 100 and is stopped at second 300: it has run for 200 seconds. Its
fork starts at zero. -/
theorem accumulated_phases_grow_stopped :
    ∃ s s₁ s₂ e s₃, plainSessions.Reachable System.Always s ∧
      plainSessions.Run (Lives "a") s s₁ ∧
      (s.phases.instances "a").cumulative .running = 0 ∧
      (s₁.phases.instances "a").cumulative .running = 200000 ∧
      (s.phases.instances "a").Grows (s₁.phases.instances "a") ∧
      phasedStep Network.exampleConfig s₂ e = some s₃ ∧ s₃.exists "b" = true ∧
      (s₃.phases.instances "b").Unspent := by
  obtain ⟨s, hs, hbefore, hafter⟩ := plainSessions.exists_reachable_of_replay System.Always
    (fun s => (s.phases.instances "a").cumulative .running = 0 ∧
      (plainSessions.replayFrom (Lives "a") s (atTime 300 stopFirst)).any (fun s =>
        decide ((s.phases.instances "a").cumulative .running = 200000)) = true)
    (atTime 100 bootFirst) (by decide +kernel)
  obtain ⟨s₁, hrun, hrunning⟩ := plainSessions.exists_run_of_replayFrom (Lives "a")
    (fun s => (s.phases.instances "a").cumulative .running = 200000) _ hafter
  obtain ⟨s₂, hs₂, hkeeps, hforks, hnext⟩ := plainSessions.exists_reachable_of_replay System.Always
    (fun s => KeepsPhases s (.proceed, (⟨atSecond 400, .zero, .zero, .zero, true⟩ : Readings)) ∧
      ForksNext s ∧ (phasedStep Network.exampleConfig s
        (.proceed, ⟨atSecond 400, .zero, .zero, .zero, true⟩)).any (·.exists "b") = true)
    (atTime 100 bootFirst ++ atTime 300 stopFirst ++ atTime 400 forkFirst) (by decide +kernel)
  obtain ⟨s₃, hstep, hexists⟩ := (Option.any_eq_true ..).mp hnext
  obtain ⟨op, hop, hfork, hdone⟩ := hforks.exists_op
  exact ⟨s, s₁, s₂, _, s₃, hs, hrun, hbefore, hrunning, (accumulated_phases_grow hs).1 "a" s₁ hrun,
    hstep, hexists, (accumulated_phases_grow hs₂).2 _ s₃ hkeeps hstep op hop hdone "b" hfork⟩

/-- A snapshot of `a` is taken at second 200. When it is restored at second 400, the running time up
to the stop at second 300 is gone; a fork of it starts with what `a` had at second 200. -/
theorem restored_and_forked_phases :
    (¬ ∀ s, plainSessions.Reachable System.Always s → ∀ id s',
      plainSessions.Run (fun s _ => s.exists id = true ∧ (s.phases.instances id).HasRoom) s s' →
        (s.phases.instances id).Grows (s'.phases.instances id)) ∧
    ¬ ∀ s, plainSessions.Reachable System.Always s → ∀ e s',
      phasedStep Network.exampleConfig s e = some s' → ∀ op ∈ s.session.op e.1,
        (perform Network.exampleConfig s.session.world op).1 = none → ∀ forkID ∈ op.forks,
          (s'.phases.instances forkID).Unspent := by
  constructor
  · intro hall
    obtain ⟨s, hs, hbefore, hafter⟩ := plainSessions.exists_reachable_of_replay System.Always
      (fun s => (s.phases.instances "a").cumulative .running = 200000 ∧
        (plainSessions.replayFrom
          (fun s _ => s.exists "a" = true ∧ (s.phases.instances "a").HasRoom) s
          (atTime 400 restoreFirst)).any (fun s =>
            decide ((s.phases.instances "a").cumulative .running = 100000)) = true)
      (atTime 100 bootFirst ++ atTime 200 snapshotFirst ++ atTime 300 stopFirst)
      (by decide +kernel)
    obtain ⟨s', hrun, hrunning⟩ := plainSessions.exists_run_of_replayFrom
      (fun s _ => s.exists "a" = true ∧ (s.phases.instances "a").HasRoom)
      (fun s => (s.phases.instances "a").cumulative .running = 100000) _ hafter
    have hgrows := hall s hs "a" s' hrun .running
    rw [hbefore, hrunning] at hgrows
    exact absurd hgrows (by decide)
  · intro hall
    obtain ⟨s, hs, hforks, hnext⟩ := plainSessions.exists_reachable_of_replay System.Always
      (fun s => ForksNext s ∧ (phasedStep Network.exampleConfig s
        (.proceed, ⟨atSecond 400, .zero, .zero, .zero, true⟩)).any (fun s =>
          decide ((s.phases.instances "b").cumulative .running = 100000)) = true)
      (atTime 100 bootFirst ++ atTime 200 snapshotFirst ++ atTime 400 forkOfSnapshot)
      (by decide +kernel)
    obtain ⟨s', hstep, hrunning⟩ := (Option.any_eq_true ..).mp hnext
    obtain ⟨op, hop, hfork, hdone⟩ := hforks.exists_op
    have hzero := hall s hs _ s' hstep op hop hdone "b" hfork .running
    rw [of_decide_eq_true hrunning] at hzero
    exact absurd hzero (by decide)

end Hypeman.Instances
