import Hypeman.AutoStandby.Connections

/-!
# The state of one instance in the auto-standby controller

`controllerState` of `lib/autostandby/controller.go` and the sections of the controller's handlers
that run under its lock, for one instance. A section returns the new state and the write of the
runtime record that it stages. Timers are kept as the delay they were started with: whether one
fires is left to the runs.
-/

namespace Hypeman.AutoStandby

open Foundations

/-- The zero value of `Instance`, which no section reads. -/
def Instance.zero : Instance := ⟨"", "", .unknown, false, "", false, none, none⟩

/-- `controllerState`; the zero `holdUntil` is `none`, and the `uint64` `runtimeRevision` is taken
not to wrap around. -/
structure ControllerState (A : Type) where
  runtimeRevision : Nat := 0
  inst : Instance := Instance.zero
  compiledPolicy : Option CompiledPolicy := none
  activeInbound : Finset (ConnectionKey A) := ∅
  idleTimeout : Int := 0
  idleSince : Option Int := none
  lastInboundAt : Option Int := none
  nextStandbyAt : Option Int := none
  holdUntil : Option Int := none
  timer : Option Int := none
  reconcileTimer : Option Int := none
  standbyRequested : Bool := false
  standbyExecuting : Bool := false
deriving DecidableEq

/-- `runtimePersistence`: a write of the runtime record that is to be made if no later one is staged
before. -/
structure RuntimePersistence where
  revision : Nat
  runtime : Option Runtime
  bestEffort : Bool
  operation : String
deriving DecidableEq, Repr

inductive ConnectionEventType
  | new
  | destroy
deriving DecidableEq, Repr

/-- `ConnectionEvent`; the zero `ObservedAt` is `none`. -/
structure ConnectionEvent (A : Type) where
  type : ConnectionEventType
  connection : Connection A
  observedAt : Option Int
deriving DecidableEq, Repr

/-- How `StandbyInstance` returns. -/
inductive StandbyResult
  | ok
  | notFound
  | error
deriving DecidableEq, Repr

variable {A : Type} [DecidableEq A] (lib : NetLib A) (reconcileDelay : Int)

namespace ControllerState

variable (st : ControllerState A)

/-! ## Timers and staged writes -/

/-- `cancelTimerLocked`. -/
def cancelTimer : ControllerState A := { st with timer := none, nextStandbyAt := none }

/-- `armTimerLocked`. -/
def armTimer (now : Int) : ControllerState A :=
  match st.idleSince with
  | none => st.cancelTimer
  | some idleSince =>
    if st.idleTimeout ≤ 0 then st.cancelTimer
    else
      let deadline := idleSince + st.idleTimeout
      let deadline := match st.holdUntil with
        | some hold => if deadline < hold then hold else deadline
        | none => deadline
      { st with nextStandbyAt := some deadline, timer := some (max 0 (deadline - now)) }

omit [DecidableEq A] in
@[simp] theorem standbyRequested_armTimer (now : Int) :
    (st.armTimer now).standbyRequested = st.standbyRequested := by
  unfold armTimer
  split
  · rfl
  · split <;> rfl

/-- `cancelReconcileLocked`. -/
def cancelReconcile : ControllerState A := { st with reconcileTimer := none }

/-- `armReconcileLocked`. -/
def armReconcile : ControllerState A :=
  if st.activeInbound = ∅ ∨ reconcileDelay ≤ 0 then st.cancelReconcile
  else { st with reconcileTimer := some reconcileDelay }

/-- `clearStateLocked`. -/
def clear : ControllerState A :=
  { st with
    compiledPolicy := none, activeInbound := ∅, idleTimeout := 0, idleSince := none,
    lastInboundAt := none, nextStandbyAt := none, holdUntil := none, standbyRequested := false,
    timer := none, reconcileTimer := none }

/-- `stageRuntimePersistenceLocked`. -/
def stage (runtime : Option Runtime) (bestEffort : Bool) (operation : String) :
    ControllerState A × Option RuntimePersistence :=
  ({ st with runtimeRevision := st.runtimeRevision + 1 },
    some ⟨st.runtimeRevision + 1, runtime, bestEffort, operation⟩)

/-- The runtime record that the state amounts to. -/
def runtime : Runtime := ⟨st.idleSince, st.lastInboundAt⟩

/-! ## Refreshes -/

/-- The activity time after a refresh that finds connections: the recorded one if it is later than
the controller's, and the time of the refresh only if there is none at all. -/
def refreshedActivity (last recorded : Option Int) (now : Int) : Option Int :=
  match recorded, last with
  | some r, none => some r
  | some r, some l => if l < r then some r else some l
  | none, none => some now
  | none, some l => some l

/-- The end of `refreshInstanceLocked` when connections match. -/
def refreshActive (record : Option Runtime) (now : Int) :
    ControllerState A × Option RuntimePersistence :=
  let st := { st with
    idleSince := none
    lastInboundAt :=
      refreshedActivity st.lastInboundAt (record.bind (·.lastInboundActivityAt)) now }
  (st.cancelTimer.armReconcile reconcileDelay).stage (some ⟨none, st.lastInboundAt⟩) false
    "refresh active instance"

/-- The test of `refreshInstanceLocked` for a record that is older than what the controller knows:
the idle countdown began later, or it has not begun and activity was seen no earlier. -/
def staleRecord (recordedIdle : Int) : Bool :=
  match st.idleSince with
  | some idleSince => recordedIdle < idleSince
  | none => st.lastInboundAt.any (recordedIdle ≤ ·)

/-- The end of `refreshInstanceLocked` when no connection matches. -/
def refreshIdle (record : Option Runtime) (now : Int) :
    ControllerState A × Option RuntimePersistence :=
  let recordedActivity := record.bind (·.lastInboundActivityAt)
  match record.bind (·.idleSince) with
  | some recordedIdle =>
    if st.staleRecord recordedIdle then
      let st := { st with idleSince := some (st.idleSince.getD now) }
      let (st, staged) := st.stage (some st.runtime) true "repair stale refresh"
      (st.armTimer now, staged)
    else
      let st := { st with idleSince := some recordedIdle, lastInboundAt := recordedActivity }
      (st.armTimer now, none)
  | none =>
    let st := { st with idleSince := some now, lastInboundAt := recordedActivity }
    let (st, staged) := st.stage (some st.runtime) true "refresh idle instance"
    (st.armTimer now, staged)

/-- The state takes over a record of the instance and its compiled policy. -/
def withPolicy (inst : Instance) (compiled : CompiledPolicy) : ControllerState A :=
  { st with inst := inst, compiledPolicy := some compiled, idleTimeout := compiled.idleTimeout }

/-- `refreshInstanceLocked`, on the state of the instance. The branch of a policy compiled to
nothing is not taken (`compilePolicy_ne_none`). -/
def refresh (inst : Instance) (conns : List (Connection A)) (now : Int) :
    ControllerState A × Except String (Option RuntimePersistence) :=
  if st.standbyExecuting then (st, .ok none)
  else if !eligible inst then
    let cleared := { st with inst := inst }.clear
    if inst.runtime ≠ none ∨ st.idleSince ≠ none ∨ st.lastInboundAt ≠ none then
      let (st, staged) := cleared.stage none false "refresh disabled instance"
      (st, .ok staged)
    else (cleared, .ok none)
  else match compilePolicy lib inst.autoStandby with
    | .error err => ({ st with inst := inst }, .error err)
    | .ok none => ({ st with inst := inst }, .ok none)
    | .ok (some compiled) =>
      let st := st.withPolicy inst compiled
      match matchingConnections lib inst compiled conns with
      | .error err => (st, .error err)
      | .ok activeSet =>
        let st := { st with standbyRequested := false, activeInbound := activeSet }
        let (st, staged) :=
          if activeSet = ∅ then st.refreshIdle inst.runtime now
          else st.refreshActive reconcileDelay inst.runtime now
        (st, .ok staged)

/-- What a refresh with a record, a listing and a clock reading does to the state. -/
inductive Refreshed (inst : Instance) (conns : List (Connection A)) (now : Int) :
    ControllerState A → Prop
  | executing : st.standbyExecuting = true → Refreshed inst conns now st
  | ineligible (revision : Nat) : st.standbyExecuting = false → eligible inst = false →
      Refreshed inst conns now
        { ({ st with inst := inst } : ControllerState A).clear with runtimeRevision := revision }
  | uncompiled : st.standbyExecuting = false → eligible inst = true →
      (∀ compiled, compilePolicy lib inst.autoStandby ≠ .ok (some compiled)) →
      Refreshed inst conns now { st with inst := inst }
  | unclassified (compiled : CompiledPolicy) (err : String) : st.standbyExecuting = false →
      eligible inst = true → compilePolicy lib inst.autoStandby = .ok (some compiled) →
      matchingConnections lib inst compiled conns = .error err →
      Refreshed inst conns now (st.withPolicy inst compiled)
  | idle (compiled : CompiledPolicy) : st.standbyExecuting = false → eligible inst = true →
      compilePolicy lib inst.autoStandby = .ok (some compiled) →
      matchingConnections lib inst compiled conns = .ok ∅ →
      Refreshed inst conns now
        (({ st.withPolicy inst compiled with
            standbyRequested := false, activeInbound := ∅ } : ControllerState A).refreshIdle
          inst.runtime now).1
  | active (compiled : CompiledPolicy) (activeSet : Finset (ConnectionKey A)) :
      st.standbyExecuting = false → eligible inst = true →
      compilePolicy lib inst.autoStandby = .ok (some compiled) →
      matchingConnections lib inst compiled conns = .ok activeSet → activeSet ≠ ∅ →
      Refreshed inst conns now
        (({ st.withPolicy inst compiled with
            standbyRequested := false,
            activeInbound := activeSet } : ControllerState A).refreshActive
          reconcileDelay inst.runtime now).1

theorem refreshed (inst : Instance) (conns : List (Connection A)) (now : Int) :
    st.Refreshed lib reconcileDelay inst conns now
      (st.refresh lib reconcileDelay inst conns now).1 := by
  unfold refresh
  split
  next h => exact .executing h
  next h =>
  have hexec : st.standbyExecuting = false := Bool.eq_false_of_not_eq_true h
  split
  next h =>
    have heligible : eligible inst = false := by simpa using h
    split
    · exact .ineligible (st.runtimeRevision + 1) hexec heligible
    · exact .ineligible st.runtimeRevision hexec heligible
  next h =>
  have heligible : eligible inst = true := by simpa using h
  split
  next err h => exact .uncompiled hexec heligible (by simp [h])
  next h => exact .uncompiled hexec heligible (by simp [h])
  next compiled hcompile =>
  split
  next err hmatch => exact .unclassified compiled err hexec heligible hcompile hmatch
  next activeSet hmatch =>
  by_cases hempty : activeSet = ∅
  · subst hempty
    exact .idle compiled hexec heligible hcompile hmatch
  · simp only [hempty, if_false]
    exact .active compiled activeSet hexec heligible hcompile hmatch hempty

/-! ## Connection events -/

/-- The end of a tracked connection, reported by an event of either type. -/
def connectionClosed (key : ConnectionKey A) (observedAt : Int) :
    ControllerState A × Option RuntimePersistence :=
  if key ∉ st.activeInbound then (st, none)
  else
    let st := { st with activeInbound := st.activeInbound.erase key }
    if st.activeInbound ≠ ∅ then (st.armReconcile reconcileDelay, none)
    else
      let st := { st with idleSince := some observedAt, standbyRequested := false }
      (st.cancelReconcile.armTimer observedAt).stage (some st.runtime) true "start idle countdown"

/-- An active connection reported by an event. -/
def connectionActive (key : ConnectionKey A) (observedAt : Int) :
    ControllerState A × Option RuntimePersistence :=
  let st := { st with
    activeInbound := insert key st.activeInbound, idleSince := none
    lastInboundAt := some observedAt, standbyRequested := false }
  (st.cancelTimer.armReconcile reconcileDelay).stage (some ⟨none, st.lastInboundAt⟩) true
    "record inbound activity"

/-- The body of the loop of `handleConnectionEvent`; an event without a time is observed `now`. -/
def handleConnectionEvent (event : ConnectionEvent A) (now : Int) :
    ControllerState A × Option RuntimePersistence :=
  match st.compiledPolicy with
  | none => (st, none)
  | some policy =>
    let observedAt := event.observedAt.getD now
    let key := connectionKey event.connection
    match event.type with
    | .new =>
      if !matchesInboundConnectionForEvent lib st.inst policy event.connection then (st, none)
      else if !event.connection.tcpState.Active then
        st.connectionClosed reconcileDelay key observedAt
      else st.connectionActive reconcileDelay key observedAt
    | .destroy => st.connectionClosed reconcileDelay key observedAt

/-! ## The standby timer -/

/-- The test that `handleStandbyTimer` makes under the lock, twice. -/
def timerMayProceed : Bool :=
  st.compiledPolicy.isSome && st.activeInbound = ∅ && !st.standbyRequested && !st.standbyExecuting

/-- The deadline test of `standbyDeadlineElapsedLocked`. -/
def deadlineElapsed (now : Int) : Bool := st.nextStandbyAt.any (· ≤ now)

theorem timerMayProceed_iff : st.timerMayProceed = true ↔
    st.compiledPolicy ≠ none ∧ st.activeInbound = ∅ ∧ st.standbyRequested = false ∧
      st.standbyExecuting = false := by
  simp [timerMayProceed, and_assoc, Option.isSome_iff_ne_none]

omit [DecidableEq A] in
theorem deadlineElapsed_iff {now : Int} :
    st.deadlineElapsed now = true ↔ ∃ t ∈ st.nextStandbyAt, t ≤ now := by
  cases h : st.nextStandbyAt <;> simp [deadlineElapsed, h]

/-- `standbyDeadlineElapsedLocked`. -/
def standbyDeadlineElapsed (now : Int) : ControllerState A × Bool :=
  if st.deadlineElapsed now then (st, true) else (st.armTimer now, false)

/-- The first section of `handleStandbyTimer`, with whether it goes on. -/
def timerFired (now : Int) : ControllerState A × Bool :=
  if !st.timerMayProceed then (st, false) else st.standbyDeadlineElapsed now

/-- The section of `confirmIdleBeforeStandby` under the lock, with whether the instance is idle;
`listing` is what `ListConnections` returned. -/
def confirmIdle (listing : Except String (List (Connection A))) (now : Int) :
    ControllerState A × Option RuntimePersistence × Bool :=
  match st.compiledPolicy with
  | none => (st, none, false)
  | some compiled =>
    if st.activeInbound ≠ ∅ then (st, none, false)
    else match listing.bind (matchingConnections lib st.inst compiled) with
      | .error _ =>
        let st := { st with idleSince := some now }
        let (st, staged) :=
          (st.armTimer now).stage (some st.runtime) true "recover from unconfirmed standby"
        (st, staged, false)
      | .ok activeSet =>
        if activeSet = ∅ then (st, none, true)
        else
          let st := { st with
            activeInbound := activeSet, idleSince := none, lastInboundAt := some now }
          let (st, staged) := (st.cancelTimer.armReconcile reconcileDelay).stage
            (some ⟨none, st.lastInboundAt⟩) true "record standby confirmation activity"
          (st, staged, false)

/-- The last section of `handleStandbyTimer`, with whether it starts a worker. -/
def requestStandby (now : Int) : ControllerState A × Bool :=
  match st.timerFired now with
  | (st, true) => ({ st.cancelTimer with standbyRequested := true }, true)
  | (st, false) => (st, false)

/-! ## Workers -/

/-- The section of `executeStandby` before the call of `StandbyInstance`, with whether the call is
made. -/
def claimStandby : ControllerState A × Bool :=
  if st.compiledPolicy = none ∨ st.activeInbound ≠ ∅ ∨ st.standbyRequested = false ∨
      st.standbyExecuting = true then
    if st.activeInbound ≠ ∅ then ({ st with standbyRequested := false }, false) else (st, false)
  else ({ st with standbyExecuting := true }, true)

/-- The section of `executeStandby` after the call of `StandbyInstance`; `none` when the state is
removed. -/
def standbyReturned (result : StandbyResult) (now : Int) :
    Option (ControllerState A) × Option RuntimePersistence :=
  match result with
  | .notFound => (none, none)
  | .error =>
    let st := { st with standbyRequested := false }
    if st.activeInbound ≠ ∅ then (some st, none)
    else
      let st := { st with idleSince := some now }
      let (st, staged) :=
        (st.armTimer now).stage (some st.runtime) true "recover from standby failure"
      (some st, staged)
  | .ok =>
    let (st, staged) := st.clear.stage none true "clear after standby"
    (some st, staged)

/-! ## Reconciliation and holds -/

/-- `handleActiveReconcile`; `listing` is what `ListConnections` returned, and `now` was read before
the lock was taken. -/
def handleActiveReconcile (listing : Except String (List (Connection A))) (now : Int) :
    ControllerState A × Option RuntimePersistence :=
  let again := if st.activeInbound ≠ ∅ then st.armReconcile reconcileDelay else st
  match listing with
  | .error _ => (again, none)
  | .ok conns =>
    match st.compiledPolicy with
    | none => (st, none)
    | some compiled =>
      match matchingConnections lib st.inst compiled conns with
      | .error _ => (again, none)
      | .ok activeSet =>
        let st := { st with activeInbound := activeSet, standbyRequested := false }
        if activeSet ≠ ∅ then (st.armReconcile reconcileDelay, none)
        else
          let st := { st with idleSince := some now }
          (st.cancelReconcile.armTimer now).stage (some st.runtime) true
            "start idle countdown after reconcile"

/-- The effect of a hold on a state that allows it. -/
def hold (idleTimeout now : Int) : ControllerState A :=
  let st := { st with holdUntil := some (now + idleTimeout), standbyRequested := false }
  if st.compiledPolicy.isSome then st.armTimer now else st

/-! ## What the tests of a standby say -/

variable {st} {st' : ControllerState A} {now : Int}

/-- The timer goes on only for a tracked instance without connections, with no standby under way and
past its deadline, and leaves the state. -/
theorem of_timerFired (h : st.timerFired now = (st', true)) :
    st' = st ∧ st.compiledPolicy ≠ none ∧ st.activeInbound = ∅ ∧ st.standbyRequested = false ∧
      st.standbyExecuting = false ∧ ∃ t ∈ st.nextStandbyAt, t ≤ now := by
  unfold timerFired at h
  split at h
  · cases h
  next hproceed =>
  obtain ⟨hpolicy, hactive, hrequested, hexecuting⟩ :=
    st.timerMayProceed_iff.mp (by simpa using hproceed)
  unfold standbyDeadlineElapsed at h
  split at h
  next helapsed =>
    cases h
    exact ⟨rfl, hpolicy, hactive, hrequested, hexecuting, st.deadlineElapsed_iff.mp helapsed⟩
  next => cases h

/-- A worker goes on to the call only for a requested standby that no other worker executes, and
marks it. -/
theorem of_claimStandby (h : st.claimStandby = (st', true)) :
    st' = { st with standbyExecuting := true } ∧ st.compiledPolicy ≠ none ∧
      st.standbyRequested = true ∧ st.standbyExecuting = false := by
  unfold claimStandby at h
  split at h
  · split at h <;> cases h
  next hproceed =>
    cases h
    simp only [not_or, Bool.not_eq_false, Bool.not_eq_true] at hproceed
    exact ⟨rfl, hproceed.1, hproceed.2.2.1, hproceed.2.2.2⟩

/-- A worker that does not go on withdraws the request of an active instance, or there was none, or
another worker executes it. -/
theorem of_claimStandby_false (h : st.claimStandby = (st', false)) :
    st' = { st with standbyRequested := false } ∨
      st' = st ∧ (st.compiledPolicy = none ∨ st.standbyRequested = false ∨
        st.standbyExecuting = true) := by
  unfold claimStandby at h
  split at h
  next hstop =>
    split at h
    · cases h
      exact .inl rfl
    next hempty =>
      cases h
      refine .inr ⟨rfl, ?_⟩
      rcases hstop with hpolicy | hactive | hstop
      · exact .inl hpolicy
      · exact absurd hactive hempty
      · exact .inr hstop
  next => cases h

end ControllerState

/-- How `HoldStandby` returns. -/
inductive HoldResult
  | held
  | noOp
  | standbyInProgress
  | invalid (err : String)
deriving DecidableEq, Repr

/-- `HoldStandby`, on the state of the instance if there is one. The duration of the hold is the
idle timeout of the state, or of the policy of an instance that is not tracked yet. -/
def HoldStandby (state : Option (ControllerState A)) (inst : Instance) (now : Int) :
    Option (ControllerState A) × HoldResult :=
  if state.any (·.standbyExecuting) then (state, .standbyInProgress)
  else match state.filter (·.compiledPolicy.isSome) with
    | some st =>
      if st.idleTimeout ≤ 0 then (state, .noOp) else (some (st.hold st.idleTimeout now), .held)
    | none =>
      if !eligible inst then (state, .noOp)
      else match compilePolicy lib inst.autoStandby with
        | .error err => (state, .invalid err)
        | .ok none => (state, .noOp)
        | .ok (some compiled) =>
          -- the bare state is made before the timeout is tested
          let st := state.getD {}
          if compiled.idleTimeout ≤ 0 then (some st, .noOp)
          else (some (st.hold compiled.idleTimeout now), .held)

/-- The duration that a hold has: the idle timeout of the state, or of the policy of an instance
that is not tracked yet; zero if there is no policy. -/
def holdDuration (state : Option (ControllerState A)) (inst : Instance) : Int :=
  match state.filter (·.compiledPolicy.isSome), compilePolicy lib inst.autoStandby with
  | some st, _ => st.idleTimeout
  | none, .ok (some compiled) => compiled.idleTimeout
  | none, _ => 0

omit [DecidableEq A] in
/-- `HoldStandby` holds a state that is not executing, for a positive time; otherwise it leaves the
entry, or makes a bare one. -/
theorem HoldStandby_cases (state : Option (ControllerState A)) (inst : Instance) (now : Int) :
    ((HoldStandby lib state inst now).2 ≠ .held ∧
      ((HoldStandby lib state inst now).1 = state ∨
        (HoldStandby lib state inst now).1 = some (state.getD {}))) ∨
    ((HoldStandby lib state inst now).2 = .held ∧ state.any (·.standbyExecuting) = false ∧
      0 < holdDuration lib state inst ∧ (HoldStandby lib state inst now).1 =
        some ((state.getD {}).hold (holdDuration lib state inst) now)) := by
  unfold HoldStandby holdDuration
  split
  · exact .inl ⟨nofun, .inl rfl⟩
  next hexecuting =>
  have hexecuting : state.any (·.standbyExecuting) = false :=
    Bool.eq_false_of_not_eq_true hexecuting
  split
  next st hst =>
    rw [hst]
    have hst : state = some st := (Option.filter_eq_some_iff.mp hst).1
    split
    · exact .inl ⟨nofun, .inl rfl⟩
    next hpositive =>
      subst hst
      exact .inr ⟨rfl, hexecuting, not_le.mp hpositive, rfl⟩
  next hnone =>
  rw [hnone]
  split
  · exact .inl ⟨nofun, .inl rfl⟩
  split
  next h => exact .inl ⟨nofun, .inl rfl⟩
  next h => exact .inl ⟨nofun, .inl rfl⟩
  next compiled hcompiled =>
    rw [hcompiled]
    split
    · exact .inl ⟨nofun, .inr rfl⟩
    next hpositive => exact .inr ⟨rfl, hexecuting, not_le.mp hpositive, rfl⟩

end Hypeman.AutoStandby
