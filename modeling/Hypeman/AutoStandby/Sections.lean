import Hypeman.AutoStandby.Interleaving

/-!
# The sections of the controller under its lock

Everything that the event loop, the standby workers and `HoldStandby` do to the state of an instance
happens in a section under the lock of the controller. `Section.run` is the effect of one of them on
the entry of an instance in `states`, which a section may make or remove, with the write of the
runtime record that it stages.

* `Change`: what most sections do to a state. They keep the marks of a standby and the hold, and the
  connections, the idle time and the deadline change in one of four ways.
* `Outcome`, `Section.outcome`: what any section makes of the entry. Invariants of the controller
  are proved by cases on it.
-/

namespace Hypeman.AutoStandby

open Foundations

/-- The sections, with what they were given and the clock readings taken before the lock. -/
inductive Section (A : Type)
  /-- `refreshInstanceLocked`, for an instance event, a resync or a snapshot sync. -/
  | refresh (inst : Instance) (conns : List (Connection A)) (time : Int)
  /-- `removeStateLocked`, for a deleted instance. -/
  | removed
  /-- The round of the loop of `handleConnectionEvent` for the instance. -/
  | connection (event : ConnectionEvent A) (time : Int)
  | reconcile (listing : Except String (List (Connection A))) (time : Int)
  /-- The first section of `handleStandbyTimer`. -/
  | timer
  /-- The section of `confirmIdleBeforeStandby`. -/
  | confirm (listing : Except String (List (Connection A)))
  /-- The last section of `handleStandbyTimer`. -/
  | request
  /-- The section of `executeStandby` before the call of `StandbyInstance`. -/
  | claim
  /-- The section of `executeStandby` after the call. -/
  | returned (result : StandbyResult)
  /-- The deferred function of `executeStandby`. -/
  | release
  | hold (inst : Instance) (time : Int)
  /-- `stopAllTimers`. -/
  | stopTimers

variable {A : Type} [DecidableEq A] (lib : NetLib A) (reconcileDelay now : Int)

/-- The entry of the instance after a section that begins at `now`, and the staged write. -/
def Section.run (state : Option (ControllerState A)) :
    Section A → Option (ControllerState A) × Option RuntimePersistence
  | .refresh inst conns time =>
    match (state.getD {}).refresh lib reconcileDelay inst conns time with
    | (st, .ok staged) => (some st, staged)
    | (st, .error _) => (some st, none)
  | .removed => (none, none)
  | .connection event time =>
    match state with
    | none => (none, none)
    | some st => (st.handleConnectionEvent lib reconcileDelay event time).map some id
  | .reconcile listing time =>
    match state with
    | none => (none, none)
    | some st => (st.handleActiveReconcile lib reconcileDelay listing time).map some id
  | .timer => (state.map fun st => (st.timerFired now).1, none)
  | .confirm listing =>
    match state with
    | none => (none, none)
    | some st => (st.confirmIdle lib reconcileDelay listing now).map some (·.1)
  | .request => (state.map fun st => (st.requestStandby now).1, none)
  | .claim => (state.map fun st => st.claimStandby.1, none)
  | .returned result =>
    match state with
    | none => (none, none)
    | some st => st.standbyReturned result now
  | .release => (state.map fun st => { st with standbyExecuting := false }, none)
  | .hold inst time => ((HoldStandby lib state inst time).1, none)
  | .stopTimers => (state.map fun st => st.cancelTimer.cancelReconcile, none)

/-! ## What a section does -/

variable {lib reconcileDelay} {now : Int} {busy : Prop} {st b st' : ControllerState A}

/-- The deadline is as `armTimerLocked` leaves it: there is none without an idle time or an idle
timeout, and none before the end of a hold. -/
structure Armed (st : ControllerState A) : Prop where
  unarmed : st.idleSince = none → st.nextStandbyAt = none
  timeless : st.idleTimeout ≤ 0 → st.nextStandbyAt = none
  held : ∀ hold ∈ st.holdUntil, ∀ t ∈ st.nextStandbyAt, hold ≤ t

/-- What most sections keep of the state: the hold and the marks of a standby, of which a request
may be withdrawn. A policy may be set and is not lost. -/
structure Kept (st st' : ControllerState A) : Prop where
  hold : st'.holdUntil = st.holdUntil
  executing : st'.standbyExecuting = st.standbyExecuting
  requested : st'.standbyRequested = true → st.standbyRequested = true
  policy : st'.compiledPolicy = none →
    st.compiledPolicy = none ∧ st'.idleTimeout = st.idleTimeout

/-- How a section changes the connections, the idle time and the deadline. Connections that appear
beside an idle time come from a `busy` reconciliation. -/
inductive Timing (busy : Prop) (st st' : ControllerState A) : Prop
  | kept : (st'.activeInbound ≠ ∅ → st.activeInbound ≠ ∅ ∨ busy) → st'.idleSince = st.idleSince →
      st'.nextStandbyAt = st.nextStandbyAt → Timing busy st st'
  | rearmed : st'.activeInbound = st.activeInbound → st'.idleSince = st.idleSince → Armed st' →
      Timing busy st st'
  | counting : st'.activeInbound = ∅ → Armed st' → Timing busy st st'
  | found : st'.idleSince = none → st'.nextStandbyAt = none → Timing busy st st'

/-- What a section does that neither clears the state nor moves a standby along. -/
structure Change (busy : Prop) (st st' : ControllerState A) : Prop extends Kept st st' where
  timing : Timing busy st st'

section Parts

omit [DecidableEq A]

theorem armTimer_frame (st : ControllerState A) (now : Int) :
    ∃ next timer, st.armTimer now = { st with nextStandbyAt := next, timer := timer } := by
  unfold ControllerState.armTimer
  split
  · exact ⟨_, _, rfl⟩
  · split
    · exact ⟨_, _, rfl⟩
    · exact ⟨_, _, rfl⟩

theorem hold_frame (st : ControllerState A) (duration now : Int) :
    ∃ next timer, st.hold duration now = { st with
      holdUntil := some (now + duration), standbyRequested := false
      nextStandbyAt := next, timer := timer } := by
  unfold ControllerState.hold
  dsimp only
  split
  · exact armTimer_frame _ now
  · exact ⟨_, _, rfl⟩

theorem armed_cancelTimer (st : ControllerState A) : Armed st.cancelTimer :=
  ⟨fun _ => rfl, fun _ => rfl, fun _ _ _ ht => nomatch ht⟩

theorem armed_armTimer (st : ControllerState A) (now : Int) : Armed (st.armTimer now) := by
  unfold ControllerState.armTimer
  split
  · exact armed_cancelTimer st
  next idleSince hidle =>
  split
  · exact armed_cancelTimer st
  next hpositive =>
  refine ⟨fun hnone => absurd (hidle.symm.trans hnone) (Option.some_ne_none _),
    fun htimeout => absurd htimeout hpositive, ?_⟩
  intro hold hhold t ht
  have hhold : st.holdUntil = some hold := hhold
  have ht := Option.some.inj ht
  rw [hhold] at ht
  dsimp only at ht
  split at ht
  next => exact ht.le
  next hle =>
    rw [← ht]
    exact not_lt.mp hle

theorem Kept.refl (st : ControllerState A) : Kept st st := ⟨rfl, rfl, id, fun h => ⟨h, rfl⟩⟩

theorem Kept.armTimer (h : Kept st b) (now : Int) : Kept st (b.armTimer now) := by
  obtain ⟨next, timer, heq⟩ := armTimer_frame b now
  rw [heq]
  exact ⟨h.hold, h.executing, h.requested, h.policy⟩

theorem Change.refl (busy : Prop) (st : ControllerState A) : Change busy st st :=
  ⟨.refl st, .kept .inl rfl rfl⟩

/-- The timer is set again, with the connections and the idle time as they were. -/
theorem change_rearm (h : Kept st b) (hactive : b.activeInbound = st.activeInbound)
    (hidle : b.idleSince = st.idleSince) : Change busy st (b.armTimer now) := by
  obtain ⟨next, timer, heq⟩ := armTimer_frame b now
  refine ⟨h.armTimer now, .rearmed ?_ ?_ (armed_armTimer b now)⟩
  · rw [heq]
    exact hactive
  · rw [heq]
    exact hidle

/-- A countdown starts, where there are no connections. -/
theorem change_countdown (st b : ControllerState A) (h : Kept st b) (hempty : b.activeInbound = ∅) :
    Change busy st (b.armTimer now) := by
  obtain ⟨next, timer, heq⟩ := armTimer_frame b now
  refine ⟨h.armTimer now, .counting ?_ (armed_armTimer b now)⟩
  rw [heq]
  exact hempty

theorem Change.weaken {busy' : Prop} (h : Change busy st st') (himp : busy → busy') :
    Change busy' st st' := by
  refine ⟨h.toKept, ?_⟩
  cases h.timing with
  | kept hactive hidle hnext => exact .kept (fun hne => (hactive hne).imp_right himp) hidle hnext
  | rearmed hactive hidle harmed => exact .rearmed hactive hidle harmed
  | counting hempty harmed => exact .counting hempty harmed
  | found hidle hnext => exact .found hidle hnext

theorem Change.stage (h : Change busy st b) :
    Change busy st { b with runtimeRevision := b.runtimeRevision + 1 } := by
  refine ⟨⟨h.hold, h.executing, h.requested, h.policy⟩, ?_⟩
  cases h.timing with
  | kept hactive hidle hnext => exact .kept hactive hidle hnext
  | rearmed hactive hidle harmed =>
    exact .rearmed hactive hidle ⟨harmed.unarmed, harmed.timeless, harmed.held⟩
  | counting hempty harmed => exact .counting hempty ⟨harmed.unarmed, harmed.timeless, harmed.held⟩
  | found hidle hnext => exact .found hidle hnext

end Parts

theorem armReconcile_frame (st : ControllerState A) (reconcileDelay : Int) :
    ∃ timer, st.armReconcile reconcileDelay = { st with reconcileTimer := timer } := by
  unfold ControllerState.armReconcile
  split
  · exact ⟨_, rfl⟩
  · exact ⟨_, rfl⟩

/-- Connections are found, and the countdown is given up. -/
theorem change_found (st b : ControllerState A) (h : Kept st b) (hidle : b.idleSince = none) :
    Change busy st (b.cancelTimer.armReconcile reconcileDelay) := by
  obtain ⟨timer, heq⟩ := armReconcile_frame b.cancelTimer reconcileDelay
  rw [heq]
  exact ⟨⟨h.hold, h.executing, h.requested, h.policy⟩, .found hidle rfl⟩

/-- The connections are set and their reconciliation is started again; the rest stays. -/
theorem change_reconcileLater (st b : ControllerState A) (h : Kept st b)
    (hactive : b.activeInbound ≠ ∅ → st.activeInbound ≠ ∅ ∨ busy)
    (hidle : b.idleSince = st.idleSince) (hnext : b.nextStandbyAt = st.nextStandbyAt) :
    Change busy st (b.armReconcile reconcileDelay) := by
  obtain ⟨timer, heq⟩ := armReconcile_frame b reconcileDelay
  rw [heq]
  exact ⟨⟨h.hold, h.executing, h.requested, h.policy⟩, .kept hactive hidle hnext⟩

namespace ControllerState

omit [DecidableEq A] in
theorem change_refreshIdle (h : Kept st b) (hempty : b.activeInbound = ∅)
    (record : Option Runtime) : Change busy st (b.refreshIdle record now).1 := by
  have hcount : ∀ idle last revision, Change busy st (({ b with
      idleSince := idle, lastInboundAt := last, runtimeRevision := revision } :
        ControllerState A).armTimer now) :=
    fun _ _ _ => change_countdown st _ ⟨h.hold, h.executing, h.requested, h.policy⟩ hempty
  unfold refreshIdle
  split
  · split
    · exact hcount (some (b.idleSince.getD now)) b.lastInboundAt (b.runtimeRevision + 1)
    next recordedIdle _ _ => exact hcount (some recordedIdle) _ b.runtimeRevision
  · exact hcount (some now) _ (b.runtimeRevision + 1)

/-- A refresh changes the state like the other handlers, or clears it. -/
theorem change_refresh (st : ControllerState A) (inst : Instance) (conns : List (Connection A))
    (now : Int) : Change busy st (st.refresh lib reconcileDelay inst conns now).1 ∨
      st.standbyExecuting = false ∧ eligible inst = false ∧
        ∃ revision, (st.refresh lib reconcileDelay inst conns now).1 =
          { ({ st with inst := inst } : ControllerState A).clear with
            runtimeRevision := revision } := by
  have hspec := st.refreshed lib reconcileDelay inst conns now
  generalize (st.refresh lib reconcileDelay inst conns now).1 = st' at hspec ⊢
  cases hspec with
  | executing => exact .inl (.refl busy st)
  | ineligible revision hexec heligible => exact .inr ⟨hexec, heligible, revision, rfl⟩
  | uncompiled => exact .inl ⟨⟨rfl, rfl, id, fun h => ⟨h, rfl⟩⟩, .kept .inl rfl rfl⟩
  | unclassified => exact .inl ⟨⟨rfl, rfl, id, fun h => nomatch h⟩, .kept .inl rfl rfl⟩
  | idle compiled =>
    refine .inl (change_refreshIdle ?_ rfl _)
    exact ⟨rfl, rfl, fun h => (nomatch h), fun h => nomatch h⟩
  | active compiled activeSet =>
    exact .inl (Change.stage (change_found st { st.withPolicy inst compiled with
      standbyRequested := false, activeInbound := activeSet, idleSince := none
      lastInboundAt := _ } ⟨rfl, rfl, fun h => (nomatch h), fun h => nomatch h⟩ rfl))

theorem change_connectionClosed (st : ControllerState A) (key : ConnectionKey A) (time : Int) :
    Change busy st (st.connectionClosed reconcileDelay key time).1 := by
  unfold connectionClosed
  split
  · exact .refl busy st
  next hkey =>
  have hactive : st.activeInbound ≠ ∅ := Finset.ne_empty_of_mem (not_not.mp hkey)
  dsimp only
  split
  · exact change_reconcileLater st { st with activeInbound := st.activeInbound.erase key }
      ⟨rfl, rfl, id, fun h => ⟨h, rfl⟩⟩ (fun _ => .inl hactive) rfl rfl
  next hrest =>
    exact Change.stage (change_countdown st { st with
      activeInbound := st.activeInbound.erase key, idleSince := some time
      standbyRequested := false, reconcileTimer := none }
      ⟨rfl, rfl, fun h => (nomatch h), fun h => ⟨h, rfl⟩⟩ (not_not.mp hrest))

theorem change_connectionActive (st : ControllerState A) (key : ConnectionKey A) (time : Int) :
    Change busy st (st.connectionActive reconcileDelay key time).1 :=
  Change.stage (change_found st { st with
    activeInbound := insert key st.activeInbound, idleSince := none
    lastInboundAt := some time, standbyRequested := false }
    ⟨rfl, rfl, fun h => (nomatch h), fun h => ⟨h, rfl⟩⟩ rfl)

theorem change_handleConnectionEvent (st : ControllerState A) (event : ConnectionEvent A)
    (time : Int) : Change busy st (st.handleConnectionEvent lib reconcileDelay event time).1 := by
  unfold handleConnectionEvent
  split
  · exact .refl busy st
  dsimp only
  split
  · split
    · exact .refl busy st
    split
    · exact st.change_connectionClosed _ _
    · exact st.change_connectionActive _ _
  · exact st.change_connectionClosed _ _

theorem change_timerFired (st : ControllerState A) (now : Int) :
    Change busy st (st.timerFired now).1 := by
  unfold timerFired standbyDeadlineElapsed
  split
  · exact .refl busy st
  split
  · exact .refl busy st
  · exact change_rearm (.refl st) rfl rfl

theorem change_confirmIdle (st : ControllerState A)
    (listing : Except String (List (Connection A))) (now : Int) :
    Change busy st (st.confirmIdle lib reconcileDelay listing now).1 := by
  unfold confirmIdle
  split
  · exact .refl busy st
  split
  · exact .refl busy st
  next hempty =>
  split
  · exact Change.stage (change_countdown st { st with idleSince := some now }
      ⟨rfl, rfl, id, fun h => ⟨h, rfl⟩⟩ (not_not.mp hempty))
  next activeSet _ =>
  split
  · exact .refl busy st
  · exact Change.stage (change_found st { st with
      activeInbound := activeSet, idleSince := none, lastInboundAt := some now }
      ⟨rfl, rfl, id, fun h => ⟨h, rfl⟩⟩ rfl)

/-- A reconciliation is `busy` if its listing has connections of the instance. -/
theorem change_handleActiveReconcile (st : ControllerState A)
    (listing : Except String (List (Connection A))) (time : Int) :
    Change (∃ conns, listing = .ok conns ∧ Controller.lists lib st conns = true) st
      (st.handleActiveReconcile lib reconcileDelay listing time).1 := by
  have hagain : ∀ busy : Prop, Change busy st
      (if st.activeInbound ≠ ∅ then st.armReconcile reconcileDelay else st) := by
    intro busy
    split
    · exact change_reconcileLater st st (.refl st) .inl rfl rfl
    · exact .refl busy st
  unfold handleActiveReconcile
  dsimp only
  split
  · exact hagain _
  next conns =>
  split
  · exact .refl _ st
  next compiled hcompiled =>
  split
  · exact hagain _
  next activeSet hmatch =>
  split
  next hfound =>
    refine change_reconcileLater st
      { st with activeInbound := activeSet, standbyRequested := false }
      ⟨rfl, rfl, fun h => (nomatch h), fun h => ⟨h, rfl⟩⟩ (fun _ => .inr ?_) rfl rfl
    exact ⟨conns, rfl, (Controller.lists_iff hcompiled hmatch).mpr hfound⟩
  next hempty =>
    exact Change.stage (change_countdown st { st with
      activeInbound := activeSet, standbyRequested := false, idleSince := some time
      reconcileTimer := none }
      ⟨rfl, rfl, fun h => (nomatch h), fun h => ⟨h, rfl⟩⟩ (not_not.mp hempty))

/-- A standby is requested for a tracked instance past its deadline; otherwise at most the timer is
set again. -/
theorem requestStandby_cases (st : ControllerState A) (now : Int) :
    (st.requestStandby now = ({ st.cancelTimer with standbyRequested := true }, true) ∧
      st.compiledPolicy ≠ none ∧ st.standbyExecuting = false ∧ ∃ t ∈ st.nextStandbyAt, t ≤ now) ∨
    (st.requestStandby now).2 = false ∧ Change False st (st.requestStandby now).1 := by
  have hchange : Change False st (st.timerFired now).1 := st.change_timerFired now
  unfold requestStandby
  split
  next st' hfired =>
    obtain ⟨rfl, hpolicy, -, -, hexecuting, helapsed⟩ := of_timerFired hfired
    exact .inl ⟨rfl, hpolicy, hexecuting, helapsed⟩
  next st' hfired =>
    rw [hfired] at hchange
    exact .inr ⟨rfl, hchange⟩

/-- After a failed standby the countdown begins again. -/
theorem change_standbyReturned_error (st : ControllerState A) (now : Int) :
    ∃ st', (st.standbyReturned .error now).1 = some st' ∧ st'.standbyRequested = false ∧
      Change False st st' := by
  unfold standbyReturned
  dsimp only
  split
  · exact ⟨_, rfl, rfl, ⟨rfl, rfl, fun h => (nomatch h), fun h => ⟨h, rfl⟩⟩, .kept .inl rfl rfl⟩
  next hempty =>
    refine ⟨_, rfl, standbyRequested_armTimer _ now, Change.stage (change_countdown st { st with
      standbyRequested := false, idleSince := some now } ?_ ?_)⟩
    · exact ⟨rfl, rfl, fun h => (nomatch h), fun h => ⟨h, rfl⟩⟩
    · exact not_not.mp hempty

end ControllerState

/-! ## What a section makes of the entry -/

/-- A reconciliation whose listing has connections of the tracked instance. -/
def Section.finds (lib : NetLib A) (st : ControllerState A) : Section A → Prop
  | .reconcile (.ok conns) _ => Controller.lists lib st conns = true
  | _ => False

/-- The section removes or clears the state: for a deleted instance, for one that is not eligible
any more, or because it went to standby. -/
def Section.clears (state : Option (ControllerState A)) : Section A → Bool
  | .refresh inst _ _ => !state.any (·.standbyExecuting) && !eligible inst
  | .removed | .returned .notFound | .returned .ok => true
  | _ => false

/-- The section neither removes the state nor moves a standby along. -/
def Section.passive : Section A → Bool
  | .removed | .request | .claim | .returned _ | .release => false
  | _ => true

/-- Nothing is left but the mark of an executing standby. -/
structure Cleared (st st' : ControllerState A) : Prop where
  executing : st'.standbyExecuting = st.standbyExecuting
  requested : st'.standbyRequested = false
  policy : st'.compiledPolicy = none
  timeout : st'.idleTimeout = 0
  active : st'.activeInbound = ∅
  idle : st'.idleSince = none
  deadline : st'.nextStandbyAt = none
  hold : st'.holdUntil = none

/-- What a section that begins at `now` makes of the entry of an instance. -/
inductive Outcome (lib : NetLib A) (now : Int) (state : Option (ControllerState A)) :
    Section A → Option (ControllerState A) → Prop
  | absent (s : Section A) : state = none → Outcome lib now state s none
  | removed : Outcome lib now state .removed none
  | lost : Outcome lib now state (.returned .notFound) none
  | cleared (s : Section A) (st' : ControllerState A) : s.clears state = true →
      Cleared (state.getD {}) st' → Outcome lib now state s (some st')
  | changed (s : Section A) (st' : ControllerState A) :
      Change (s.finds lib (state.getD {})) (state.getD {}) st' → Outcome lib now state s (some st')
  | requested (st : ControllerState A) : state = some st → st.compiledPolicy ≠ none →
      st.standbyExecuting = false → (∃ t ∈ st.nextStandbyAt, t ≤ now) →
      Outcome lib now state .request (some { st.cancelTimer with standbyRequested := true })
  | claimed (st : ControllerState A) : state = some st → st.standbyRequested = true →
      st.standbyExecuting = false →
      Outcome lib now state .claim (some { st with standbyExecuting := true })
  | released (st : ControllerState A) : state = some st →
      Outcome lib now state .release (some { st with standbyExecuting := false })
  | held (inst : Instance) (time : Int) : state.any (·.standbyExecuting) = false →
      0 < holdDuration lib state inst → Outcome lib now state (.hold inst time)
        (some ((state.getD {}).hold (holdDuration lib state inst) time))

theorem Section.run_refresh (state : Option (ControllerState A)) (inst : Instance)
    (conns : List (Connection A)) (time : Int) :
    (run lib reconcileDelay now state (.refresh inst conns time)).1 =
      some ((state.getD {}).refresh lib reconcileDelay inst conns time).1 := by
  simp only [run]
  split
  next h => rw [h]
  next h => rw [h]

/-- **What a section makes of the entry.** -/
theorem Section.outcome (state : Option (ControllerState A)) (s : Section A) :
    Outcome lib now state s (s.run lib reconcileDelay now state).1 := by
  cases s with
  | refresh inst conns time =>
    rw [run_refresh]
    rcases (state.getD {}).change_refresh inst conns time with hchange | hcleared
    · exact .changed _ _ hchange
    · obtain ⟨hexecuting, heligible, revision, heq⟩ := hcleared
      rw [heq]
      refine .cleared _ _ ?_ ⟨rfl, rfl, rfl, rfl, rfl, rfl, rfl, rfl⟩
      cases state with
      | none => simp [clears, heligible]
      | some st => simpa [clears, heligible] using hexecuting
  | removed => exact .removed
  | connection event time =>
    cases state with
    | none => exact .absent _ rfl
    | some st => exact .changed _ _ (st.change_handleConnectionEvent event time)
  | reconcile listing time =>
    cases state with
    | none => exact .absent _ rfl
    | some st =>
      refine .changed _ _ ((st.change_handleActiveReconcile listing time).weaken ?_)
      rintro ⟨conns, rfl, hlists⟩
      exact hlists
  | timer =>
    cases state with
    | none => exact .absent _ rfl
    | some st => exact .changed _ _ (st.change_timerFired now)
  | confirm listing =>
    cases state with
    | none => exact .absent _ rfl
    | some st => exact .changed _ _ (st.change_confirmIdle listing now)
  | request =>
    cases state with
    | none => exact .absent _ rfl
    | some st =>
      rcases st.requestStandby_cases now with ⟨heq, hpolicy, hexecuting, helapsed⟩ | ⟨-, hchange⟩
      · simp only [run, Option.map_some, heq]
        exact .requested st rfl hpolicy hexecuting helapsed
      · exact .changed _ _ hchange
  | claim =>
    cases state with
    | none => exact .absent _ rfl
    | some st =>
      simp only [run, Option.map_some]
      rcases hclaim : st.claimStandby with ⟨st', claimed⟩
      cases claimed with
      | true =>
        obtain ⟨rfl, -, hrequested, hexecuting⟩ := ControllerState.of_claimStandby hclaim
        exact .claimed st rfl hrequested hexecuting
      | false =>
        refine .changed _ _ ?_
        rcases ControllerState.of_claimStandby_false hclaim with rfl | ⟨rfl, -⟩
        · exact ⟨⟨rfl, rfl, fun h => (nomatch h), fun h => ⟨h, rfl⟩⟩, .kept .inl rfl rfl⟩
        · exact .refl _ _
  | returned result =>
    cases state with
    | none => exact .absent _ rfl
    | some st =>
      cases result with
      | notFound => exact .lost
      | ok => exact .cleared _ _ rfl ⟨rfl, rfl, rfl, rfl, rfl, rfl, rfl, rfl⟩
      | error =>
        obtain ⟨st', heq, -, hchange⟩ := st.change_standbyReturned_error now
        simp only [run, heq]
        exact .changed _ _ hchange
  | release =>
    cases state with
    | none => exact .absent _ rfl
    | some st => exact .released st rfl
  | hold inst time =>
    simp only [run]
    rcases HoldStandby_cases lib state inst time with ⟨-, heq | heq⟩ | ⟨-, hexecuting, hpos, heq⟩
    · rw [heq]
      cases state with
      | none => exact .absent _ rfl
      | some st => exact .changed _ _ (.refl _ _)
    · rw [heq]
      exact .changed _ _ (.refl _ _)
    · rw [heq]
      exact .held inst time hexecuting hpos
  | stopTimers =>
    cases state with
    | none => exact .absent _ rfl
    | some st =>
      refine .changed _ _ ⟨⟨rfl, rfl, id, fun h => ⟨h, rfl⟩⟩, .rearmed rfl rfl ?_⟩
      exact ⟨fun _ => rfl, fun _ => rfl, fun _ _ _ ht => nomatch ht⟩

end Hypeman.AutoStandby
