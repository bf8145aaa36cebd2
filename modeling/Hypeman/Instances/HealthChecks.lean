import Mathlib.Data.Finset.Basic
import Hypeman.Foundations.System
import Hypeman.Instances.Policies
import Hypeman.Instances.State

/-!
# Health checks and registrations

Model of `lib/healthcheck/status.go` and `lib/instances/health_check_controller.go`. The controller
registers an instance when a sync finds it eligible and forgets it when it is removed; a timer of
the registration starts a check, which reads the registration, probes the guest without any lock,
and records the result if the registration still has the generation the timer was made for. All of
this runs side by side: the sections under `c.mu` and under the persistence lock of an instance are
the steps. Delays are left out, a timer fires at any time after it was set; a timer that is stopped
may have fired already.

A registration is the state struct that a sync puts into the map. A new one counts its generations
from the start again, so that a check that began under an earlier registration passes for one of the
new one.

* `results_stay_in_registration`: if no check of an instance is under way when it is registered
  anew, a result is recorded and acted on only while the registration it was probed under is
  current.
* `result_under_later_registration`: a run that breaks it.
-/

namespace Hypeman.HealthCheck

/-- `Status`; `unset` is the empty text. -/
inductive Status
  | unset
  | starting
  | healthy
  | unhealthy
deriving DecidableEq, Repr

/-- `Runtime`; times in nanoseconds. -/
structure Runtime where
  status : Status
  startedAt : Option Int
  consecutiveSuccesses : Int
  consecutiveFailures : Int
  lastCheckedAt : Option Int
  lastSuccessAt : Option Int
  lastFailureAt : Option Int
  lastError : String
deriving DecidableEq, Repr

/-- `Instance`, without what only the probe itself reads. -/
structure Target where
  startedAt : Option Int
  guestAgentReady : Bool
  runtime : Option Runtime
deriving DecidableEq, Repr

structure ProbeResult where
  success : Bool
  error : String
deriving DecidableEq, Repr

variable (lib : StdLib)

def parseDurationOrDefault (value : String) (fallback : Int) : Except String Int :=
  if value = "" then .ok fallback else lib.parseDuration value

/-- `DurationConfig` of a policy: the interval, the timeout and the start period. -/
def DurationConfig (policy : Policy) : Except String (Int × Int × Int) := do
  let interval ← parseDurationOrDefault lib policy.interval 10000000000
  let timeout ← parseDurationOrDefault lib policy.timeout 2000000000
  let startPeriod ← parseDurationOrDefault lib policy.startPeriod 30000000000
  return (interval, timeout, startPeriod)

/-- The characters of a text up to the last one that begins at byte `limit` or before. -/
def truncateAt (limit : Nat) : Nat → List Char → List Char
  | _, [] => []
  | i, c :: cs => if i + c.utf8Size ≤ limit then c :: truncateAt limit (i + c.utf8Size) cs else []

def truncateLastError (value : String) : String :=
  if value.utf8ByteSize ≤ 512 then value else String.ofList (truncateAt 512 0 value.toList)

def ApplyProbeResult (policy : Policy) (inst : Target) (previous : Option Runtime) (now : Int)
    (result : ProbeResult) : Runtime :=
  let runtime := previous.getD ⟨.unset, none, 0, 0, none, none, none, ""⟩
  let startedAt := runtime.startedAt.getD (inst.startedAt.getD now)
  let runtime := { runtime with startedAt := some startedAt, lastCheckedAt := some now }
  let startPeriod := match DurationConfig lib policy with
    | .ok (_, _, startPeriod) => startPeriod
    | .error _ => 30000000000
  let inStartPeriod := now - startedAt < startPeriod
  let begun := if runtime.status = .unset then .starting else runtime.status
  if result.success then
    let successThreshold := if policy.successThreshold = 0 then 1 else policy.successThreshold
    let successes := runtime.consecutiveSuccesses + 1
    { runtime with
      consecutiveSuccesses := successes
      consecutiveFailures := 0
      lastSuccessAt := some now
      lastError := ""
      status := if successThreshold ≤ successes then .healthy else begun }
  else
    let failureThreshold := if policy.failureThreshold = 0 then 3 else policy.failureThreshold
    let failures := runtime.consecutiveFailures + 1
    { runtime with
      consecutiveFailures := failures
      consecutiveSuccesses := 0
      lastFailureAt := some now
      lastError := truncateLastError result.error
      status := if ¬ inStartPeriod ∧ failureThreshold ≤ failures then .unhealthy else begun }

end Hypeman.HealthCheck

namespace Hypeman.Instances.HealthChecks

open Hypeman.Foundations Hypeman.HealthCheck

/-- `healthCheckControllerState`. The number tells one struct from another. -/
structure Registration where
  number : Nat
  target : Target
  policy : Policy
  generation : UInt64
deriving DecidableEq, Repr

/-- `healthCheckTimerEvent`. -/
structure TimerEvent where
  instanceID : String
  generation : UInt64
deriving DecidableEq, Repr

/-- How far a call of `runCheck` has come; past `spawned` with the number of the registration that
it has read. -/
inductive Stage
  | spawned
  | probing (registration : Nat) (target : Target) (policy : Policy)
  | probed (registration : Nat) (runtime : Runtime)
  /-- It holds the persistence lock and has compared the generations. -/
  | recording (registration : Nat) (runtime : Runtime)
  /-- It has called `SetHealthCheckRuntime`, and the handler if `handled`. -/
  | recorded (registration : Nat) (runtime : Runtime) (handled : Bool)
deriving DecidableEq, Repr

/-- The registration that the check has read. -/
def Stage.registration : Stage → Option Nat
  | .spawned => none
  | .probing r _ _ | .probed r _ | .recording r _ | .recorded r _ _ => some r

/-- A call of `runCheck`. -/
structure Check where
  instanceID : String
  generation : UInt64
  stage : Stage
deriving DecidableEq, Repr

/-- Where the result of a probe has an effect. -/
inductive Effect
  /-- `SetHealthCheckRuntime`. -/
  | recorded
  /-- `HandleHealthCheckUnhealthy`. -/
  | handled
  /-- It becomes the runtime of the registration, and the next check is scheduled. -/
  | continued
deriving DecidableEq, Repr

/-- An effect, with the registration of the probe and the one current at the time. -/
structure Entry where
  effect : Effect
  instanceID : String
  probe : Nat
  current : Option Nat
deriving DecidableEq, Repr

/-- `HealthCheckController`, with the timers that are set or about to be queued, the checks under
way, the runtimes in the store and a record of what results did. -/
structure Controller where
  states : Table String Registration
  /-- The instances whose persistence lock is held. -/
  persistLocks : Finset String
  /-- Those whose lock is held by a sync that is about to reset the stored runtime. -/
  resetting : Finset String
  timers : List TimerEvent
  sending : List TimerEvent
  timerFired : List TimerEvent
  checks : Table Nat Check
  store : Table String (Option Runtime)
  registrations : Nat
  log : List Entry

/-- The fields of `Instance` that a sync reads. -/
structure Synced where
  healthCheck : Option Policy
  state : State
  target : Target

inductive Event
  /-- `syncInstance`, up to the end of its section under `c.mu`. -/
  | sync (id : String) (inst : Synced) (resetRuntime : Bool)
  /-- The rest of a `syncInstance` that resets the stored runtime. -/
  | reset (id : String)
  | removeInstance (id : String)
  /-- The first section of `enqueueTimer` for the timer at this place. -/
  | fire (i : Nat)
  /-- The rest of `enqueueTimer`. -/
  | send (i : Nat)
  /-- `Run` takes the next event and starts the check `k`. -/
  | dequeue (k : Nat)
  /-- The first section of `runCheck`. -/
  | read (k : Nat)
  /-- The probe; `refreshed` is the instance if it could be read again. -/
  | probe (k : Nat) (refreshed : Option Target) (now : Int) (result : ProbeResult)
  /-- `runCheck` gets the persistence lock and compares the generations. -/
  | acquire (k : Nat)
  /-- `SetHealthCheckRuntime`; `saved` is its outcome. -/
  | record (k : Nat) (saved : Bool)
  | handle (k : Nat)
  /-- The last section of `runCheck`. -/
  | finish (k : Nat)
  | stopAllTimers

variable (lib : StdLib)

/-- The policy with which a sync registers the instance; `none` if it removes it. -/
def Synced.policy (inst : Synced) : Option Policy :=
  match NormalizePolicy lib inst.healthCheck with
  | .error _ => none
  | .ok policy =>
    if !Enabled policy || !(inst.state = .initializing || inst.state = .running) then none
    else policy.filter fun p => (DurationConfig lib p).isOk

namespace Controller

/-- The registration has this generation. -/
def current (c : Controller) (id : String) (generation : UInt64) : Bool :=
  (c.states.lookup id).any fun st => st.generation == generation

def scheduleLocked (c : Controller) (id : String) (st : Registration) : Controller :=
  let generation := st.generation + 1
  { c with
    states := c.states.insert id { st with generation := generation }
    timers := c.timers ++ [⟨id, generation⟩] }

/-- The section of `syncInstance` under `c.mu`. -/
def register (c : Controller) (id : String) (target : Target) (policy : Policy) : Controller :=
  match c.states.lookup id with
  | some st => c.scheduleLocked id { st with target := target, policy := policy }
  | none =>
    { c with registrations := c.registrations + 1 }.scheduleLocked id
      ⟨c.registrations, target, policy, 0⟩

/-- An entry for the check. -/
def noted (c : Controller) (effect : Effect) (id : String) (probe : Nat) : Controller :=
  { c with log := c.log ++ [⟨effect, id, probe, (c.states.lookup id).map Registration.number⟩] }

def moveTo (c : Controller) (k : Nat) (check : Check) (stage : Stage) : Controller :=
  { c with checks := c.checks.insert k { check with stage := stage } }

def drop (c : Controller) (k : Nat) : Controller := { c with checks := c.checks.erase k }

end Controller

def refreshProbeInstance (policy : Policy) (target : Target) (refreshed : Option Target) : Target :=
  if policy.type != .exec || target.guestAgentReady then target
  else match refreshed with
    | none => target
    | some current => { current with runtime := target.runtime }

def checkStep (c : Controller) (k : Nat) (check : Check) : Event → Option Controller
  | .read _ =>
    match check.stage, c.states.lookup check.instanceID with
    | .spawned, some st =>
      if st.generation = check.generation then
        some (c.moveTo k check (.probing st.number st.target st.policy))
      else some (c.drop k)
    | .spawned, none => some (c.drop k)
    | _, _ => none
  | .probe _ refreshed now result =>
    match check.stage with
    | .probing r target policy =>
      match DurationConfig lib policy with
      | .error _ =>
        if check.instanceID ∈ c.persistLocks then none
        else some ({ c with states := c.states.erase check.instanceID }.drop k)
      | .ok _ =>
        let inst := refreshProbeInstance policy target refreshed
        some (c.moveTo k check
          (.probed r (ApplyProbeResult lib policy inst target.runtime now result)))
    | _ => none
  | .acquire _ =>
    match check.stage with
    | .probed r runtime =>
      if check.instanceID ∈ c.persistLocks then none
      else if c.current check.instanceID check.generation then
        some { c.moveTo k check (.recording r runtime) with
          persistLocks := insert check.instanceID c.persistLocks }
      else some (c.drop k)
    | _ => none
  | .record _ saved =>
    match check.stage with
    | .recording r runtime =>
      let stored := { c with
        store := if saved then c.store.insert check.instanceID (some runtime) else c.store }
      some ((stored.noted .recorded check.instanceID r).moveTo k check (.recorded r runtime false))
    | _ => none
  | .handle _ =>
    match check.stage with
    | .recorded r runtime false =>
      if runtime.status = .unhealthy then
        some ((c.noted .handled check.instanceID r).moveTo k check (.recorded r runtime true))
      else none
    | _ => none
  | .finish _ =>
    match check.stage with
    | .recorded r runtime handled =>
      if runtime.status = .unhealthy && !handled then none
      else
        let released := { c with persistLocks := c.persistLocks.erase check.instanceID }.drop k
        match c.states.lookup check.instanceID with
        | some st =>
          if st.generation = check.generation then
            some ((released.noted .continued check.instanceID r).scheduleLocked check.instanceID
              { st with target := { st.target with runtime := some runtime } })
          else some released
        | none => some released
    | _ => none
  | _ => none

def step (c : Controller) : Event → Option Controller
  | .sync id inst resetRuntime =>
    if id ∈ c.persistLocks then none
    else match inst.policy lib with
      | none => some { c with states := c.states.erase id }
      | some policy =>
        if resetRuntime then
          let c := c.register id { inst.target with runtime := none } policy
          some { c with
            persistLocks := insert id c.persistLocks
            resetting := insert id c.resetting }
        else some (c.register id inst.target policy)
  | .reset id =>
    if id ∈ c.resetting then some { c with
      store := c.store.insert id none
      persistLocks := c.persistLocks.erase id
      resetting := c.resetting.erase id }
    else none
  | .removeInstance id =>
    if id ∈ c.persistLocks then none else some { c with states := c.states.erase id }
  | .fire i =>
    c.timers[i]?.map fun ev => { c with
      timers := c.timers.eraseIdx i
      sending := if c.current ev.instanceID ev.generation then c.sending ++ [ev] else c.sending }
  | .send i =>
    c.sending[i]?.map fun ev =>
      let sent := { c with sending := c.sending.eraseIdx i }
      -- the channel holds `defaultHealthCheckTimerBufferSize` events
      if c.timerFired.length < 256 then { sent with timerFired := c.timerFired ++ [ev] }
      else if c.current ev.instanceID ev.generation then { sent with timers := c.timers ++ [ev] }
      else sent
  | .dequeue k =>
    match c.timerFired with
    | [] => none
    | ev :: rest =>
      if (c.checks.lookup k).isSome then none
      else some { c with
        timerFired := rest
        checks := c.checks.insert k ⟨ev.instanceID, ev.generation, .spawned⟩ }
  | .stopAllTimers => some { c with states := ∅ }
  | .read k => (c.checks.lookup k).bind fun check => checkStep lib c k check (.read k)
  | .probe k refreshed now result =>
    (c.checks.lookup k).bind fun check => checkStep lib c k check (.probe k refreshed now result)
  | .acquire k => (c.checks.lookup k).bind fun check => checkStep lib c k check (.acquire k)
  | .record k saved =>
    (c.checks.lookup k).bind fun check => checkStep lib c k check (.record k saved)
  | .handle k => (c.checks.lookup k).bind fun check => checkStep lib c k check (.handle k)
  | .finish k => (c.checks.lookup k).bind fun check => checkStep lib c k check (.finish k)

/-- The controller before its first sync. -/
def controller : System Controller Event where
  init := {
    states := ∅
    persistLocks := ∅
    resetting := ∅
    timers := []
    sending := []
    timerFired := []
    checks := ∅
    store := ∅
    registrations := 0
    log := [] }
  step := step lib

/-- An instance is registered anew only when none of its checks is past its first section. -/
def RegistersAlone (c : Controller) : Event → Prop
  | .sync id inst _ => (inst.policy lib).isSome → c.states.lookup id = none →
    ∀ k ∈ c.checks.entries, k.2.instanceID = id → k.2.stage.registration = none
  | _ => True

instance (c : Controller) : (e : Event) → Decidable (RegistersAlone lib c e)
  | .sync id inst _ => inferInstanceAs (Decidable ((inst.policy lib).isSome →
      c.states.lookup id = none →
        ∀ k ∈ c.checks.entries, k.2.instanceID = id → k.2.stage.registration = none))
  | .reset _ | .removeInstance _ | .fire _ | .send _ | .dequeue _ | .read _ | .probe _ _ _ _
  | .acquire _ | .record _ _ | .handle _ | .finish _ | .stopAllTimers =>
    inferInstanceAs (Decidable True)

/-! ## The registration a check has read stays the current one -/

/-- The invariant of runs that meet `RegistersAlone`. -/
structure Apart (c : Controller) : Prop where
  checks : ∀ {k check r st}, c.checks.lookup k = some check →
    check.stage.registration = some r → c.states.lookup check.instanceID = some st → st.number = r
  log : ∀ e ∈ c.log, ∀ n ∈ e.current, n = e.probe

variable {lib} {c c' : Controller}

/-- A step that adds neither registrations nor checks past their first section. -/
theorem Apart.mono (h : Apart c)
    (hstates : ∀ id st', c'.states.lookup id = some st' →
      ∃ st, c.states.lookup id = some st ∧ st.number = st'.number)
    (hchecks : ∀ k check' r, c'.checks.lookup k = some check' →
      check'.stage.registration = some r → ∃ check, c.checks.lookup k = some check ∧
        check.instanceID = check'.instanceID ∧ check.stage.registration = some r)
    (hlog : ∀ e ∈ c'.log, e ∈ c.log ∨ ∀ n ∈ e.current, n = e.probe) : Apart c' where
  checks := by
    intro k check' r st' hcheck hr hst
    obtain ⟨check, hold, hid, hr⟩ := hchecks k check' r hcheck hr
    obtain ⟨st, hst, hnumber⟩ := hstates _ st' hst
    rw [← hnumber]
    exact h.checks hold hr (hid ▸ hst)
  log e he n hn := by
    rcases hlog e he with hold | hnew
    · exact h.log e hold n hn
    · exact hnew n hn

/-- Registrations are only taken away. -/
theorem Apart.shrink (h : Apart c) {states : Table String Registration}
    (hstates : ∀ id st, states.lookup id = some st → c.states.lookup id = some st) :
    Apart { c with states := states } :=
  h.mono (fun id st hst => ⟨st, hstates id st hst, rfl⟩)
    (fun _ check _ hcheck hr => ⟨check, hcheck, rfl, hr⟩) fun _ he => .inl he

theorem Apart.drop (h : Apart c) (k : Nat) : Apart (c.drop k) :=
  h.mono (fun _ st hst => ⟨st, hst, rfl⟩)
    (fun _ check _ hcheck hr => ⟨check, (Table.lookup_of_erase hcheck).2, rfl, hr⟩)
    fun _ he => .inl he

/-- A check comes to a stage with the registration it has read. -/
theorem Apart.moveTo (h : Apart c) {k : Nat} {check : Check} {stage : Stage}
    (hstage : ∀ r st, stage.registration = some r →
      c.states.lookup check.instanceID = some st → st.number = r) :
    Apart (c.moveTo k check stage) where
  checks := by
    intro k' check' r st hcheck hr hst
    rcases (Table.Sets.insert k _ c.checks).eq_some hcheck with ⟨-, hnew⟩ | ⟨-, hold⟩
    · cases hnew
      exact hstage r st hr hst
    · exact h.checks hold hr hst
  log := h.log

/-- A check goes on with the registration it has read. -/
theorem Apart.advance (h : Apart c) {k : Nat} {check : Check} {stage : Stage}
    (hcheck : c.checks.lookup k = some check)
    (hstage : stage.registration = check.stage.registration) : Apart (c.moveTo k check stage) :=
  h.moveTo fun _ _ hr hst => h.checks hcheck (hstage ▸ hr) hst

/-- An effect while the registration that the check has read is current, if any is. -/
theorem Apart.noted (h : Apart c) (effect : Effect) {id : String} {r : Nat}
    (hr : ∀ st, c.states.lookup id = some st → st.number = r) : Apart (c.noted effect id r) :=
  h.mono (fun _ st hst => ⟨st, hst, rfl⟩) (fun _ check _ hcheck hr => ⟨check, hcheck, rfl, hr⟩) (by
    intro e he
    rcases List.mem_append.mp he with hold | hnew
    · exact .inl hold
    · rw [List.mem_singleton.mp hnew]
      refine .inr fun n hn => ?_
      obtain ⟨st, hst, rfl⟩ := Option.map_eq_some_iff.mp hn
      exact hr st hst)

/-- A new generation of a registration. -/
theorem Apart.scheduleLocked (h : Apart c) {id : String} {st₀ st : Registration}
    (hst : c.states.lookup id = some st₀) (hnumber : st.number = st₀.number) :
    Apart (c.scheduleLocked id st) := by
  refine h.mono ?_ (fun _ check _ hcheck hr => ⟨check, hcheck, rfl, hr⟩) fun _ he => .inl he
  intro i st' hst'
  rcases (Table.Sets.insert id _ c.states).eq_some hst' with ⟨rfl, hnew⟩ | ⟨-, hold⟩
  · cases hnew
    exact ⟨st₀, hst, hnumber.symm⟩
  · exact ⟨st', hold, rfl⟩

/-- A sync that registers the instance. -/
theorem Apart.register (h : Apart c) {id : String} (target : Target) (policy : Policy)
    (halone : c.states.lookup id = none →
      ∀ k ∈ c.checks.entries, k.2.instanceID = id → k.2.stage.registration = none) :
    Apart (c.register id target policy) := by
  rw [Controller.register]
  cases hst : c.states.lookup id with
  | some st => exact h.scheduleLocked hst rfl
  | none =>
    refine ⟨?_, h.log⟩
    intro k check r st hcheck hr hst'
    rcases (Table.Sets.insert id _ c.states).eq_some hst' with ⟨hid, -⟩ | ⟨-, hold⟩
    · have hnone := halone hst ⟨k, check⟩ (AList.mem_lookup_iff.mp hcheck) hid
      rw [hr] at hnone
      cases hnone
    · exact h.checks hcheck hr hold

/-- One step of a check. -/
theorem Apart.checkStep (h : Apart c) {k : Nat} {check : Check}
    (hcheck : c.checks.lookup k = some check) {e : Event}
    (hs : HealthChecks.checkStep lib c k check e = some c') : Apart c' := by
  cases e with simp only [HealthChecks.checkStep] at hs
  | read _ =>
    split at hs
    next st _ hst =>
      split at hs
      · cases hs
        refine h.moveTo fun r st' hr hst' => ?_
        rw [hst] at hst'
        cases hst'
        exact Option.some.inj hr
      · cases hs
        exact h.drop k
    · cases hs
      exact h.drop k
    · cases hs
  | probe _ refreshed now result =>
    split at hs
    next r target policy hstage =>
      split at hs
      · obtain ⟨-, ⟨⟩⟩ := Option.ite_none_left_eq_some.mp hs
        exact (h.shrink fun _ _ hst => (Table.lookup_of_erase hst).2).drop k
      · cases hs
        exact h.advance hcheck (by rw [hstage]; rfl)
    · cases hs
  | acquire _ =>
    split at hs
    next r runtime hstage =>
      obtain ⟨-, hs⟩ := Option.ite_none_left_eq_some.mp hs
      split at hs
      · cases hs
        have hmoved : Apart (c.moveTo k check (.recording r runtime)) :=
          h.advance hcheck (by rw [hstage]; rfl)
        exact ⟨hmoved.checks, hmoved.log⟩
      · cases hs
        exact h.drop k
    · cases hs
  | record _ saved =>
    split at hs
    next r runtime hstage =>
      cases hs
      have hr : check.stage.registration = some r := by rw [hstage]; rfl
      have hstored : Apart { c with
          store := if saved then c.store.insert check.instanceID (some runtime) else c.store } :=
        ⟨h.checks, h.log⟩
      exact (hstored.noted .recorded fun _ => h.checks hcheck hr).advance hcheck hr.symm
    · cases hs
  | handle _ =>
    split at hs
    next r runtime hstage =>
      obtain ⟨-, ⟨⟩⟩ := Option.ite_none_right_eq_some.mp hs
      have hr : check.stage.registration = some r := by rw [hstage]; rfl
      exact (h.noted .handled fun _ => h.checks hcheck hr).advance hcheck hr.symm
    · cases hs
  | finish _ =>
    split at hs
    next r runtime handled hstage =>
      obtain ⟨-, hs⟩ := Option.ite_none_left_eq_some.mp hs
      have hdropped := h.drop k
      have hreleased : Apart ({ c with
          persistLocks := c.persistLocks.erase check.instanceID }.drop k) :=
        ⟨hdropped.checks, hdropped.log⟩
      split at hs
      next st hst =>
        split at hs
        · cases hs
          refine Apart.scheduleLocked (hreleased.noted .continued fun st' hst' => ?_) hst rfl
          exact h.checks hcheck (by rw [hstage]; rfl) hst'
        · cases hs
          exact hreleased
      · cases hs
        exact hreleased
    · cases hs
  | sync _ _ _ | reset _ | removeInstance _ | fire _ | send _ | dequeue _ | stopAllTimers =>
    cases hs

/-- **One step.** -/
theorem Apart.step (h : Apart c) {e : Event} (hok : RegistersAlone lib c e)
    (hs : HealthChecks.step lib c e = some c') : Apart c' := by
  cases e with
  | sync id inst resetRuntime =>
    obtain ⟨-, hs⟩ := Option.ite_none_left_eq_some.mp hs
    split at hs
    · cases hs
      exact h.shrink fun _ _ hst => (Table.lookup_of_erase hst).2
    next policy hpolicy =>
    have halone := hok (by rw [hpolicy]; rfl)
    split at hs
    · cases hs
      have hregistered := h.register { inst.target with runtime := none } policy halone
      exact ⟨hregistered.checks, hregistered.log⟩
    · cases hs
      exact h.register inst.target policy halone
  | reset id =>
    obtain ⟨-, heq⟩ := Option.ite_none_right_eq_some.mp hs
    cases heq
    exact ⟨h.checks, h.log⟩
  | removeInstance id =>
    obtain ⟨-, heq⟩ := Option.ite_none_left_eq_some.mp hs
    cases heq
    exact h.shrink fun _ _ hst => (Table.lookup_of_erase hst).2
  | fire i =>
    obtain ⟨ev, -, rfl⟩ := Option.map_eq_some_iff.mp hs
    exact ⟨h.checks, h.log⟩
  | send i =>
    obtain ⟨ev, -, rfl⟩ := Option.map_eq_some_iff.mp hs
    dsimp only
    split
    · exact ⟨h.checks, h.log⟩
    · split <;> exact ⟨h.checks, h.log⟩
  | dequeue k =>
    simp only [HealthChecks.step] at hs
    split at hs
    · cases hs
    next ev rest _ =>
      obtain ⟨-, heq⟩ := Option.ite_none_left_eq_some.mp hs
      cases heq
      have hspawned : Apart (c.moveTo k ⟨ev.instanceID, ev.generation, .spawned⟩ .spawned) :=
        h.moveTo fun r _ hr => absurd hr (Option.some_ne_none r).symm
      exact ⟨hspawned.checks, hspawned.log⟩
  | stopAllTimers =>
    cases hs
    refine h.shrink fun id st hst => ?_
    rw [AList.lookup_empty] at hst
    cases hst
  | read k | probe k _ _ _ | acquire k | record k _ | handle k | finish k =>
    obtain ⟨check, hcheck, hs⟩ := Option.bind_eq_some_iff.mp hs
    exact h.checkStep hcheck hs

/-- **Results stay in their registration.** Along every run in which an instance is registered anew
only while none of its checks is under way, the result of a probe is recorded, handed to the handler
and carried on only while the registration that the probe was started under is the current one, or
none is. -/
theorem results_stay_in_registration (h : (controller lib).Reachable (RegistersAlone lib) c) :
    ∀ e ∈ c.log, ∀ n ∈ e.current, n = e.probe := by
  have hapart : Apart c := by
    refine h.invariant ?_ fun c e c' hc hok hs => hc.step hok hs
    exact ⟨nofun, nofun⟩
  exact hapart.log

/-- The library, with the two durations of the policy below. -/
def checkLib : StdLib where
  splitHostPort _ := none
  parseIP _ := none
  toLower := id
  canonicalMIMEHeaderKey := id
  quote := id
  parseDuration raw :=
    if raw = "10s" then .ok 10000000000
    else if raw = "0s" then .ok 0
    else .error "invalid duration"
  durationString d := if d = 0 then "0s" else "10s"
  parsePrefix := .ok
  cleanPath := id
  atoi _ := 0

/-- A running instance, started at the second `second`, with a TCP check that may take ten seconds
and counts from the first failure. -/
def runningInstance (second : Int) : Synced where
  healthCheck := some ⟨.tcp, "10s", "10s", "0s", 1, 1, none, some ⟨80, by decide⟩, none⟩
  state := .running
  target := ⟨some (second * 1000000000), true, none⟩

/-- The instance `a` is registered and its first check begins to probe. -/
def firstProbe : List Event :=
  [.sync "a" (runningInstance 0) true, .reset "a", .fire 0, .send 0, .dequeue 0, .read 0]

/-- The probe times out, and the result is recorded and handled. -/
def probeFails : List Event :=
  [.probe 0 none 10000000000 ⟨false, "i/o timeout"⟩, .acquire 0, .record 0 true, .handle 0,
   .finish 0]

theorem results_stay_in_registration_removed :
    ∃ c, (controller checkLib).Reachable (RegistersAlone checkLib) c ∧
      c.log.map Entry.effect = [.recorded, .handled, .continued] ∧
      ∀ e ∈ c.log, ∀ n ∈ e.current, n = e.probe := by
  obtain ⟨c, hc, hlog⟩ := (controller checkLib).exists_reachable_of_replay
    (RegistersAlone checkLib) (fun c => c.log.map Entry.effect = [.recorded, .handled, .continued])
    (List.flatten [firstProbe, probeFails,
      [.removeInstance "a", .sync "a" (runningInstance 12) true]])
    (by decide +kernel)
  exact ⟨c, hc, hlog, results_stay_in_registration hc⟩

/-- **A result is taken for that of a later registration.** The instance is stopped and started
again while its first probe is under way. The new registration has the same generation, so that it
is found unhealthy by the probe of the instance that was stopped. -/
theorem result_under_later_registration :
    ¬ ∀ c, (controller checkLib).Reachable System.Always c →
      ∀ e ∈ c.log, ∀ n ∈ e.current, n = e.probe := by
  intro h
  obtain ⟨c, hc, hlog⟩ := (controller checkLib).exists_reachable_of_replay System.Always
    (fun c => ⟨.handled, "a", 0, some 1⟩ ∈ c.log)
    (List.flatten [firstProbe,
      [.removeInstance "a", .sync "a" (runningInstance 5) true, .reset "a"], probeFails])
    (by decide +kernel)
  exact absurd (h c hc _ hlog 1 rfl) (by decide)

end Hypeman.Instances.HealthChecks
