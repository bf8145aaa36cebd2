import Mathlib.Data.List.Chain
import Hypeman.Foundations.System
import Hypeman.Instances.Policies
import Hypeman.Instances.State

/-!
# Automatic restarts

A model of the restart policy (`lib/restart-policy/policy.go`) and of everything that starts and
stops one instance (`lib/instances/restart_policy.go`, `lib/instances/manager.go`): `StopInstance`
and `StartInstance`, the reconciler of the restart policy and `HandleHealthCheckUnhealthy`. The
calls hold the lock of the instance from begin to end. The reconciler reads the metadata and then
the state without the lock, decides, and takes the lock once for the restart status and once more
for the restart.

* `PrepareAttempt_true`, `PrepareAttempt_false`: what a decision about an attempt says.
* `RestartState.step`: the steps of all parties, and `Transition`, the inversion of one step.
* `restartSystem`: all interleavings on one instance with a policy.
* `allowedAttempts_limited`: what the two calls of the policy allow, one after the other.
-/

namespace Hypeman

/-! ## The policy -/

namespace RestartPolicy

inductive BlockedReason
  | manualStop
  | maxAttemptsExceeded
deriving DecidableEq, Repr

inductive RestartReason
  | healthCheckFailed
deriving DecidableEq, Repr

/-- `Status`; times are in nanoseconds. -/
structure Status where
  attempts : Int := 0
  lastAttemptAt : Option Int := none
  nextAttemptAt : Option Int := none
  blockedReason : Option BlockedReason := none
  lastReason : Option RestartReason := none
deriving DecidableEq, Repr

section

variable (lib : StdLib) (policy : Policy)

/-- `durationOrDefault`, with the default for an error as well. -/
def durationOrDefault (raw : String) (fallback : Int) : Int :=
  match normalizeDuration lib raw fallback "duration" with
  | .ok d => d
  | .error _ => fallback

def Backoff : Int := durationOrDefault lib policy.backoff 5000000000

def StableAfter : Int := durationOrDefault lib policy.stableAfter 600000000000

def ShouldRestart (exitCode : Option Int) : Bool :=
  match policy.policy with
  | .always => true
  | .onFailure =>
    match exitCode with
    | none => true
    | some code => code != 0
  | _ => false

def PrepareAttempt (status : Status) (now : Int) : Status × Bool :=
  if status.blockedReason ≠ none then (status, false)
  else if ∃ next ∈ status.nextAttemptAt, now < next then (status, false)
  else if ∃ last ∈ status.lastAttemptAt, now < last + Backoff lib policy then
    ({ status with nextAttemptAt := status.lastAttemptAt.map (· + Backoff lib policy) }, false)
  else if 0 < policy.maxAttempts ∧ policy.maxAttempts ≤ status.attempts then
    ({ status with nextAttemptAt := none, blockedReason := some .maxAttemptsExceeded }, false)
  else
    ({ status with
        attempts := status.attempts + 1
        lastAttemptAt := some now
        nextAttemptAt := none }, true)

def AfterFailedAttempt (status : Status) (now : Int) : Status :=
  if 0 < policy.maxAttempts ∧ policy.maxAttempts ≤ status.attempts then
    { status with blockedReason := some .maxAttemptsExceeded, nextAttemptAt := none }
  else { status with nextAttemptAt := some (now + Backoff lib policy) }

variable {lib policy} {status : Status} {now : Int}

/-- An attempt is decided on when nothing blocks it, the backoff is over and attempts are left. -/
theorem PrepareAttempt_true {next : Status}
    (h : PrepareAttempt lib policy status now = (next, true)) :
    status.blockedReason = none ∧
    (∀ last ∈ status.lastAttemptAt, last + Backoff lib policy ≤ now) ∧
    (0 < policy.maxAttempts → status.attempts < policy.maxAttempts) ∧
    next = { status with
      attempts := status.attempts + 1, lastAttemptAt := some now, nextAttemptAt := none } := by
  unfold PrepareAttempt at h
  split at h
  · cases h
  · next hblocked =>
    split at h
    · cases h
    · split at h
      · cases h
      · next hlast =>
        split at h
        · cases h
        · next hmax =>
          cases h
          refine ⟨not_not.mp hblocked, fun last hmem => ?_, fun hpos => ?_, rfl⟩
          · by_contra hlt
            exact hlast ⟨last, hmem, not_le.mp hlt⟩
          · by_contra hge
            exact hmax ⟨hpos, not_lt.mp hge⟩

/-- Where no attempt is made, the attempts before remain counted. -/
theorem PrepareAttempt_false {next : Status}
    (h : PrepareAttempt lib policy status now = (next, false)) :
    next.attempts = status.attempts ∧ next.lastAttemptAt = status.lastAttemptAt := by
  unfold PrepareAttempt at h
  split_ifs at h <;> cases h <;> exact ⟨rfl, rfl⟩

theorem AfterFailedAttempt_counts :
    (AfterFailedAttempt lib policy status now).attempts = status.attempts ∧
      (AfterFailedAttempt lib policy status now).lastAttemptAt = status.lastAttemptAt := by
  unfold AfterFailedAttempt
  split <;> exact ⟨rfl, rfl⟩

theorem PrepareAttempt_blocked (h : status.blockedReason ≠ none) :
    PrepareAttempt lib policy status now = (status, false) :=
  if_pos h

theorem AfterFailedAttempt_blocked (h : status.blockedReason ≠ none) :
    (AfterFailedAttempt lib policy status now).blockedReason ≠ none := by
  unfold AfterFailedAttempt
  split
  · exact Option.some_ne_none _
  · exact h

end

end RestartPolicy

namespace Instances

open Foundations RestartPolicy

/-! ## The parties -/

/-- The fields of the metadata that restarts read and write. -/
structure RestartMetadata where
  status : Status := {}
  exitCode : Option Int := none
  startedAt : Option Int := none
deriving DecidableEq, Repr

inductive Reconciler
  | idle
  | loaded (stored : RestartMetadata)
  | derived (stored : RestartMetadata) (state : State)
  /-- The instance has been stable; the status is to be cleared. -/
  | resetting
  /-- No attempt is due; the status that says so is to be written. -/
  | noting (read next : Status)
  /-- An attempt is due, decided at `now`; its status is to be written. -/
  | attempting (read next : Status) (now : Int)
  /-- The status is written; `RestartInstance` is to be called. -/
  | restarting (next : Status) (now : Int)
  /-- `RestartInstance` has failed; the status is to be written. -/
  | failed (next : Status)
deriving DecidableEq, Repr

/-- The time of the attempt that the reconciler has recorded in the status and not made. -/
def Reconciler.pending : Reconciler → Option Int
  | .restarting _ now => some now
  | _ => none

/-- Who holds the lock of the instance, between the steps of a call. -/
inductive Holder
  | free
  /-- `StopInstance` has marked the stop. -/
  | stopping
  /-- `StartInstance` has cleared the status. -/
  | starting
  /-- `HandleHealthCheckUnhealthy` has written the status of an attempt decided at `now`. -/
  | unhealthy (next : Status) (now : Int)
  /-- It has stopped the instance. -/
  | replacing (next : Status) (now : Int)
deriving DecidableEq, Repr

/-- One instance, its metadata, the lock and the reconciler. -/
structure RestartState where
  now : Int := 0
  state : State := .initializing
  stored : RestartMetadata := {}
  holder : Holder := .free
  reconciler : Reconciler := .idle
deriving DecidableEq, Repr

inductive RestartEvent
  | elapse (d : Nat)
  /-- Anything else that changes the instance: the guest boots or exits, standby and restore. -/
  | observe (state : State) (exitCode startedAt : Option Int)
  | load
  | derive
  /-- The reconciler reads the clock and decides. -/
  | decide
  /-- The reconciler writes the status under the lock. -/
  | write
  /-- `RestartInstance`; `ok` tells whether a VM can be started. -/
  | restart (ok : Bool)
  /-- `StopInstance` takes the lock. -/
  | stop
  /-- `StopInstance` returns. -/
  | stopped (ok : Bool)
  /-- `StartInstance` takes the lock. -/
  | start (overrides : Bool)
  /-- `StartInstance` returns. -/
  | started (ok : Bool)
  /-- `HandleHealthCheckUnhealthy` takes the lock. -/
  | unhealthy
  /-- It has called `stopInstance`. -/
  | replaceStop (ok : Bool)
  /-- It has called `startInstance`. -/
  | replaceStart (ok : Bool)
deriving DecidableEq, Repr

section Steps

variable (lib : StdLib)

/-- The policy after `NormalizePolicy`; `none` where there is no policy or an error. -/
def normalizedPolicy (policy : Option Policy) : Option Policy :=
  match NormalizePolicy lib policy with
  | .ok policy => policy
  | .error _ => none

def shouldResetRestartAttempts (policy : Policy) (stored : RestartMetadata) (state : State)
    (now : Int) : Bool :=
  match stored.startedAt with
  | none => false
  | some startedAt =>
    if stored.status.attempts = 0 then false
    else if state ≠ .running ∧ state ≠ .initializing then false
    else
      let stableSince :=
        match stored.status.lastAttemptAt with
        | some last => if startedAt < last then last else startedAt
        | none => startedAt
      decide (¬ now < stableSince + StableAfter lib policy)

def restartStatusAfterFailedAttempt (policy : Policy) (status : Status) (now : Int) : Status :=
  { AfterFailedAttempt lib policy status now with lastReason := status.lastReason }

/-- `reconcileRestartPolicyInstance` up to the first write, with the decision of
`startInstanceForRestartPolicy`. -/
def reconcileRestartPolicyInstance (policy : Policy) (stored : RestartMetadata) (state : State)
    (now : Int) : Reconciler :=
  let status := stored.status
  if shouldResetRestartAttempts lib policy stored state now then .resetting
  else if state ≠ .stopped ∨ status.blockedReason ≠ none then .idle
  else
    let exitCode :=
      if status.lastReason = some .healthCheckFailed then none else stored.exitCode
    if !ShouldRestart policy exitCode then .idle
    else
      let (next, shouldAttempt) := PrepareAttempt lib policy status now
      if shouldAttempt then .attempting status next now
      else if next = status then .idle
      else .noting status next

namespace RestartState

variable (s : RestartState)

abbrev status : Status := s.stored.status

/-- `updateRestartStatusLocked`. -/
def setStatus (status : Status) : RestartState :=
  { s with stored := { s.stored with status := status } }

/-- The decision of `setRestartStatusIf`, where `stoppedOnly` is the one of
`setRestartStatusIfStopped`. -/
def writes (next : Status) (stoppedOnly : Bool) : Bool :=
  !(s.status.blockedReason == some .manualStop && next.blockedReason != some .manualStop) &&
    s.status != next && (!stoppedOnly || s.state == .stopped)

def markRestartManualStopLocked (policy : Option Policy) : RestartState :=
  match policy with
  | none => s
  | some _ => s.setStatus { blockedReason := some .manualStop }

/-- `startInstance`, and whether it succeeds. -/
def startInstance (ok : Bool) : RestartState × Bool :=
  if s.state = .stopped ∧ ok = true then
    ({ s with
        state := .initializing
        stored := { s.stored with exitCode := none, startedAt := some s.now } }, true)
  else (s, false)

/-- `stopInstance`, and whether it succeeds. -/
def stopInstance (ok : Bool) : RestartState × Bool :=
  if (s.state = .running ∨ s.state = .initializing) ∧ ok = true then
    ({ s with state := .stopped }, true)
  else (s, false)

/-- The decision of `HandleHealthCheckUnhealthy`, under the lock. -/
def unhealthyDecision (policy : Policy) : RestartState :=
  if s.state ≠ .running ∨ ShouldRestart policy none = false ∨ s.status.blockedReason ≠ none then s
  else
    let status := { s.status with lastReason := some .healthCheckFailed }
    let (next, shouldAttempt) := PrepareAttempt lib policy status s.now
    if shouldAttempt then { s.setStatus next with holder := .unhealthy next s.now }
    else s.setStatus next

def reconcilerWrite : Option RestartState :=
  match s.reconciler with
  | .resetting =>
    some (if s.writes {} false then { s.setStatus {} with reconciler := .idle }
      else { s with reconciler := .idle })
  | .noting _ next | .failed next =>
    some (if s.writes next true then { s.setStatus next with reconciler := .idle }
      else { s with reconciler := .idle })
  | .attempting _ next now =>
    some (if s.writes next true then { s.setStatus next with reconciler := .restarting next now }
      else { s with reconciler := .idle })
  | _ => none

/-- The effect of one step on an instance whose metadata has `policy`. -/
def step (policy : Option Policy) : RestartEvent → Option RestartState
  | .elapse d => some { s with now := s.now + d }
  | .observe state exitCode startedAt =>
    some { s with
      state := state
      stored := { s.stored with exitCode := exitCode, startedAt := startedAt } }
  | .load =>
    if s.reconciler = .idle then some { s with reconciler := .loaded s.stored } else none
  | .derive =>
    match s.reconciler with
    | .loaded stored => some { s with reconciler := .derived stored s.state }
    | _ => none
  | .decide =>
    match s.reconciler with
    | .derived stored state =>
      match normalizedPolicy lib policy with
      | some policy =>
        some { s with
          reconciler := reconcileRestartPolicyInstance lib policy stored state s.now }
      | none => some { s with reconciler := .idle }
    | _ => none
  | .write => if s.holder = .free then s.reconcilerWrite else none
  | .restart ok =>
    match s.reconciler, normalizedPolicy lib policy with
    | .restarting next now, some policy =>
      if s.holder = .free then
        let (s', success) := s.startInstance ok
        some { s' with
          reconciler :=
            if success then .idle
            else .failed (restartStatusAfterFailedAttempt lib policy next now) }
      else none
    | _, _ => none
  | .stop =>
    if s.holder = .free then
      some { s.markRestartManualStopLocked policy with
        holder := if s.state = .stopped then .free else .stopping }
    else none
  | .stopped ok =>
    if s.holder = .stopping then some { (s.stopInstance ok).1 with holder := .free } else none
  | .start overrides =>
    if s.holder = .free then
      some { s.setStatus {} with
        holder :=
          if overrides = false ∧ (s.state = .running ∨ s.state = .initializing) then .free
          else .starting }
    else none
  | .started ok =>
    if s.holder = .starting then some { (s.startInstance ok).1 with holder := .free } else none
  | .unhealthy =>
    if s.holder = .free then
      match normalizedPolicy lib policy with
      | some policy => some (s.unhealthyDecision lib policy)
      | none => some s
    else none
  | .replaceStop ok =>
    match s.holder, normalizedPolicy lib policy with
    | .unhealthy next now, some policy =>
      let (s', success) := s.stopInstance ok
      some (if success then { s' with holder := .replacing next now }
        else
          { s'.setStatus (restartStatusAfterFailedAttempt lib policy next now) with
            holder := .free })
    | _, _ => none
  | .replaceStart ok =>
    match s.holder, normalizedPolicy lib policy with
    | .replacing next now, some policy =>
      let (s', success) := s.startInstance ok
      some (if success then { s' with holder := .free }
        else
          { s'.setStatus (restartStatusAfterFailedAttempt lib policy next now) with
            holder := .free })
    | _, _ => none

end RestartState

/-- All interleavings on an instance that has just been created with `policy`. -/
def restartSystem (policy : Option Policy) : System RestartState RestartEvent where
  init := {}
  step s e := s.step lib policy e

end Steps

/-- The library, with the two durations that a policy has by default. -/
def restartLib : StdLib where
  splitHostPort _ := none
  parseIP _ := none
  toLower := id
  canonicalMIMEHeaderKey := id
  quote := id
  parseDuration raw :=
    if raw = "5s" then .ok 5000000000
    else if raw = "10m0s" then .ok 600000000000
    else .error "invalid duration"
  durationString d := if d = 5000000000 then "5s" else "10m0s"
  parsePrefix := .ok
  cleanPath := id
  atoi _ := 0

def restartAlways (maxAttempts : Int) : Policy := ⟨.always, "", maxAttempts, ""⟩

/-! ## What one step can do -/

section Inversion

variable (lib : StdLib) (policy : Option Policy)

/-- The status, the lock and the reconciler after a step. -/
structure Moves (s s' : RestartState) (status : Status) (holder : Holder)
    (reconciler : Reconciler) : Prop where
  now : s.now ≤ s'.now
  status : s'.status = status
  holder : s'.holder = holder
  reconciler : s'.reconciler = reconciler

/-- What the reconciler can decide at `now` on the status that it has read. -/
inductive Decides (status : Status) (state : State) (now : Int) : Reconciler → Prop
  | idle : Decides status state now .idle
  | resetting : Decides status state now .resetting
  | noting {p : Policy} {next : Status} (hpolicy : normalizedPolicy lib policy = some p)
      (hprepare : PrepareAttempt lib p status now = (next, false)) :
      Decides status state now (.noting status next)
  | attempting {p : Policy} {next : Status} (hpolicy : normalizedPolicy lib policy = some p)
      (hstopped : state = .stopped) (hprepare : PrepareAttempt lib p status now = (next, true)) :
      Decides status state now (.attempting status next now)

/-- The steps, with what they do to the status, the lock and the reconciler. -/
inductive Transition (s s' : RestartState) : RestartEvent → Prop
  | elapse {d : Nat} (h : Moves s s' s.status s.holder s.reconciler) : Transition s s' (.elapse d)
  | observe {state : State} {exitCode startedAt : Option Int}
      (h : Moves s s' s.status s.holder s.reconciler) :
      Transition s s' (.observe state exitCode startedAt)
  | load (hre : s.reconciler = .idle) (h : Moves s s' s.status s.holder (.loaded s.stored)) :
      Transition s s' .load
  | derive {stored : RestartMetadata} (hre : s.reconciler = .loaded stored)
      (h : Moves s s' s.status s.holder (.derived stored s.state)) : Transition s s' .derive
  | decide {stored : RestartMetadata} {state : State} {re : Reconciler}
      (hre : s.reconciler = .derived stored state)
      (hdecides : Decides lib policy stored.status state s.now re)
      (h : Moves s s' s.status s.holder re) : Transition s s' .decide
  | refused (hfree : s.holder = .free) (hre : s.reconciler.pending = none)
      (hwrites : s.reconciler = .resetting → s.writes {} false = false)
      (h : Moves s s' s.status .free .idle) : Transition s s' .write
  | reset (hfree : s.holder = .free) (hre : s.reconciler = .resetting)
      (hwrites : s.writes {} false = true) (h : Moves s s' {} .free .idle) : Transition s s' .write
  | noted {next : Status} (hfree : s.holder = .free)
      (hre : (∃ read, s.reconciler = .noting read next) ∨ s.reconciler = .failed next)
      (hwrites : s.writes next true = true) (h : Moves s s' next .free .idle) :
      Transition s s' .write
  | recorded {read next : Status} {now : Int} (hfree : s.holder = .free)
      (hre : s.reconciler = .attempting read next now) (hwrites : s.writes next true = true)
      (h : Moves s s' next .free (.restarting next now)) : Transition s s' .write
  | restarted {next : Status} {now : Int} {ok : Bool} (hfree : s.holder = .free)
      (hre : s.reconciler = .restarting next now) (h : Moves s s' s.status .free .idle) :
      Transition s s' (.restart ok)
  | restartFailed {p : Policy} {next : Status} {now : Int} {ok : Bool} (hfree : s.holder = .free)
      (hpolicy : normalizedPolicy lib policy = some p)
      (hre : s.reconciler = .restarting next now) (hok : (s.startInstance ok).2 = false)
      (h : Moves s s' s.status .free (.failed (restartStatusAfterFailedAttempt lib p next now))) :
      Transition s s' (.restart ok)
  | stop {holder : Holder} (hfree : s.holder = .free)
      (hholder : holder = if s.state = .stopped then .free else .stopping)
      (h : Moves s s' (s.markRestartManualStopLocked policy).status holder s.reconciler) :
      Transition s s' .stop
  | stopped {ok : Bool} (hholder : s.holder = .stopping)
      (h : Moves s s' s.status .free s.reconciler) : Transition s s' (.stopped ok)
  | start {overrides : Bool} {holder : Holder} (hfree : s.holder = .free)
      (hholder : holder = .free ∨ holder = .starting) (h : Moves s s' {} holder s.reconciler) :
      Transition s s' (.start overrides)
  | started {ok : Bool} (hholder : s.holder = .starting)
      (h : Moves s s' s.status .free s.reconciler) : Transition s s' (.started ok)
  | ignored (hfree : s.holder = .free) (h : Moves s s' s.status .free s.reconciler) :
      Transition s s' .unhealthy
  | postponed {p : Policy} {next : Status} (hfree : s.holder = .free)
      (hpolicy : normalizedPolicy lib policy = some p) (hblocked : s.status.blockedReason = none)
      (hprepare : PrepareAttempt lib p { s.status with lastReason := some .healthCheckFailed }
        s.now = (next, false))
      (h : Moves s s' next .free s.reconciler) : Transition s s' .unhealthy
  | replaces {p : Policy} {next : Status} (hfree : s.holder = .free) (hrunning : s.state = .running)
      (hpolicy : normalizedPolicy lib policy = some p) (hblocked : s.status.blockedReason = none)
      (hprepare : PrepareAttempt lib p { s.status with lastReason := some .healthCheckFailed }
        s.now = (next, true))
      (h : Moves s s' next (.unhealthy next s.now) s.reconciler) : Transition s s' .unhealthy
  | replaceStopped {next : Status} {now : Int} {ok : Bool}
      (hholder : s.holder = .unhealthy next now)
      (h : Moves s s' s.status (.replacing next now) s.reconciler) :
      Transition s s' (.replaceStop ok)
  | replaceStopFailed {p : Policy} {next : Status} {now : Int} {ok : Bool}
      (hpolicy : normalizedPolicy lib policy = some p) (hholder : s.holder = .unhealthy next now)
      (h : Moves s s' (restartStatusAfterFailedAttempt lib p next now) .free s.reconciler) :
      Transition s s' (.replaceStop ok)
  | replaced {next : Status} {now : Int} {ok : Bool} (hholder : s.holder = .replacing next now)
      (h : Moves s s' s.status .free s.reconciler) : Transition s s' (.replaceStart ok)
  | replaceStartFailed {p : Policy} {next : Status} {now : Int} {ok : Bool}
      (hpolicy : normalizedPolicy lib policy = some p) (hholder : s.holder = .replacing next now)
      (hok : (s.startInstance ok).2 = false)
      (h : Moves s s' (restartStatusAfterFailedAttempt lib p next now) .free s.reconciler) :
      Transition s s' (.replaceStart ok)

variable {lib policy} {s s' : RestartState}

theorem isSome_of_normalizedPolicy {p : Policy} (h : normalizedPolicy lib policy = some p) :
    policy.isSome = true := by
  cases policy with
  | none => cases h
  | some policy => rfl

theorem decides_reconcileRestartPolicyInstance {p : Policy}
    (hpolicy : normalizedPolicy lib policy = some p) (stored : RestartMetadata) (state : State)
    (now : Int) :
    Decides lib policy stored.status state now
      (reconcileRestartPolicyInstance lib p stored state now) := by
  simp only [reconcileRestartPolicyInstance]
  generalize (if stored.status.lastReason = some .healthCheckFailed then none
    else stored.exitCode) = exitCode
  split
  · exact .resetting
  split
  · exact .idle
  next hstate =>
  split
  · exact .idle
  cases hprepare : PrepareAttempt lib p stored.status now with
  | mk next shouldAttempt =>
    cases shouldAttempt with
    | true => exact .attempting hpolicy (not_not.mp fun hne => hstate (.inl hne)) hprepare
    | false =>
      simp only [Bool.false_eq_true, if_false]
      split
      · exact .idle
      · exact .noting hpolicy hprepare

theorem startInstance_moves (ok : Bool) :
    Moves s (s.startInstance ok).1 s.status s.holder s.reconciler := by
  unfold RestartState.startInstance
  split <;> exact ⟨le_rfl, rfl, rfl, rfl⟩

theorem stopInstance_moves (ok : Bool) :
    Moves s (s.stopInstance ok).1 s.status s.holder s.reconciler := by
  unfold RestartState.stopInstance
  split <;> exact ⟨le_rfl, rfl, rfl, rfl⟩

theorem markRestartManualStopLocked_frame (policy : Option Policy) :
    s.now ≤ (s.markRestartManualStopLocked policy).now ∧
      (s.markRestartManualStopLocked policy).reconciler = s.reconciler := by
  unfold RestartState.markRestartManualStopLocked
  split <;> exact ⟨le_rfl, rfl⟩

theorem transition_of_reconcilerWrite (hfree : s.holder = .free)
    (h : s.reconcilerWrite = some s') : Transition lib policy s s' .write := by
  unfold RestartState.reconcilerWrite at h
  split at h
  · next hre =>
    cases h
    split
    · next hwrites => exact .reset hfree hre hwrites ⟨le_rfl, rfl, hfree, rfl⟩
    · next hwrites =>
      exact .refused hfree (by rw [hre]; rfl) (fun _ => Bool.eq_false_of_not_eq_true hwrites)
        ⟨le_rfl, rfl, hfree, rfl⟩
  · next hre =>
    cases h
    split
    · next hwrites => exact .noted hfree (.inl ⟨_, hre⟩) hwrites ⟨le_rfl, rfl, hfree, rfl⟩
    · exact .refused hfree (by rw [hre]; rfl) (by simp [hre]) ⟨le_rfl, rfl, hfree, rfl⟩
  · next hre =>
    cases h
    split
    · next hwrites => exact .noted hfree (.inr hre) hwrites ⟨le_rfl, rfl, hfree, rfl⟩
    · exact .refused hfree (by rw [hre]; rfl) (by simp [hre]) ⟨le_rfl, rfl, hfree, rfl⟩
  · next hre =>
    cases h
    split
    · next hwrites => exact .recorded hfree hre hwrites ⟨le_rfl, rfl, hfree, rfl⟩
    · exact .refused hfree (by rw [hre]; rfl) (by simp [hre]) ⟨le_rfl, rfl, hfree, rfl⟩
  · cases h

theorem transition_of_unhealthyDecision {p : Policy}
    (hpolicy : normalizedPolicy lib policy = some p) (hfree : s.holder = .free) :
    Transition lib policy s (s.unhealthyDecision lib p) .unhealthy := by
  unfold RestartState.unhealthyDecision
  split
  · exact .ignored hfree ⟨le_rfl, rfl, hfree, rfl⟩
  · next hcalm =>
    have hblocked : s.status.blockedReason = none := by
      by_contra hne
      exact hcalm (.inr (.inr hne))
    cases hprepare : PrepareAttempt lib p { s.status with lastReason := some .healthCheckFailed }
        s.now with
    | mk next shouldAttempt =>
      simp only [hprepare]
      cases shouldAttempt with
      | true =>
        have hrunning : s.state = .running := not_not.mp fun hne => hcalm (.inl hne)
        exact .replaces hfree hrunning hpolicy hblocked hprepare ⟨le_rfl, rfl, rfl, rfl⟩
      | false => exact .postponed hfree hpolicy hblocked hprepare ⟨le_rfl, rfl, hfree, rfl⟩

/-- **One step.** -/
theorem transition_of_step {e : RestartEvent} (h : s.step lib policy e = some s') :
    Transition lib policy s s' e := by
  cases e with simp only [RestartState.step, Option.ite_none_right_eq_some] at h
  | elapse d =>
    cases h
    exact .elapse ⟨Int.le_add_of_nonneg_right (Int.natCast_nonneg d), rfl, rfl, rfl⟩
  | observe state exitCode startedAt =>
    cases h
    exact .observe ⟨le_rfl, rfl, rfl, rfl⟩
  | load =>
    obtain ⟨hre, h⟩ := h
    cases h
    exact .load hre ⟨le_rfl, rfl, rfl, rfl⟩
  | derive =>
    split at h
    · next hre =>
      cases h
      exact .derive hre ⟨le_rfl, rfl, rfl, rfl⟩
    · cases h
  | decide =>
    split at h
    · next stored state hre =>
      split at h
      · next p hpolicy =>
        cases h
        exact .decide hre (decides_reconcileRestartPolicyInstance hpolicy stored state s.now)
          ⟨le_rfl, rfl, rfl, rfl⟩
      · cases h
        exact .decide hre .idle ⟨le_rfl, rfl, rfl, rfl⟩
    · cases h
  | write =>
    exact transition_of_reconcilerWrite h.1 h.2
  | restart ok =>
    split at h
    · next next now p hre hpolicy =>
      obtain ⟨hfree, h⟩ := Option.ite_none_right_eq_some.mp h
      obtain ⟨hnow, hstatus, hholder, -⟩ := startInstance_moves (s := s) ok
      cases hok : (s.startInstance ok).2 with
      | true =>
        cases h
        exact .restarted hfree hre ⟨hnow, hstatus, hholder.trans hfree, by simp [hok]⟩
      | false =>
        cases h
        exact .restartFailed hfree hpolicy hre hok
          ⟨hnow, hstatus, hholder.trans hfree, by simp [hok]⟩
    · cases h
  | stop =>
    obtain ⟨hfree, h⟩ := h
    cases h
    obtain ⟨hnow, hre⟩ := markRestartManualStopLocked_frame (s := s) policy
    exact .stop hfree rfl ⟨hnow, rfl, rfl, hre⟩
  | stopped ok =>
    obtain ⟨hholder, h⟩ := h
    obtain ⟨hnow, hstatus, -, hre⟩ := stopInstance_moves (s := s) ok
    cases h
    exact .stopped hholder ⟨hnow, hstatus, rfl, hre⟩
  | start overrides =>
    obtain ⟨hfree, h⟩ := h
    cases h
    refine .start hfree ?_ ⟨le_rfl, rfl, rfl, rfl⟩
    split
    · exact .inl rfl
    · exact .inr rfl
  | started ok =>
    obtain ⟨hholder, h⟩ := h
    obtain ⟨hnow, hstatus, -, hre⟩ := startInstance_moves (s := s) ok
    cases h
    exact .started hholder ⟨hnow, hstatus, rfl, hre⟩
  | unhealthy =>
    obtain ⟨hfree, h⟩ := h
    split at h
    · next p hpolicy =>
      cases h
      exact transition_of_unhealthyDecision hpolicy hfree
    · cases h
      exact .ignored hfree ⟨le_rfl, rfl, hfree, rfl⟩
  | replaceStop ok =>
    split at h
    · next next now p hholder hpolicy =>
      obtain ⟨hnow, hstatus, -, hre⟩ := stopInstance_moves (s := s) ok
      cases hok : (s.stopInstance ok).2 with
      | true =>
        simp only [hok, if_true] at h
        cases h
        exact .replaceStopped hholder ⟨hnow, hstatus, rfl, hre⟩
      | false =>
        simp only [hok] at h
        cases h
        exact .replaceStopFailed hpolicy hholder ⟨hnow, rfl, rfl, hre⟩
    · cases h
  | replaceStart ok =>
    split at h
    · next next now p hholder hpolicy =>
      obtain ⟨hnow, hstatus, -, hre⟩ := startInstance_moves (s := s) ok
      cases hok : (s.startInstance ok).2 with
      | true =>
        simp only [hok, if_true] at h
        cases h
        exact .replaced hholder ⟨hnow, hstatus, rfl, hre⟩
      | false =>
        simp only [hok] at h
        cases h
        exact .replaceStartFailed hpolicy hholder hok ⟨hnow, rfl, rfl, hre⟩
    · cases h

end Inversion

end Instances

namespace RestartPolicy

/-! ## Calls one after the other -/

section Calls

/-- A call that changes the status, at `now`. -/
inductive StatusCall
  | prepare (now : Int)
  | failed (now : Int)
deriving DecidableEq, Repr

variable (lib : StdLib) (policy : Policy)

def statusAfter (status : Status) : List StatusCall → Status
  | [] => status
  | .prepare now :: calls => statusAfter (PrepareAttempt lib policy status now).1 calls
  | .failed now :: calls => statusAfter (AfterFailedAttempt lib policy status now) calls

def allowedAttempts (status : Status) : List StatusCall → List Int
  | [] => []
  | .prepare now :: calls =>
    let (next, shouldAttempt) := PrepareAttempt lib policy status now
    if shouldAttempt then now :: allowedAttempts next calls else allowedAttempts next calls
  | .failed now :: calls => allowedAttempts (AfterFailedAttempt lib policy status now) calls

variable {lib policy}

theorem allowedAttempts_blocked {status : Status} (h : status.blockedReason ≠ none)
    (calls : List StatusCall) :
    allowedAttempts lib policy status calls = [] := by
  induction calls generalizing status with
  | nil => rfl
  | cons call calls ih =>
    cases call with
    | prepare now =>
      rw [allowedAttempts, PrepareAttempt_blocked h]
      exact ih h
    | failed now => exact ih (AfterFailedAttempt_blocked h)

/-- As many attempts are allowed as the status leaves. -/
theorem length_allowedAttempts_le (hmax : 0 < policy.maxAttempts) (status : Status)
    (calls : List StatusCall) :
    ((allowedAttempts lib policy status calls).length : Int) ≤
      max 0 (policy.maxAttempts - status.attempts) := by
  induction calls generalizing status with
  | nil => exact le_max_left _ _
  | cons call calls ih =>
    cases call with
    | prepare now =>
      rcases hprepare : PrepareAttempt lib policy status now with ⟨next, _ | _⟩
      · have hrest := ih next
        rw [(PrepareAttempt_false hprepare).1] at hrest
        rwa [allowedAttempts, hprepare]
      · obtain ⟨-, -, hleft, rfl⟩ := PrepareAttempt_true hprepare
        have hleft := hleft hmax
        have hrest := ih { status with
          attempts := status.attempts + 1, lastAttemptAt := some now, nextAttemptAt := none }
        rw [allowedAttempts, hprepare]
        simp only [if_true, List.length_cons] at hrest ⊢
        omega
    | failed now =>
      have hrest := ih (AfterFailedAttempt lib policy status now)
      rwa [AfterFailedAttempt_counts.1] at hrest

/-- The attempts keep the backoff, also from the one that the status records. -/
theorem allowedAttempts_spaced (status : Status) (calls : List StatusCall) :
    (∀ last ∈ status.lastAttemptAt, ∀ first ∈ (allowedAttempts lib policy status calls).head?,
      last + Backoff lib policy ≤ first) ∧
    (allowedAttempts lib policy status calls).IsChain
      fun earlier later => earlier + Backoff lib policy ≤ later := by
  induction calls generalizing status with
  | nil => exact ⟨fun last _ first hfirst => absurd hfirst (Option.not_mem_none first), .nil⟩
  | cons call calls ih =>
    cases call with
    | prepare now =>
      rcases hprepare : PrepareAttempt lib policy status now with ⟨next, _ | _⟩
      · have hrest := ih next
        rw [(PrepareAttempt_false hprepare).2] at hrest
        rwa [allowedAttempts, hprepare]
      · obtain ⟨-, hdue, -, rfl⟩ := PrepareAttempt_true hprepare
        rw [allowedAttempts, hprepare]
        refine ⟨?_, List.isChain_cons.mpr ⟨(ih _).1 now rfl, (ih _).2⟩⟩
        rintro last hlast first ⟨⟩
        exact hdue last hlast
    | failed now =>
      have hrest := ih (AfterFailedAttempt lib policy status now)
      rwa [AfterFailedAttempt_counts.2] at hrest

theorem allowedAttempts_append (status : Status) (before after : List StatusCall) :
    allowedAttempts lib policy status (before ++ after) =
      allowedAttempts lib policy status before ++
        allowedAttempts lib policy (statusAfter lib policy status before) after := by
  induction before generalizing status with
  | nil => rfl
  | cons call before ih =>
    cases call with
    | prepare now =>
      rcases hprepare : PrepareAttempt lib policy status now with ⟨next, _ | _⟩
      · simpa only [List.cons_append, allowedAttempts, statusAfter, hprepare, Bool.false_eq_true,
          if_false] using ih next
      · simpa only [List.cons_append, allowedAttempts, statusAfter, hprepare, if_true]
          using congrArg (now :: ·) (ih next)
    | failed now => exact ih _

/-- Whatever calls are made on a status that counts its attempts from zero on: at most `maxAttempts`
attempts are allowed, they keep the backoff, and after one that is refused because there are none
left no other is allowed. -/
theorem allowedAttempts_limited (lib : StdLib) (policy : Policy) (status : Status)
    (calls : List StatusCall) (hattempts : 0 ≤ status.attempts) :
    (0 < policy.maxAttempts →
      ((allowedAttempts lib policy status calls).length : Int) ≤ policy.maxAttempts) ∧
    ((allowedAttempts lib policy status calls).IsChain
      fun earlier later => earlier + Backoff lib policy ≤ later) ∧
    ∀ before now after next, calls = before ++ .prepare now :: after →
      PrepareAttempt lib policy (statusAfter lib policy status before) now = (next, false) →
      next.blockedReason = some .maxAttemptsExceeded →
      allowedAttempts lib policy status calls = allowedAttempts lib policy status before := by
  refine ⟨fun hmax => ?_, (allowedAttempts_spaced status calls).2, ?_⟩
  · have hcount : ((allowedAttempts lib policy status calls).length : Int) ≤
        max 0 (policy.maxAttempts - status.attempts) := length_allowedAttempts_le hmax status calls
    omega
  · rintro before now after next rfl hrefused hblocked
    have hnone : allowedAttempts lib policy next after = [] :=
      allowedAttempts_blocked (by simp [hblocked]) after
    rw [allowedAttempts_append, allowedAttempts, hrefused]
    simpa using hnone

/-- With one attempt, the second call is too early and the third finds none left. -/
theorem allowedAttempts_limited_once :
    allowedAttempts Instances.restartLib ⟨.always, "5s", 1, "10m0s"⟩ {}
      [.prepare 0, .prepare 1, .prepare 5000000000, .prepare 9000000000] = [0] ∧
    ((allowedAttempts Instances.restartLib ⟨.always, "5s", 1, "10m0s"⟩ {}
      [.prepare 0, .prepare 1, .prepare 5000000000, .prepare 9000000000]).length : Int) ≤ 1 :=
  ⟨by decide +kernel, (allowedAttempts_limited Instances.restartLib ⟨.always, "5s", 1, "10m0s"⟩ {}
    [.prepare 0, .prepare 1, .prepare 5000000000, .prepare 9000000000] (by decide)).1 (by decide)⟩

/-- A status with a negative number of attempts gets more of them than `maxAttempts`. -/
theorem negative_attempts_exceed :
    Instances.normalizedPolicy Instances.restartLib (some (Instances.restartAlways 1)) =
      some ⟨.always, "5s", 1, "10m0s"⟩ ∧
    allowedAttempts Instances.restartLib ⟨.always, "5s", 1, "10m0s"⟩ { attempts := -1 }
      [.prepare 0, .failed 0, .prepare 5000000000, .failed 5000000000] = [0, 5000000000] := by
  decide +kernel

end Calls

end RestartPolicy

end Hypeman
