import Hypeman.AutoStandby.Controller
import Hypeman.Foundations.System

/-!
# Interleavings of the auto-standby controller's steps

The controller as one instance sees it: its state, the clock, the event loop and the standby
workers. The loop of `Run` handles one thing at a time, but `handleStandbyTimer` gives up the lock
twice, and the workers and `HoldStandby` run beside it; a step here is one section under the lock,
or the call of `StandbyInstance`. The refreshes of `startupResync`, `periodicSnapshotSync` and
`handleInstanceEvent` are one event, with any instance record: they differ in where the record
comes from and in when the clock is read, and the clock may be read before the lock is taken but
not before the loop has finished its previous step. Timers and reconciliations may fire at any
time, also after they have been cancelled.
-/

namespace Hypeman.AutoStandby

open Foundations

/-- Where the event loop is: between steps, or in `handleStandbyTimer` before the confirmation or
after it. -/
inductive LoopPhase
  | ready
  | confirming
  | requesting
deriving DecidableEq, Repr

/-- The controller, as seen from one instance. -/
structure Controller (A : Type) where
  /-- The entry of the instance in `states`. -/
  state : Option (ControllerState A)
  now : Int
  /-- When the event loop finished its last step. -/
  loopAt : Int
  loop : LoopPhase
  /-- Workers of the instance that have not begun, for instance because they wait for a slot. -/
  queued : Nat
  /-- Workers that have marked the state as executing and have not called `StandbyInstance`. -/
  claimed : Nat
  /-- Workers inside `StandbyInstance`. -/
  called : Nat
  /-- Workers that have handled the result and have not run their deferred function. -/
  returned : Nat
deriving DecidableEq

/-- The steps that concern the instance. -/
inductive Event (A : Type)
  | elapse (time : Nat)
  | refresh (inst : Instance) (conns : List (Connection A)) (time : Int)
  | removed
  | connection (event : ConnectionEvent A)
  | reconcile (listing : Except String (List (Connection A))) (time : Int)
  | timer
  | confirm (listing : Except String (List (Connection A)))
  | request
  | claim
  | abandon
  | call
  | standbyReturned (result : StandbyResult)
  | release
  | hold (inst : Instance) (time : Int)

variable {A : Type} [DecidableEq A] (lib : NetLib A) (reconcileDelay D : Int)

/-- The idle timeout that a record of the instance sets, if it sets one, is `D`. -/
def recordTimeoutIs (inst : Instance) : Prop :=
  match compilePolicy lib inst.autoStandby with
  | .ok (some compiled) => compiled.idleTimeout = D
  | _ => True

instance (inst : Instance) : Decidable (recordTimeoutIs lib D inst) :=
  match h : compilePolicy lib inst.autoStandby with
  | .ok (some compiled) =>
    decidable_of_iff (compiled.idleTimeout = D) (by simp only [recordTimeoutIs, h])
  | .ok none => isTrue (by simp only [recordTimeoutIs, h])
  | .error _ => isTrue (by simp only [recordTimeoutIs, h])

namespace Controller

/-- A controller that has not heard of the instance. -/
def start (now : Int) : Controller A := ⟨none, now, now, .ready, 0, 0, 0, 0⟩

variable (c : Controller A)

def tracked : Bool := c.state.any (·.compiledPolicy.isSome)

/-- The clock reading `time` was taken since the last step of the event loop. -/
def readSince (time : Int) : Prop := c.loop = .ready ∧ c.loopAt ≤ time ∧ time ≤ c.now

instance (time : Int) : Decidable (c.readSince time) := inferInstanceAs (Decidable (_ ∧ _))

/-- The event loop finishes a step that leaves `state`. -/
def loopDone (state : Option (ControllerState A)) : Controller A :=
  { c with state := state, loop := .ready, loopAt := c.now }

/-- One step of the controller; `none` if it cannot happen now. -/
def step (c : Controller A) : Event A → Option (Controller A)
  | .elapse time => some { c with now := c.now + time }
  | .refresh inst conns time =>
    if c.readSince time ∧ recordTimeoutIs lib D inst then
      some (c.loopDone (some ((c.state.getD {}).refresh lib reconcileDelay inst conns time).1))
    else none
  | .removed => if c.loop = .ready then some (c.loopDone none) else none
  | .connection event =>
    if c.loop = .ready ∧ event.observedAt.all (· ≤ c.now) then
      some (c.loopDone (c.state.map fun st =>
        (st.handleConnectionEvent lib reconcileDelay event c.now).1))
    else none
  | .reconcile listing time =>
    if c.readSince time then
      some (c.loopDone (c.state.map fun st =>
        (st.handleActiveReconcile lib reconcileDelay listing time).1))
    else none
  | .timer =>
    if c.loop = .ready then
      match c.state.map fun st => st.timerFired c.now with
      | some (st, true) => some { c with state := some st, loop := .confirming, loopAt := c.now }
      | some (st, false) => some (c.loopDone (some st))
      | none => some (c.loopDone none)
    else none
  | .confirm listing =>
    if c.loop = .confirming then
      match c.state.map fun st => st.confirmIdle lib reconcileDelay listing c.now with
      | some (st, _, true) => some { c with state := some st, loop := .requesting, loopAt := c.now }
      | some (st, _, false) => some (c.loopDone (some st))
      | none => some (c.loopDone none)
    else none
  | .request =>
    if c.loop = .requesting then
      match c.state.map fun st => st.requestStandby c.now with
      | some (st, true) => some { c.loopDone (some st) with queued := c.queued + 1 }
      | some (st, false) => some (c.loopDone (some st))
      | none => some (c.loopDone none)
    else none
  | .claim =>
    if 0 < c.queued then
      match c.state.map fun st => st.claimStandby with
      | some (st, true) =>
        some { c with state := some st, queued := c.queued - 1, claimed := c.claimed + 1 }
      | some (st, false) => some { c with state := some st, queued := c.queued - 1 }
      | none => some { c with queued := c.queued - 1 }
    else none
  | .abandon => if 0 < c.queued then some { c with queued := c.queued - 1 } else none
  | .call =>
    if 0 < c.claimed then some { c with claimed := c.claimed - 1, called := c.called + 1 }
    else none
  | .standbyReturned result =>
    if 0 < c.called then
      some { c with
        state := c.state.bind fun st => (st.standbyReturned result c.now).1
        called := c.called - 1, returned := c.returned + 1 }
    else none
  | .release =>
    if 0 < c.returned then
      some { c with
        state := c.state.map fun st => { st with standbyExecuting := false }
        returned := c.returned - 1 }
    else none
  | .hold inst time =>
    if time ≤ c.now then some { c with state := (HoldStandby lib c.state inst time).1 } else none

/-! ## What the controller observes -/

/-- The listing contains a connection that matches the instance record and policy. -/
def listed (inst : Instance) (compiled : CompiledPolicy) (conns : List (Connection A)) : Bool :=
  match matchingConnections lib inst compiled conns with
  | .ok activeSet => activeSet ≠ ∅
  | .error _ => false

/-- The listing contains a connection that matches the tracked instance. -/
def lists (st : ControllerState A) (conns : List (Connection A)) : Bool :=
  st.compiledPolicy.any fun policy => listed lib st.inst policy conns

variable {lib} in
theorem lists_iff {st : ControllerState A} {conns : List (Connection A)} {policy : CompiledPolicy}
    {activeSet : Finset (ConnectionKey A)} (hpolicy : st.compiledPolicy = some policy)
    (hmatch : matchingConnections lib st.inst policy conns = .ok activeSet) :
    lists lib st conns = true ↔ activeSet ≠ ∅ := by
  simp [lists, hpolicy, listed, hmatch]

/-- The event reports an active connection that matches the tracked instance. -/
def reports (st : ControllerState A) (event : ConnectionEvent A) : Bool :=
  st.compiledPolicy.any fun policy => event.type = .new && event.connection.tcpState.Active &&
    matchesInboundConnectionForEvent lib st.inst policy event.connection

/-- The refresh finds that the record is eligible and the listing contains a match for it. -/
def refreshLists (inst : Instance) (conns : List (Connection A)) : Bool :=
  eligible inst && match compilePolicy lib inst.autoStandby with
    | .ok (some compiled) => listed lib inst compiled conns
    | _ => false

/-- The time at which a step observes a matching active inbound connection of the instance, if it
does: an event in an active state, or a listing that contains such a connection, whether or not the
step acts on it. -/
def observes : Event A → Option Int
  | .refresh inst conns time => if refreshLists lib inst conns then some time else none
  | .connection event =>
    if c.state.any (reports lib · event) then some (event.observedAt.getD c.now) else none
  | .reconcile (.ok conns) time => if c.state.any (lists lib · conns) then some time else none
  | .confirm (.ok conns) => if c.state.any (lists lib · conns) then some c.now else none
  | _ => none

end Controller

/-- The runs of the controller from a time at which it does not know the instance. -/
def controllerSystem (start : Int) : System (Controller A) (Event A) where
  init := .start start
  step := Controller.step lib reconcileDelay D

end Hypeman.AutoStandby
