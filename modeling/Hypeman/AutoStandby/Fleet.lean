import Hypeman.AutoStandby.Sections

/-!
# The controller with all its instances

The states of all instances, the clock, the event loop and the standby workers with their slots. The
loop of `Run` handles one thing at a time and gives up the lock twice in `handleStandbyTimer`; the
workers and `HoldStandby` run beside it. A step is one section under the lock, a move of a worker,
or time that passes. Timers and reconciliations may fire at any time, also after they have been
cancelled, and a clock reading that is taken before the lock may be any time.

* `step_lookup`: what a step does to the entry of an instance is one section, or nothing.
* `step_workers`: what a step does to the workers and their slots.
-/

namespace Hypeman.AutoStandby

open Foundations

inductive WorkerPhase
  | waiting
  /-- With a slot, before the section that marks the state as executing. -/
  | acquired
  /-- The state is marked, and `StandbyInstance` is not called yet. -/
  | claimed
  /-- Inside `StandbyInstance`. -/
  | called
  /-- The result is handled, and the deferred function has not run. -/
  | returned
  /-- Out of `executeStandby`, still with the slot. -/
  | leaving
  | finished
deriving DecidableEq, Repr

/-- A goroutine that `handleStandbyTimer` has started for an instance. -/
structure Worker where
  id : String
  phase : WorkerPhase
deriving DecidableEq, Repr

/-- Where the event loop is: between steps, or in `handleStandbyTimer` for an instance. -/
inductive FleetLoop
  | ready
  | confirming (id : String)
  | requesting (id : String)
deriving DecidableEq, Repr

structure Fleet (A : Type) where
  states : Table String (ControllerState A)
  now : Int
  loop : FleetLoop
  /-- The number of entries in the channel `standbySlots`. -/
  slots : Nat
  /-- The workers started so far; a number stays with its worker. -/
  workers : List Worker
  /-- Whether the context of the workers is cancelled. -/
  cancelled : Bool

inductive FleetEvent (A : Type)
  | elapse (time : Nat)
  | refresh (inst : Instance) (conns : List (Connection A)) (time : Int)
  | removed (id : String)
  | connection (event : ConnectionEvent A) (time : Int)
  | reconcile (id : String) (listing : Except String (List (Connection A))) (time : Int)
  | timer (id : String)
  | confirm (listing : Except String (List (Connection A)))
  | request
  | hold (inst : Instance) (time : Int)
  | cancel
  | stopAllTimers
  | acquire (worker : Nat)
  | giveUp (worker : Nat)
  | claim (worker : Nat)
  | call (worker : Nat)
  | standbyReturned (worker : Nat) (result : StandbyResult)
  | release (worker : Nat)
  | leave (worker : Nat)

variable {A : Type} [DecidableEq A] (lib : NetLib A) (reconcileDelay : Int) (capacity : Nat)

namespace Fleet

/-- A controller that has not heard of any instance. -/
def start (now : Int) : Fleet A := ⟨∅, now, .ready, 0, [], false⟩

variable (c : Fleet A)

def put (id : String) (state : Option (ControllerState A)) : Fleet A := { c with
  states := match state with
    | some st => c.states.insert id st
    | none => c.states.erase id }

def act (id : String) (s : Section A) : Fleet A :=
  c.put id (s.run lib reconcileDelay c.now (c.states.lookup id)).1

/-- The test of a section on the entry of an instance; without an entry it fails. -/
def test (id : String) (check : ControllerState A → Bool) : Bool := (c.states.lookup id).any check

def move (worker : Nat) (w : Worker) (phase : WorkerPhase) : Fleet A :=
  { c with workers := c.workers.set worker { w with phase := phase } }

/-- A step of the event loop, if it is between steps. -/
def whenReady (next : Fleet A) : Option (Fleet A) := if c.loop = .ready then some next else none

/-- A step of a worker that is in the given phase. -/
def whenIn (worker : Nat) (phase : WorkerPhase) (next : Worker → Option (Fleet A)) :
    Option (Fleet A) :=
  match c.workers[worker]? with
  | some w => if w.phase = phase then next w else none
  | none => none

/-- One step of the controller; `none` if it cannot happen now. -/
def step (c : Fleet A) : FleetEvent A → Option (Fleet A)
  | .elapse time => some { c with now := c.now + time }
  | .refresh inst conns time =>
    c.whenReady (c.act lib reconcileDelay inst.id (.refresh inst conns time))
  | .removed id => c.whenReady (c.act lib reconcileDelay id .removed)
  | .connection event time =>
    c.whenReady { c with
      states := Table.mapValues
        (fun st => (st.handleConnectionEvent lib reconcileDelay event time).1) c.states }
  | .reconcile id listing time =>
    c.whenReady (c.act lib reconcileDelay id (.reconcile listing time))
  | .timer id =>
    c.whenReady { c.act lib reconcileDelay id .timer with
      loop := if c.test id fun st => (st.timerFired c.now).2 then .confirming id else .ready }
  | .confirm listing =>
    match c.loop with
    | .confirming id =>
      some { c.act lib reconcileDelay id (.confirm listing) with
        loop := if c.test id fun st => (st.confirmIdle lib reconcileDelay listing c.now).2.2
          then .requesting id else .ready }
    | _ => none
  | .request =>
    match c.loop with
    | .requesting id =>
      some { c.act lib reconcileDelay id .request with
        loop := .ready
        workers := if c.test id fun st => (st.requestStandby c.now).2
          then c.workers ++ [⟨id, .waiting⟩] else c.workers }
    | _ => none
  | .hold inst time => some (c.act lib reconcileDelay inst.id (.hold inst time))
  | .cancel => some { c with cancelled := true }
  | .stopAllTimers =>
    c.whenReady { c with
      states := Table.mapValues (fun st => st.cancelTimer.cancelReconcile) c.states }
  | .acquire k => c.whenIn k .waiting fun w =>
    if c.slots < capacity then some { c.move k w .acquired with slots := c.slots + 1 } else none
  | .giveUp k =>
    -- a worker that waits returns at once, one with a slot when it looks at its context
    if c.cancelled then
      (c.whenIn k .waiting fun w => some (c.move k w .finished)).or
        (c.whenIn k .acquired fun w => some (c.move k w .leaving))
    else none
  | .claim k => c.whenIn k .acquired fun w =>
    some ((c.act lib reconcileDelay w.id .claim).move k w
      (if c.test w.id fun st => st.claimStandby.2 then .claimed else .leaving))
  | .call k => c.whenIn k .claimed fun w => some (c.move k w .called)
  | .standbyReturned k result => c.whenIn k .called fun w =>
    some ((c.act lib reconcileDelay w.id (.returned result)).move k w .returned)
  | .release k => c.whenIn k .returned fun w =>
    some ((c.act lib reconcileDelay w.id .release).move k w .leaving)
  | .leave k => c.whenIn k .leaving fun w =>
    some { c.move k w .finished with slots := c.slots - 1 }

/-! ## What a step does to the entries -/

/-- The worker with the number is one of the instance. -/
def worksFor (k : Nat) (id : String) : Bool := c.workers[k]?.any (·.id = id)

/-- The section that a step runs on the entry of an instance, if it runs one. -/
def sectionOn (id : String) : FleetEvent A → Option (Section A)
  | .refresh inst conns time => if id = inst.id then some (.refresh inst conns time) else none
  | .removed id' => if id = id' then some .removed else none
  | .connection event time => some (.connection event time)
  | .reconcile id' listing time => if id = id' then some (.reconcile listing time) else none
  | .timer id' => if id = id' then some .timer else none
  | .confirm listing => if c.loop = .confirming id then some (.confirm listing) else none
  | .request => if c.loop = .requesting id then some .request else none
  | .hold inst time => if id = inst.id then some (.hold inst time) else none
  | .stopAllTimers => some .stopTimers
  | .claim k => if c.worksFor k id then some .claim else none
  | .standbyReturned k result => if c.worksFor k id then some (.returned result) else none
  | .release k => if c.worksFor k id then some .release else none
  | _ => none

variable {c} {c' : Fleet A} {e : FleetEvent A} {k : Nat} {id : String} {s : Section A}

omit [DecidableEq A] in
theorem whenReady_eq_some {next : Fleet A} (h : c.whenReady next = some c') :
    c.loop = .ready ∧ next = c' := by
  unfold whenReady at h
  split at h
  next hready => exact ⟨hready, Option.some.inj h⟩
  next => cases h

omit [DecidableEq A] in
theorem whenIn_eq_some {phase : WorkerPhase} {next : Worker → Option (Fleet A)}
    (h : c.whenIn k phase next = some c') :
    ∃ w, c.workers[k]? = some w ∧ w.phase = phase ∧ next w = some c' := by
  unfold whenIn at h
  split at h
  next w hw =>
    split at h
    next hphase => exact ⟨w, hw, hphase, h⟩
    next => cases h
  next => cases h

/-- A worker gives up while it waits or when it has a slot. -/
theorem giveUp_eq_some (h : c.step lib reconcileDelay capacity (.giveUp k) = some c') :
    c.cancelled = true ∧ ∃ w, c.workers[k]? = some w ∧
      (w.phase = .waiting ∧ c.move k w .finished = c' ∨
        w.phase = .acquired ∧ c.move k w .leaving = c') := by
  simp only [step, Option.ite_none_right_eq_some] at h
  obtain ⟨hcancelled, h⟩ := h
  refine ⟨hcancelled, ?_⟩
  rcases Option.or_eq_some_iff.mp h with h | ⟨-, h⟩
  · obtain ⟨w, hw, hphase, h⟩ := whenIn_eq_some h
    exact ⟨w, hw, .inl ⟨hphase, Option.some.inj h⟩⟩
  · obtain ⟨w, hw, hphase, h⟩ := whenIn_eq_some h
    exact ⟨w, hw, .inr ⟨hphase, Option.some.inj h⟩⟩

omit [DecidableEq A] in
theorem worksFor_iff {w : Worker} (hw : c.workers[k]? = some w) :
    c.worksFor k id = true ↔ w.id = id := by
  simp [worksFor, hw]

omit [DecidableEq A] in
theorem of_sectionOn_reconcile {listing : Except String (List (Connection A))} {time : Int}
    (h : c.sectionOn id e = some (.reconcile listing time)) : e = .reconcile id listing time := by
  cases e with
  | reconcile id' listing' time' =>
    simp only [sectionOn, Option.ite_none_right_eq_some] at h
    obtain ⟨rfl, ⟨⟩⟩ := h
    rfl
  | _ => simp [sectionOn] at h

omit [DecidableEq A] in
theorem of_sectionOn_hold {inst : Instance} {time : Int}
    (h : c.sectionOn id e = some (.hold inst time)) : e = .hold inst time ∧ id = inst.id := by
  cases e with
  | hold inst' time' =>
    simp only [sectionOn, Option.ite_none_right_eq_some] at h
    obtain ⟨rfl, ⟨⟩⟩ := h
    exact ⟨rfl, rfl⟩
  | _ => simp [sectionOn] at h

theorem lookup_act (id' : String) : (c.act lib reconcileDelay id s).states.lookup id' =
    if id' = id then (s.run lib reconcileDelay c.now (c.states.lookup id)).1
    else c.states.lookup id' := by
  unfold act put
  dsimp only
  split
  next st hst => rw [hst, Table.lookup_insert]
  next hst => rw [hst, Table.lookup_erase]

/-- A section on one entry, in the form of `sectionOn`. -/
theorem lookup_act_section (id id' : String) :
    (c.act lib reconcileDelay id' s).states.lookup id =
      match (if id = id' then some s else none : Option (Section A)) with
      | some s => (s.run lib reconcileDelay c.now (c.states.lookup id)).1
      | none => c.states.lookup id := by
  rw [lookup_act]
  split
  next h => rw [h]
  next => rfl

variable {lib reconcileDelay capacity} in
/-- **The entry of an instance after a step**: one section has run on it, or none. -/
theorem step_lookup (h : c.step lib reconcileDelay capacity e = some c') (id : String) :
    c'.states.lookup id = match c.sectionOn id e with
      | some s => (s.run lib reconcileDelay c.now (c.states.lookup id)).1
      | none => c.states.lookup id := by
  cases e with
  | elapse time =>
    cases h
    rfl
  | refresh | removed | reconcile | timer =>
    obtain ⟨-, rfl⟩ := whenReady_eq_some h
    exact lookup_act_section lib reconcileDelay id _
  | connection event time =>
    obtain ⟨-, rfl⟩ := whenReady_eq_some h
    rw [Table.lookup_mapValues]
    cases hst : c.states.lookup id <;> rfl
  | confirm listing =>
    simp only [step] at h
    split at h
    next id' hloop =>
      cases h
      simp only [sectionOn, hloop, FleetLoop.confirming.injEq, eq_comm (a := id')]
      exact lookup_act_section lib reconcileDelay id id'
    next => cases h
  | request =>
    simp only [step] at h
    split at h
    next id' hloop =>
      cases h
      simp only [sectionOn, hloop, FleetLoop.requesting.injEq, eq_comm (a := id')]
      exact lookup_act_section lib reconcileDelay id id'
    next => cases h
  | hold inst time =>
    cases h
    exact lookup_act_section lib reconcileDelay id inst.id
  | cancel =>
    cases h
    rfl
  | stopAllTimers =>
    obtain ⟨-, rfl⟩ := whenReady_eq_some h
    exact Table.lookup_mapValues _ _ _
  | acquire k =>
    obtain ⟨w, -, -, h⟩ := whenIn_eq_some h
    split at h
    · cases h
      rfl
    · cases h
  | giveUp k =>
    obtain ⟨-, w, -, ⟨-, rfl⟩ | ⟨-, rfl⟩⟩ := giveUp_eq_some lib reconcileDelay capacity h <;> rfl
  | claim | standbyReturned | release =>
    obtain ⟨w, hw, -, h⟩ := whenIn_eq_some h
    cases h
    simp only [sectionOn, worksFor_iff hw, eq_comm (a := w.id)]
    exact lookup_act_section lib reconcileDelay id w.id
  | call | leave =>
    obtain ⟨w, -, -, h⟩ := whenIn_eq_some h
    cases h
    rfl

/-! ## What a step does to the workers -/

/-- The step is one of a worker, or may start one. -/
def ofWorker : FleetEvent A → Bool
  | .request | .acquire _ | .giveUp _ | .claim _ | .call _ | .standbyReturned .. | .release _
  | .leave _ => true
  | _ => false

/-- A worker moves to a phase, with its slot if it has one or without. -/
inductive Moves (c : Fleet A) : FleetEvent A → Nat → Worker → WorkerPhase → Prop
  | gaveUp (k : Nat) (w : Worker) : c.cancelled = true → w.phase = .waiting →
      Moves c (.giveUp k) k w .finished
  | quit (k : Nat) (w : Worker) : c.cancelled = true → w.phase = .acquired →
      Moves c (.giveUp k) k w .leaving
  | claimed (k : Nat) (w : Worker) : w.phase = .acquired →
      (c.test w.id fun st => st.claimStandby.2) = true → Moves c (.claim k) k w .claimed
  | declined (k : Nat) (w : Worker) : w.phase = .acquired →
      (c.test w.id fun st => st.claimStandby.2) = false → Moves c (.claim k) k w .leaving
  | called (k : Nat) (w : Worker) : w.phase = .claimed → Moves c (.call k) k w .called
  | returned (k : Nat) (w : Worker) (result : StandbyResult) : w.phase = .called →
      Moves c (.standbyReturned k result) k w .returned
  | released (k : Nat) (w : Worker) : w.phase = .returned → Moves c (.release k) k w .leaving

inductive WorkerStep (c c' : Fleet A) : FleetEvent A → Prop
  | same (e : FleetEvent A) : ofWorker e = false → c'.workers = c.workers → c'.slots = c.slots →
      WorkerStep c c' e
  | started (id : String) : c.loop = .requesting id →
      (c.test id fun st => (st.requestStandby c.now).2) = true →
      c'.workers = c.workers ++ [⟨id, .waiting⟩] → c'.slots = c.slots → WorkerStep c c' .request
  | refused (id : String) : c.loop = .requesting id →
      (c.test id fun st => (st.requestStandby c.now).2) = false →
      c'.workers = c.workers → c'.slots = c.slots → WorkerStep c c' .request
  | acquired (k : Nat) (w : Worker) : c.workers[k]? = some w → w.phase = .waiting →
      c.slots < capacity → c'.workers = c.workers.set k { w with phase := .acquired } →
      c'.slots = c.slots + 1 → WorkerStep c c' (.acquire k)
  | moved (e : FleetEvent A) (k : Nat) (w : Worker) (phase : WorkerPhase) :
      c.workers[k]? = some w → Moves c e k w phase →
      c'.workers = c.workers.set k { w with phase := phase } → c'.slots = c.slots →
      WorkerStep c c' e
  | left (k : Nat) (w : Worker) : c.workers[k]? = some w → w.phase = .leaving →
      c'.workers = c.workers.set k { w with phase := .finished } → c'.slots = c.slots - 1 →
      WorkerStep c c' (.leave k)

variable {lib reconcileDelay capacity} in
/-- **The workers after a step.** -/
theorem step_workers (h : c.step lib reconcileDelay capacity e = some c') :
    WorkerStep capacity c c' e := by
  cases e with
  | elapse | hold | cancel =>
    cases h
    exact .same _ rfl rfl rfl
  | refresh | removed | connection | reconcile | timer | stopAllTimers =>
    obtain ⟨-, rfl⟩ := whenReady_eq_some h
    exact .same _ rfl rfl rfl
  | confirm listing =>
    simp only [step] at h
    split at h
    · cases h
      exact .same _ rfl rfl rfl
    · cases h
  | request =>
    simp only [step] at h
    split at h
    next id hloop =>
      cases h
      cases htest : c.test id fun st => (st.requestStandby c.now).2 with
      | true => exact .started id hloop htest rfl rfl
      | false => exact .refused id hloop htest rfl rfl
    next => cases h
  | acquire k =>
    obtain ⟨w, hw, hphase, h⟩ := whenIn_eq_some h
    split at h
    next hfree =>
      cases h
      exact .acquired k w hw hphase hfree rfl rfl
    next => cases h
  | giveUp k =>
    obtain ⟨hcancelled, w, hw, ⟨hphase, rfl⟩ | ⟨hphase, rfl⟩⟩ :=
      giveUp_eq_some lib reconcileDelay capacity h
    · exact .moved _ k w _ hw (.gaveUp k w hcancelled hphase) rfl rfl
    · exact .moved _ k w _ hw (.quit k w hcancelled hphase) rfl rfl
  | claim k =>
    obtain ⟨w, hw, hphase, h⟩ := whenIn_eq_some h
    cases h
    refine .moved _ k w _ hw ?_ rfl rfl
    cases htest : c.test w.id fun st => st.claimStandby.2 with
    | true => exact .claimed k w hphase htest
    | false => exact .declined k w hphase htest
  | call k =>
    obtain ⟨w, hw, hphase, h⟩ := whenIn_eq_some h
    cases h
    exact .moved _ k w _ hw (.called k w hphase) rfl rfl
  | standbyReturned k result =>
    obtain ⟨w, hw, hphase, h⟩ := whenIn_eq_some h
    cases h
    exact .moved _ k w _ hw (.returned k w result hphase) rfl rfl
  | release k =>
    obtain ⟨w, hw, hphase, h⟩ := whenIn_eq_some h
    cases h
    exact .moved _ k w _ hw (.released k w hphase) rfl rfl
  | leave k =>
    obtain ⟨w, hw, hphase, h⟩ := whenIn_eq_some h
    cases h
    exact .left k w hw hphase rfl rfl

/-- A worker that has claimed its standby had done so before the step, or does it now. -/
theorem step_claimed (h : c.step lib reconcileDelay capacity e = some c') {w : Worker}
    (hw : w ∈ c'.workers) (hphase : w.phase = .claimed) :
    w ∈ c.workers ∨ ∃ k, e = .claim k ∧ c.worksFor k w.id = true ∧
      (c.test w.id fun st => st.claimStandby.2) = true := by
  have hset : ∀ {k : Nat} {w' : Worker} {phase : WorkerPhase}, phase ≠ .claimed →
      c'.workers = c.workers.set k { w' with phase := phase } → w ∈ c.workers := by
    intro k w' phase hne heq
    rw [heq] at hw
    rcases List.mem_or_eq_of_mem_set hw with hmem | rfl
    · exact hmem
    · exact absurd hphase hne
  cases step_workers h with
  | same _ _ heq =>
    rw [heq] at hw
    exact .inl hw
  | refused _ _ _ heq =>
    rw [heq] at hw
    exact .inl hw
  | started id _ _ heq =>
    rw [heq] at hw
    rcases List.mem_append.mp hw with hmem | hnew
    · exact .inl hmem
    · obtain rfl := List.mem_singleton.mp hnew
      cases hphase
  | acquired k w' _ _ _ heq => exact .inl (hset (by decide) heq)
  | left k w' _ _ heq => exact .inl (hset (by decide) heq)
  | moved e k w' phase hget hmoves heq =>
    cases hmoves with
    | claimed _ _ _ htest =>
      rw [heq] at hw
      rcases List.mem_or_eq_of_mem_set hw with hmem | rfl
      · exact .inl hmem
      · exact .inr ⟨k, rfl, (worksFor_iff hget).mpr rfl, htest⟩
    | gaveUp | quit | declined | called | returned | released =>
      exact .inl (hset (by decide) heq)

/-- The clock does not go back, and a cancelled context stays so. -/
theorem step_clock (h : c.step lib reconcileDelay capacity e = some c') :
    c.now ≤ c'.now ∧ (c.cancelled = true → c'.cancelled = true) := by
  have hkept : c'.now = c.now → c'.cancelled = c.cancelled →
      c.now ≤ c'.now ∧ (c.cancelled = true → c'.cancelled = true) :=
    fun hnow hcancelled => ⟨hnow.ge, fun h => hcancelled.trans h⟩
  cases e with
  | elapse time =>
    cases h
    exact ⟨Int.le_add_of_nonneg_right (Int.natCast_nonneg time), fun h => h⟩
  | cancel =>
    cases h
    exact ⟨le_refl _, fun _ => rfl⟩
  | hold =>
    cases h
    exact hkept rfl rfl
  | refresh | removed | connection | reconcile | timer | stopAllTimers =>
    obtain ⟨-, rfl⟩ := whenReady_eq_some h
    exact hkept rfl rfl
  | confirm | request =>
    simp only [step] at h
    split at h
    · cases h
      exact hkept rfl rfl
    · cases h
  | acquire k =>
    obtain ⟨w, -, -, h⟩ := whenIn_eq_some h
    split at h
    · cases h
      exact hkept rfl rfl
    · cases h
  | giveUp k =>
    obtain ⟨-, w, -, ⟨-, rfl⟩ | ⟨-, rfl⟩⟩ := giveUp_eq_some lib reconcileDelay capacity h <;>
      exact hkept rfl rfl
  | claim | call | standbyReturned | release | leave =>
    obtain ⟨w, -, -, h⟩ := whenIn_eq_some h
    cases h
    exact hkept rfl rfl

end Fleet

/-- The runs of the controller from a time at which it knows no instance. -/
def fleetSystem (start : Int) : System (Fleet A) (FleetEvent A) where
  init := .start start
  step := Fleet.step lib reconcileDelay capacity

end Hypeman.AutoStandby
