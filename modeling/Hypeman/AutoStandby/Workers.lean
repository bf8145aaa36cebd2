import Hypeman.AutoStandby.Holds

/-!
# The workers, their slots and their marks

A worker takes a slot, marks the state as executing, calls `StandbyInstance`, handles the result,
takes the mark back and gives up the slot. For an instance that is not deleted, the state is marked
as executing exactly while one worker is between its claim and its release, and a standby that is
requested has a worker that will look at it. Only a worker whose context is cancelled returns
without looking at the state, and leaves the request.

* `workers_settle`: at most one worker of an instance is in `StandbyInstance`, the slots are those
  of the workers that have one, and finished workers leave no mark, except a request that was
  cancelled.
* `cancelled_worker_leaves_request`: a run that ends with such a request.
-/

namespace Hypeman.AutoStandby

open Foundations

namespace WorkerPhase

/-- The worker has an entry in `standbySlots`. -/
def holdsSlot : WorkerPhase → Bool
  | .acquired | .claimed | .called | .returned | .leaving => true
  | .waiting | .finished => false

/-- The worker has not looked at the request yet. -/
def queued : WorkerPhase → Bool
  | .waiting | .acquired => true
  | _ => false

/-- The worker has claimed the standby and not yet handled its result. -/
def running : WorkerPhase → Bool
  | .claimed | .called => true
  | _ => false

/-- The worker has handled the result and not yet taken back its mark. -/
def returning : WorkerPhase → Bool
  | .returned => true
  | _ => false

end WorkerPhase

variable {A : Type} [DecidableEq A] {lib : NetLib A} {reconcileDelay : Int} {capacity : Nat}

/-- The condition on the steps: the instance is not deleted, neither by an event nor to be found
missing by a worker. -/
def keepsInstance (id : String) (c : Fleet A) : FleetEvent A → Prop
  | .removed id' => id' ≠ id
  | .standbyReturned k .notFound => c.worksFor k id = false
  | _ => True

instance (id : String) (c : Fleet A) : (e : FleetEvent A) → Decidable (keepsInstance id c e)
  | .removed id' => inferInstanceAs (Decidable (id' ≠ id))
  | .standbyReturned k .notFound => inferInstanceAs (Decidable (c.worksFor k id = false))
  | .standbyReturned _ .ok | .standbyReturned _ .error
  | .elapse _ | .refresh .. | .connection .. | .reconcile .. | .timer _ | .confirm _ | .request
  | .hold .. | .cancel | .stopAllTimers | .acquire _ | .giveUp _ | .claim _ | .call _
  | .release _ | .leave _ => inferInstanceAs (Decidable True)

/-! ## Slots -/

/-- A worker is replaced: its share of a count is exchanged. -/
theorem countP_set_worker {workers : List Worker} {k : Nat} {w : Worker}
    (hw : workers[k]? = some w) (p : Worker → Bool) (w' : Worker) :
    (workers.set k w').countP p + (p w).toNat = workers.countP p + (p w').toNat := by
  obtain ⟨hlt, rfl⟩ := List.getElem?_eq_some_iff.mp hw
  have hmem : p workers[k] = true → 0 < workers.countP p :=
    fun hp => List.countP_pos_iff.mpr ⟨_, List.getElem_mem hlt, hp⟩
  rw [List.countP_set hlt]
  cases hp : p workers[k] with
  | false => cases p w' <;> simp
  | true =>
    have hpos := hmem hp
    cases p w' <;> simp <;> omega

def slotHolders (workers : List Worker) : Nat := workers.countP (·.phase.holdsSlot)

/-- The entries of `standbySlots` are those of the workers that have one, within the capacity. -/
structure Slotted (capacity : Nat) (c : Fleet A) : Prop where
  slots : c.slots = slotHolders c.workers
  bound : c.slots ≤ capacity

variable {c c' : Fleet A} {e : FleetEvent A}

theorem slotHolders_set {workers : List Worker} {k : Nat} {w : Worker}
    (hw : workers[k]? = some w) (phase : WorkerPhase) :
    slotHolders (workers.set k { w with phase := phase }) + w.phase.holdsSlot.toNat =
      slotHolders workers + phase.holdsSlot.toNat :=
  countP_set_worker hw _ _

theorem Slotted.step (h : Slotted capacity c)
    (hs : c.step lib reconcileDelay capacity e = some c') : Slotted capacity c' := by
  have hslots := h.slots
  have hbound := h.bound
  cases Fleet.step_workers hs with
  | same _ _ hworkers hsame | refused _ _ _ hworkers hsame =>
    refine ⟨?_, hsame ▸ hbound⟩
    rw [hworkers, hsame, hslots]
  | started id _ _ hworkers hsame =>
    refine ⟨?_, hsame ▸ hbound⟩
    rw [hworkers, hsame, hslots, slotHolders, slotHolders, List.countP_append]
    rfl
  | acquired k w hw hphase hfree hworkers hmore =>
    have hcount := slotHolders_set hw .acquired
    rw [hphase, ← hworkers] at hcount
    refine ⟨?_, by omega⟩
    rw [hmore, hslots]
    exact hcount.symm
  | moved _ k w phase hw hmoves hworkers hsame =>
    have hcount := slotHolders_set hw phase
    have hkept : phase.holdsSlot = w.phase.holdsSlot := by
      cases hmoves with
      | gaveUp _ _ _ hphase | quit _ _ _ hphase | claimed _ _ hphase | declined _ _ hphase
      | called _ _ hphase | returned _ _ _ hphase | released _ _ hphase => rw [hphase]; rfl
    rw [hkept, ← hworkers] at hcount
    exact ⟨by omega, by omega⟩
  | left k w hw hphase hworkers hless =>
    have hcount := slotHolders_set hw .finished
    rw [hphase, ← hworkers] at hcount
    have hcount : slotHolders c'.workers + 1 = slotHolders c.workers := hcount
    exact ⟨by omega, by omega⟩

/-! ## Marks -/

section Marks

variable {now : Int} {s : Section A} {state state' : Option (ControllerState A)}

def RequestTracked (state : Option (ControllerState A)) : Prop :=
  ∀ st ∈ state, st.standbyRequested = true → st.compiledPolicy ≠ none

theorem RequestTracked.outcome (h : RequestTracked state) (hs : Outcome lib now state s state') :
    RequestTracked state' := by
  intro st' hst' hrequested
  cases hs with
  | absent => cases hst'
  | removed => cases hst'
  | lost => cases hst'
  | cleared _ _ _ hcleared =>
    cases hst'
    rw [hcleared.requested] at hrequested
    cases hrequested
  | changed _ _ hchange =>
    cases hst'
    intro hnone
    have hrequested := hchange.requested hrequested
    cases state with
    | none => cases hrequested
    | some st => exact h st rfl hrequested (hchange.policy hnone).1
  | requested st hst hpolicy =>
    cases hst'
    exact hpolicy
  | claimed st hst hr =>
    cases hst'
    exact h st hst hr
  | released st hst =>
    cases hst'
    exact h st hst hrequested
  | held inst time =>
    cases hst'
    obtain ⟨next, timer, heq⟩ := hold_frame (state.getD {}) (holdDuration lib state inst) time
    rw [heq] at hrequested
    cases hrequested

/-- A section that moves no standby along keeps the mark of an executing standby, and makes no
request. -/
theorem Outcome.marks (hs : Outcome lib now state s state') (hpassive : s.passive = true) :
    state'.any (·.standbyExecuting) = state.any (·.standbyExecuting) ∧
      (state'.any (·.standbyRequested) = true → state.any (·.standbyRequested) = true) := by
  cases hs with
  | absent _ hnone => rw [hnone]; exact ⟨rfl, fun h => h⟩
  | removed | lost | requested | claimed | released => cases hpassive
  | cleared _ st' _ hcleared =>
    refine ⟨?_, fun h => ?_⟩
    · rw [Option.any_some, hcleared.executing]
      cases state <;> rfl
    · rw [Option.any_some, hcleared.requested] at h
      cases h
  | changed _ st' hchange =>
    refine ⟨?_, fun h => ?_⟩
    · rw [Option.any_some, hchange.executing]
      cases state <;> rfl
    · have hrequested := hchange.requested h
      cases state with
      | none => cases hrequested
      | some st => exact hrequested
  | held inst time hexecuting =>
    obtain ⟨next, timer, heq⟩ := hold_frame (state.getD {}) (holdDuration lib state inst) time
    rw [heq]
    refine ⟨?_, fun h => (nomatch h)⟩
    cases state <;> rfl

end Marks

variable {id : String}

open WorkerPhase (queued running returning)

/-- The number of workers of an instance whose phase satisfies a test. -/
def workersOf (id : String) (test : WorkerPhase → Bool) (workers : List Worker) : Nat :=
  workers.countP fun w => w.id = id && test w.phase

theorem workersOf_pos {test : WorkerPhase → Bool} {workers : List Worker} :
    0 < workersOf id test workers ↔ ∃ w ∈ workers, w.id = id ∧ test w.phase = true := by
  simp [workersOf, List.countP_pos_iff]

theorem workersOf_mono {test test' : WorkerPhase → Bool} (workers : List Worker)
    (himp : ∀ phase, test phase = true → test' phase = true) :
    workersOf id test workers ≤ workersOf id test' workers := by
  refine List.countP_mono_left fun w _ hw => ?_
  obtain ⟨hid, htest⟩ := Bool.and_eq_true_iff.mp hw
  exact Bool.and_eq_true_iff.mpr ⟨hid, himp _ htest⟩

theorem workersOf_finished (test : WorkerPhase → Bool) {workers : List Worker}
    (hdone : ∀ w ∈ workers, w.id = id → w.phase = .finished) (htest : test .finished = false) :
    workersOf id test workers = 0 := by
  refine Nat.eq_zero_of_not_pos fun hpos => ?_
  obtain ⟨w, hw, hid, hphase⟩ := workersOf_pos.mp hpos
  rw [hdone w hw hid, htest] at hphase
  cases hphase

theorem workersOf_set {workers workers' : List Worker} {k : Nat} {w : Worker}
    {phase phase' : WorkerPhase} (hw : workers[k]? = some w) (hid : w.id = id)
    (hphase : w.phase = phase) (hset : workers' = workers.set k { w with phase := phase' })
    (test : WorkerPhase → Bool) :
    workersOf id test workers' + (test phase).toNat =
      workersOf id test workers + (test phase').toNat := by
  have hcount :=
    countP_set_worker hw (fun w => w.id = id && test w.phase) { w with phase := phase' }
  subst hphase hset
  simpa [hid, workersOf] using hcount

theorem workersOf_set_of_ne {workers : List Worker} {k : Nat} {w : Worker}
    (hw : workers[k]? = some w) (hid : w.id ≠ id) (test : WorkerPhase → Bool)
    (phase : WorkerPhase) :
    workersOf id test (workers.set k { w with phase := phase }) = workersOf id test workers := by
  have hcount := countP_set_worker hw (fun w => w.id = id && test w.phase) { w with phase := phase }
  simpa [hid, workersOf] using hcount

/-- The marks of an instance agree with its workers: the state is marked as executing while one
worker is between its claim and its release, a request has a worker that will look at it, unless the
workers were told to stop, and none is made while a worker has still to take its mark back. -/
structure Marked (id : String) (c : Fleet A) : Prop where
  executing : workersOf id running c.workers + workersOf id returning c.workers =
    (c.test id (·.standbyExecuting)).toNat
  requested : c.test id (·.standbyRequested) = true → c.cancelled = true ∨
    0 < workersOf id queued c.workers + workersOf id running c.workers
  quiet : 0 < workersOf id returning c.workers →
    c.test id (·.standbyRequested) = false
  tracked : RequestTracked (c.states.lookup id)

theorem tracked_step (h : RequestTracked (c.states.lookup id))
    (hs : c.step lib reconcileDelay capacity e = some c') :
    RequestTracked (c'.states.lookup id) := by
  rw [Fleet.step_lookup hs id]
  split
  next s _ => exact h.outcome (s.outcome _)
  next => exact h

/-- A step that moves no standby of the instance along. -/
theorem Marked.kept (h : Marked id c) (hs : c.step lib reconcileDelay capacity e = some c')
    (hexecuting : c'.test id (·.standbyExecuting) = c.test id (·.standbyExecuting))
    (hrequested : c'.test id (·.standbyRequested) = true → c.test id (·.standbyRequested) = true)
    (hqueued : c'.cancelled = true ∨
      workersOf id queued c'.workers = workersOf id queued c.workers)
    (hrunning : workersOf id running c'.workers = workersOf id running c.workers)
    (hreturning : workersOf id returning c'.workers = workersOf id returning c.workers) :
    Marked id c' := by
  refine ⟨?_, fun hr => ?_, fun hpos => ?_, tracked_step h.tracked hs⟩
  · rw [hrunning, hreturning, hexecuting]
    exact h.executing
  · rcases hqueued with hcancelled | hqueued
    · exact .inl hcancelled
    · rw [hqueued, hrunning]
      exact (h.requested (hrequested hr)).imp_left
        (Fleet.step_clock lib reconcileDelay capacity hs).2
  · rw [hreturning] at hpos
    have hnot := h.quiet hpos
    cases hr : c'.test id (·.standbyRequested) with
    | false => rfl
    | true =>
      rw [hrequested hr] at hnot
      cases hnot

/-- A step with no section on the entry of the instance, or one that moves no standby along, beside
workers of the instance that stay where they are. -/
theorem Marked.passive (h : Marked id c) (hs : c.step lib reconcileDelay capacity e = some c')
    (hpassive : ∀ s, c.sectionOn id e = some s → s.passive = true)
    (hworkers : ∀ test, workersOf id test c'.workers = workersOf id test c.workers) :
    Marked id c' := by
  have hmarks : (c'.states.lookup id).any (·.standbyExecuting) =
        (c.states.lookup id).any (·.standbyExecuting) ∧
      ((c'.states.lookup id).any (·.standbyRequested) = true →
        (c.states.lookup id).any (·.standbyRequested) = true) := by
    rw [Fleet.step_lookup hs id]
    split
    next s hsection => exact (s.outcome _).marks (hpassive s hsection)
    next => exact ⟨rfl, fun h => h⟩
  exact h.kept hs hmarks.1 hmarks.2 (.inr (hworkers _)) (hworkers _) (hworkers _)

/-- A worker of another instance moves. -/
theorem Marked.other (h : Marked id c) (hs : c.step lib reconcileDelay capacity e = some c')
    {k : Nat} {w : Worker} {phase : WorkerPhase} (hw : c.workers[k]? = some w) (hid : w.id ≠ id)
    (hsection : c.sectionOn id e = none)
    (hworkers : c'.workers = c.workers.set k { w with phase := phase }) : Marked id c' := by
  refine h.passive hs (fun s hsome => ?_) fun test => ?_
  · rw [hsection] at hsome
    cases hsome
  · rw [hworkers]
    exact workersOf_set_of_ne hw hid test phase

/-- A worker moves and no section runs. -/
theorem Marked.moved (h : Marked id c) (hs : c.step lib reconcileDelay capacity e = some c')
    {k : Nat} {w : Worker} {phase : WorkerPhase} (hw : c.workers[k]? = some w)
    (hsection : c.sectionOn id e = none)
    (hqueued : c'.cancelled = true ∨ phase.queued = w.phase.queued)
    (hrunning : phase.running = w.phase.running) (hreturning : phase.returning = w.phase.returning)
    (hworkers : c'.workers = c.workers.set k { w with phase := phase }) : Marked id c' := by
  by_cases hid : w.id = id
  · have hlookup := Fleet.step_lookup hs id
    rw [hsection] at hlookup
    have hcount : ∀ test : WorkerPhase → Bool, test phase = test w.phase →
        workersOf id test c'.workers = workersOf id test c.workers := by
      intro test heq
      have hset := workersOf_set hw hid rfl hworkers test
      rw [heq] at hset
      exact Nat.add_right_cancel hset
    refine h.kept hs ?_ ?_ (hqueued.imp_right (hcount _)) (hcount _ hrunning) (hcount _ hreturning)
    · rw [Fleet.test, hlookup]
      rfl
    · rw [Fleet.test, hlookup]
      exact fun hr => hr
  · exact h.other hs hw hid hsection hworkers

/-! ## Steps that move a standby along -/

/-- The entry of the instance of a worker after a step of the worker. -/
theorem lookup_worker {k : Nat} {w : Worker} {s : Section A}
    (hs : c.step lib reconcileDelay capacity e = some c') (hw : c.workers[k]? = some w)
    (hid : w.id = id) (hsection : c.sectionOn id e = if c.worksFor k id then some s else none) :
    c'.states.lookup id = (s.run lib reconcileDelay c.now (c.states.lookup id)).1 := by
  rw [Fleet.step_lookup hs id, hsection,
    if_pos ((Fleet.worksFor_iff hw).mpr hid)]

omit [DecidableEq A] in
/-- No section runs on the entry of another instance. -/
theorem section_other {k : Nat} {w : Worker} {s : Section A} (hw : c.workers[k]? = some w)
    (hid : w.id ≠ id) (hsection : c.sectionOn id e = if c.worksFor k id then some s else none) :
    c.sectionOn id e = none := by
  rw [hsection, if_neg fun hworks => hid ((Fleet.worksFor_iff hw).mp hworks)]

omit [DecidableEq A] in
/-- While a worker is between its claim and its release there is a state with its mark. -/
theorem Marked.entry (h : Marked id c)
    (hpos : 0 < workersOf id running c.workers +
      workersOf id returning c.workers) :
    ∃ st, c.states.lookup id = some st ∧ st.standbyExecuting = true := by
  rw [h.executing, Fleet.test] at hpos
  cases hst : c.states.lookup id with
  | none =>
    rw [hst] at hpos
    exact absurd hpos (lt_irrefl 0)
  | some st =>
    refine ⟨st, rfl, ?_⟩
    cases hexecuting : st.standbyExecuting with
    | true => rfl
    | false =>
      rw [hst, Option.any_some, hexecuting] at hpos
      exact absurd hpos (lt_irrefl 0)

theorem Marked.claimed {k : Nat} {w : Worker} (h : Marked id c)
    (hs : c.step lib reconcileDelay capacity (.claim k) = some c')
    (hw : c.workers[k]? = some w) (hid : w.id = id) (hphase : w.phase = .acquired)
    (htest : (c.test id fun st => st.claimStandby.2) = true)
    (hworkers : c'.workers = c.workers.set k { w with phase := .claimed }) : Marked id c' := by
  have hexec := h.executing
  have hrunning : workersOf id running c'.workers = workersOf id running c.workers + 1 :=
    workersOf_set hw hid hphase hworkers running
  have hreturning : workersOf id returning c'.workers = workersOf id returning c.workers :=
    workersOf_set hw hid hphase hworkers returning
  have htracked := tracked_step h.tracked hs
  have hlookup := lookup_worker hs hw hid rfl
  cases hst : c.states.lookup id with
  | none =>
    rw [Fleet.test, hst] at htest
    cases htest
  | some st =>
    simp only [Fleet.test, hst, Option.any_some] at htest hexec
    simp only [hst, Section.run, Option.map_some] at hlookup
    generalize hclaim : st.claimStandby = claim at htest hlookup
    obtain ⟨st', claimed⟩ := claim
    obtain rfl : claimed = true := htest
    obtain ⟨rfl, -, -, hfree⟩ := ControllerState.of_claimStandby hclaim
    rw [hfree] at hexec
    have hexec : workersOf id running c.workers + workersOf id returning c.workers = 0 :=
      hexec
    refine ⟨?_, fun _ => .inr ?_, fun hpos => ?_, htracked⟩
    · rw [Fleet.test, hlookup]
      change _ = 1
      omega
    · omega
    · omega

/-- A worker leaves a request that it does not claim only if another worker executes it. -/
theorem Marked.declined {k : Nat} {w : Worker} (h : Marked id c)
    (hs : c.step lib reconcileDelay capacity (.claim k) = some c')
    (hw : c.workers[k]? = some w) (hid : w.id = id) (hphase : w.phase = .acquired)
    (htest : (c.test id fun st => st.claimStandby.2) = false)
    (hworkers : c'.workers = c.workers.set k { w with phase := .leaving }) : Marked id c' := by
  have hexec := h.executing
  have hquiet := h.quiet
  have hrunning : workersOf id running c'.workers = workersOf id running c.workers :=
    workersOf_set hw hid hphase hworkers running
  have hreturning : workersOf id returning c'.workers = workersOf id returning c.workers :=
    workersOf_set hw hid hphase hworkers returning
  have htracked := tracked_step h.tracked hs
  have hlookup := lookup_worker hs hw hid rfl
  cases hst : c.states.lookup id with
  | none =>
    simp only [hst, Section.run, Option.map_none] at hlookup
    refine ⟨?_, fun hr => ?_, fun _ => ?_, htracked⟩
    · rw [hrunning, hreturning, hexec, Fleet.test, Fleet.test, hst, hlookup]
    · rw [Fleet.test, hlookup] at hr
      cases hr
    · rw [Fleet.test, hlookup]
      rfl
  | some st =>
    simp only [Fleet.test, hst, Option.any_some] at htest hexec hquiet
    simp only [hst, Section.run, Option.map_some] at hlookup
    generalize hclaim : st.claimStandby = claim at htest hlookup
    obtain ⟨st', claimed⟩ := claim
    obtain rfl : claimed = false := htest
    rcases ControllerState.of_claimStandby_false hclaim with rfl | ⟨heq, hstop⟩
    · refine ⟨?_, fun hr => ?_, fun _ => ?_, htracked⟩
      · rw [hrunning, hreturning, hexec, Fleet.test, hlookup]
        rfl
      · rw [Fleet.test, hlookup] at hr
        cases hr
      · rw [Fleet.test, hlookup]
        rfl
    · rw [heq] at hlookup
      refine ⟨?_, fun hr => .inr ?_, fun hpos => ?_, htracked⟩
      · rw [hrunning, hreturning, hexec, Fleet.test, hlookup]
        rfl
      · rw [Fleet.test, hlookup] at hr
        have hr : st.standbyRequested = true := hr
        rcases hstop with hnone | hnot | hother
        · exact absurd hnone (h.tracked st hst hr)
        · rw [hr] at hnot
          cases hnot
        · -- the worker that executes the standby has not handled its result
          rw [hother] at hexec
          have hexec : workersOf id running c.workers +
              workersOf id returning c.workers = 1 := hexec
          have hnone : ¬ 0 < workersOf id returning c.workers := by
            intro hpos
            rw [hquiet hpos] at hr
            cases hr
          omega
      · rw [hreturning] at hpos
        rw [Fleet.test, hlookup]
        exact hquiet hpos

theorem Marked.claim {k : Nat} (h : Marked id c)
    (hs : c.step lib reconcileDelay capacity (.claim k) = some c') : Marked id c' := by
  cases Fleet.step_workers hs with
  | same _ hnot => cases hnot
  | moved _ k w phase hw hmoves hworkers _ =>
    by_cases hid : w.id = id
    · cases hmoves with
      | claimed _ _ hphase htest => exact h.claimed hs hw hid hphase (hid ▸ htest) hworkers
      | declined _ _ hphase htest => exact h.declined hs hw hid hphase (hid ▸ htest) hworkers
    · cases hmoves with
      | claimed | declined => exact h.other hs hw hid (section_other hw hid rfl) hworkers

theorem Marked.standbyReturned {k : Nat} {result : StandbyResult} (h : Marked id c)
    (hok : keepsInstance id c (.standbyReturned k result))
    (hs : c.step lib reconcileDelay capacity (.standbyReturned k result) = some c') :
    Marked id c' := by
  cases Fleet.step_workers hs with
  | same _ hnot => cases hnot
  | moved _ _ w phase hw hmoves hworkers _ =>
    cases hmoves with
    | returned _ _ _ hphase =>
      by_cases hid : w.id = id
      · have hexec := h.executing
        have hrunning : workersOf id running c'.workers + 1 =
            workersOf id running c.workers := workersOf_set hw hid hphase hworkers running
        have hreturning : workersOf id returning c'.workers =
            workersOf id returning c.workers + 1 := workersOf_set hw hid hphase hworkers returning
        have hmarks : c'.test id (·.standbyExecuting) = c.test id (·.standbyExecuting) ∧
            c'.test id (·.standbyRequested) = false := by
          obtain ⟨st, hst, -⟩ := h.entry (by omega)
          simp only [Fleet.test, lookup_worker hs hw hid rfl, hst, Section.run]
          cases result with
          | notFound => exact absurd ((Fleet.worksFor_iff hw).mpr hid) (Bool.eq_false_iff.mp hok)
          | ok => exact ⟨rfl, rfl⟩
          | error =>
            obtain ⟨st', heq, hrequested, hchange⟩ :=
              st.change_standbyReturned_error c.now
            rw [heq]
            exact ⟨hchange.executing, hrequested⟩
        refine ⟨?_, fun hr => ?_, fun _ => hmarks.2, tracked_step h.tracked hs⟩
        · rw [hmarks.1, ← hexec]
          omega
        · rw [hmarks.2] at hr
          cases hr
      · exact h.other hs hw hid (section_other hw hid rfl) hworkers

theorem Marked.release {k : Nat} (h : Marked id c)
    (hs : c.step lib reconcileDelay capacity (.release k) = some c') : Marked id c' := by
  cases Fleet.step_workers hs with
  | same _ hnot => cases hnot
  | moved _ _ w phase hw hmoves hworkers _ =>
    cases hmoves with
    | released _ _ hphase =>
      by_cases hid : w.id = id
      · have hexec := h.executing
        have hrunning : workersOf id running c'.workers =
            workersOf id running c.workers :=
          workersOf_set hw hid hphase hworkers running
        have hreturning : workersOf id returning c'.workers + 1 =
            workersOf id returning c.workers :=
          workersOf_set hw hid hphase hworkers returning
        have hquiet := h.quiet (by omega)
        obtain ⟨st, hst, hmark⟩ := h.entry (by omega)
        have hlookup := lookup_worker hs hw hid rfl
        simp only [hst, Section.run, Option.map_some] at hlookup
        rw [Fleet.test, hst, Option.any_some] at hexec hquiet
        rw [hmark, Bool.toNat_true] at hexec
        refine ⟨?_, fun hr => ?_, fun _ => ?_, tracked_step h.tracked hs⟩
        · rw [Fleet.test, hlookup]
          change _ = 0
          omega
        · rw [Fleet.test, hlookup] at hr
          exact absurd hr (Bool.eq_false_iff.mp hquiet)
        · rw [Fleet.test, hlookup]
          exact hquiet
      · exact h.other hs hw hid (section_other hw hid rfl) hworkers

theorem workersOf_append (workers : List Worker) (id' : String) (test : WorkerPhase → Bool) :
    workersOf id test (workers ++ [⟨id', .waiting⟩]) =
      workersOf id test workers + (id' = id && test .waiting).toNat := by
  rw [workersOf, List.countP_append, workersOf]
  cases h : (decide (id' = id) && test .waiting) <;> simp [h]

/-- A request is made where no worker is between its claim and its release, and starts a worker. -/
theorem Marked.started (h : Marked id c)
    (hs : c.step lib reconcileDelay capacity .request = some c') (hloop : c.loop = .requesting id)
    (htest : (c.test id fun st => (st.requestStandby c.now).2) = true)
    (hworkers : c'.workers = c.workers ++ [⟨id, .waiting⟩]) : Marked id c' := by
  have hexec := h.executing
  have hcount : ∀ test : WorkerPhase → Bool, workersOf id test c'.workers =
      workersOf id test c.workers + (test .waiting).toNat := by
    intro test
    rw [hworkers, workersOf_append, decide_eq_true rfl, Bool.true_and]
  have hqueued : workersOf id queued c'.workers =
      workersOf id queued c.workers + 1 := hcount _
  have hrunning : workersOf id running c'.workers =
      workersOf id running c.workers := hcount _
  have hreturning : workersOf id returning c'.workers =
      workersOf id returning c.workers := hcount _
  have hlookup := Fleet.step_lookup hs id
  simp only [Fleet.sectionOn, hloop, if_true, Section.run] at hlookup
  cases hst : c.states.lookup id with
  | none =>
    rw [Fleet.test, hst] at htest
    cases htest
  | some st =>
    rw [Fleet.test, hst, Option.any_some] at htest hexec
    rw [hst, Option.map_some] at hlookup
    rcases st.requestStandby_cases c.now with ⟨heq, -, hfree, -⟩ | ⟨hnot, -⟩
    · rw [heq] at hlookup
      rw [hfree, Bool.toNat_false] at hexec
      refine ⟨?_, fun _ => .inr (by omega), fun hpos => by omega, tracked_step h.tracked hs⟩
      rw [hrunning, hreturning, Fleet.test, hlookup, hexec]
      exact (congrArg Bool.toNat hfree).symm
    · rw [hnot] at htest
      cases htest

/-- The timer finds at the last moment that a standby is not due. -/
theorem Marked.refused (h : Marked id c)
    (hs : c.step lib reconcileDelay capacity .request = some c') (hloop : c.loop = .requesting id)
    (htest : (c.test id fun st => (st.requestStandby c.now).2) = false)
    (hworkers : c'.workers = c.workers) : Marked id c' := by
  have hlookup := Fleet.step_lookup hs id
  simp only [Fleet.sectionOn, hloop, if_true, Section.run] at hlookup
  have hmarks : c'.test id (·.standbyExecuting) = c.test id (·.standbyExecuting) ∧
      (c'.test id (·.standbyRequested) = true → c.test id (·.standbyRequested) = true) := by
    simp only [Fleet.test, hlookup]
    cases hst : c.states.lookup id with
    | none => exact ⟨rfl, fun h => h⟩
    | some st =>
      rw [Fleet.test, hst, Option.any_some] at htest
      rcases st.requestStandby_cases c.now with ⟨heq, -⟩ | ⟨-, hchange⟩
      · rw [heq] at htest
        cases htest
      · exact ⟨hchange.executing, hchange.requested⟩
  refine h.kept hs hmarks.1 hmarks.2 (.inr ?_) ?_ ?_
  · rw [hworkers]
  · rw [hworkers]
  · rw [hworkers]

theorem Marked.request (h : Marked id c)
    (hs : c.step lib reconcileDelay capacity .request = some c') : Marked id c' := by
  by_cases hloop : c.loop = .requesting id
  · cases Fleet.step_workers hs with
    | same _ hnot => cases hnot
    | moved _ _ _ _ _ hmoves => cases hmoves
    | started id' hloop' htest hworkers =>
      obtain rfl := FleetLoop.requesting.inj (hloop'.symm.trans hloop)
      exact h.started hs hloop htest hworkers
    | refused id' hloop' htest hworkers =>
      obtain rfl := FleetLoop.requesting.inj (hloop'.symm.trans hloop)
      exact h.refused hs hloop htest hworkers
  · -- the request is for another instance
    have hsection : c.sectionOn id .request = none := if_neg hloop
    refine h.passive hs (fun s hsome => ?_) fun test => ?_
    · rw [hsection] at hsome
      cases hsome
    · cases Fleet.step_workers hs with
      | same _ hnot => cases hnot
      | moved _ _ _ _ _ hmoves => cases hmoves
      | refused _ _ _ hworkers => rw [hworkers]
      | started id' hloop' _ hworkers =>
        have hne : id' ≠ id := by
          rintro rfl
          exact hloop hloop'
        rw [hworkers, workersOf_append, decide_eq_false hne]
        rfl

omit [DecidableEq A] in
/-- What runs on the entry in the steps that concern no worker, for an instance that is not
deleted. -/
theorem keepsInstance.passive {s : Section A} (hok : keepsInstance id c e)
    (hworker : Fleet.ofWorker e = false) (hsection : c.sectionOn id e = some s) :
    s.passive = true := by
  cases e with
  | removed id' =>
    simp only [Fleet.sectionOn, Option.ite_none_right_eq_some] at hsection
    exact absurd hsection.1.symm hok
  | connection | stopAllTimers =>
    cases hsection
    rfl
  | refresh | reconcile | timer | confirm | hold =>
    simp only [Fleet.sectionOn, Option.ite_none_right_eq_some] at hsection
    obtain ⟨-, ⟨⟩⟩ := hsection
    rfl
  | elapse | cancel => cases hsection
  | request | acquire | giveUp | claim | call | standbyReturned | release | leave => cases hworker

theorem Marked.step (h : Marked id c) (hok : keepsInstance id c e)
    (hs : c.step lib reconcileDelay capacity e = some c') : Marked id c' := by
  cases e with
  | request => exact h.request hs
  | claim k => exact h.claim hs
  | standbyReturned k result => exact h.standbyReturned hok hs
  | release k => exact h.release hs
  | acquire k =>
    cases Fleet.step_workers hs with
    | same _ hnot => cases hnot
    | moved _ _ _ _ _ hmoves => cases hmoves
    | acquired _ w hw hphase _ hworkers =>
      refine h.moved hs hw rfl (.inr ?_) ?_ ?_ hworkers
      all_goals rw [hphase]; rfl
  | leave k =>
    cases Fleet.step_workers hs with
    | same _ hnot => cases hnot
    | moved _ _ _ _ _ hmoves => cases hmoves
    | left _ w hw hphase hworkers =>
      refine h.moved hs hw rfl (.inr ?_) ?_ ?_ hworkers
      all_goals rw [hphase]; rfl
  | giveUp k =>
    have hcancelled := (Fleet.step_clock lib reconcileDelay capacity hs).2
    cases Fleet.step_workers hs with
    | same _ hnot => cases hnot
    | moved _ _ w phase hw hmoves hworkers =>
      cases hmoves with
      | gaveUp _ _ hstop hphase | quit _ _ hstop hphase =>
        refine h.moved hs hw rfl (.inl (hcancelled hstop)) ?_ ?_ hworkers
        all_goals rw [hphase]; rfl
  | call k =>
    cases Fleet.step_workers hs with
    | same _ hnot => cases hnot
    | moved _ _ w phase hw hmoves hworkers =>
      cases hmoves with
      | called _ _ hphase =>
        refine h.moved hs hw rfl (.inr ?_) ?_ ?_ hworkers
        all_goals rw [hphase]; rfl
  | _ =>
    refine h.passive hs (fun s hsection => hok.passive rfl hsection) fun test => ?_
    · cases Fleet.step_workers hs with
      | same _ _ hworkers => rw [hworkers]
      | moved _ _ _ _ _ hmoves => cases hmoves

/-- **The workers settle.** In every run in which the instance is not deleted, at most one of its
workers is inside `StandbyInstance`. The slots taken are those of the workers between acquiring and
leaving, and never more than the capacity. The state is marked as executing only while a worker is
between its claim and its release, and when the workers of the instance have finished it is not
marked as executing, nor as requested unless the workers' context was cancelled. -/
theorem workers_settle (lib : NetLib A) (reconcileDelay : Int) (capacity : Nat) (start : Int)
    (id : String) {c : Fleet A}
    (hc : (fleetSystem lib reconcileDelay capacity start).Reachable (keepsInstance id) c) :
    workersOf id (· = .called) c.workers ≤ 1 ∧
      c.slots = slotHolders c.workers ∧ c.slots ≤ capacity ∧
      (∀ st ∈ c.states.lookup id, st.standbyExecuting = true →
        ∃ w ∈ c.workers, w.id = id ∧ w.phase ∈ [.claimed, .called, .returned]) ∧
      ((∀ w ∈ c.workers, w.id = id → w.phase = .finished) → ∀ st ∈ c.states.lookup id,
        st.standbyExecuting = false ∧ (st.standbyRequested = true → c.cancelled = true)) := by
  obtain ⟨hslotted, hmarked⟩ : Slotted capacity c ∧ Marked id c := by
    refine hc.invariant (I := fun c => Slotted capacity c ∧ Marked id c) ?_ ?_
    · exact ⟨⟨rfl, Nat.zero_le capacity⟩, rfl, fun hr => (nomatch hr),
        fun hpos => absurd hpos (lt_irrefl 0), fun _ hst => nomatch hst⟩
    · exact fun c e c' h hok hs => ⟨h.1.step hs, h.2.step hok hs⟩
  have hexec := hmarked.executing
  refine ⟨?_, hslotted.slots, hslotted.bound, fun st hst hexecuting => ?_, fun hdone st hst => ?_⟩
  · have hcalled : workersOf id (· = .called) c.workers ≤
        workersOf id running c.workers :=
      workersOf_mono c.workers fun phase hphase => by rw [of_decide_eq_true hphase]; rfl
    have hone := Bool.toNat_le (c.test id (·.standbyExecuting))
    omega
  · rw [Fleet.test, Option.mem_def.mp hst, Option.any_some, hexecuting, Bool.toNat_true] at hexec
    rcases Nat.eq_zero_or_pos (workersOf id running c.workers) with hnone | hpos
    · obtain ⟨w, hw, hid, hphase⟩ := workersOf_pos.mp
        (show 0 < workersOf id returning c.workers by omega)
      refine ⟨w, hw, hid, ?_⟩
      cases hp : w.phase <;> simp_all [returning]
    · obtain ⟨w, hw, hid, hphase⟩ := workersOf_pos.mp hpos
      refine ⟨w, hw, hid, ?_⟩
      cases hp : w.phase <;> simp_all [running]
  · have hqueued := workersOf_finished queued hdone rfl
    have hrunning := workersOf_finished running hdone rfl
    have hreturning := workersOf_finished returning hdone rfl
    rw [hrunning, hreturning, Fleet.test, Option.mem_def.mp hst, Option.any_some] at hexec
    refine ⟨?_, fun hr => ?_⟩
    · cases hexecuting : st.standbyExecuting with
      | false => rfl
      | true =>
        rw [hexecuting] at hexec
        cases hexec
    · have hrequested : c.test id (·.standbyRequested) = true := by
        rw [Fleet.test, Option.mem_def.mp hst]
        exact hr
      rcases hmarked.requested hrequested with hcancelled | hpos
      · exact hcancelled
      · omega

/-- A worker puts the instance into standby and leaves; nothing stays behind. -/
theorem workers_settle_oneStandby : ∃ c : Fleet Nat,
    (fleetSystem smallNet 5 1 0).Reachable (keepsInstance "web") c ∧
      (c.workers = [⟨"web", .finished⟩] ∧ c.slots = 0) ∧
      ∀ st ∈ c.states.lookup "web", st.standbyExecuting = false ∧
        (st.standbyRequested = true → c.cancelled = true) := by
  obtain ⟨c, hc, hdone⟩ := System.exists_reachable_of_replay
    (fleetSystem smallNet 5 1 0) (keepsInstance "web")
    (fun c => c.workers = [⟨"web", .finished⟩] ∧ c.slots = 0)
    (List.flatten [[.refresh (webRecord none) [] 0, .elapse 10], claimSteps,
      [.call 0, .standbyReturned 0 .ok, .release 0, .leave 0]]) (by decide)
  refine ⟨c, hc, hdone, (workers_settle smallNet 5 1 0 "web" hc).2.2.2.2 ?_⟩
  intro w hw _
  rw [hdone.1, List.mem_singleton] at hw
  rw [hw]

/-- **A cancelled worker leaves its request.** The worker waits for a slot when its context is
cancelled, and returns; the state stays marked as requested. -/
theorem cancelled_worker_leaves_request :
    ¬ ∀ c : Fleet Nat, (fleetSystem smallNet 5 1 0).Reachable (keepsInstance "web") c →
      (∀ w ∈ c.workers, w.phase = .finished) → ∀ st ∈ c.states.lookup "web",
        st.standbyExecuting = false ∧ st.standbyRequested = false := by
  intro h
  obtain ⟨c, hc, hdone, st, hst, hrequested⟩ := System.exists_reachable_of_replay
    (fleetSystem smallNet 5 1 0) (keepsInstance "web")
    (fun c => (∀ w ∈ c.workers, w.phase = .finished) ∧
      ∃ st ∈ c.states.lookup "web", st.standbyRequested = true)
    [.refresh (webRecord none) [] 0, .elapse 10, .timer "web", .confirm (.ok []), .request,
      .cancel, .giveUp 0] (by decide)
  rw [(h c hc hdone st hst).2] at hrequested
  cases hrequested

end Hypeman.AutoStandby
