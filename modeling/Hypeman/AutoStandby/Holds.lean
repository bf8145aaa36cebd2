import Hypeman.AutoStandby.Fleet
import Hypeman.AutoStandby.IdleTime

/-!
# Holds

`HoldStandby` guarantees that the controller does not put the instance into standby before the end
of the hold. The deadline that the timer is set to is never before that end, the test of the
deadline is made again when a standby is requested, and a hold withdraws a request. A worker that
has claimed its standby is not stopped any more; the mark it leaves in the state makes `HoldStandby`
fail. The mark is lost with the state of a deleted instance, and a hold that makes a new state then
succeeds beside the worker.

* `held_until`: with holds that find the mark of a worker on its way to the call, no call comes
  before the end of a hold.
* `hold_beside_worker`: a run in which one comes.
-/

namespace Hypeman.AutoStandby

open Foundations

variable {A : Type} [DecidableEq A] (lib : NetLib A) (reconcileDelay : Int) (capacity : Nat)

/-- What is recorded of a run: the end of the hold that is in force for each instance, and whether a
worker has called `StandbyInstance` before it. -/
structure HoldHistory where
  ends : String → Option Int
  early : Bool

/-- A successful hold replaces the one before; it ends early when the state is removed or
cleared. -/
def HoldHistory.next (h : HoldHistory) (c : Fleet A) (e : FleetEvent A) (_ : Fleet A) :
    HoldHistory where
  ends id := match c.sectionOn id e with
    | some (.hold inst time) =>
      if (HoldStandby lib (c.states.lookup id) inst time).2 = .held then
        some (time + holdDuration lib (c.states.lookup id) inst)
      else h.ends id
    | some s => if s.clears (c.states.lookup id) then none else h.ends id
    | none => h.ends id
  early := h.early || match e with
    | .call k => c.workers[k]?.any fun w => (h.ends w.id).any (c.now < ·)
    | _ => false

def holdSystem (start : Int) : System (Fleet A × HoldHistory) (FleetEvent A) :=
  (fleetSystem lib reconcileDelay capacity start).monitored ⟨fun _ => none, false⟩
    (HoldHistory.next lib)

/-- The condition on the steps: a hold for an instance with a worker on its way to the call finds
the mark of the worker in the state. -/
def findsClaim (x : Fleet A × HoldHistory) : FleetEvent A → Prop
  | .hold inst _ => (∃ w ∈ x.1.workers, w.id = inst.id ∧ w.phase = .claimed) →
    (x.1.states.lookup inst.id).any (·.standbyExecuting) = true
  | _ => True

instance (x : Fleet A × HoldHistory) : (e : FleetEvent A) → Decidable (findsClaim x e)
  | .hold inst _ => inferInstanceAs (Decidable
    ((∃ w ∈ x.1.workers, w.id = inst.id ∧ w.phase = .claimed) →
      (x.1.states.lookup inst.id).any (·.standbyExecuting) = true))
  | .elapse _ | .refresh .. | .removed _ | .connection .. | .reconcile .. | .timer _
  | .confirm _ | .request | .cancel | .stopAllTimers | .acquire _ | .giveUp _
  | .claim _ | .call _ | .standbyReturned .. | .release _ | .leave _ =>
    inferInstanceAs (Decidable True)

/-! ## What one section keeps -/

/-- The state respects its hold at the given time: the deadline is not before the end of the hold, a
standby is requested only after it, and without a policy there is no deadline. -/
structure Guarded (now : Int) (st : ControllerState A) : Prop where
  deadline : ∀ hold ∈ st.holdUntil, ∀ t ∈ st.nextStandbyAt, hold ≤ t
  requested : st.standbyRequested = true → ∀ hold ∈ st.holdUntil, hold ≤ now
  untracked : st.compiledPolicy = none → st.idleTimeout ≤ 0 ∧ st.nextStandbyAt = none

variable {lib reconcileDelay capacity} {now time : Int} {busy : Prop} {st st' : ControllerState A}

section States

omit [DecidableEq A]

theorem guarded_bare : Guarded now ({} : ControllerState A) :=
  ⟨fun _ h => (nomatch h), fun h => (nomatch h), fun _ => ⟨le_refl 0, rfl⟩⟩

theorem Guarded.mono (h : Guarded now st) {now' : Int} (hle : now ≤ now') : Guarded now' st :=
  ⟨h.deadline, fun hr hold hhold => (h.requested hr hold hhold).trans hle, h.untracked⟩

theorem Guarded.change (h : Guarded now st) (hchange : Change busy st st') : Guarded now st' := by
  have hrequested : st'.standbyRequested = true → ∀ hold ∈ st'.holdUntil, hold ≤ now := by
    rw [hchange.hold]
    exact fun hr => h.requested (hchange.requested hr)
  have huntracked : st'.compiledPolicy = none → st'.idleTimeout ≤ 0 ∧ st.nextStandbyAt = none := by
    intro hnone
    obtain ⟨hpolicy, htimeout⟩ := hchange.policy hnone
    rw [htimeout]
    exact h.untracked hpolicy
  cases hchange.timing with
  | kept _ _ hnext =>
    refine ⟨?_, hrequested, fun hnone => ?_⟩
    · rw [hchange.hold, hnext]
      exact h.deadline
    · rw [hnext]
      exact huntracked hnone
  | rearmed _ _ harmed | counting _ harmed =>
    exact ⟨harmed.held, hrequested,
      fun hnone => ⟨(huntracked hnone).1, harmed.timeless (huntracked hnone).1⟩⟩
  | found _ hnext =>
    refine ⟨fun hold _ t ht => ?_, hrequested, fun hnone => ⟨(huntracked hnone).1, hnext⟩⟩
    rw [hnext] at ht
    cases ht

theorem Guarded.hold (h : Guarded now st) (duration : Int) :
    Guarded now (st.hold duration time) := by
  unfold ControllerState.hold
  dsimp only
  split
  next hpolicy =>
    obtain ⟨next, timer, heq⟩ := armTimer_frame { st with
      holdUntil := some (time + duration), standbyRequested := false } time
    have harmed := armed_armTimer { st with
      holdUntil := some (time + duration), standbyRequested := false } time
    rw [heq] at harmed ⊢
    refine ⟨harmed.held, fun h => (nomatch h), fun hnone => ?_⟩
    have hnone : st.compiledPolicy = none := hnone
    rw [hnone] at hpolicy
    cases hpolicy
  next hpolicy =>
    -- a state without a policy has no deadline that the hold could come after
    have hnone : st.compiledPolicy = none := Option.not_isSome_iff_eq_none.mp hpolicy
    refine ⟨fun hold _ t ht => ?_, fun h => (nomatch h), h.untracked⟩
    have ht : t ∈ st.nextStandbyAt := ht
    rw [(h.untracked hnone).2] at ht
    cases ht

theorem holdUntil_hold (st : ControllerState A) (duration time : Int) :
    (st.hold duration time).holdUntil = some (time + duration) := by
  obtain ⟨next, timer, heq⟩ := hold_frame st duration time
  rw [heq]

end States

theorem Guarded.outcome {state state' : Option (ControllerState A)} {s : Section A}
    (h : ∀ st ∈ state, Guarded now st) (hs : Outcome lib now state s state') :
    ∀ st' ∈ state', Guarded now st' := by
  have hget : Guarded now (state.getD {}) := by
    cases state with
    | none => exact guarded_bare
    | some st => exact h st rfl
  intro st' hst'
  cases hs with
  | absent => cases hst'
  | removed => cases hst'
  | lost => cases hst'
  | cleared _ _ _ hcleared =>
    cases hst'
    refine ⟨fun hold hhold => ?_, fun hr => ?_, fun _ => ⟨hcleared.timeout.le, hcleared.deadline⟩⟩
    · rw [hcleared.hold] at hhold
      cases hhold
    · rw [hcleared.requested] at hr
      cases hr
  | changed _ _ hchange =>
    cases hst'
    exact hget.change hchange
  | requested st hst hpolicy _ helapsed =>
    cases hst'
    -- the deadline has passed, and the hold ends before it
    obtain ⟨t, ht, hle⟩ := helapsed
    exact ⟨fun _ _ t ht => (nomatch ht),
      fun _ hold hhold => ((h st hst).deadline hold hhold t ht).trans hle,
      fun hnone => absurd hnone hpolicy⟩
  | claimed st hst | released st hst =>
    cases hst'
    exact ⟨(h st hst).deadline, (h st hst).requested, (h st hst).untracked⟩
  | held inst time =>
    cases hst'
    exact hget.hold _

/-! ## The hold that is in force -/

variable {c c' : Fleet A} {e : FleetEvent A} {hist : HoldHistory} {id : String} {ending : Int}

omit [DecidableEq A] in
/-- The hold in force after a step is a new one, or the one before, which the step has not ended. -/
theorem of_mem_ends_next (h : ending ∈ (hist.next lib c e c').ends id) :
    (∃ inst time, c.sectionOn id e = some (.hold inst time) ∧
      (HoldStandby lib (c.states.lookup id) inst time).2 = .held ∧
      ending = time + holdDuration lib (c.states.lookup id) inst) ∨
    (ending ∈ hist.ends id ∧ ∀ s, c.sectionOn id e = some s →
      s.clears (c.states.lookup id) = false ∧ ∀ inst time, s = .hold inst time →
        (HoldStandby lib (c.states.lookup id) inst time).2 ≠ .held) := by
  simp only [HoldHistory.next] at h
  split at h
  next inst time hsection =>
    split at h
    next hheld =>
      cases h
      exact .inl ⟨inst, time, hsection, hheld, rfl⟩
    next hnot =>
      refine .inr ⟨h, fun s hs => ?_⟩
      rw [hsection] at hs
      cases hs
      refine ⟨rfl, ?_⟩
      rintro _ _ ⟨⟩
      exact hnot
  next s hnot hsection =>
    split at h
    · cases h
    next hclears =>
      refine .inr ⟨h, fun s' hs => ?_⟩
      rw [hsection] at hs
      cases hs
      exact ⟨Bool.eq_false_of_not_eq_true hclears, fun inst time heq => absurd heq (hnot inst time)⟩
  next hsection =>
    refine .inr ⟨h, fun s hs => ?_⟩
    rw [hsection] at hs
    cases hs

/-- A section that neither clears the state nor places a hold keeps the hold. -/
theorem holdUntil_run {s : Section A} (hst : st.holdUntil = some ending)
    (hclears : s.clears (some st) = false)
    (hnot : ∀ inst time, s = .hold inst time → (HoldStandby lib (some st) inst time).2 ≠ .held) :
    ∃ st' ∈ (s.run lib reconcileDelay now (some st)).1, st'.holdUntil = some ending := by
  have hs : Outcome lib now (some st) s (s.run lib reconcileDelay now (some st)).1 := s.outcome _
  generalize hrun : (s.run lib reconcileDelay now (some st)).1 = state' at hs ⊢
  cases hs with
  | absent _ hnone => cases hnone
  | removed => cases hclears
  | lost => cases hclears
  | cleared _ _ h => rw [h] at hclears; cases hclears
  | changed _ st' hchange => exact ⟨st', rfl, hchange.hold.trans hst⟩
  | requested _ heq | claimed _ heq | released _ heq =>
    cases heq
    exact ⟨_, rfl, hst⟩
  | held inst time =>
    rcases HoldStandby_cases lib (some st) inst time with ⟨-, heq | heq⟩ | ⟨hheld, -⟩
    · exact ⟨st, hrun ▸ heq, hst⟩
    · exact ⟨st, hrun ▸ heq, hst⟩
    · exact absurd hheld (hnot inst time rfl)

/-! ## Runs -/

/-- The invariant of the runs: every state respects its hold, the hold in force is the one in the
state, and a worker on its way to the call comes after it. -/
structure Respected (c : Fleet A) (hist : HoldHistory) : Prop where
  state : ∀ id, ∀ st ∈ c.states.lookup id, Guarded c.now st
  hold : ∀ id, ∀ ending ∈ hist.ends id, ∃ st ∈ c.states.lookup id, st.holdUntil = some ending
  claimed : ∀ w ∈ c.workers, w.phase = .claimed → ∀ ending ∈ hist.ends w.id, ending ≤ c.now

theorem Respected.hold_step (h : Respected c hist)
    (hs : c.step lib reconcileDelay capacity e = some c')
    (hend : ending ∈ (hist.next lib c e c').ends id) :
    ∃ st ∈ c'.states.lookup id, st.holdUntil = some ending := by
  rw [Fleet.step_lookup hs id]
  rcases of_mem_ends_next hend with ⟨inst, time, hsection, hheld, rfl⟩ | ⟨hend, hkept⟩
  · simp only [hsection, Section.run]
    rcases HoldStandby_cases lib (c.states.lookup id) inst time with ⟨hnot, -⟩ | ⟨-, -, -, heq⟩
    · exact absurd hheld hnot
    · rw [heq]
      exact ⟨_, rfl, holdUntil_hold _ _ _⟩
  · obtain ⟨st, hst, hhold⟩ := h.hold id ending hend
    have hst : c.states.lookup id = some st := hst
    rw [hst] at hkept ⊢
    split
    next s hsection =>
      obtain ⟨hclears, hnot⟩ := hkept s hsection
      exact holdUntil_run hhold hclears hnot
    next => exact ⟨st, rfl, hhold⟩

/-- A worker is on its way to the call only after the hold in force. -/
theorem Respected.claimed_step (h : Respected c hist) (hok : findsClaim (c, hist) e)
    (hs : c.step lib reconcileDelay capacity e = some c') {w : Worker} (hw : w ∈ c'.workers)
    (hphase : w.phase = .claimed) (hend : ending ∈ (hist.next lib c e c').ends w.id) :
    ending ≤ c.now := by
  rcases Fleet.step_claimed lib reconcileDelay capacity hs hw hphase with hmem | hclaim
  · rcases of_mem_ends_next hend with ⟨inst, time, hsection, hheld, -⟩ | ⟨hend, -⟩
    · -- the hold would have found the mark of the worker
      obtain ⟨rfl, hid⟩ := Fleet.of_sectionOn_hold hsection
      have hmark := hok ⟨w, hmem, hid, hphase⟩
      rcases HoldStandby_cases lib (c.states.lookup w.id) inst time with ⟨hnot, -⟩ | ⟨-, hfree, -⟩
      · exact absurd hheld hnot
      · rw [hid, hmark] at hfree
        cases hfree
    · exact h.claimed w hmem hphase ending hend
  · obtain ⟨k, rfl, hworks, htest⟩ := hclaim
    have hsection : c.sectionOn w.id (.claim k) = some .claim := if_pos hworks
    rcases of_mem_ends_next hend with ⟨inst, time, hhold, -⟩ | ⟨hend, -⟩
    · rw [hsection] at hhold
      cases hhold
    · obtain ⟨st, hst, hhold⟩ := h.hold w.id ending hend
      have hst : c.states.lookup w.id = some st := hst
      simp only [Fleet.test, hst, Option.any_some] at htest
      obtain ⟨-, -, hrequested, -⟩ := ControllerState.of_claimStandby (Prod.ext rfl htest)
      exact (h.state w.id st hst).requested hrequested ending hhold

theorem Respected.step (h : Respected c hist) (hok : findsClaim (c, hist) e)
    (hs : c.step lib reconcileDelay capacity e = some c') :
    Respected c' (hist.next lib c e c') := by
  have hnow := (Fleet.step_clock lib reconcileDelay capacity hs).1
  refine ⟨fun id st' hst' => ?_, fun id ending hend => h.hold_step hs hend,
    fun w hw hphase ending hend => (h.claimed_step hok hs hw hphase hend).trans hnow⟩
  rw [Fleet.step_lookup hs id] at hst'
  split at hst'
  next s _ => exact (Guarded.outcome (h.state id) (s.outcome _) st' hst').mono hnow
  next => exact (h.state id st' hst').mono hnow

/-- **A hold keeps the instance running.** In every run in which a hold for an instance with a
worker on its way to `StandbyInstance` finds the state marked as executing, no worker calls
`StandbyInstance` before the end of the hold in force. -/
theorem held_until (lib : NetLib A) (reconcileDelay : Int) (capacity : Nat) (start : Int)
    {x : Fleet A × HoldHistory}
    (hx : (holdSystem lib reconcileDelay capacity start).Reachable findsClaim x) :
    x.2.early = false := by
  suffices h : Respected x.1 x.2 ∧ x.2.early = false from h.2
  refine hx.invariant (I := fun x => Respected x.1 x.2 ∧ x.2.early = false) ?_ ?_
  · exact ⟨⟨fun _ _ hst => (nomatch hst), fun _ _ hend => (nomatch hend),
      fun _ hw => (nomatch hw)⟩, rfl⟩
  · rintro ⟨c, hist⟩ e ⟨c', hist'⟩ ⟨h, hearly⟩ hok hs
    obtain ⟨hs, hhist⟩ := System.monitored_step_iff.mp hs
    dsimp only at hhist hearly ⊢
    subst hhist
    refine ⟨h.step hok hs, ?_⟩
    simp only [HoldHistory.next, hearly, Bool.false_or]
    cases e with
    | call k =>
      obtain ⟨w, hw, hphase, -⟩ := Fleet.whenIn_eq_some hs
      have hlate := h.claimed w (List.mem_of_getElem? hw) hphase
      dsimp only at hw hlate ⊢
      rw [hw, Option.any_some, Option.any_eq_false]
      intro ending hend
      simpa using hlate ending hend
    | _ => rfl

/-! ## Two runs -/

/-- The steps from the firing of the timer to the claim of the first worker. -/
def claimSteps : List (FleetEvent Nat) :=
  [.timer "web", .confirm (.ok []), .request, .acquire 0, .claim 0]

/-- The instance is held at time 8 and goes to standby at time 18. -/
theorem held_until_standby : ∃ x : Fleet Nat × HoldHistory,
    (holdSystem smallNet 5 1 0).Reachable findsClaim x ∧
      (x.1.workers = [⟨"web", .called⟩] ∧ x.1.now = 18 ∧ x.2.ends "web" = some 18) ∧
      x.2.early = false := by
  obtain ⟨x, hx, hcalled⟩ := System.exists_reachable_of_replay
    (holdSystem smallNet 5 1 0) findsClaim
    (fun x => x.1.workers = [⟨"web", .called⟩] ∧ x.1.now = 18 ∧ x.2.ends "web" = some 18)
    (List.flatten [[.refresh (webRecord none) [] 0, .elapse 8, .hold (webRecord none) 8,
      .elapse 10], claimSteps, [.call 0]]) (by decide)
  exact ⟨x, hx, hcalled, held_until smallNet 5 1 0 hx⟩

/-- **A hold beside a worker.** The instance is deleted when a worker has claimed its standby. A
hold for the record that its caller has read before finds no state, makes one and succeeds; the
worker calls `StandbyInstance` at the same time. -/
theorem hold_beside_worker :
    ¬ ∀ x : Fleet Nat × HoldHistory,
      (holdSystem smallNet 5 1 0).Reachable System.Always x → x.2.early = false := by
  intro h
  obtain ⟨x, hx, hearly⟩ := System.exists_reachable_of_replay
    (holdSystem smallNet 5 1 0) System.Always (fun x => x.2.early = true)
    (List.flatten [[.refresh (webRecord none) [] 0, .elapse 10], claimSteps,
      [.removed "web", .hold (webRecord none) 10, .call 0]]) (by decide)
  rw [h x hx] at hearly
  cases hearly

end Hypeman.AutoStandby
