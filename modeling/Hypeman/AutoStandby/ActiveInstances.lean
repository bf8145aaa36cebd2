import Hypeman.AutoStandby.Fleet
import Hypeman.AutoStandby.IdleTime

/-!
# No countdown beside connections

An instance that the controller knows to be active should have no idle time and no armed timer. All
handlers see to this except one: `handleActiveReconcile` takes over the connections it finds and
leaves the idle time and the timer, because it expects to run for active instances only. It also
runs when its firing was queued before the last connection was closed, and when a refresh has found
the instance idle, since that does not cancel it.

* `active_not_counting`: with a reconciliation that finds connections only where no countdown runs,
  no active instance has a countdown in any state reached.
* `reconcile_leaves_countdown`: a run in which one has.
-/

namespace Hypeman.AutoStandby

open Foundations

variable {A : Type} [DecidableEq A] {lib : NetLib A} {reconcileDelay now time : Int}
variable {capacity : Nat}

/-- There is no countdown beside connections, and no timer without a countdown. -/
structure Settled (st : ControllerState A) : Prop where
  active : st.activeInbound ≠ ∅ → st.idleSince = none
  unarmed : st.idleSince = none → st.nextStandbyAt = none

/-- The condition on the steps: a reconciliation that finds connections finds no countdown. -/
def reconcilesActive (lib : NetLib A) (c : Fleet A) : FleetEvent A → Prop
  | .reconcile id (.ok conns) _ => ∀ st ∈ c.states.lookup id,
    Controller.lists lib st conns = true → st.idleSince = none
  | _ => True

instance (c : Fleet A) : (e : FleetEvent A) → Decidable (reconcilesActive lib c e)
  | .reconcile id (.ok conns) _ => inferInstanceAs (Decidable (∀ st ∈ c.states.lookup id,
    Controller.lists lib st conns = true → st.idleSince = none))
  | .reconcile _ (.error _) _ | .elapse _ | .refresh .. | .removed _ | .connection .. | .timer _
  | .confirm _ | .request | .hold .. | .cancel | .stopAllTimers | .acquire _ | .giveUp _
  | .claim _ | .call _ | .standbyReturned .. | .release _ | .leave _ =>
    inferInstanceAs (Decidable True)

variable {busy : Prop} {st st' : ControllerState A}

/-! ## What one section keeps -/

omit [DecidableEq A] in
theorem Settled.change (h : Settled st) (hchange : Change busy st st')
    (hbusy : busy → st.idleSince = none) : Settled st' := by
  cases hchange.timing with
  | kept hactive hidle hnext =>
    refine ⟨fun hne => ?_, fun hnone => ?_⟩
    · rw [hidle]
      rcases hactive hne with hst | hfound
      · exact h.active hst
      · exact hbusy hfound
    · rw [hnext]
      exact h.unarmed (hidle ▸ hnone)
  | rearmed hactive hidle harmed =>
    refine ⟨fun hne => ?_, harmed.unarmed⟩
    rw [hidle]
    exact h.active (hactive ▸ hne)
  | counting hempty harmed => exact ⟨fun hne => absurd hempty hne, harmed.unarmed⟩
  | found hidle hnext => exact ⟨fun _ => hidle, fun _ => hnext⟩

omit [DecidableEq A] in
theorem settled_bare : Settled ({} : ControllerState A) :=
  ⟨fun h => absurd rfl h, fun _ => rfl⟩

omit [DecidableEq A] in
theorem Settled.hold (h : Settled st) (duration : Int) : Settled (st.hold duration time) := by
  have hheld : Settled
      { st with holdUntil := some (time + duration), standbyRequested := false } :=
    ⟨h.active, h.unarmed⟩
  unfold ControllerState.hold
  dsimp only
  split
  · exact hheld.change (change_rearm (.refl _) rfl rfl) False.elim
  · exact hheld

theorem Settled.outcome {state state' : Option (ControllerState A)} {s : Section A}
    (h : ∀ st ∈ state, Settled st) (hs : Outcome lib now state s state')
    (hfinds : s.finds lib (state.getD {}) → (state.getD {}).idleSince = none) :
    ∀ st' ∈ state', Settled st' := by
  have hget : Settled (state.getD {}) := by
    cases state with
    | none => exact settled_bare
    | some st => exact h st rfl
  intro st' hst'
  cases hs with
  | absent => cases hst'
  | removed => cases hst'
  | lost => cases hst'
  | cleared _ _ _ hcleared =>
    cases hst'
    exact ⟨fun hne => absurd hcleared.active hne, fun _ => hcleared.deadline⟩
  | changed _ _ hchange =>
    cases hst'
    exact hget.change hchange hfinds
  | requested st hst =>
    cases hst'
    exact ⟨(h st hst).active, fun _ => rfl⟩
  | claimed st hst | released st hst =>
    cases hst'
    exact ⟨(h st hst).active, (h st hst).unarmed⟩
  | held inst time =>
    cases hst'
    exact hget.hold _

/-! ## Runs -/

/-- What a step finds by the condition, for the section that it runs on an entry. -/
theorem reconcilesActive.finds {c : Fleet A} {e : FleetEvent A} (hok : reconcilesActive lib c e)
    {id : String} {s : Section A} (hs : c.sectionOn id e = some s)
    (hfinds : s.finds lib ((c.states.lookup id).getD {})) :
    ((c.states.lookup id).getD {}).idleSince = none := by
  unfold Section.finds at hfinds
  split at hfinds
  next conns time =>
    obtain rfl := Fleet.of_sectionOn_reconcile hs
    cases hst : c.states.lookup id with
    | none => rfl
    | some st =>
      rw [hst] at hfinds
      exact hok st hst hfinds
  next => exact hfinds.elim

theorem settled_step {c c' : Fleet A} {e : FleetEvent A} (hok : reconcilesActive lib c e)
    (hs : c.step lib reconcileDelay capacity e = some c')
    (h : ∀ id, ∀ st ∈ c.states.lookup id, Settled st) :
    ∀ id, ∀ st ∈ c'.states.lookup id, Settled st := by
  intro id
  rw [Fleet.step_lookup hs id]
  split
  next s hsection => exact Settled.outcome (h id) (s.outcome _) (hok.finds hsection)
  next => exact h id

/-- **No countdown beside connections.** In every run in which a reconciliation that finds
connections finds no countdown, an instance that is known to be active has no idle time and no
deadline, in any state reached. -/
theorem active_not_counting (lib : NetLib A) (reconcileDelay : Int) (capacity : Nat) (start : Int)
    {c : Fleet A}
    (hc : (fleetSystem lib reconcileDelay capacity start).Reachable (reconcilesActive lib) c)
    {id : String} {st : ControllerState A} (hst : c.states.lookup id = some st)
    (hactive : st.activeInbound ≠ ∅) : st.idleSince = none ∧ st.nextStandbyAt = none := by
  have hsettled : ∀ id, ∀ st ∈ c.states.lookup id, Settled st := by
    refine hc.invariant (I := fun c => ∀ id, ∀ st ∈ c.states.lookup id, Settled st) ?_ ?_
    · exact fun _ _ hst => nomatch hst
    · exact fun c e c' h hok hs => settled_step hok hs h
  have hidle := (hsettled id st hst).active hactive
  exact ⟨hidle, (hsettled id st hst).unarmed hidle⟩

/-- A connection is reported and closed, and its reconciliation comes before the last one is
closed. -/
theorem active_not_counting_oneVisit : ∃ c : Fleet Nat,
    (fleetSystem smallNet 5 1 0).Reachable (reconcilesActive smallNet) c ∧
      ∃ st, c.states.lookup "web" = some st ∧ st.activeInbound ≠ ∅ ∧
        st.idleSince = none ∧ st.nextStandbyAt = none := by
  obtain ⟨c, hc, hstate⟩ := System.exists_reachable_of_replay
    (fleetSystem smallNet 5 1 0) (reconcilesActive smallNet)
    (fun c => ∃ st ∈ c.states.lookup "web", st.activeInbound ≠ ∅)
    [.refresh (webRecord none) [] 0, .elapse 1,
      .connection ⟨.new, client .established, some 1⟩ 1, .elapse 5,
      .reconcile "web" (.ok [client .established]) 6] (by decide)
  obtain ⟨st, hst, hactive⟩ := hstate
  exact ⟨c, hc, st, hst, hactive, active_not_counting smallNet 5 1 0 hc hst hactive⟩

/-- **A reconciliation leaves the countdown.** It fired before the last connection was closed, and
finds a connection that is not reported yet: the instance is active, idle since time 2 and due for
standby at time 12. -/
theorem reconcile_leaves_countdown :
    ¬ ∀ c : Fleet Nat, (fleetSystem smallNet 5 1 0).Reachable System.Always c →
      ∀ id st, c.states.lookup id = some st → st.activeInbound ≠ ∅ →
        st.idleSince = none ∧ st.nextStandbyAt = none := by
  intro h
  obtain ⟨c, hc, hstate⟩ := System.exists_reachable_of_replay
    (fleetSystem smallNet 5 1 0) System.Always
    (fun c => ∃ st ∈ c.states.lookup "web",
      st.activeInbound ≠ ∅ ∧ st.idleSince = some 2 ∧ st.nextStandbyAt = some 12)
    [.refresh (webRecord none) [] 0, .elapse 1,
      .connection ⟨.new, client .established, some 1⟩ 1, .elapse 1,
      .connection ⟨.destroy, client .close, some 2⟩ 2, .elapse 4,
      .reconcile "web" (.ok [client .synRecv]) 6] (by decide)
  obtain ⟨st, hst, hactive, hidle, -⟩ := hstate
  exact absurd (h c hc "web" st hst hactive).1 (by rw [hidle]; exact Option.some_ne_none 2)

end Hypeman.AutoStandby
