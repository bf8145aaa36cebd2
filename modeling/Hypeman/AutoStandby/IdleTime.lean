import Mathlib.Data.Finset.Basic
import Hypeman.AutoStandby.Interleaving

/-!
# No standby within the idle timeout of an observed connection

Runs of the controller for an instance whose idle timeout is `D`, with the times at which the
controller has observed a matching active connection since it began to track the instance.
`StandbyInstance` should not be called within `D` of any of them. The countdown may be too early in
four ways: a refresh takes over the idle time of an old record, because refreshes and
reconciliations that find connections do not advance the activity time it is compared with; a
closing event is older than a listing; a reconciliation finds connections and leaves a countdown
running; and neither a worker on its way to the call nor a refresh during a standby acts on a
connection that shows up.

* `standby_after_idle`: in runs without these four no call is early.
* `old_record_starts_early`: a run in which an old record makes a call early.
-/

namespace Hypeman.AutoStandby

open Foundations
open Controller (refreshLists lists lists_iff listed observes reports)

variable {A : Type} [DecidableEq A] (lib : NetLib A) (reconcileDelay D : Int)

/-- What has been observed since tracking began, and whether `StandbyInstance` has been called
within the idle timeout of an observation. -/
structure History where
  seen : List Int
  early : Bool
deriving DecidableEq, Repr

def History.next (h : History) (c : Controller A) (e : Event A) (c' : Controller A) : History where
  seen := if c'.tracked then (c.observes lib e).toList ++ h.seen else []
  early := h.early || match e with
    | .call => h.seen.any (c.now < · + D)
    | _ => false

def idleSystem (start : Int) : System (Controller A × History) (Event A) :=
  (controllerSystem lib reconcileDelay D start).monitored ⟨[], false⟩ (History.next lib D)

namespace ControllerState

variable (st : ControllerState A)

/-- The idle time of the record that a refresh takes over, if it takes one over. -/
def adopts (inst : Instance) (conns : List (Connection A)) : Option Int :=
  if st.standbyExecuting || !eligible inst then none
  else match compilePolicy lib inst.autoStandby with
    | .ok (some compiled) =>
      match matchingConnections lib inst compiled conns with
      | .ok activeSet =>
        if activeSet = ∅ then
          (inst.runtime.bind (·.idleSince)).filter fun recorded => !st.staleRecord recorded
        else none
      | .error _ => none
    | _ => none

/-- The event closes the only connection that is tracked. -/
def closesLast (event : ConnectionEvent A) : Bool :=
  st.compiledPolicy.any fun policy =>
    (event.type = .destroy || !event.connection.tcpState.Active &&
      matchesInboundConnectionForEvent lib st.inst policy event.connection) &&
    st.activeInbound = {connectionKey event.connection}

end ControllerState

/-- The condition on the steps of a run: an observation does not fall between the claim of a worker
and its call; a refresh that takes over a recorded idle time finds it no earlier than the
observations, and one that lists connections finds no standby executing; an event that closes the
last connection is no earlier than the observations; and a reconciliation that finds connections
finds no countdown. -/
def keepsPace (x : Controller A × History) (e : Event A) : Prop :=
  ((x.1.observes lib e).isSome → x.1.claimed = 0) ∧
    match e with
    | .refresh inst conns _ =>
      (∀ recorded ∈ (x.1.state.getD {}).adopts lib inst conns, ∀ s ∈ x.2.seen, s ≤ recorded) ∧
        (refreshLists lib inst conns = true →
          (x.1.state.getD {}).standbyExecuting = false)
    | .connection event =>
      ∀ st ∈ x.1.state, st.closesLast lib event = true →
        ∀ s ∈ x.2.seen, s ≤ event.observedAt.getD x.1.now
    | .reconcile (.ok conns) _ =>
      ∀ st ∈ x.1.state, lists lib st conns = true → st.idleSince = none
    | _ => True

instance (x : Controller A × History) (e : Event A) : Decidable (keepsPace lib x e) := by
  unfold keepsPace
  cases e with
  | reconcile listing time => cases listing <;> infer_instance
  | _ => infer_instance

/-! ## What the state of the instance keeps -/

/-- The times of the state respect the observations `seen`: the countdown began after them, a
requested standby comes a timeout after them, and there is no countdown beside connections. -/
structure Timed (now : Int) (seen : List Int) (st : ControllerState A) : Prop where
  timeout : 0 < st.idleTimeout → st.idleTimeout = D
  idle : ∀ i ∈ st.idleSince, ∀ s ∈ seen, s ≤ i
  requested : st.standbyRequested = true → ∀ s ∈ seen, s + D ≤ now
  active : st.activeInbound ≠ ∅ → st.idleSince = none

/-- And so does the deadline of the timer. -/
structure Paced (now : Int) (seen : List Int) (st : ControllerState A) : Prop extends
    Timed D now seen st where
  deadline : ∀ t ∈ st.nextStandbyAt, ∀ s ∈ seen, s + D ≤ t
  unarmed : st.idleSince = none → st.nextStandbyAt = none

variable {lib reconcileDelay D} {now time : Int} {seen : List Int} {st : ControllerState A}

omit [DecidableEq A] in
theorem Timed.cancelTimer (h : Timed D now seen st) : Paced D now seen st.cancelTimer :=
  ⟨⟨h.timeout, h.idle, h.requested, h.active⟩, fun _ ht => (nomatch ht), fun _ => rfl⟩

omit [DecidableEq A] in
theorem Timed.armTimer (h : Timed D now seen st) : Paced D now seen (st.armTimer time) := by
  unfold ControllerState.armTimer
  split
  · exact h.cancelTimer
  next i hi =>
  split
  · exact h.cancelTimer
  next hpos =>
  refine ⟨⟨h.timeout, h.idle, h.requested, h.active⟩, ?_, fun hnone => ?_⟩
  · intro t ht s hs
    have hle : s + D ≤ i + st.idleTimeout := by
      have hi := h.idle i hi s hs
      have hD := h.timeout (by omega)
      omega
    simp only [Option.mem_def, Option.some.injEq] at ht
    split at ht
    · split at ht <;> omega
    · omega
  · rw [hi] at hnone
    cases hnone

theorem Paced.armReconcile (h : Paced D now seen st) :
    Paced D now seen (st.armReconcile reconcileDelay) := by
  unfold ControllerState.armReconcile
  split <;> exact ⟨⟨h.timeout, h.idle, h.requested, h.active⟩, h.deadline, h.unarmed⟩

omit [DecidableEq A] in
theorem Timed.cancelReconcile (h : Timed D now seen st) : Timed D now seen st.cancelReconcile :=
  ⟨h.timeout, h.idle, h.requested, h.active⟩

omit [DecidableEq A] in
theorem Timed.stage (h : Timed D now seen st) :
    Timed D now seen { st with runtimeRevision := st.runtimeRevision + 1 } :=
  ⟨h.timeout, h.idle, h.requested, h.active⟩

omit [DecidableEq A] in
theorem Paced.stage (h : Paced D now seen st) :
    Paced D now seen { st with runtimeRevision := st.runtimeRevision + 1 } :=
  ⟨⟨h.timeout, h.idle, h.requested, h.active⟩, h.deadline, h.unarmed⟩

omit [DecidableEq A] in
theorem Paced.clear (st : ControllerState A) : Paced D now seen st.clear :=
  ⟨⟨fun h => absurd h (lt_irrefl 0), fun _ h => (nomatch h), fun h => (nomatch h),
    fun h => absurd rfl h⟩, fun _ h => (nomatch h), fun _ => rfl⟩

omit [DecidableEq A] in
/-- With fewer observations, and as time goes by. -/
theorem Paced.mono (h : Paced D now seen st) {now' : Int} {seen' : List Int} (hnow : now ≤ now')
    (hsub : seen' ⊆ seen) : Paced D now' seen' st :=
  ⟨⟨h.timeout, fun i hi s hs => h.idle i hi s (hsub hs),
    fun hr s hs => (h.requested hr s (hsub hs)).trans hnow, h.active⟩,
    fun t ht s hs => h.deadline t ht s (hsub hs), h.unarmed⟩

/-! ## What one section does -/

/-- Connections are found and the countdown is given up: nothing is counted any more. -/
theorem Paced.found (st : ControllerState A) (htimeout : 0 < st.idleTimeout → st.idleTimeout = D)
    (hidle : st.idleSince = none) (hrequested : st.standbyRequested = false) :
    Paced D now seen (st.cancelTimer.armReconcile reconcileDelay) := by
  have htimed : Timed D now seen st :=
    ⟨htimeout, by simp [hidle], by simp [hrequested], fun _ => hidle⟩
  exact htimed.cancelTimer.armReconcile

omit [DecidableEq A] in
/-- A countdown starts at a time no earlier than the observations. -/
theorem Timed.countdown (st : ControllerState A)
    (htimeout : 0 < st.idleTimeout → st.idleTimeout = D)
    (hrequested : st.standbyRequested = true → ∀ s ∈ seen, s + D ≤ now)
    (hactive : st.activeInbound = ∅) (htime : ∀ s ∈ seen, s ≤ time) :
    Timed D now seen { st with idleSince := some time } := by
  refine ⟨htimeout, ?_, hrequested, fun h => absurd hactive h⟩
  rintro i ⟨⟩
  exact htime

omit [DecidableEq A] in
theorem Paced.refreshIdle {record : Option Runtime} (h : Timed D now seen st)
    (hactive : st.activeInbound = ∅) (htime : ∀ s ∈ seen, s ≤ time)
    (hrecord : ∀ recorded ∈ record.bind (·.idleSince), st.staleRecord recorded = false →
      ∀ s ∈ seen, s ≤ recorded) :
    Paced D now seen (st.refreshIdle record time).1 := by
  have hcount : ∀ {t : Int} (last : Option Int), (∀ s ∈ seen, s ≤ t) →
      Timed D now seen { st with idleSince := some t, lastInboundAt := last } := by
    intro t last ht
    exact Timed.countdown { st with lastInboundAt := last } h.timeout h.requested hactive ht
  unfold ControllerState.refreshIdle
  split
  next recorded hrecorded =>
    split
    next hstale =>
      have hle : ∀ s ∈ seen, s ≤ st.idleSince.getD time := by
        cases hidle : st.idleSince with
        | none => exact htime
        | some i => exact h.idle i hidle
      exact ((hcount st.lastInboundAt hle).stage).armTimer
    next hfresh =>
      exact (hcount _ (hrecord recorded hrecorded (Bool.eq_false_of_not_eq_true hfresh))).armTimer
  next => exact ((hcount _ htime).stage).armTimer

theorem Paced.refresh {inst : Instance} {conns : List (Connection A)} (h : Paced D now seen st)
    (hD : recordTimeoutIs lib D inst) (htime : ∀ s ∈ seen, s ≤ time)
    (hadopts : ∀ recorded ∈ st.adopts lib inst conns, ∀ s ∈ seen, s ≤ recorded)
    (hexec : refreshLists lib inst conns = true → st.standbyExecuting = false) :
    Paced D now
      ((if refreshLists lib inst conns then some time else none).toList ++ seen)
      (st.refresh lib reconcileDelay inst conns time).1 := by
  have hspec := st.refreshed lib reconcileDelay inst conns time
  generalize (st.refresh lib reconcileDelay inst conns time).1 = st' at hspec ⊢
  have htimeout : ∀ compiled, compilePolicy lib inst.autoStandby = .ok (some compiled) →
      compiled.idleTimeout = D := by
    intro compiled hcompile
    simpa only [recordTimeoutIs, hcompile] using hD
  cases hspec with
  | executing hexecuting =>
    have hlists : refreshLists lib inst conns = false := by
      by_contra hlists
      simp [hexec (Bool.eq_true_of_not_eq_false hlists)] at hexecuting
    simpa [hlists] using h
  | ineligible revision =>
    exact Paced.clear { st with inst := inst, runtimeRevision := revision }
  | uncompiled _ heligible hcompile =>
    have hlists : refreshLists lib inst conns = false := by
      unfold refreshLists
      split
      next compiled h => exact absurd h (hcompile compiled)
      next => exact Bool.and_false _
    simp only [hlists, Bool.false_eq_true, if_false, Option.toList_none, List.nil_append]
    exact ⟨⟨h.timeout, h.idle, h.requested, h.active⟩, h.deadline, h.unarmed⟩
  | unclassified compiled err _ heligible hcompile hmatch =>
    have hlists : refreshLists lib inst conns = false := by
      simp [refreshLists, hcompile, listed, hmatch]
    simp only [hlists, Bool.false_eq_true, if_false, Option.toList_none, List.nil_append]
    exact ⟨⟨fun _ => htimeout compiled hcompile, h.idle, h.requested, h.active⟩, h.deadline,
      h.unarmed⟩
  | idle compiled hnot heligible hcompile hmatch =>
    have hlists : refreshLists lib inst conns = false := by
      simp [refreshLists, hcompile, listed, hmatch]
    simp only [hlists, Bool.false_eq_true, if_false, Option.toList_none, List.nil_append]
    refine Paced.refreshIdle ⟨fun _ => htimeout compiled hcompile, h.idle,
      (absurd · Bool.false_ne_true), fun hne => absurd rfl hne⟩ rfl htime ?_
    intro recorded hrecorded hfresh
    have hfresh : st.staleRecord recorded = false := hfresh
    refine hadopts recorded ?_
    simp only [ControllerState.adopts, hnot, heligible, hcompile, hmatch]
    exact Option.filter_eq_some_iff.mpr ⟨hrecorded, by simp [hfresh]⟩
  | active compiled activeSet =>
    exact (Paced.found _ (fun _ => htimeout compiled ‹_›) rfl rfl).stage

theorem Paced.connectionClosed {key : ConnectionKey A} (h : Paced D now seen st)
    (hlast : st.activeInbound = {key} → ∀ s ∈ seen, s ≤ time) :
    Paced D now seen (st.connectionClosed reconcileDelay key time).1 := by
  unfold ControllerState.connectionClosed
  split
  · exact h
  next hkey =>
  have hkey : key ∈ st.activeInbound := not_not.mp hkey
  have hnone : st.idleSince = none := h.active (Finset.ne_empty_of_mem hkey)
  simp only
  split
  next hrest =>
    refine Paced.armReconcile ⟨⟨h.timeout, h.idle, h.requested, fun _ => hnone⟩, h.deadline,
      h.unarmed⟩
  next hrest =>
    have hempty : st.activeInbound.erase key = ∅ := not_not.mp hrest
    have hsingle : st.activeInbound = {key} := by
      rw [← Finset.insert_erase hkey, hempty]
      rfl
    have hcount : Timed D now seen _ := Timed.countdown
      { st with activeInbound := st.activeInbound.erase key, standbyRequested := false }
      h.timeout (fun hr => nomatch hr) hempty (hlast hsingle)
    exact hcount.cancelReconcile.armTimer.stage

theorem Paced.connectionActive (key : ConnectionKey A) (h : Paced D now seen st)
    (seen' : List Int) : Paced D now seen' (st.connectionActive reconcileDelay key time).1 := by
  refine (Paced.found _ ?_ rfl rfl).stage
  exact h.timeout

theorem Paced.handleConnectionEvent {event : ConnectionEvent A} (h : Paced D now seen st)
    (hlast : st.closesLast lib event = true → ∀ s ∈ seen, s ≤ event.observedAt.getD time) :
    Paced D now
      ((if reports lib st event then some (event.observedAt.getD time) else none).toList
        ++ seen) (st.handleConnectionEvent lib reconcileDelay event time).1 := by
  unfold ControllerState.handleConnectionEvent
  cases hpolicy : st.compiledPolicy with
  | none => simpa [reports, hpolicy] using h
  | some policy =>
    simp only
    by_cases hreports : reports lib st event = true
    · obtain ⟨⟨hnew, hactive⟩, hmatch⟩ : (event.type = .new ∧
          event.connection.tcpState.Active = true) ∧
          matchesInboundConnectionForEvent lib st.inst policy event.connection = true := by
        simpa [reports, hpolicy] using hreports
      simp only [hnew, hmatch, hactive, Bool.not_true, Bool.false_eq_true, if_false]
      exact h.connectionActive _ _
    · rw [if_neg hreports]
      have hclosed : (event.type = .destroy ∨ event.connection.tcpState.Active = false ∧
          matchesInboundConnectionForEvent lib st.inst policy event.connection = true) →
          Paced D now seen (st.connectionClosed reconcileDelay (connectionKey event.connection)
            (event.observedAt.getD time)).1 := by
        intro hcloses
        refine h.connectionClosed fun hsingle => hlast ?_
        simpa [ControllerState.closesLast, hpolicy, hsingle] using hcloses
      cases htype : event.type with
      | destroy => exact hclosed (.inl htype)
      | new =>
        simp only
        split
        · exact h
        next hmatch =>
        have hmatch : matchesInboundConnectionForEvent lib st.inst policy event.connection = true :=
          by simpa using hmatch
        split
        next hinactive => exact hclosed (.inr ⟨by simpa using hinactive, hmatch⟩)
        next hactive =>
          have hactive : event.connection.tcpState.Active = true := by simpa using hactive
          exact absurd (by simp [reports, hpolicy, htype, hactive, hmatch]) hreports

theorem Paced.handleActiveReconcile {listing : Except String (List (Connection A))}
    (h : Paced D now seen st) (htime : ∀ s ∈ seen, s ≤ time) (seen' : List Int)
    (hnone : ∀ conns, listing = .ok conns → lists lib st conns = true →
      st.idleSince = none)
    (hseen : (∀ conns, listing = .ok conns → lists lib st conns = false) →
      seen' = seen) :
    Paced D now seen' (st.handleActiveReconcile lib reconcileDelay listing time).1 := by
  unfold ControllerState.handleActiveReconcile
  have hagain : Paced D now seen
      (if st.activeInbound ≠ ∅ then st.armReconcile reconcileDelay else st) := by
    split
    · exact h.armReconcile
    · exact h
  cases listing with
  | error err =>
    rw [hseen fun _ hconns => nomatch hconns]
    exact hagain
  | ok conns =>
    have hlisting : ∀ {b : Bool}, lists lib st conns = b → ∀ conns',
        (Except.ok conns : Except String (List (Connection A))) = .ok conns' →
        lists lib st conns' = b := by
      rintro b hb _ ⟨⟩
      exact hb
    cases hpolicy : st.compiledPolicy with
    | none =>
      rw [hseen (hlisting (by simp [lists, hpolicy]))]
      exact h
    | some policy =>
      simp only
      split
      next err hmatch =>
        rw [hseen (hlisting (by simp [lists, hpolicy, listed, hmatch]))]
        exact hagain
      next activeSet hmatch =>
      split
      next hactive =>
        have hidle := hnone conns rfl ((lists_iff hpolicy hmatch).mpr hactive)
        refine Paced.armReconcile ⟨⟨h.timeout, by simp [hidle], (absurd · Bool.false_ne_true),
          fun _ => hidle⟩, ?_, h.unarmed⟩
        simp [h.unarmed hidle]
      next hempty =>
        have hlists : ¬ lists lib st conns = true :=
          fun hlists => hempty ((lists_iff hpolicy hmatch).mp hlists)
        rw [hseen (hlisting (Bool.eq_false_of_not_eq_true hlists))]
        have hcount : Timed D now seen _ := Timed.countdown
          { st with
            compiledPolicy := some policy, activeInbound := activeSet, standbyRequested := false }
          h.timeout (absurd · Bool.false_ne_true) (not_not.mp hempty) htime
        exact hcount.cancelReconcile.armTimer.stage

theorem Paced.timerFired (h : Paced D now seen st) : Paced D now seen (st.timerFired time).1 := by
  unfold ControllerState.timerFired
  split
  · exact h
  unfold ControllerState.standbyDeadlineElapsed
  split
  · exact h
  · exact h.toTimed.armTimer

theorem Paced.requestStandby (h : Paced D now seen st) :
    Paced D now seen (st.requestStandby now).1 := by
  unfold ControllerState.requestStandby
  split
  next st' hfired =>
    obtain ⟨rfl, -, -, -, -, t, ht, hle⟩ := ControllerState.of_timerFired hfired
    have htimed : Timed D now seen { st' with standbyRequested := true } :=
      ⟨h.timeout, h.idle, fun _ s hs => (h.deadline t ht s hs).trans hle, h.active⟩
    exact htimed.cancelTimer
  next st' hfired =>
    have hpaced : Paced D now seen (st.timerFired now).1 := h.timerFired
    rwa [hfired] at hpaced

omit [DecidableEq A] in
/-- A state without a countdown and without a request agrees with any observations. -/
theorem Paced.of_active (h : Paced D now seen st) (hidle : st.idleSince = none)
    (hrequested : st.standbyRequested = false) (seen' : List Int) : Paced D now seen' st := by
  refine ⟨⟨h.timeout, ?_, ?_, h.active⟩, ?_, h.unarmed⟩
  · simp [hidle]
  · simp [hrequested]
  · simp [h.unarmed hidle]

theorem Paced.confirmIdle {listing : Except String (List (Connection A))} (h : Paced D now seen st)
    (htime : ∀ s ∈ seen, s ≤ now) (hrequested : st.standbyRequested = false) (seen' : List Int)
    (hseen : (∀ conns, listing = .ok conns → lists lib st conns = false) →
      seen' = seen) :
    Paced D now seen' (st.confirmIdle lib reconcileDelay listing now).1 := by
  unfold ControllerState.confirmIdle
  split
  next hpolicy =>
    rw [hseen fun conns _ => by simp [lists, hpolicy]]
    exact h
  next policy hpolicy =>
  split
  next hactive => exact h.of_active (h.active hactive) hrequested seen'
  next hempty =>
  have hempty : st.activeInbound = ∅ := not_not.mp hempty
  split
  next err hmatch =>
    have hlists : ∀ conns, listing = .ok conns → lists lib st conns = false := by
      rintro conns rfl
      have hmatch : matchingConnections lib st.inst policy conns = .error err := hmatch
      simp [lists, hpolicy, listed, hmatch]
    rw [hseen hlists]
    exact (Timed.countdown st h.timeout h.requested hempty htime).armTimer.stage
  next activeSet hmatch =>
  split
  next hnone =>
    have hlists : ∀ conns, listing = .ok conns → lists lib st conns = false := by
      rintro conns rfl
      have hmatch : matchingConnections lib st.inst policy conns = .ok activeSet := hmatch
      simp [lists, hpolicy, listed, hmatch, hnone]
    rw [hseen hlists]
    exact h
  next hsome =>
    have hfound : Timed D now seen'
        { st with activeInbound := activeSet, idleSince := none, lastInboundAt := some now } :=
      ⟨h.timeout, by simp, by simp [hrequested], fun _ => rfl⟩
    exact hfound.cancelTimer.armReconcile.stage

theorem Paced.claimStandby (h : Paced D now seen st) : Paced D now seen st.claimStandby.1 := by
  unfold ControllerState.claimStandby
  split
  · split
    · exact ⟨⟨h.timeout, h.idle, fun hr => (nomatch hr), h.active⟩, h.deadline, h.unarmed⟩
    · exact h
  · exact ⟨⟨h.timeout, h.idle, h.requested, h.active⟩, h.deadline, h.unarmed⟩

theorem Paced.standbyReturned (h : Paced D now seen st) (htime : ∀ s ∈ seen, s ≤ now)
    (result : StandbyResult) :
    ∀ st' ∈ (st.standbyReturned result now).1, Paced D now seen st' := by
  cases result with
  | notFound => exact fun _ hst => nomatch hst
  | ok =>
    rintro st' ⟨⟩
    exact (Paced.clear st).stage
  | error =>
    intro st' hst
    simp only [ControllerState.standbyReturned] at hst
    split at hst
    · cases hst
      exact ⟨⟨h.timeout, h.idle, fun hr => (nomatch hr), h.active⟩, h.deadline, h.unarmed⟩
    next hempty =>
      cases hst
      have hcount : Timed D now seen _ := Timed.countdown { st with standbyRequested := false }
        h.timeout (fun hr => nomatch hr) (not_not.mp hempty) htime
      exact hcount.armTimer.stage

omit [DecidableEq A] in
theorem Paced.hold (h : Paced D now seen st) (timeout : Int) :
    Paced D now seen (st.hold timeout time) := by
  have htimed : Timed D now seen
      { st with holdUntil := some (time + timeout), standbyRequested := false } :=
    ⟨h.timeout, h.idle, fun hr => (nomatch hr), h.active⟩
  unfold ControllerState.hold
  simp only
  split
  · exact htimed.armTimer
  · exact ⟨htimed, h.deadline, h.unarmed⟩

omit [DecidableEq A] in
theorem Paced.empty : Paced D now seen ({} : ControllerState A) :=
  Paced.clear {}

omit [DecidableEq A] in
theorem Paced.HoldStandby {state : Option (ControllerState A)} {inst : Instance}
    (h : ∀ st ∈ state, Paced D now seen st) :
    ∀ st ∈ (HoldStandby lib state inst time).1, Paced D now seen st := by
  have hget : Paced D now seen (state.getD {}) := by
    cases state with
    | none => exact .empty
    | some st => exact h st rfl
  rcases HoldStandby_cases lib state inst time with ⟨-, heq | heq⟩ | ⟨-, -, -, heq⟩ <;> rw [heq]
  · exact h
  · rintro _ ⟨⟩
    exact hget
  · rintro _ ⟨⟩
    exact hget.hold _

/-! ## Requests -/

omit [DecidableEq A] in
theorem standbyRequested_hold (timeout : Int) :
    (st.hold timeout time).standbyRequested = false := by
  unfold ControllerState.hold
  simp only
  split
  · exact ControllerState.standbyRequested_armTimer _ _
  · rfl

omit [DecidableEq A] in
/-- A hold requests no standby. -/
theorem standbyRequested_HoldStandby {state : Option (ControllerState A)} {inst : Instance}
    (h : ∀ st ∈ state, st.standbyRequested = false) :
    ∀ st ∈ (HoldStandby lib state inst time).1, st.standbyRequested = false := by
  rcases HoldStandby_cases lib state inst time with ⟨-, heq | heq⟩ | ⟨-, -, -, heq⟩ <;> rw [heq]
  · exact h
  · rintro _ ⟨⟩
    cases state with
    | none => rfl
    | some st => exact h st rfl
  · rintro _ ⟨⟩
    exact standbyRequested_hold _

theorem standbyRequested_claimStandby (h : st.standbyRequested = false) :
    st.claimStandby.1.standbyRequested = false := by
  unfold ControllerState.claimStandby
  split
  · split
    · rfl
    · exact h
  · exact h

theorem standbyRequested_standbyReturned (result : StandbyResult) :
    ∀ st' ∈ (st.standbyReturned result now).1, st'.standbyRequested = false := by
  cases result with
  | notFound => exact fun _ hst => nomatch hst
  | ok =>
    rintro st' ⟨⟩
    rfl
  | error =>
    intro st' hst
    simp only [ControllerState.standbyReturned] at hst
    split at hst
    · cases hst
      rfl
    · cases hst
      exact ControllerState.standbyRequested_armTimer _ _

/-- An instance that is confirmed to be idle keeps its state. -/
theorem confirmIdle_idle {listing : Except String (List (Connection A))} {st' : ControllerState A}
    {staged : Option RuntimePersistence}
    (h : st.confirmIdle lib reconcileDelay listing now = (st', staged, true)) : st' = st := by
  unfold ControllerState.confirmIdle at h
  split at h
  · cases h
  split at h
  · cases h
  split at h
  · cases h
  split at h
  · cases h
    rfl
  · cases h

/-! ## Runs -/

/-- The invariant of the runs: the observations are behind the event loop, the state respects them,
no standby is requested while the loop confirms one, and a worker on its way to the call comes a
timeout after every observation. -/
structure OnPace (D : Int) (c : Controller A) (seen : List Int) : Prop where
  seen_le : ∀ s ∈ seen, s ≤ c.loopAt
  loopAt_le : c.loopAt ≤ c.now
  state : ∀ st ∈ c.state, Paced D c.now seen st
  phase : c.loop ≠ .ready → ∀ st ∈ c.state, st.standbyRequested = false
  claimed : 0 < c.claimed → ∀ s ∈ seen, s + D ≤ c.now

variable {c c' : Controller A} {e : Event A}

omit [DecidableEq A] in
theorem OnPace.now_le (h : OnPace D c seen) : ∀ s ∈ seen, s ≤ c.now :=
  fun s hs => (h.seen_le s hs).trans h.loopAt_le

omit [DecidableEq A] in
/-- What a step of the event loop has to establish. -/
theorem OnPace.loopDone (h : OnPace D c seen) {state : Option (ControllerState A)}
    (obs : Option Int) (hobs : ∀ t ∈ obs, t ≤ c.now) (hclaimed : obs.isSome → c.claimed = 0)
    (hstate : ∀ st ∈ state, Paced D c.now (obs.toList ++ seen) st) :
    OnPace D (c.loopDone state) (obs.toList ++ seen) := by
  refine ⟨?_, le_refl _, hstate, fun hloop => absurd rfl hloop, ?_⟩
  · intro s hs
    rcases List.mem_append.mp hs with hs | hs
    · exact hobs s (Option.mem_toList.mp hs)
    · exact h.now_le s hs
  · intro hpos
    cases obs with
    | none => exact h.claimed hpos
    | some t => exact absurd (hclaimed rfl) (Nat.ne_of_gt hpos)

omit [DecidableEq A] in
/-- A step of the event loop that observes nothing. -/
theorem OnPace.unseen (h : OnPace D c seen) {state : Option (ControllerState A)}
    (hstate : ∀ st ∈ state, Paced D c.now seen st) : OnPace D (c.loopDone state) seen :=
  h.loopDone none (fun _ ht => nomatch ht) (fun ht => nomatch ht) hstate

omit [DecidableEq A] in
/-- A step outside the event loop that leaves the observations. -/
theorem OnPace.aside (h : OnPace D c seen) {state : Option (ControllerState A)}
    (hstate : ∀ st ∈ state, Paced D c.now seen st)
    (hphase : c.loop ≠ .ready → ∀ st ∈ state, st.standbyRequested = false) {q k m n : Nat}
    (hclaimed : 0 < k → ∀ s ∈ seen, s + D ≤ c.now) :
    OnPace D { c with state := state, queued := q, claimed := k, called := m, returned := n }
      seen :=
  ⟨h.seen_le, h.loopAt_le, hstate, hphase, hclaimed⟩

theorem OnPace.refresh {inst : Instance} {conns : List (Connection A)} {early : Bool}
    (h : OnPace D c seen) (hread : c.readSince time) (hD : recordTimeoutIs lib D inst)
    (hok : keepsPace lib (c, ⟨seen, early⟩) (.refresh inst conns time)) :
    OnPace D (c.loopDone (some ((c.state.getD {}).refresh lib reconcileDelay inst conns time).1))
      ((c.observes lib (.refresh inst conns time)).toList ++ seen) := by
  obtain ⟨hclaimed, hadopts, hexec⟩ := hok
  have hget : Paced D c.now seen (c.state.getD {}) := by
    cases hstate : c.state with
    | none => exact .empty
    | some st => exact h.state st hstate
  refine h.loopDone _ ?_ hclaimed ?_
  · intro t ht
    simp only [observes] at ht
    split at ht
    · cases ht
      exact hread.2.2
    · cases ht
  · rintro _ ⟨⟩
    exact hget.refresh hD (fun s hs => (h.seen_le s hs).trans hread.2.1) hadopts hexec

theorem OnPace.connection {event : ConnectionEvent A} {early : Bool} (h : OnPace D c seen)
    (hpast : event.observedAt.all (· ≤ c.now) = true)
    (hok : keepsPace lib (c, ⟨seen, early⟩) (.connection event)) :
    OnPace D (c.loopDone (c.state.map fun st =>
        (st.handleConnectionEvent lib reconcileDelay event c.now).1))
      ((c.observes lib (.connection event)).toList ++ seen) := by
  obtain ⟨hclaimed, hlast⟩ := hok
  refine h.loopDone _ ?_ hclaimed ?_
  · intro t ht
    simp only [observes] at ht
    split at ht
    · cases ht
      cases hobserved : event.observedAt with
      | none => exact le_refl _
      | some t => simpa [hobserved] using hpast
    · cases ht
  · intro st' hst'
    obtain ⟨st, hst, rfl⟩ := Option.map_eq_some_iff.mp hst'
    have hpaced : Paced D c.now _ (st.handleConnectionEvent lib reconcileDelay event c.now).1 :=
      (h.state st hst).handleConnectionEvent (hlast st hst)
    simpa [observes, hst] using hpaced

theorem OnPace.reconcile {listing : Except String (List (Connection A))} {early : Bool}
    (h : OnPace D c seen) (hread : c.readSince time)
    (hok : keepsPace lib (c, ⟨seen, early⟩) (.reconcile listing time)) :
    OnPace D (c.loopDone (c.state.map fun st =>
        (st.handleActiveReconcile lib reconcileDelay listing time).1))
      ((c.observes lib (.reconcile listing time)).toList ++ seen) := by
  obtain ⟨hclaimed, hidle⟩ := hok
  refine h.loopDone _ ?_ hclaimed ?_
  · intro t ht
    cases listing with
    | error err => cases ht
    | ok conns =>
      simp only [observes] at ht
      split at ht
      · cases ht
        exact hread.2.2
      · cases ht
  · intro st' hst'
    obtain ⟨st, hst, rfl⟩ := Option.map_eq_some_iff.mp hst'
    refine (h.state st hst).handleActiveReconcile
      (fun s hs => (h.seen_le s hs).trans hread.2.1) _ ?_ ?_
    · rintro conns rfl
      exact hidle st hst
    · intro hlists
      cases listing with
      | error err => rfl
      | ok conns => simp [observes, hst, hlists conns rfl]

omit [DecidableEq A] in
/-- The sections of `handleStandbyTimer` after which it gives up the lock. -/
theorem OnPace.pause (h : OnPace D c seen) {st : ControllerState A} (hst : st ∈ c.state)
    (hrequested : st.standbyRequested = false) (phase : LoopPhase) :
    OnPace D { c with state := some st, loop := phase, loopAt := c.now } seen := by
  refine ⟨h.now_le, le_refl _, ?_, ?_, h.claimed⟩
  · rintro _ ⟨⟩
    exact h.state st hst
  · rintro - _ ⟨⟩
    exact hrequested

omit [DecidableEq A] in
/-- What a section brings about from every state holds of the state that it leaves. -/
theorem of_section {α : Type*} {state : Option (ControllerState A)} {st : ControllerState A}
    {run : ControllerState A → ControllerState A × α} {result : α} {P : ControllerState A → Prop}
    (h : ∀ st ∈ state, P (run st).1) (hrun : state.map run = some (st, result)) :
    ∀ st' ∈ some st, P st' := by
  obtain ⟨st₀, hst, hrun⟩ := Option.map_eq_some_iff.mp hrun
  rintro _ ⟨⟩
  have hleft := h st₀ hst
  rwa [hrun] at hleft

theorem OnPace.timer (h : OnPace D c seen) (hs : c.step lib reconcileDelay D .timer = some c') :
    OnPace D c' seen := by
  obtain ⟨-, hs⟩ := Option.ite_none_right_eq_some.mp hs
  split at hs
  next st hfired =>
    cases hs
    obtain ⟨st₀, hst, hfired⟩ := Option.map_eq_some_iff.mp hfired
    obtain ⟨rfl, -, -, hrequested, -⟩ := ControllerState.of_timerFired hfired
    exact h.pause hst hrequested .confirming
  next st hfired =>
    cases hs
    exact h.unseen (of_section (fun st hst => (h.state st hst).timerFired) hfired)
  next =>
    cases hs
    exact h.unseen fun _ hst => nomatch hst

theorem OnPace.confirm {listing : Except String (List (Connection A))} {early : Bool}
    (h : OnPace D c seen) (hok : keepsPace lib (c, ⟨seen, early⟩) (.confirm listing))
    (hs : c.step lib reconcileDelay D (.confirm listing) = some c') :
    OnPace D c' ((c.observes lib (.confirm listing)).toList ++ seen) := by
  obtain ⟨hclaimed, -⟩ := hok
  have hobs : ∀ t ∈ c.observes lib (.confirm listing), t ≤ c.now := by
    intro t ht
    cases listing with
    | error err => cases ht
    | ok conns =>
      simp only [observes] at ht
      split at ht
      · cases ht
        exact le_refl _
      · cases ht
  obtain ⟨hloop, hs⟩ := Option.ite_none_right_eq_some.mp hs
  have hrequested := h.phase (by rw [hloop]; decide)
  have hpaced : ∀ st ∈ c.state, Paced D c.now ((c.observes lib (.confirm listing)).toList ++ seen)
      (st.confirmIdle lib reconcileDelay listing c.now).1 := by
    intro st hst
    refine (h.state st hst).confirmIdle h.now_le (hrequested st hst) _ fun hlists => ?_
    cases listing with
    | error err => rfl
    | ok conns => simp [observes, Option.mem_def.mp hst, hlists conns rfl]
  split at hs
  next st staged hidle =>
    cases hs
    have hdone := h.loopDone _ hobs hclaimed (of_section hpaced hidle)
    obtain ⟨st₀, hst, hidle⟩ := Option.map_eq_some_iff.mp hidle
    cases confirmIdle_idle hidle
    exact ⟨hdone.seen_le, hdone.loopAt_le, hdone.state, fun _ => by
      rintro _ ⟨⟩; exact hrequested st hst, hdone.claimed⟩
  next st staged hbusy =>
    cases hs
    exact h.loopDone _ hobs hclaimed (of_section hpaced hbusy)
  next =>
    cases hs
    exact h.loopDone _ hobs hclaimed fun _ hst => nomatch hst

theorem OnPace.request (h : OnPace D c seen) (hs : c.step lib reconcileDelay D .request = some c') :
    OnPace D c' seen := by
  have hpaced : ∀ st ∈ c.state, Paced D c.now seen (st.requestStandby c.now).1 :=
    fun st hst => (h.state st hst).requestStandby
  obtain ⟨-, hs⟩ := Option.ite_none_right_eq_some.mp hs
  split at hs
  next st hrequest =>
    cases hs
    have hdone := h.unseen (of_section hpaced hrequest)
    exact ⟨hdone.seen_le, hdone.loopAt_le, hdone.state, hdone.phase, hdone.claimed⟩
  next st hrequest =>
    cases hs
    exact h.unseen (of_section hpaced hrequest)
  next =>
    cases hs
    exact h.unseen fun _ hst => nomatch hst

theorem OnPace.claim (h : OnPace D c seen) (hs : c.step lib reconcileDelay D .claim = some c') :
    OnPace D c' seen := by
  have hpaced : ∀ st ∈ c.state, Paced D c.now seen st.claimStandby.1 :=
    fun st hst => (h.state st hst).claimStandby
  have hphase : c.loop ≠ .ready → ∀ st ∈ c.state, st.claimStandby.1.standbyRequested = false :=
    fun hloop st hst => standbyRequested_claimStandby (h.phase hloop st hst)
  obtain ⟨-, hs⟩ := Option.ite_none_right_eq_some.mp hs
  split at hs
  next st hclaim =>
    cases hs
    refine h.aside (of_section hpaced hclaim) (fun hloop => of_section (hphase hloop) hclaim) ?_
    -- the standby was requested, so it comes a timeout after what has been observed
    obtain ⟨st₀, hst, hclaim⟩ := Option.map_eq_some_iff.mp hclaim
    exact fun _ => (h.state st₀ hst).requested (ControllerState.of_claimStandby hclaim).2.2.1
  next st hclaim =>
    cases hs
    exact h.aside (of_section hpaced hclaim) (fun hloop => of_section (hphase hloop) hclaim)
      h.claimed
  next =>
    cases hs
    exact h.aside h.state h.phase h.claimed

theorem OnPace.standbyReturned {result : StandbyResult} (h : OnPace D c seen)
    (hs : c.step lib reconcileDelay D (.standbyReturned result) = some c') : OnPace D c' seen := by
  obtain ⟨-, ⟨⟩⟩ := Option.ite_none_right_eq_some.mp hs
  refine h.aside ?_ ?_ h.claimed
  · intro st' hst'
    obtain ⟨st, hst, hst'⟩ := Option.bind_eq_some_iff.mp hst'
    exact (h.state st hst).standbyReturned h.now_le result st' hst'
  · intro _ st' hst'
    obtain ⟨st, hst, hst'⟩ := Option.bind_eq_some_iff.mp hst'
    exact standbyRequested_standbyReturned result st' hst'

theorem OnPace.release (h : OnPace D c seen) (hs : c.step lib reconcileDelay D .release = some c') :
    OnPace D c' seen := by
  obtain ⟨-, ⟨⟩⟩ := Option.ite_none_right_eq_some.mp hs
  refine h.aside ?_ ?_ h.claimed
  · intro st' hst'
    obtain ⟨st, hst, rfl⟩ := Option.map_eq_some_iff.mp hst'
    have hst := h.state st hst
    exact ⟨⟨hst.timeout, hst.idle, hst.requested, hst.active⟩, hst.deadline, hst.unarmed⟩
  · intro hloop st' hst'
    obtain ⟨st, hst, rfl⟩ := Option.map_eq_some_iff.mp hst'
    exact h.phase hloop st hst

theorem OnPace.step {early : Bool} (h : OnPace D c seen) (hok : keepsPace lib (c, ⟨seen, early⟩) e)
    (hs : c.step lib reconcileDelay D e = some c') :
    OnPace D c' ((c.observes lib e).toList ++ seen) := by
  cases e with
  | elapse time =>
    cases hs
    have hnow : c.now ≤ c.now + time := by omega
    exact ⟨h.seen_le, h.loopAt_le.trans hnow,
      fun st hst => (h.state st hst).mono hnow (List.Subset.refl _), h.phase,
      fun hpos s hs => (h.claimed hpos s hs).trans hnow⟩
  | refresh inst conns time =>
    obtain ⟨⟨hread, hD⟩, ⟨⟩⟩ := Option.ite_none_right_eq_some.mp hs
    exact h.refresh hread hD hok
  | removed =>
    obtain ⟨-, ⟨⟩⟩ := Option.ite_none_right_eq_some.mp hs
    exact h.unseen fun _ hst => nomatch hst
  | connection event =>
    obtain ⟨⟨-, hpast⟩, ⟨⟩⟩ := Option.ite_none_right_eq_some.mp hs
    exact h.connection hpast hok
  | reconcile listing time =>
    obtain ⟨hread, ⟨⟩⟩ := Option.ite_none_right_eq_some.mp hs
    exact h.reconcile hread hok
  | timer => exact h.timer hs
  | confirm listing => exact h.confirm hok hs
  | request => exact h.request hs
  | claim => exact h.claim hs
  | abandon =>
    obtain ⟨-, ⟨⟩⟩ := Option.ite_none_right_eq_some.mp hs
    exact h.aside h.state h.phase h.claimed
  | call =>
    obtain ⟨hpos, ⟨⟩⟩ := Option.ite_none_right_eq_some.mp hs
    exact h.aside h.state h.phase fun _ => h.claimed hpos
  | standbyReturned result => exact h.standbyReturned hs
  | release => exact h.release hs
  | hold inst time =>
    obtain ⟨-, ⟨⟩⟩ := Option.ite_none_right_eq_some.mp hs
    exact h.aside (Paced.HoldStandby h.state)
      (fun hloop => standbyRequested_HoldStandby (h.phase hloop)) h.claimed

/-- **Standby comes an idle timeout after every observed connection.** In every run for an instance
with idle timeout `D` whose steps meet `keepsPace`, `StandbyInstance` is never called within `D` of
a time at which a matching active inbound connection was observed since tracking began. -/
theorem standby_after_idle (lib : NetLib A) (reconcileDelay D start : Int)
    {x : Controller A × History}
    (hx : (idleSystem lib reconcileDelay D start).Reachable (keepsPace lib) x) :
    x.2.early = false := by
  suffices h : OnPace D x.1 x.2.seen ∧ x.2.early = false from h.2
  refine hx.invariant (I := fun x => OnPace D x.1 x.2.seen ∧ x.2.early = false) ?_ ?_
  · refine ⟨⟨fun _ hs => (nomatch hs), le_refl _, fun _ hst => (nomatch hst),
      fun hloop => absurd rfl hloop, fun hpos => absurd hpos (lt_irrefl 0)⟩, rfl⟩
  · rintro ⟨c, seen, early⟩ e ⟨c', h'⟩ ⟨hpace, hearly⟩ hok hs
    obtain ⟨hs, hh⟩ := System.monitored_step_iff.mp hs
    have hpace' : OnPace D c' ((c.observes lib e).toList ++ seen) := hpace.step hok hs
    dsimp only at hh hearly ⊢
    subst hh hearly
    refine ⟨?_, ?_⟩
    · simp only [History.next]
      split
      · exact hpace'
      · exact ⟨fun _ hs => (nomatch hs), hpace'.loopAt_le,
          fun st hst => (hpace'.state st hst).mono (le_refl _) (List.nil_subset _), hpace'.phase,
          fun _ _ hs => (nomatch hs)⟩
    · cases e with
      | call =>
        obtain ⟨hpos, -⟩ := Option.ite_none_right_eq_some.mp hs
        have hlate := hpace.claimed hpos
        simp only [History.next, Bool.false_or, List.any_eq_false, decide_eq_true_eq, not_lt]
        exact hlate
      | _ => rfl

/-! ## Two runs -/

/-- A network with one instance address and one duration, ten units of time. -/
def smallNet : NetLib Nat where
  splitHostPort _ := none
  parseIP _ := none
  toLower := id
  canonicalMIMEHeaderKey := id
  quote := id
  parseDuration text := if text = "10s" then .ok 10 else .error "invalid duration"
  durationString _ := "10s"
  parsePrefix := .ok
  cleanPath := id
  atoi _ := 0
  parseAddr text := if text = "10.0.0.2" then .ok 2 else .error "invalid address"
  prefixContains _ _ := false

/-- A record of a running instance that goes to standby after ten units of time. -/
def webRecord (runtime : Option Runtime) : Instance :=
  ⟨"web", "web", .running, true, "10.0.0.2", false, some ⟨true, "10s", [], []⟩, runtime⟩

def client (state : TCPState) : Connection Nat :=
  ⟨⟨some 7, (4000 : UInt16).toFin, some 2, (80 : UInt16).toFin⟩, state⟩

/-- The steps from the firing of the timer to the call of `StandbyInstance`. -/
def standbySteps : List (Event Nat) := [.timer, .confirm (.ok []), .request, .claim, .call]

theorem standby_after_idle_oneVisit : ∃ x : Controller Nat × History,
    (idleSystem smallNet 5 10 0).Reachable (keepsPace smallNet) x ∧
      (x.1.called = 1 ∧ x.1.now = 12 ∧ x.2.seen = [1]) ∧ x.2.early = false := by
  obtain ⟨x, hx, hcalled⟩ := System.exists_reachable_of_replay
    (idleSystem smallNet 5 10 0) (keepsPace smallNet)
    (fun x => x.1.called = 1 ∧ x.1.now = 12 ∧ x.2.seen = [1])
    (List.flatten [[.refresh (webRecord none) [] 0, .elapse 1,
      .connection ⟨.new, client .established, some 1⟩, .elapse 1,
      .connection ⟨.destroy, client .close, some 2⟩, .elapse 10], standbySteps]) (by decide)
  exact ⟨x, hx, hcalled, standby_after_idle smallNet 5 10 0 hx⟩

/-- **A queued record starts the countdown early.** The record of the idle time 2 is handled again
after a refresh has listed a connection at time 5: the activity time is still that of the earlier
connection, so the record passes for current, and the instance goes to standby at time 12. -/
theorem old_record_starts_early :
    ¬ ∀ x : Controller Nat × History,
      (idleSystem smallNet 5 10 0).Reachable System.Always x → x.2.early = false := by
  intro h
  obtain ⟨x, hx, hearly⟩ := System.exists_reachable_of_replay
    (idleSystem smallNet 5 10 0) System.Always (fun x => x.2.early = true)
    (List.flatten [[.refresh (webRecord none) [] 0, .elapse 1,
      .connection ⟨.new, client .established, some 1⟩, .elapse 1,
      .connection ⟨.destroy, client .close, some 2⟩, .elapse 3,
      .refresh (webRecord (some ⟨some 2, some 1⟩)) [client .established] 5, .elapse 1,
      .refresh (webRecord (some ⟨some 2, some 1⟩)) [] 6, .elapse 6], standbySteps]) (by decide)
  rw [h x hx] at hearly
  cases hearly

end Hypeman.AutoStandby
