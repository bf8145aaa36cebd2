import Hypeman.Instances.Restarts

/-!
# Manual stops suppress automatic restarts

`StopInstance` marks the stop in the restart status before it stops the instance. The reconciler
writes the status of an attempt only when there is no mark, and the handler of failed health checks
looks for the mark under the lock that it restarts under. Between the write of the reconciler and
its restart the lock is free.

* `StopHistory`, `manualStopSystem`: what is recorded of stops and restarts.
* `Suppressed`: a stop that has returned is marked, and no restart is under way.
* `no_restart_after_stop`: in every run in which `StopInstance` does not come between the write of
  the reconciler and its restart, no automatic restart follows a stop before the next
  `StartInstance`.
-/

namespace Hypeman.Instances

open Foundations RestartPolicy

structure StopHistory where
  /-- A `StopInstance` call has returned successfully after the last `StartInstance` call. -/
  stopped : Bool := false
  /-- After that, an automatic restart has started the instance. -/
  restarted : Bool := false
deriving DecidableEq, Repr

def StopHistory.next (h : StopHistory) (s : RestartState) : RestartEvent → StopHistory
  | .stop => if s.state = .stopped then { h with stopped := true } else h
  | .stopped ok => if (s.stopInstance ok).2 then { h with stopped := true } else h
  | .start _ => { h with stopped := false }
  | .restart ok | .replaceStart ok =>
    if (s.startInstance ok).2 then { h with restarted := h.restarted || h.stopped } else h
  | _ => h

/-- The interleavings with the record of stops and restarts. -/
def manualStopSystem (lib : StdLib) (policy : Option Policy) :
    System (RestartState × StopHistory) RestartEvent :=
  (restartSystem lib policy).monitored {} fun h s e _ => h.next s e

/-- The condition on the steps: `StopInstance` does not take the lock between the write of the
reconciler and its restart. -/
def stopApart (x : RestartState × StopHistory) : RestartEvent → Prop
  | .stop => x.1.reconciler.pending = none
  | _ => True

instance (x : RestartState × StopHistory) : (e : RestartEvent) → Decidable (stopApart x e)
  | .stop => inferInstanceAs (Decidable (_ = _))
  | .elapse _ | .observe _ _ _ | .load | .derive | .decide | .write | .restart _ | .stopped _
  | .start _ | .started _ | .unhealthy | .replaceStop _ | .replaceStart _ => .isTrue trivial

/-! ## What a step keeps -/

/-- The status has the mark of a stop. Without a policy there is nothing to mark. -/
def Marked (policy : Option Policy) (status : Status) : Prop :=
  policy.isSome = true → status.blockedReason = some .manualStop

/-- Only a reconciler that found no mark is about to restart the instance. -/
def Reconciler.Permitted (policy : Option Policy) (stopped : Bool) : Reconciler → Prop
  | .attempting _ next _ => policy.isSome = true ∧ next.blockedReason = none
  | .restarting _ _ => stopped = false
  | _ => True

/-- A `StopInstance` call that holds the lock has marked the stop, and the handler of failed health
checks works on an instance that was not stopped. -/
def Holder.Permitted (policy : Option Policy) (status : Status) (stopped : Bool)
    (reconciler : Reconciler) : Holder → Prop
  | .stopping => Marked policy status ∧ reconciler.pending = none
  | .unhealthy _ _ | .replacing _ _ => stopped = false
  | _ => True

/-- A stop that has returned is marked, and no automatic restart is under way. -/
structure Suppressed (policy : Option Policy) (s : RestartState) (h : StopHistory) : Prop where
  marked : h.stopped = true → Marked policy s.status
  reconciler : s.reconciler.Permitted policy h.stopped
  holder : s.holder.Permitted policy s.status h.stopped s.reconciler
  suppressed : h.restarted = false

section Step

variable {lib : StdLib} {policy : Option Policy} {s s' : RestartState} {h : StopHistory}

/-- The mark is overwritten by a mark only. -/
theorem marked_of_writes {next : Status} {stoppedOnly : Bool}
    (h : s.writes next stoppedOnly = true) (hmark : Marked policy s.status) :
    Marked policy next := by
  intro hpolicy
  simp only [RestartState.writes, hmark hpolicy, Bool.and_eq_true] at h
  simpa using h.1.1

theorem markRestartManualStopLocked_marked :
    Marked policy (s.markRestartManualStopLocked policy).status := by
  intro hpolicy
  cases policy with
  | none => cases hpolicy
  | some policy => rfl

theorem Suppressed.init (policy : Option Policy) : Suppressed policy {} {} where
  marked h := nomatch h
  reconciler := trivial
  holder := trivial
  suppressed := rfl

theorem Suppressed.of_moves {status : Status} {holder : Holder} {reconciler : Reconciler}
    (hm : Moves s s' status holder reconciler) (hmarked : h.stopped = true → Marked policy status)
    (hre : reconciler.Permitted policy h.stopped)
    (hholder : holder.Permitted policy status h.stopped reconciler)
    (hsuppressed : h.restarted = false) : Suppressed policy s' h := by
  obtain ⟨-, rfl, rfl, rfl⟩ := hm
  exact ⟨hmarked, hre, hholder, hsuppressed⟩

/-- An unblocked status shows that no stop is in force. -/
theorem Suppressed.stopped_eq_false (hs : Suppressed policy s h) (hpolicy : policy.isSome = true)
    (hblocked : s.status.blockedReason ≠ some .manualStop) : h.stopped = false := by
  by_contra hstopped
  exact hblocked (hs.marked (Bool.eq_true_of_not_eq_false hstopped) hpolicy)

theorem Suppressed.stopped_of_restarting (hs : Suppressed policy s h) {next : Status} {now : Int}
    (hre : s.reconciler = .restarting next now) : h.stopped = false := by
  have hpermitted := hs.reconciler
  rwa [hre] at hpermitted

theorem Suppressed.stopped_of_unhealthy (hs : Suppressed policy s h) {next : Status} {now : Int}
    (hholder : s.holder = .unhealthy next now) : h.stopped = false := by
  have hpermitted := hs.holder
  rwa [hholder] at hpermitted

theorem Suppressed.stopped_of_replacing (hs : Suppressed policy s h) {next : Status} {now : Int}
    (hholder : s.holder = .replacing next now) : h.stopped = false := by
  have hpermitted := hs.holder
  rwa [hholder] at hpermitted

/-- An automatic restart is recorded only where a stop is in force. -/
theorem StopHistory.next_restart (hstopped : h.stopped = false) (ok : Bool) :
    h.next s (.restart ok) = h ∧ h.next s (.replaceStart ok) = h := by
  obtain ⟨stopped, restarted⟩ := h
  subst hstopped
  simp [StopHistory.next]

theorem marked_of_stopped_eq_false {status : Status} (hstopped : h.stopped = false) :
    h.stopped = true → Marked policy status := by
  simp [hstopped]

/-- A reconciler that is not about to restart the instance stays so when a stop returns. -/
theorem Reconciler.Permitted.of_pending {re : Reconciler} {stopped : Bool}
    (h : re.Permitted policy stopped) (hre : re.pending = none) (stopped' : Bool) :
    re.Permitted policy stopped' := by
  cases re with
  | restarting next now => cases hre
  | _ => exact h

theorem Reconciler.Permitted.of_start {re : Reconciler} {stopped : Bool}
    (h : re.Permitted policy stopped) : re.Permitted policy false := by
  cases re with
  | restarting next now => rfl
  | _ => exact h

theorem Decides.permitted {status : Status} {state : State} {now : Int} {re : Reconciler}
    (stopped : Bool) (h : Decides lib policy status state now re) :
    re.Permitted policy stopped ∧ re.pending = none := by
  cases h with
  | idle => exact ⟨trivial, rfl⟩
  | resetting => exact ⟨trivial, rfl⟩
  | noting hpolicy hprepare => exact ⟨trivial, rfl⟩
  | attempting hpolicy _ hprepare =>
    obtain ⟨hblocked, -, -, rfl⟩ := PrepareAttempt_true hprepare
    exact ⟨⟨isSome_of_normalizedPolicy hpolicy, hblocked⟩, rfl⟩

theorem Holder.Permitted.of_pending {holder : Holder} {status : Status} {stopped : Bool}
    {re re' : Reconciler} (h : holder.Permitted policy status stopped re)
    (hre : re'.pending = none) : holder.Permitted policy status stopped re' := by
  cases holder with
  | stopping => exact ⟨h.1, hre⟩
  | _ => exact h

/-- **One step.** -/
theorem Suppressed.step (hs : Suppressed policy s h) {e : RestartEvent}
    (hok : stopApart (s, h) e) (ht : Transition lib policy s s' e) :
    Suppressed policy s' (h.next s e) := by
  cases ht with
  | elapse hm | observe hm =>
    exact .of_moves hm hs.marked hs.reconciler hs.holder hs.suppressed
  | load hre hm | derive hre hm =>
    exact .of_moves hm hs.marked trivial (hs.holder.of_pending rfl) hs.suppressed
  | decide hre hdecides hm =>
    obtain ⟨hpermitted, hpending⟩ := hdecides.permitted h.stopped
    exact .of_moves hm hs.marked hpermitted (hs.holder.of_pending hpending) hs.suppressed
  | refused hfree hre hwrites hm => exact .of_moves hm hs.marked trivial trivial hs.suppressed
  | reset hfree hre hwrites hm | noted hfree hre hwrites hm =>
    exact .of_moves hm (fun hstopped => marked_of_writes hwrites (hs.marked hstopped)) trivial
      trivial hs.suppressed
  | recorded hfree hre hwrites hm =>
    -- the status of an attempt is written over an unmarked status only
    have hpermitted := hs.reconciler
    rw [hre] at hpermitted
    obtain ⟨hpolicy, hblocked⟩ := hpermitted
    have hstopped : h.stopped = false := by
      refine hs.stopped_eq_false hpolicy fun hmark => ?_
      have hnext := marked_of_writes hwrites (fun _ => hmark) hpolicy
      rw [hblocked] at hnext
      cases hnext
    exact .of_moves hm (marked_of_stopped_eq_false hstopped) hstopped trivial hs.suppressed
  | restarted hfree hre hm | restartFailed hfree hpolicy hre hfail hm =>
    have hstopped := hs.stopped_of_restarting hre
    rw [(h.next_restart hstopped _).1]
    exact .of_moves hm hs.marked trivial trivial hs.suppressed
  | stop hfree hholder hm =>
    -- by the condition no reconciler is between its write and its restart
    have hpermitted := hs.reconciler.of_pending hok
    refine .of_moves hm (fun _ => markRestartManualStopLocked_marked) (hpermitted _) ?_ ?_
    · rw [hholder]
      split
      · trivial
      · exact ⟨markRestartManualStopLocked_marked, hok⟩
    · simp only [StopHistory.next]
      split <;> exact hs.suppressed
  | stopped hholder hm =>
    have hpermitted := hs.holder
    rw [hholder] at hpermitted
    obtain ⟨hmarked, hpending⟩ := hpermitted
    refine .of_moves hm (fun _ => hmarked) (hs.reconciler.of_pending hpending _) trivial ?_
    simp only [StopHistory.next]
    split <;> exact hs.suppressed
  | start hfree hholder hm =>
    refine .of_moves hm (marked_of_stopped_eq_false rfl) hs.reconciler.of_start ?_ hs.suppressed
    rcases hholder with rfl | rfl <;> trivial
  | started _ hm | ignored _ hm =>
    exact .of_moves hm hs.marked hs.reconciler trivial hs.suppressed
  | postponed hfree hpolicy hblocked hprepare hm =>
    have hstopped := hs.stopped_eq_false (isSome_of_normalizedPolicy hpolicy) (by simp [hblocked])
    exact .of_moves hm (marked_of_stopped_eq_false hstopped) hs.reconciler trivial hs.suppressed
  | replaces hfree hrunning hpolicy hblocked hprepare hm =>
    have hstopped := hs.stopped_eq_false (isSome_of_normalizedPolicy hpolicy) (by simp [hblocked])
    exact .of_moves hm (marked_of_stopped_eq_false hstopped) hs.reconciler hstopped hs.suppressed
  | replaceStopped hholder hm =>
    exact .of_moves hm hs.marked hs.reconciler (hs.stopped_of_unhealthy hholder) hs.suppressed
  | replaceStopFailed hpolicy hholder hm =>
    have hstopped := hs.stopped_of_unhealthy hholder
    exact .of_moves hm (marked_of_stopped_eq_false hstopped) hs.reconciler trivial hs.suppressed
  | replaced hholder hm =>
    have hstopped := hs.stopped_of_replacing hholder
    rw [(h.next_restart hstopped _).2]
    exact .of_moves hm hs.marked hs.reconciler trivial hs.suppressed
  | replaceStartFailed hpolicy hholder hfail hm =>
    have hstopped := hs.stopped_of_replacing hholder
    rw [(h.next_restart hstopped _).2]
    exact .of_moves hm (marked_of_stopped_eq_false hstopped) hs.reconciler trivial hs.suppressed

/-! ## Every run -/

/-- **No automatic restart follows a stop by a user before the next `StartInstance`**, in every run
in which `StopInstance` does not come between the write of the reconciler and its restart. -/
theorem no_restart_after_stop {x : RestartState × StopHistory}
    (hx : (manualStopSystem lib policy).Reachable stopApart x) : x.2.restarted = false := by
  have hs : Suppressed policy x.1 x.2 := by
    refine hx.invariant (I := fun x => Suppressed policy x.1 x.2) (.init policy) ?_
    intro x e y hs hok hstep
    obtain ⟨hstep, hnext⟩ := System.monitored_step_iff.mp hstep
    rw [hnext]
    exact hs.step hok (transition_of_step hstep)
  exact hs.suppressed

end Step

/-- An instance that is restarted after every exit is stopped and stays so while the reconciler
looks at it. -/
theorem no_restart_after_stop_keptStopped :
    ∃ x, (manualStopSystem restartLib (some (restartAlways 0))).Reachable stopApart x ∧
      (x.2.stopped = true ∧ x.1.state = .stopped ∧ x.1.reconciler = .idle) ∧
      x.2.restarted = false := by
  obtain ⟨x, hx, hstopped⟩ := System.exists_reachable_of_replay
    (manualStopSystem restartLib (some (restartAlways 0))) stopApart
    (fun x => x.2.stopped = true ∧ x.1.state = .stopped ∧ x.1.reconciler = .idle)
    [.observe .running none none, .stop, .stopped true, .load, .derive, .decide]
    (by decide +kernel)
  exact ⟨x, hx, hstopped, no_restart_after_stop hx⟩

/-- An instance has exited and the reconciler has written the status of a restart. A user stops the
instance before the reconciler calls `RestartInstance`, which then starts it all the same. -/
theorem restart_undoes_stop :
    ∃ x, (manualStopSystem restartLib (some (restartAlways 0))).Reachable (fun _ _ => True) x ∧
      x.2.restarted = true ∧ x.1.status.blockedReason = some .manualStop ∧
      x.1.state = .initializing := by
  exact System.exists_reachable_of_replay
    (manualStopSystem restartLib (some (restartAlways 0))) (fun _ _ => True)
    (fun x => x.2.restarted = true ∧ x.1.status.blockedReason = some .manualStop ∧
      x.1.state = .initializing)
    [.observe .stopped (some 1) none, .load, .derive, .decide, .write, .stop, .restart true]
    (by decide +kernel)

end Hypeman.Instances
