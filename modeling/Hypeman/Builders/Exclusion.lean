import Hypeman.Builders.Steps
import Hypeman.Foundations.System

/-!
# A builder is held by one build, and its disk is left alone meanwhile

The calls on one builder of `lib/builders/manager.go` in any order. A call under the manager's lock
is one step. What runs outside the critical section that decided it has steps of its own: the
`resetDisk` that `ResetDisk` starts, and the reaper between `markIdleBuilderDeleting` and
`DeleteBuilder`, which detaches instances from the disk one by one.

Exclusion rests on the persisted status: a held builder is ready, one with a reset under way is
pruning and one the reaper works on is deleting or gone.
-/

namespace Hypeman.Builders

open Foundations Action

/-- A builder in a running process. `holders`: the builds that acquired the builder and have not
released it. -/
structure Process where
  world : World
  pending : Nat
  reaping : Bool
  holders : List String
deriving DecidableEq, Repr

inductive ProcessEvent
  | acquire (buildID : String)
  | release (buildID : String) (now : Int)
  | delete (hasBuilds : Bool)
  | reset (hasBuilds : Bool)
  | resetDisk
  | mark (hasBuilds : Bool) (cutoff : Int)
  /-- A detachment in the reaper's `clearStaleAttachments`, of its own or of `DeleteInstance`. -/
  | detach (inst : String)
  | reap (hasBuilds : Bool)
  /-- The reaper could not clear the attachments. -/
  | skip
  /-- The instance manager attaches and detaches the disk. -/
  | attachments (attached running : List String)
deriving DecidableEq, Repr

/-- The process after a call returned; `done` is what follows where it succeeded. -/
def Process.returned {α : Type} (s : Process) (res : Except Failure α × World)
    (done : α → Process → Process) : Process :=
  match res with
  | (.ok v, w) => done v { s with world := w }
  | (.error _, w) => { s with world := w }

/-- An event, and which of its steps succeed. -/
def Process.step (s : Process) (e : ProcessEvent × List Bool) : Option Process :=
  let w := { s.world with outcomes := e.2 }
  match e.1 with
  | .acquire buildID =>
    s.returned (AcquireForBuild buildID w) fun _ s => { s with holders := buildID :: s.holders }
  | .release buildID now =>
    s.returned (ReleaseBuild buildID now w) fun _ s =>
      { s with holders := s.holders.erase buildID }
  | .delete hasBuilds => s.returned (DeleteBuilder hasBuilds w) fun _ s => s
  | .reset hasBuilds =>
    s.returned (ResetDisk hasBuilds w) fun _ s => { s with pending := s.pending + 1 }
  | .resetDisk =>
    if s.pending = 0 then none
    else Process.returned { s with pending := s.pending - 1 } (Builders.resetDisk w) fun _ s => s
  | .mark hasBuilds cutoff =>
    if s.reaping then none
    else s.returned (markIdleBuilderDeleting hasBuilds cutoff w) fun marked s =>
      { s with reaping := marked }
  | .detach inst => if s.reaping then s.returned (detachVolume inst w) fun _ s => s else none
  | .reap hasBuilds =>
    if s.reaping then
      Process.returned { s with reaping := false } (DeleteBuilder hasBuilds w) fun _ s => s
    else none
  | .skip => if s.reaping then some { s with reaping := false } else none
  | .attachments attached running =>
    some { s with world :=
      { s.world with disk := s.world.disk.map fun _ => attached, instances := running } }

/-- A process that starts with a builder, whatever its status and disk. -/
def processSystem (m : Metadata) (disk : Option (List String)) (instances : List String) :
    System Process (ProcessEvent × List Bool) where
  init := ⟨⟨⟨some m, disk⟩, none, instances, [], []⟩, 0, false, []⟩
  step := Process.step

/-! ## The invariant -/

/-- What the status says of the holder, the reset and the reaper. -/
structure Protocol (m : Option Metadata) (a : Option String) (pending : Nat) (reaping : Bool) :
    Prop where
  held : Held m a
  pending : pending ≠ 0 → pending = 1 ∧ m.map (·.status) = some .pruning
  reaping : reaping = true → ∀ x, m = some x → x.status = .deleting

def Process.Sound (s : Process) : Prop :=
  ∃ m a, At m a anyDisk s.world ∧ Protocol m a s.pending s.reaping ∧ s.holders = a.toList

variable {m m' : Option Metadata} {a : Option String} {p : Nat} {r : Bool} {x : Metadata}

/-- The reaper works on no builder with another status. -/
theorem Protocol.no_reaper (h : Protocol m a p r) {st : BuilderStatus}
    (hm : m.map (·.status) = some st) (hst : st ≠ .deleting) : r = false := by
  cases r with
  | false => rfl
  | true =>
    obtain ⟨x, rfl, rfl⟩ := Option.map_eq_some_iff.mp hm
    exact absurd (h.reaping rfl x rfl) hst

theorem Protocol.no_pending (h : Protocol m a p r) (hm : m.map (·.status) ≠ some .pruning) :
    p = 0 := by
  by_contra hp
  exact hm (h.pending hp).2

/-- A builder without holder and reset may be deleted. -/
theorem Protocol.deleting (h : Protocol m a p r) (hfree : Free m a) (r' : Bool)
    (hm : ∀ x, m' = some x → x.status = .deleting) : Protocol m' none p r' :=
  ⟨.of_none, fun hp => absurd (h.pending hp).2 hfree.2, fun _ => hm⟩

theorem Process.Sound.returned {α : Type} {s : Process} {f : Op α} {w : World}
    {P : World → Prop} {Q : α → World → Prop} {E : World → Prop} {done : α → Process → Process}
    (h : Spec P f Q E) (hw : P w) (hok : ∀ v w', Q v w' → (done v { s with world := w' }).Sound)
    (herr : ∀ w', E w' → Process.Sound { s with world := w' }) :
    (s.returned (f w) done).Sound := by
  obtain ⟨hq, he⟩ := h w hw
  unfold Process.returned
  split
  next v w' heq =>
    rw [heq] at hq
    exact hok v w' (hq v rfl)
  next e w' heq =>
    rw [heq] at he
    exact herr w' (he e rfl)

/-- Deletions keep the protocol, whether the reaper goes on or is through. -/
theorem Process.Sound.delete {s : Process} {w : World} (hw : At m a anyDisk w)
    (hp : Protocol m a s.pending s.reaping) (hh : s.holders = a.toList) (hasBuilds : Bool) :
    (s.returned (DeleteBuilder hasBuilds w) fun _ s => s).Sound := by
  refine .returned (spec_DeleteBuilder hasBuilds hp.held) hw ?_ ?_
  · rintro _ w' ⟨hfree, hw'⟩
    exact ⟨none, none, hw'.any, hp.deleting hfree _ nofun, hfree.1 ▸ hh⟩
  · rintro w' (hw' | ⟨hfree, x, hw'⟩)
    · exact ⟨m, a, hw', hp, hh⟩
    · exact ⟨_, none, hw', hp.deleting hfree _ (by simp), hfree.1 ▸ hh⟩

theorem Process.Sound.step {s s' : Process} {e : ProcessEvent × List Bool} (h : s.Sound)
    (hs : s.step e = some s') : s'.Sound := by
  obtain ⟨m, a, hw, hp, hh⟩ := h
  obtain ⟨e, os⟩ := e
  have hcall := hw.outcomes os
  have hkept : ∀ w', At m a anyDisk w' → Process.Sound { s with world := w' } :=
    fun w' hw' => ⟨m, a, hw', hp, hh⟩
  cases e with
  | acquire buildID =>
    cases hs
    refine .returned (spec_AcquireForBuild buildID) hcall ?_ hkept
    rintro _ w' ⟨hm, rfl, hw'⟩
    exact ⟨m, some buildID, hw', ⟨fun _ => hm, hp.pending, hp.reaping⟩, by simpa using hh⟩
  | release buildID now =>
    cases hs
    refine .returned (spec_ReleaseBuild buildID now) hcall ?_ hkept
    rintro _ w' ⟨rfl, m', hm, hw'⟩
    have hr := hp.no_reaper (hp.held rfl) (by decide)
    exact ⟨m', none, hw', ⟨.of_none, hm ▸ hp.pending, by simp [hr]⟩, by simp [hh]⟩
  | delete hasBuilds =>
    cases hs
    exact .delete hcall hp hh hasBuilds
  | reset hasBuilds =>
    cases hs
    refine .returned (spec_ResetDisk hasBuilds) hcall ?_ hkept
    rintro _ w' ⟨hm, rfl, x, hw'⟩
    have hpend := hp.no_pending (by rcases hm with hm | hm <;> simp [hm])
    have hr : s.reaping = false := by
      rcases hm with hm | hm <;> exact hp.no_reaper hm (by decide)
    exact ⟨_, none, hw', ⟨.of_none, by simp [hpend], by simp [hr]⟩, hh⟩
  | resetDisk =>
    simp only [Process.step] at hs
    split at hs <;> cases hs
    next hpend =>
    -- the reset that is under way was accepted for a builder that is pruning since
    obtain ⟨hone, hst⟩ := hp.pending hpend
    have hr := hp.no_reaper hst (by decide)
    obtain ⟨x, rfl, hx⟩ := Option.map_eq_some_iff.mp hst
    obtain rfl := hp.held.none_of_status hx (by decide)
    have hdone (st : BuilderStatus) :
        Protocol (some (x.become st)) none (s.pending - 1) s.reaping :=
      ⟨.of_none, by simp [hone], by simp [hr]⟩
    refine .returned spec_resetDisk hcall ?_ ?_
    · exact fun _ w' hw' => ⟨_, none, hw'.any, hdone _, hh⟩
    · exact fun w' ⟨st, _, hw'⟩ => ⟨_, none, hw', hdone st, hh⟩
  | mark hasBuilds cutoff =>
    simp only [Process.step] at hs
    split at hs <;> cases hs
    refine .returned (spec_markIdleBuilderDeleting hasBuilds cutoff hp.held) hcall ?_ hkept
    intro marked w' hw'
    cases marked with
    | true =>
      obtain ⟨hfree, x, hw'⟩ := hw'
      exact ⟨_, none, hw', hp.deleting hfree _ (by simp), hfree.1 ▸ hh⟩
    | false => exact ⟨m, a, hw', ⟨hp.held, hp.pending, nofun⟩, hh⟩
  | detach inst =>
    simp only [Process.step] at hs
    split at hs <;> cases hs
    next hr =>
    obtain rfl : a = none := by
      cases a with
      | none => rfl
      | some b => simp [hp.no_reaper (hp.held rfl) (by decide)] at hr
    exact .returned (spec_detachVolume inst fun _ _ => True.intro) hcall (fun _ => hkept) hkept
  | reap hasBuilds =>
    simp only [Process.step] at hs
    split at hs <;> cases hs
    exact .delete (s := { s with reaping := false }) hcall ⟨hp.held, hp.pending, by simp⟩ hh
      hasBuilds
  | skip =>
    simp only [Process.step] at hs
    split at hs <;> cases hs
    exact ⟨m, a, hw, ⟨hp.held, hp.pending, by simp⟩, hh⟩
  | attachments attached running =>
    cases hs
    exact hkept _ ⟨hw.1, hw.2, True.intro, by simpa [Durable.Owned] using hw.4, hw.5⟩

/-! ## Exclusion -/

/-- In every state that the calls on a builder reach, at most one build holds it; every change of
the disk so far, detachments included, was made while none did; and a build can get the builder
only when it is ready. -/
theorem builder_exclusion {m : Metadata} {disk : Option (List String)} {instances : List String}
    {s : Process} (h : (processSystem m disk instances).Reachable System.Always s) :
    s.holders.length ≤ 1 ∧ s.holders = s.world.acquired.toList ∧
      (∀ e ∈ s.world.log, e.change.ofDisk = true → e.acquired = none) ∧
      ∀ buildID outcomes,
        (AcquireForBuild buildID { s.world with outcomes := outcomes }).1 = .ok () →
          s.world.metadata.map (·.status) = some .ready := by
  have hinit : (processSystem m disk instances).init.Sound :=
    ⟨some m, none, ⟨rfl, rfl, True.intro, fun _ => rfl, fun _ he => absurd he List.not_mem_nil⟩,
      ⟨.of_none, absurd rfl, fun h => absurd h Bool.false_ne_true⟩, rfl⟩
  obtain ⟨m, a, hw, -, hh⟩ := h.invariant (I := Process.Sound) hinit
    fun s e s' hs _ hstep => hs.step hstep
  refine ⟨?_, hw.acquired ▸ hh, fun e he => (hw.log e he).2, fun buildID outcomes hok => ?_⟩
  · rw [hh]
    cases a <;> simp
  · rw [hw.metadata]
    exact ((spec_AcquireForBuild buildID _ (hw.outcomes outcomes)).1 () hok).1

/-- A build acquires a builder whose disk is missing while a reset and a deletion are refused. -/
theorem builder_exclusion_held :
    ∃ s, (processSystem ⟨10, .ready, 0, none⟩ none []).Reachable System.Always s ∧
      s.holders = ["b"] ∧ s.world.log.map (·.change) = [.created] ∧
      ∀ e ∈ s.world.log, e.change.ofDisk = true → e.acquired = none := by
  obtain ⟨s, hs, hh⟩ := System.exists_reachable_of_replay
    (processSystem ⟨10, .ready, 0, none⟩ none []) System.Always
    (fun s => s.holders = ["b"] ∧ s.world.log.map (·.change) = [.created])
    [(.acquire "b", []), (.reset false, []), (.delete false, []), (.acquire "c", [])]
    (by decide +kernel)
  exact ⟨s, hs, hh.1, hh.2, (builder_exclusion hs).2.2.1⟩

end Hypeman.Builders
