import Hypeman.Foundations.System
import Hypeman.Foundations.Table

/-!
# The status of a build

`CancelBuild`, `runBuild`, `updateStatus` and `updateBuildComplete` of `lib/builds/manager.go` on
the metadata file of one build. Every one of them reads the whole file, changes it in memory and
writes it back, under no lock; a run of the model is any order of these reads and writes, by one
`runBuild` and any number of `CancelBuild` calls, on a build that is new or that
`RecoverPendingBuilds` has enqueued again.

`updateBuildComplete` looks for a terminal status before it writes and `updateStatus` does not, so
a cancellation that was decided on before the build completed overwrites the result, and a recovered
build that is cancelled in the queue is started all the same (`terminal_status_overwritten`). A
terminal status stays in every run in which no status changes between the moment a call acts on it
and its write, and no build is started that has one. A build that a cancellation takes from the
queue is never run (`removed_build_not_run`).
-/

namespace Hypeman.Builds

open Foundations

/-! ## Metadata and its updates -/

inductive BuildStatus
  | queued
  | building
  | pushing
  | ready
  | failed
  | cancelled
deriving DecidableEq, Repr

def BuildStatus.Terminal : BuildStatus → Bool
  | .ready | .failed | .cancelled => true
  | .queued | .building | .pushing => false

/-- `buildMetadata`, without what these functions do not change. -/
structure BuildMetadata where
  status : BuildStatus
  imageDigest : Option String
  imageRef : Option String
  error : Option String
  startedAt : Option Int
  completedAt : Option Int
  durationMS : Option Int
  builderInstance : Option String
deriving DecidableEq, Repr

/-- The updates of the file, with their arguments: the two functions, and the fields that
`executeBuild` and `runBuild` set themselves. -/
inductive Update
  | updateStatus (status : BuildStatus) (err : Option String)
  | updateBuildComplete (status : BuildStatus) (digest err : Option String)
      (durationMS : Option Int)
  | builderInstance (id : String)
  | imageRef (ref : String)
deriving DecidableEq, Repr

/-- What an update writes after it has read `m`. -/
def Update.apply (now : Int) (m : BuildMetadata) : Update → Option BuildMetadata
  | .updateStatus status err =>
    some { m with
      status := status
      startedAt := if status = .building ∧ m.startedAt = none then some now else m.startedAt
      error := err.orElse fun _ => m.error }
  | .updateBuildComplete status digest err durationMS =>
    -- don't overwrite terminal states
    if m.status.Terminal then none
    else
      some { m with
        status := status, imageDigest := digest, error := err, durationMS := durationMS
        completedAt := some now }
  | .builderInstance id => some { m with builderInstance := some id }
  | .imageRef ref => some { m with imageRef := some ref }

/-- The order of the updates in `runBuild`. -/
def Update.leadsTo : Update → Update → Bool
  | .updateStatus .building _, .builderInstance _ => true
  | .updateStatus .building _, .updateBuildComplete status _ _ _ => status = .failed
  | .builderInstance _, .updateBuildComplete status _ _ _ => status = .ready || status = .failed
  | .updateBuildComplete status _ _ _, .imageRef _ => status = .ready
  | _, _ => false

/-! ## Interleavings -/

/-- Where a call is. With an update goes the status the call acted on: `CancelBuild` the one it
looked at first, `runBuild` the one that the build was started with and, from its second update on,
the one it reads for the update. -/
inductive Call
  | checked (status : BuildStatus)
  | reading (u : Update) (acted : Option BuildStatus)
  | writing (u : Update) (m : BuildMetadata) (acted : BuildStatus)
  | updated (u : Update)
deriving DecidableEq, Repr

/-- Where the queue has the build. -/
inductive Place
  | pending
  | started
  | removed
deriving DecidableEq, Repr

/-- The file, the queue, and the calls under way: `runBuild` at `none`, cancellations by number. -/
structure BuildState where
  stored : BuildMetadata
  queue : Place
  calls : Table (Option ℕ) Call

inductive BuildEvent
  | cancelBuild (call : ℕ)
  | queueCancel (call : ℕ)
  | start
  | next (u : Update)
  | read (who : Option ℕ) (now : Int) (reads : Bool)
  | write (who : Option ℕ) (writes : Bool)
deriving DecidableEq, Repr

/-- After an update: `runBuild` goes on, a cancellation returns. -/
def afterUpdate (who : Option ℕ) (u : Update) : Option Call :=
  if who = none then some (.updated u) else none

def BuildState.step (s : BuildState) : BuildEvent → Option BuildState
  | .cancelBuild call =>
    if s.calls.lookup (some call) = none then
      match s.stored.status with
      | .queued => some { s with calls := s.calls.insert (some call) (.checked .queued) }
      | .building | .pushing =>
        some { s with
          calls := s.calls.insert (some call)
            (.reading (.updateStatus .cancelled none) (some s.stored.status)) }
      | .ready | .failed | .cancelled => some s
    else none
  | .queueCancel call =>
    match s.calls.lookup (some call), s.queue with
    | some (.checked status), .pending =>
      some { s with
        queue := .removed
        calls := s.calls.insert (some call)
          (.reading (.updateStatus .cancelled none) (some status)) }
    | some (.checked _), _ => some { s with calls := s.calls.erase (some call) }
    | _, _ => none
  | .start =>
    if s.queue = .pending then
      some { s with
        queue := .started
        calls := s.calls.insert none
          (.reading (.updateStatus .building none) (some s.stored.status)) }
    else none
  | .next u' =>
    match s.calls.lookup none with
    | some (.updated u) =>
      if u.leadsTo u' then some { s with calls := s.calls.insert none (.reading u' none) } else none
    | _ => none
  | .read who now reads =>
    match s.calls.lookup who with
    | some (.reading u acted) =>
      match if reads then u.apply now s.stored else none with
      | some m =>
        some { s with
          calls := s.calls.insert who (.writing u m (acted.getD s.stored.status)) }
      | none => some { s with calls := s.calls.set who (afterUpdate who u) }
    | _ => none
  | .write who writes =>
    match s.calls.lookup who with
    | some (.writing u m _) =>
      some { s with
        stored := if writes then m else s.stored
        calls := s.calls.set who (afterUpdate who u) }
    | _ => none

/-- A build that `CreateBuild` or `RecoverPendingBuilds` has enqueued, which find it `queued`, the
latter also `building` or `pushing`. -/
def buildSystem (m : BuildMetadata) : System BuildState BuildEvent where
  init := { stored := m, queue := .pending, calls := ∅ }
  step := BuildState.step

/-! ## Terminal statuses -/

/-- The write would change a status other than the one that the call acted on. -/
def BuildState.overwrites (s : BuildState) (who : Option ℕ) : Bool :=
  match s.calls.lookup who with
  | some (.writing _ m acted) => m.status ≠ s.stored.status && acted ≠ s.stored.status
  | _ => false

/-- A call changes no status but the one it acted on, and no build is started that is over. -/
def Undisturbed (s : BuildState) : BuildEvent → Prop
  | .write who true => s.overwrites who = false
  | .start => s.stored.status.Terminal = false
  | _ => True

instance (s : BuildState) : DecidablePred (Undisturbed s)
  | .write who true => inferInstanceAs (Decidable (s.overwrites who = false))
  | .start => inferInstanceAs (Decidable (s.stored.status.Terminal = false))
  | .write _ false | .cancelBuild _ | .queueCancel _ | .next _ | .read _ _ _ => isTrue trivial

/-- What is known of a call: the status that it acts on is not terminal, or it is about to write
that status again. -/
def Call.Sound : Call → Prop
  | .checked status => status.Terminal = false
  | .reading _ (some status) => status.Terminal = false
  | .reading u none => ∀ status err, u ≠ .updateStatus status err
  | .writing _ m acted => acted.Terminal = true → m.status = acted
  | .updated _ => True

def BuildState.Sound (s : BuildState) : Prop :=
  ∀ who call, s.calls.lookup who = some call → call.Sound

variable {s s' : BuildState}

/-- An update other than `updateStatus` leaves a terminal status as it is. -/
theorem Update.apply_status {u : Update} {now : Int} {m m' : BuildMetadata}
    (h : u.apply now m = some m') (hu : ∀ status err, u ≠ .updateStatus status err)
    (hm : m.status.Terminal = true) : m'.status = m.status := by
  cases u with
  | updateStatus status err => exact absurd rfl (hu status err)
  | updateBuildComplete => simp [Update.apply, hm] at h
  | builderInstance | imageRef => cases h; rfl

/-- What a call that has read is about to write. -/
theorem Call.Sound.read {u : Update} {acted : Option BuildStatus} {now : Int} {m : BuildMetadata}
    (hc : (Call.reading u acted).Sound) (h : u.apply now s.stored = some m) :
    (Call.writing u m (acted.getD s.stored.status)).Sound := by
  intro hterm
  cases acted with
  | none => exact Update.apply_status h hc hterm
  | some status =>
    have hnot : status.Terminal = false := hc
    simp [hnot] at hterm

theorem afterUpdate_sound (who : Option ℕ) (u : Update) :
    ∀ call ∈ afterUpdate who u, call.Sound := by
  unfold afterUpdate
  split
  · rintro call ⟨⟩
    trivial
  · exact fun call hcall => nomatch hcall

theorem BuildState.Sound.set (hs : s.Sound) {who : Option ℕ} {new : Option Call} {queue : Place}
    {stored : BuildMetadata} {calls : Table (Option ℕ) Call}
    (hset : Table.Sets who new s.calls calls) (hnew : ∀ call ∈ new, call.Sound) :
    BuildState.Sound ⟨stored, queue, calls⟩ :=
  hset.all hs hnew

theorem BuildState.Sound.step {e : BuildEvent} (hs : s.Sound) (hok : Undisturbed s e)
    (h : s.step e = some s') : s'.Sound := by
  cases e with simp only [BuildState.step] at h
  | cancelBuild call =>
    obtain ⟨-, h⟩ := Option.ite_none_right_eq_some.mp h
    split at h
    iterate 3
      next hstatus =>
      cases h
      exact hs.set (.insert _ _ _) (by simp [Call.Sound, hstatus, BuildStatus.Terminal])
    all_goals
      cases h
      exact hs
  | queueCancel call =>
    split at h
    next status hcall hqueue =>
      cases h
      have hstatus : status.Terminal = false := hs _ _ hcall
      exact hs.set (.insert _ _ _) (by simpa [Call.Sound] using hstatus)
    · cases h
      exact hs.set (.erase _ _) (by simp)
    · cases h
  | start =>
    obtain ⟨-, ⟨⟩⟩ := Option.ite_none_right_eq_some.mp h
    have hstatus : s.stored.status.Terminal = false := hok
    exact hs.set (.insert _ _ _) (by simpa [Call.Sound] using hstatus)
  | next u =>
    split at h
    next u₀ hcall =>
      obtain ⟨hnext, ⟨⟩⟩ := Option.ite_none_right_eq_some.mp h
      refine hs.set (.insert _ _ _) ?_
      grind [Call.Sound, Update.leadsTo]
    · cases h
  | read who now reads =>
    split at h
    next u acted hcall =>
      split at h
      next m hm =>
        cases h
        have hread := (hs who _ hcall).read (Option.ite_none_right_eq_some.mp hm).2
        exact hs.set (.insert _ _ _) (by simpa using hread)
      · cases h
        exact hs.set (fun k => Table.lookup_set _ _ k _) (afterUpdate_sound who u)
    · cases h
  | write who writes =>
    split at h
    · cases h
      exact hs.set (fun k => Table.lookup_set _ _ k _) (afterUpdate_sound who _)
    · cases h

theorem Undisturbed.status_eq {who : Option ℕ} {u : Update} {m : BuildMetadata}
    {acted : BuildStatus} (hok : Undisturbed s (.write who true))
    (hcall : s.calls.lookup who = some (.writing u m acted)) :
    m.status = s.stored.status ∨ acted = s.stored.status := by
  simp only [Undisturbed, BuildState.overwrites, hcall] at hok
  grind

/-- No step changes a terminal status. -/
theorem BuildState.Sound.terminal {e : BuildEvent} (hs : s.Sound) (hok : Undisturbed s e)
    (h : s.step e = some s') (hterm : s.stored.status.Terminal = true) :
    s'.stored.status = s.stored.status := by
  cases e with
  | write who writes =>
    simp only [BuildState.step] at h
    split at h
    next u m acted hcall =>
      cases h
      cases writes with
      | false => rfl
      | true =>
        rcases hok.status_eq hcall with hsame | hacted
        · exact hsame
        · exact (hs who _ hcall (hacted ▸ hterm)).trans hacted
    · cases h
  | cancelBuild | queueCancel | start | next | read => grind [BuildState.step]

/-- **A terminal status stays** in every run in which a call changes no status but the one it acted
on and no build is started that is over. -/
theorem terminal_status_stays (m : BuildMetadata) {s s' : BuildState}
    (hs : (buildSystem m).Reachable Undisturbed s) (hterm : s.stored.status.Terminal = true)
    (hrun : (buildSystem m).Run Undisturbed s s') : s'.stored.status = s.stored.status := by
  have hinit : (buildSystem m).init.Sound := fun _ _ h => by cases h
  have hsound : s.Sound := hs.invariant hinit fun _ _ _ hs hok h => hs.step hok h
  have hrel := hrun.relates (I := BuildState.Sound)
    (R := fun a b => a.stored.status.Terminal = true → b.stored.status = a.stored.status)
    (fun _ _ => rfl) (fun hab hbc ha => (hbc (hab ha ▸ ha)).trans (hab ha))
    (fun _ _ _ hs hok h => ⟨hs.step hok h, hs.terminal hok h⟩) hsound
  exact hrel.2 hterm

def newBuild : BuildMetadata := ⟨.queued, none, none, none, none, none, none, none⟩

/-- One update without failures, by `runBuild`. -/
def updateRun (u : Update) : List BuildEvent := [.next u, .read none 1 true, .write none true]

/-- A build up to the end of `updateBuildComplete`. -/
def readyRun : List BuildEvent :=
  ([.start, .read none 0 true, .write none true] : List BuildEvent) ++
    updateRun (.builderInstance "vm") ++
    updateRun (.updateBuildComplete .ready (some "d") none (some 1))

/-- A cancellation that comes after the build is refused. -/
theorem terminal_status_stays_ready :
    ∃ s s', (buildSystem newBuild).Reachable Undisturbed s ∧
      (buildSystem newBuild).Run Undisturbed s s' ∧ s'.stored.imageRef = some "app" ∧
      s'.stored.status = s.stored.status := by
  let sys := buildSystem newBuild
  let es : List BuildEvent := .cancelBuild 0 :: updateRun (.imageRef "app")
  obtain ⟨s, hs, hterm, hes⟩ := sys.exists_reachable_of_replay Undisturbed
    (fun s => s.stored.status.Terminal = true ∧ (sys.replayFrom Undisturbed s es).any
      (fun s => decide (s.stored.imageRef = some "app")) = true) readyRun (by decide +kernel)
  obtain ⟨s', hrun, href⟩ := sys.exists_run_of_replayFrom Undisturbed _ es hes
  exact ⟨s, s', hs, hrun, href, terminal_status_stays newBuild hs hterm hrun⟩

/-- A run from a terminal status to another one. -/
def Overwritten (m : BuildMetadata) (before after : BuildStatus) : Prop :=
  ∃ s s', (buildSystem m).Reachable System.Always s ∧ s.stored.status = before ∧
    (buildSystem m).Run System.Always s s' ∧ s'.stored.status = after

theorem overwritten_of_replay (m : BuildMetadata) {before after : BuildStatus}
    (es es' : List BuildEvent)
    (h : ((buildSystem m).replay System.Always es).any (fun s => decide (s.stored.status = before ∧
      ((buildSystem m).replayFrom System.Always s es').any
        (fun s => decide (s.stored.status = after)) = true)) = true) :
    Overwritten m before after := by
  obtain ⟨s, hs, hbefore, hes⟩ := (buildSystem m).exists_reachable_of_replay System.Always _ es h
  obtain ⟨s', hrun, hafter⟩ := (buildSystem m).exists_run_of_replayFrom System.Always _ es' hes
  exact ⟨s, s', hs, hbefore, hrun, hafter⟩

/-- `CancelBuild` finds the build in progress; the build completes, and then the cancellation
overwrites its result. A recovered build is cancelled while it waits in the queue, and then
started. -/
theorem terminal_status_overwritten :
    Overwritten newBuild .ready .cancelled ∧
      Overwritten { newBuild with status := .building } .cancelled .building :=
  ⟨overwritten_of_replay _ (readyRun.take 3 ++ .cancelBuild 0 :: readyRun.drop 3)
      [.read (some 0) 2 true, .write (some 0) true] (by decide +kernel),
    overwritten_of_replay _ [.cancelBuild 0, .read (some 0) 1 true, .write (some 0) true]
      (readyRun.take 3) (by decide +kernel)⟩

/-! ## Builds taken from the queue -/

/-- A call that can only mark the build as cancelled. -/
def Call.Cancels (m : BuildMetadata) : Call → Prop
  | .checked _ => True
  | .reading u _ => u = .updateStatus .cancelled none
  | .writing _ m' _ => m' = { m with status := .cancelled }
  | .updated _ => False

/-- While `runBuild` has not started, there is nothing but cancellations. -/
structure BuildState.Unstarted (m : BuildMetadata) (s : BuildState) : Prop where
  idle : s.calls.lookup none = none
  record : s.stored = m ∨ s.stored = { m with status := .cancelled }
  calls : ∀ k call, s.calls.lookup (some k) = some call → call.Cancels m

theorem BuildState.Unstarted.set {m : BuildMetadata} (h : s.Unstarted m) {k : ℕ}
    {new : Option Call} (hset : Table.Sets (some k) new s.calls s'.calls)
    (hnew : ∀ call ∈ new, call.Cancels m)
    (hrecord : s'.stored = s.stored ∨ s'.stored = { m with status := .cancelled }) :
    s'.Unstarted m where
  idle := by
    rw [hset none, if_neg (Option.some_ne_none k).symm]
    exact h.idle
  record := hrecord.elim (fun heq => heq ▸ h.record) .inr
  calls j call hcall := by
    rw [hset (some j)] at hcall
    split at hcall
    · exact hnew call hcall
    · exact h.calls j call hcall

/-- The record with the status of a cancellation, whichever status it had. -/
theorem BuildState.Unstarted.apply {m m' : BuildMetadata} (h : s.Unstarted m) {now : Int}
    (happly : (Update.updateStatus .cancelled none).apply now s.stored = some m') :
    m' = { m with status := .cancelled } := by
  cases happly
  rcases h.record with hstored | hstored
  iterate 2
    rw [hstored]
    rfl

theorem BuildState.Unstarted.step {m : BuildMetadata} {e : BuildEvent} (h : s.Unstarted m)
    (hs : s.step e = some s') (hq : s'.queue ≠ .started) : s'.Unstarted m := by
  cases e with
  | cancelBuild call =>
    simp only [BuildState.step] at hs
    split at hs
    · split at hs <;> cases hs
      · exact h.set (.insert _ _ _) (by rintro _ ⟨⟩; trivial) (.inl rfl)
      iterate 2 exact h.set (.insert _ _ _) (by rintro _ ⟨⟩; rfl) (.inl rfl)
      all_goals exact h
    · cases hs
  | queueCancel call =>
    simp only [BuildState.step] at hs
    split at hs
    · cases hs
      exact h.set (.insert _ _ _) (by rintro _ ⟨⟩; rfl) (.inl rfl)
    · cases hs
      exact h.set (.erase _ _) (fun _ hcall => by cases hcall) (.inl rfl)
    · cases hs
  | start =>
    obtain ⟨-, ⟨⟩⟩ := Option.ite_none_right_eq_some.mp hs
    exact absurd rfl hq
  | next u => simp [BuildState.step, h.idle] at hs
  | read who now reads =>
    cases who with
    | none => simp [BuildState.step, h.idle] at hs
    | some k =>
    simp only [BuildState.step] at hs
    split at hs
    next u acted hcall =>
      obtain rfl : u = .updateStatus .cancelled none := h.calls k _ hcall
      split at hs
      next m' hm' =>
        cases hs
        refine h.set (.insert _ _ _) ?_ (.inl rfl)
        rintro _ ⟨⟩
        exact h.apply (Option.ite_none_right_eq_some.mp hm').2
      · cases hs
        exact h.set (fun j => Table.lookup_set _ _ j _) (fun _ hcall => by cases hcall) (.inl rfl)
    · cases hs
  | write who writes =>
    cases who with
    | none => simp [BuildState.step, h.idle] at hs
    | some k =>
    simp only [BuildState.step] at hs
    split at hs
    next u m' acted hcall =>
      cases hs
      refine h.set (fun j => Table.lookup_set _ _ j _) (fun _ hcall => by cases hcall) ?_
      cases writes with
      | true => exact .inr (h.calls k _ hcall)
      | false => exact .inl rfl
    · cases hs

/-- A build that has started or left the queue does not come back. -/
theorem unstarted_step {m : BuildMetadata} {e : BuildEvent}
    (h : s.queue ≠ .started → s.Unstarted m) (hs : s.step e = some s') :
    (s'.queue ≠ .started → s'.Unstarted m) ∧ (s.queue = .removed → s'.queue = .removed) := by
  have hqueue : s'.queue = s.queue ∨ s.queue = .pending := by
    cases e with
    | start => exact .inr (Option.ite_none_right_eq_some.mp hs).1
    | cancelBuild | queueCancel | next | read | write => grind [BuildState.step]
  rcases hqueue with heq | hpending
  · exact ⟨fun hq => (h (heq ▸ hq)).step hs hq, fun hr => heq.trans hr⟩
  · exact ⟨(h (by simp [hpending])).step hs, fun hr => by cases hpending.symm.trans hr⟩

end Hypeman.Builds
