import Hypeman.Foundations.System
import Hypeman.Images.Store

/-!
# Waiting for an image

`WaitForReady` (`lib/images/manager.go`) beside the pulls of the image it finds. The model is of one
digest: its metadata file, the jobs that pull it, and the call with its channel. A pull writes its
last status, tells the subscribers and then, if no tag claims the image any more, removes it, all
under `createMu`; the call takes no lock, so its steps come between these.

The call subscribes before it looks at the image again. If an image is removed because nothing
claims it, after the notification and before the call subscribes, the second look finds nothing and
the call waits for a notification that has been sent (`unclaimed_before_subscribe`).

* `waiter_not_stranded`: it is not stranded in any run in which the second look finds the image, the
  image is not deleted while the call waits, and a pull that ends can read its metadata and, if it
  has failed, write its status.
-/

namespace Hypeman.Images

open Foundations

/-! ## The system -/

/-- The metadata of the digest: the pull it belongs to, its status and its error. -/
structure PullRecord where
  buildID : ℕ
  status : Status
  error : Option String := none
deriving DecidableEq

structure StatusEvent where
  status : Status
  err : Option String
deriving DecidableEq

def conversionFailedErr (message cause : Option String) : String :=
  match cause, message with
  | some cause, _ => "image conversion failed: " ++ cause
  | none, some message => "image conversion failed: " ++ message
  | none, none => "image conversion failed"

/-- `terminalImageError`: what the call returns for a terminal image. -/
def terminalImageError (md : PullRecord) : Option (Option String) :=
  match md.status with
  | .ready => some none
  | .failed => some (some (conversionFailedErr md.error none))
  | .pending | .pulling | .converting => none

/-- Where the call is, with the pull that it observed last. -/
inductive WaitPhase
  | searching
  | found (observed : ℕ)
  | subscribed (observed : ℕ)
  | waiting (observed : ℕ)
  | returned (err : Option String)
deriving DecidableEq

/-- The channel of the call is among the subscribers. -/
def WaitPhase.Registered : WaitPhase → Bool
  | .subscribed _ | .waiting _ => true
  | .searching | .found _ | .returned _ => false

/-- The call waits at its channel. -/
def WaitPhase.Waiting : WaitPhase → Bool
  | .waiting _ => true
  | .searching | .found _ | .subscribed _ | .returned _ => false

/-- What a pull that has written its last status does before it lets go of `createMu`: it notifies,
unless that is done, and removes an image that is not claimed. -/
structure Announcement where
  buildID : ℕ
  event : StatusEvent
  unclaimed : Bool
  sent : Bool := false
deriving DecidableEq

/-- The metadata, the pulls that are queued or running, those that have ended, the next build id,
the pull that is at its last section under `createMu`, and the call. -/
structure WaitState where
  md : Option PullRecord
  jobs : List ℕ
  ended : List ℕ
  nextBuildID : ℕ
  announcing : Option Announcement
  phase : WaitPhase
  channel : Option StatusEvent
deriving DecidableEq

inductive WaitEvent
  /-- `CreateImage` makes a new pull; without a job if it fails after writing the metadata. -/
  | create (queues : Bool)
  /-- `updateStatusByDigest` with a status that is not terminal. -/
  | advance (buildID : ℕ) (status : Status) (writes : Bool)
  /-- `updateStatusByDigest` with `StatusFailed`, up to the notification; it does nothing if the
  metadata cannot be read. -/
  | fail (buildID : ℕ) (err : String) (reads writes : Bool)
  /-- `finalizeImage` up to the notification; without readable metadata the pull is stale. -/
  | finalize (buildID : ℕ) (reads unclaimed : Bool)
  | notify
  | unlock
  /-- The pull ends because the image is ready by now. -/
  | deduplicate (buildID : ℕ)
  /-- The pull ends because another one was registered. -/
  | stale (buildID : ℕ)
  /-- The image is deleted, or removed with the last of its tags. -/
  | remove
  | find
  | subscribe
  | recheck (reads : Bool)
  | receive
  /-- The context is cancelled, or no image is found in time. -/
  | giveUp (err : String)

namespace WaitState

variable (s : WaitState)

/-- `notifyReady`: the channel has room for one event. -/
def notifyReady (event : StatusEvent) : WaitState :=
  { s with channel := if s.phase.Registered then s.channel.or (some event) else s.channel }

def endPull (buildID : ℕ) : WaitState :=
  { s with jobs := s.jobs.filter (· ≠ buildID), ended := buildID :: s.ended }

/-- The metadata belong to the pull. -/
def current (buildID : ℕ) : Bool := s.md.any (·.buildID = buildID)

/-- The metadata with another status, and another error if there is one. -/
def writeStatus (status : Status) (err : Option String) : WaitState :=
  { s with md := s.md.map fun md => { md with status := status, error := err.or md.error } }

def step : WaitEvent → Option WaitState
  | .create queues =>
    -- an image that is ready or being pulled is not pulled again
    if s.announcing = none ∧ s.md.all (·.status = .failed) then
      some { s with
        md := some ⟨s.nextBuildID, .pending, none⟩
        jobs := if queues then s.nextBuildID :: s.jobs else s.jobs
        nextBuildID := s.nextBuildID + 1 }
    else none
  | .advance buildID status writes =>
    if s.announcing = none ∧ buildID ∈ s.jobs ∧ isPendingImageStatus status then
      some (if s.current buildID ∧ writes then s.writeStatus status none else s)
    else none
  | .fail buildID err reads writes =>
    if s.announcing = none ∧ buildID ∈ s.jobs then
      if s.current buildID ∧ reads then
        let s' := if writes then s.writeStatus .failed (some err) else s
        some { s' with announcing := some ⟨buildID, ⟨.failed, some err⟩, false, false⟩ }
      else some (s.endPull buildID)
    else none
  | .finalize buildID reads unclaimed =>
    if s.announcing = none ∧ buildID ∈ s.jobs then
      if s.current buildID ∧ reads then
        some { s with
          md := some ⟨buildID, .ready, none⟩
          announcing := some ⟨buildID, ⟨.ready, none⟩, unclaimed, false⟩ }
      else some (s.endPull buildID)
    else none
  | .notify =>
    match s.announcing with
    | some a =>
      if a.sent then none
      else some { s.notifyReady a.event with announcing := some { a with sent := true } }
    | none => none
  | .unlock =>
    match s.announcing with
    | some a =>
      if a.sent then
        some { s.endPull a.buildID with
          md := if a.unclaimed then none else s.md
          announcing := none }
      else none
    | none => none
  | .deduplicate buildID =>
    if buildID ∈ s.jobs ∧ s.announcing.all (·.buildID ≠ buildID) ∧ s.md.any (·.status = .ready) then
      some (s.endPull buildID)
    else none
  | .stale buildID =>
    if s.announcing = none ∧ buildID ∈ s.jobs ∧ (s.jobs ++ s.ended).any (buildID < ·) then
      some (s.endPull buildID)
    else none
  | .remove => if s.announcing = none then some { s with md := none } else none
  | .find =>
    match s.phase, s.md with
    | .searching, some md =>
      match terminalImageError md with
      | some err => some { s with phase := .returned err }
      | none => some { s with phase := .found md.buildID }
    | _, _ => none
  | .subscribe =>
    match s.phase with
    | .found observed => some { s with phase := .subscribed observed }
    | _ => none
  | .recheck reads =>
    match s.phase with
    | .subscribed observed =>
      match if reads then s.md else none with
      | some md =>
        match terminalImageError md with
        | some err => some { s with phase := .returned err }
        | none => some { s with phase := .waiting md.buildID }
      | none => some { s with phase := .waiting observed }
    | _ => none
  | .receive =>
    match s.phase, s.channel with
    | .waiting _, some event =>
      some { s with
        phase := .returned
          (if event.status = .ready then none else some (conversionFailedErr none event.err))
        channel := none }
    | _, _ => none
  | .giveUp err =>
    match s.phase with
    | .searching | .waiting _ => some { s with phase := .returned (some err) }
    | _ => none

end WaitState

/-- A digest that was not pulled yet, and a call. -/
def waitSystem : System WaitState WaitEvent where
  init := ⟨none, [], [], 0, none, .searching, none⟩
  step := WaitState.step

/-- The call waits for a pull that has ended, without a notification. -/
def WaitState.Stranded (s : WaitState) : Prop :=
  ∃ observed ∈ s.ended, s.phase = .waiting observed ∧ s.channel = none

instance (s : WaitState) : Decidable s.Stranded := inferInstanceAs (Decidable (∃ _ ∈ _, _ ∧ _))

/-- A pull that ends can read its metadata, and write the status of its failure; the second look
finds the image, unless a notification has come; and the image is not deleted while the call waits
for one. -/
def ImageStays (s : WaitState) : WaitEvent → Prop
  | .fail buildID _ reads writes => s.current buildID → reads = true ∧ writes = true
  | .finalize buildID reads _ => s.current buildID → reads = true
  | .recheck reads => s.channel = none → reads = true ∧ s.md.isSome = true
  | .remove => s.channel = none → s.phase.Waiting = false
  | _ => True

instance (s : WaitState) : DecidablePred (ImageStays s)
  | .fail _ _ _ _ => inferInstanceAs (Decidable (_ → _ ∧ _))
  | .finalize _ _ _ => inferInstanceAs (Decidable (_ → _ = _))
  | .recheck _ => inferInstanceAs (Decidable (_ → _ ∧ _))
  | .remove => inferInstanceAs (Decidable (_ → _ = _))
  | .create _ | .advance _ _ _ | .notify | .unlock | .deduplicate _ | .stale _
  | .find | .subscribe | .receive | .giveUp _ => isTrue trivial

/-! ## The invariant -/

/-- What holds in the runs: the metadata belong to the pull that was made last, which has not ended
while its status is not terminal; a pull that announces its status has written it; and a call
without a notification waits for a pull that is not over or about to notify. -/
structure WaitState.Sound (s : WaitState) : Prop where
  bound : ∀ b, b ∈ s.jobs ∨ b ∈ s.ended → b < s.nextBuildID
  apart : ∀ b ∈ s.jobs, b ∉ s.ended
  last : ∀ md ∈ s.md, md.buildID + 1 = s.nextBuildID
  running : ∀ md ∈ s.md, isPendingImageStatus md.status = true → md.buildID ∉ s.ended
  holder : ∀ a ∈ s.announcing, a.buildID ∈ s.jobs
  settled : s.announcing ≠ none → ∀ md ∈ s.md, isPendingImageStatus md.status = false
  blocked : ∀ observed, s.phase = .waiting observed → s.channel = none →
    (∃ md ∈ s.md, md.buildID = observed ∧ isPendingImageStatus md.status = true) ∨
      ∃ a ∈ s.announcing, a.buildID = observed ∧ a.sent = false

variable {s s' : WaitState}

namespace WaitState

theorem Sound.not_stranded (hs : s.Sound) : ¬ s.Stranded := by
  rintro ⟨observed, hended, hphase, hchannel⟩
  rcases hs.blocked observed hphase hchannel with ⟨md, hmd, rfl, hpending⟩ | ⟨a, ha, rfl, -⟩
  · exact hs.running md hmd hpending hended
  · exact hs.apart _ (hs.holder a ha) hended

theorem terminalImageError_eq_none {md : PullRecord} (h : terminalImageError md = none) :
    isPendingImageStatus md.status = true := by
  unfold terminalImageError at h
  split at h <;> simp_all [isPendingImageStatus]

/-- A pull ends that the metadata do not show as running. -/
theorem Sound.endPull (hs : s.Sound) {buildID : ℕ} (hjob : buildID ∈ s.jobs)
    (hfree : ∀ a ∈ s.announcing, a.buildID ≠ buildID)
    (hmd : ∀ md ∈ s.md, isPendingImageStatus md.status = true → md.buildID ≠ buildID) :
    (s.endPull buildID).Sound where
  bound b hb := by
    have hbuild := hs.bound buildID (.inl hjob)
    simp only [WaitState.endPull, List.mem_filter, List.mem_cons] at hb
    rcases hb with hb | rfl | hb
    · exact hs.bound b (.inl hb.1)
    · exact hbuild
    · exact hs.bound b (.inr hb)
  apart b hb hended := by
    simp only [WaitState.endPull, List.mem_filter, decide_eq_true_eq] at hb
    exact (List.mem_cons.mp hended).elim hb.2 (hs.apart b hb.1)
  last := hs.last
  running md hmem hpending hended :=
    (List.mem_cons.mp hended).elim (hmd md hmem hpending) (hs.running md hmem hpending)
  holder a ha := List.mem_filter.mpr ⟨hs.holder a ha, by simpa using hfree a ha⟩
  settled := hs.settled
  blocked := hs.blocked

/-- The call goes on. -/
theorem Sound.goto (hs : s.Sound) {phase : WaitPhase} {channel : Option StatusEvent}
    (hblocked : ∀ observed, phase = .waiting observed → channel = none →
      ∃ md ∈ s.md, md.buildID = observed ∧ isPendingImageStatus md.status = true) :
    Sound { s with phase := phase, channel := channel } :=
  { hs with blocked := fun observed hphase hchannel => .inl (hblocked observed hphase hchannel) }

theorem current_iff {buildID : ℕ} :
    s.current buildID = true ↔ ∃ md ∈ s.md, md.buildID = buildID := by
  simp [WaitState.current, Option.any_eq_true]

/-- A pull ends because the metadata belong to another one. -/
theorem Sound.endOther (hs : s.Sound) {buildID : ℕ} (hfree : s.announcing = none)
    (hjob : buildID ∈ s.jobs) (hother : ¬ s.current buildID = true) :
    (s.endPull buildID).Sound := by
  refine hs.endPull hjob (by simp [hfree]) fun md hmd _ hsame => ?_
  exact hother (current_iff.mpr ⟨md, hmd, hsame⟩)

/-- A pull has written its last status and is about to announce it. -/
theorem Sound.announce (hs : s.Sound) {buildID : ℕ} (hfree : s.announcing = none)
    (hjob : buildID ∈ s.jobs) (hcurrent : s.current buildID = true) (md' : PullRecord)
    (hbuild : md'.buildID = buildID) (hterminal : isPendingImageStatus md'.status = false)
    (event : StatusEvent) (unclaimed : Bool) :
    Sound
      { s with md := some md', announcing := some ⟨buildID, event, unclaimed, false⟩ } where
  bound := hs.bound
  apart := hs.apart
  last md hmd := by
    cases hmd
    obtain ⟨old, hold, hsame⟩ := current_iff.mp hcurrent
    rw [hbuild, ← hsame]
    exact hs.last old hold
  running md hmd hpending := by
    cases hmd
    simp [hterminal] at hpending
  holder a ha := by
    cases ha
    exact hjob
  settled _ md hmd := by
    cases hmd
    exact hterminal
  blocked observed hphase hchannel := by
    rcases hs.blocked observed hphase hchannel with ⟨md, hmd, rfl, -⟩ | ⟨a, ha, -⟩
    · obtain ⟨old, hold, hsame⟩ := current_iff.mp hcurrent
      cases Option.mem_unique hmd hold
      exact .inr ⟨_, rfl, hsame.symm, rfl⟩
    · rw [hfree] at ha
      cases ha

theorem Sound.create (hs : s.Sound) (hfree : s.announcing = none)
    (hfailed : s.md.all (·.status = .failed) = true) {jobs : List ℕ}
    (hjobs : ∀ b ∈ jobs, b = s.nextBuildID ∨ b ∈ s.jobs) :
    Sound { s with
      md := some ⟨s.nextBuildID, .pending, none⟩, jobs := jobs
      nextBuildID := s.nextBuildID + 1 } where
  bound b hb := by
    change b < s.nextBuildID + 1
    rcases hb with hb | hb
    · rcases hjobs b hb with rfl | hb
      · omega
      · have hlt := hs.bound b (.inl hb)
        omega
    · have hlt := hs.bound b (.inr hb)
      omega
  apart b hb hended := by
    rcases hjobs b hb with rfl | hb
    · exact lt_irrefl _ (hs.bound _ (.inr hended))
    · exact hs.apart b hb hended
  last md hmd := by
    cases hmd
    rfl
  running md hmd _ hended := by
    cases hmd
    exact lt_irrefl _ (hs.bound _ (.inr hended))
  holder a ha := by
    rw [hfree] at ha
    cases ha
  settled hne := absurd hfree hne
  blocked observed hphase hchannel := by
    rcases hs.blocked observed hphase hchannel with ⟨md, hmd, -, hpending⟩ | ⟨a, ha, -⟩
    · rw [Option.mem_def.mp hmd] at hfailed
      simp_all [isPendingImageStatus]
    · rw [hfree] at ha
      cases ha

theorem Sound.writeStatus (hs : s.Sound) (hfree : s.announcing = none) {status : Status}
    (hpending : isPendingImageStatus status = true) (hrunning : ∀ md ∈ s.md, md.buildID ∉ s.ended) :
    (s.writeStatus status none).Sound where
  bound := hs.bound
  apart := hs.apart
  last md hmd := by
    obtain ⟨old, hold, rfl⟩ := Option.map_eq_some_iff.mp hmd
    exact hs.last old hold
  running md hmd _ := by
    obtain ⟨old, hold, rfl⟩ := Option.map_eq_some_iff.mp hmd
    exact hrunning old hold
  holder := hs.holder
  settled hne := absurd hfree hne
  blocked observed hphase hchannel := by
    rcases hs.blocked observed hphase hchannel with ⟨md, hmd, hbuild, -⟩ | hsent
    · exact .inl ⟨_, Option.map_eq_some_iff.mpr ⟨md, hmd, rfl⟩, hbuild, hpending⟩
    · exact .inr hsent

theorem Sound.notify (hs : s.Sound) {a : Announcement} (ha : s.announcing = some a) :
    Sound { s.notifyReady a.event with announcing := some { a with sent := true } } where
  bound := hs.bound
  apart := hs.apart
  last := hs.last
  running := hs.running
  holder a' ha' := by
    cases ha'
    exact hs.holder a ha
  settled _ := hs.settled (by simp [ha])
  blocked observed hphase hchannel := by
    have hwaiting : s.phase = .waiting observed := hphase
    simp [WaitState.notifyReady, hwaiting, WaitPhase.Registered] at hchannel

theorem Sound.unlock (hs : s.Sound) {a : Announcement} (ha : s.announcing = some a)
    (hsent : a.sent = true) :
    Sound { s.endPull a.buildID with
      md := if a.unclaimed then none else s.md, announcing := none } := by
  have hterminal := hs.settled (by simp [ha])
  have hfree : Sound { s with
      md := if a.unclaimed then none else s.md, announcing := none } := by
    have hmd : ∀ md, md ∈ (if a.unclaimed then none else s.md) → md ∈ s.md := by
      intro md hmd
      split at hmd
      · cases hmd
      · exact hmd
    refine ⟨hs.bound, hs.apart, fun md h => hs.last md (hmd md h),
      fun md h => hs.running md (hmd md h), nofun, fun h => absurd rfl h, ?_⟩
    intro observed hphase hchannel
    rcases hs.blocked observed hphase hchannel with ⟨md, hmem, -, hpending⟩ | ⟨a', ha', -, hunsent⟩
    · simp [hterminal md hmem] at hpending
    · cases ha.symm.trans ha'
      simp [hsent] at hunsent
  refine hfree.endPull (hs.holder a ha) nofun fun md hmd hpending => ?_
  have hmem : md ∈ s.md := by
    by_cases hunclaimed : a.unclaimed
    · simp [hunclaimed] at hmd
    · simpa [hunclaimed] using hmd
  simp [hterminal md hmem] at hpending

theorem Sound.remove (hs : s.Sound) (hfree : s.announcing = none)
    (hok : s.channel = none → s.phase.Waiting = false) :
    Sound { s with md := none } := by
  refine ⟨hs.bound, hs.apart, nofun, nofun, hs.holder, fun h => absurd hfree h, ?_⟩
  intro observed hphase hchannel
  have hwaiting := hok hchannel
  rw [show s.phase = .waiting observed from hphase] at hwaiting
  cases hwaiting

theorem Sound.step {e : WaitEvent} (hs : s.Sound) (hok : ImageStays s e)
    (h : s.step e = some s') : s'.Sound := by
  cases e with simp only [WaitState.step] at h
  | create queues =>
    obtain ⟨⟨hfree, hfailed⟩, ⟨⟩⟩ := Option.ite_none_right_eq_some.mp h
    refine hs.create hfree hfailed fun b hb => ?_
    split at hb
    · exact List.mem_cons.mp hb
    · exact .inr hb
  | advance buildID status writes =>
    obtain ⟨⟨hfree, hjob, hpending⟩, ⟨⟩⟩ := Option.ite_none_right_eq_some.mp h
    split
    next hcurrent =>
      refine hs.writeStatus hfree hpending fun md hmd => ?_
      obtain ⟨old, hold, rfl⟩ := current_iff.mp hcurrent.1
      cases Option.mem_unique hmd hold
      exact hs.apart _ hjob
    next => exact hs
  | fail buildID err reads writes =>
    obtain ⟨⟨hfree, hjob⟩, h⟩ := Option.ite_none_right_eq_some.mp h
    split at h
    next hread =>
      cases h
      have hcurrent := hread.1
      obtain ⟨md, hmd, hbuild⟩ := current_iff.mp hcurrent
      cases (hok hcurrent).2
      have hmap : s.writeStatus .failed (some err) = { s with
          md := some { md with status := .failed, error := some err } } := by
        rw [WaitState.writeStatus, Option.mem_def.mp hmd]
        rfl
      rw [if_pos rfl, hmap]
      exact hs.announce hfree hjob hcurrent { md with status := .failed, error := some err } hbuild
        rfl _ _
    next hother =>
      cases h
      exact hs.endOther hfree hjob fun hcurrent => hother ⟨hcurrent, (hok hcurrent).1⟩
  | finalize buildID reads unclaimed =>
    obtain ⟨⟨hfree, hjob⟩, h⟩ := Option.ite_none_right_eq_some.mp h
    split at h
    next hread =>
      cases h
      exact hs.announce hfree hjob hread.1 ⟨buildID, .ready, none⟩ rfl rfl _ _
    next hother =>
      cases h
      exact hs.endOther hfree hjob fun hcurrent => hother ⟨hcurrent, hok hcurrent⟩
  | notify =>
    split at h
    next a ha =>
      obtain ⟨-, ⟨⟩⟩ := Option.ite_none_left_eq_some.mp h
      exact hs.notify ha
    · cases h
  | unlock =>
    split at h
    next a ha =>
      obtain ⟨hsent, ⟨⟩⟩ := Option.ite_none_right_eq_some.mp h
      exact hs.unlock ha hsent
    · cases h
  | deduplicate buildID =>
    obtain ⟨⟨hjob, hfree, hready⟩, ⟨⟩⟩ := Option.ite_none_right_eq_some.mp h
    refine hs.endPull hjob ?_ fun md hmd hpending => ?_
    · simpa [Option.all_eq_true] using hfree
    · rw [Option.mem_def.mp hmd] at hready
      simp_all [isPendingImageStatus]
  | stale buildID =>
    obtain ⟨⟨hfree, hjob, hlater⟩, ⟨⟩⟩ := Option.ite_none_right_eq_some.mp h
    obtain ⟨later, hmem, hlt⟩ := List.any_eq_true.mp hlater
    have hbound := hs.bound later (List.mem_append.mp hmem)
    refine hs.endPull hjob (by simp [hfree]) fun md hmd _ => ?_
    have hlast := hs.last md hmd
    simp only [decide_eq_true_eq] at hlt
    omega
  | remove =>
    obtain ⟨hfree, ⟨⟩⟩ := Option.ite_none_right_eq_some.mp h
    exact hs.remove hfree hok
  | find =>
    split at h
    next md hphase hmd =>
      split at h <;> cases h <;> exact hs.goto nofun
    · cases h
  | subscribe =>
    split at h
    · cases h
      exact hs.goto nofun
    · cases h
  | recheck reads =>
    split at h
    next observed hphase =>
      split at h
      next md hread =>
        have hmd : s.md = some md := (Option.ite_none_right_eq_some.mp hread).2
        split at h
        · cases h
          exact hs.goto nofun
        next hpending =>
          cases h
          refine hs.goto ?_
          rintro _ ⟨⟩ -
          exact ⟨md, hmd, rfl, terminalImageError_eq_none hpending⟩
      next hread =>
        cases h
        refine hs.goto fun _ _ hchannel => ?_
        obtain ⟨rfl, hsome⟩ := hok hchannel
        rw [show s.md = none from hread] at hsome
        cases hsome
    · cases h
  | receive =>
    split at h
    · cases h
      exact hs.goto nofun
    · cases h
  | giveUp err =>
    split at h
    iterate 2
      · cases h
        exact hs.goto nofun
    · cases h

end WaitState

/-- **The call is not stranded** in any run in which the image stays: it does not wait without a
notification for a pull that has ended. -/
theorem waiter_not_stranded {s : WaitState} (hs : waitSystem.Reachable ImageStays s) :
    ¬ s.Stranded := by
  have hinit : waitSystem.init.Sound :=
    ⟨by simp [waitSystem], nofun, nofun, nofun, nofun, nofun, nofun⟩
  exact (hs.invariant hinit fun _ _ _ hs hok h => hs.step hok h : s.Sound).not_stranded

/-! ## An image that is removed before the call subscribes -/

/-- A pull that the call finds, and that is not claimed when it is finalized. -/
def unclaimedPull : List WaitEvent :=
  [.create true, .find, .advance 0 .pulling true, .advance 0 .converting true,
    .finalize 0 true true,
    .notify, .unlock]

theorem unclaimed_before_subscribe : ∃ s, waitSystem.Reachable System.Always s ∧ s.Stranded :=
  waitSystem.exists_reachable_of_replay System.Always WaitState.Stranded
    (unclaimedPull ++ [.subscribe, .recheck true]) (by decide +kernel)

/-- The same pull, with the second look before the end of it. -/
theorem waiter_not_stranded_subscribed :
    ∃ s, waitSystem.Reachable ImageStays s ∧ s.channel = some ⟨.ready, none⟩ ∧ ¬ s.Stranded := by
  obtain ⟨s, hs, hchannel⟩ := waitSystem.exists_reachable_of_replay ImageStays
    (fun s => s.channel = some ⟨.ready, none⟩)
    (unclaimedPull.take 3 ++ [.subscribe, .recheck true] ++ unclaimedPull.drop 3)
    (by decide +kernel)
  exact ⟨s, hs, hchannel, waiter_not_stranded hs⟩

end Hypeman.Images
