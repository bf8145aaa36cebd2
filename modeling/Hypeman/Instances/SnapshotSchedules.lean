import Hypeman.Foundations.System
import Hypeman.Foundations.Words

/-!
# Scheduled snapshots

Model of the times of a snapshot schedule: `NextRun` (`lib/scheduledsnapshots/policy.go`) and
`runSnapshotScheduleForInstanceLocked` (`lib/instances/snapshot_schedule.go`). The scheduler looks
at a schedule at its ticks; when the next run is due it computes the run after it, saves the
schedule, and only then takes the snapshot.

The distance to the next run is a number of nanoseconds in a 64-bit word.

* `NextRun_eq`: within the word, the next run is the first point of the grid after now.
* `schedule_slots`: the runs of a schedule stay on the grid, and between two attempts to take a
  snapshot lies a slot of its own for each.
* `NextRun_off_grid`: where that fails.
-/

namespace Hypeman.Instances

open Foundations

/-- `time.Duration` as the difference of two times: what does not fit is cut off. -/
def durationBetween (later earlier : Int) : Int64 :=
  .ofInt (max (-9223372036854775808) (min 9223372036854775807 (later - earlier)))

/-- `NextRun`; times are in nanoseconds since the zero time. -/
def NextRun (previous : Int) (interval : Int64) (now : Int) : Int :=
  if interval ≤ 0 then now
  else if previous = 0 then now + interval.toInt
  else if now < previous then previous
  else
    let steps := durationBetween now previous / interval + 1
    previous + (steps * interval).toInt

theorem durationBetween_toInt {later earlier : Int} (hle : earlier ≤ later)
    (hlt : later - earlier < 9223372036854775808) :
    (durationBetween later earlier).toInt = later - earlier := by
  have hcut : max (-9223372036854775808) (min 9223372036854775807 (later - earlier)) =
      later - earlier := by omega
  rw [durationBetween, hcut, Int64.toInt_ofInt_of_le (by omega) (by omega)]

/-- Within the word, the next run is the first point of the grid after `now`. -/
theorem NextRun_eq {previous now : Int} {interval : Int64} (hpos : 0 < interval.toInt)
    (hprevious : 0 < previous) (hdue : previous ≤ now)
    (hrange : now - previous + interval.toInt < 9223372036854775808) :
    NextRun previous interval now =
      previous + ((now - previous) / interval.toInt + 1) * interval.toInt := by
  have hone : (1 : Int64).toInt = 1 := rfl
  have hduration := durationBetween_toInt hdue (by omega)
  have hfloor : (now - previous) / interval.toInt * interval.toInt ≤ now - previous :=
    Int.ediv_mul_le _ (by omega)
  have hnonneg : 0 ≤ (now - previous) / interval.toInt := Int.ediv_nonneg (by omega) (by omega)
  have hsmall : (now - previous) / interval.toInt ≤ now - previous :=
    Int.ediv_le_self _ (by omega)
  have hdiv : (durationBetween now previous / interval).toInt =
      (now - previous) / interval.toInt := by
    rw [toInt_div_of_nonneg _ (by omega), hduration]
  have hsteps : (durationBetween now previous / interval + 1).toInt =
      (now - previous) / interval.toInt + 1 := by
    rw [toInt_add_of_lt (by omega) (by omega), hdiv, hone]
  have hexpand : ((now - previous) / interval.toInt + 1) * interval.toInt =
      (now - previous) / interval.toInt * interval.toInt + interval.toInt := by
    rw [Int.add_mul, Int.one_mul]
  have hpositive : 0 ≤ (now - previous) / interval.toInt * interval.toInt :=
    Int.mul_nonneg hnonneg (by omega)
  have hproduct : ((durationBetween now previous / interval + 1) * interval).toInt =
      ((now - previous) / interval.toInt + 1) * interval.toInt := by
    rw [toInt_mul_of_lt, hsteps]
    · rw [hsteps, hexpand]
      omega
    · rw [hsteps, hexpand]
      omega
  have hinterval : ¬ interval ≤ 0 := by
    rw [Int64.le_iff_toInt_le, Int64.toInt_zero]
    omega
  rw [NextRun, if_neg hinterval, if_neg (by omega), if_neg (by omega), ← hproduct]

/-- It is on the grid of the run before, later than `now` and not more than an interval later. -/
theorem NextRun_spec {previous now : Int} {interval : Int64} (hpos : 0 < interval.toInt)
    (hprevious : 0 < previous) (hdue : previous ≤ now)
    (hrange : now - previous + interval.toInt < 9223372036854775808) :
    (∃ k : Nat, NextRun previous interval now = previous + k * interval.toInt) ∧
      now < NextRun previous interval now ∧
      NextRun previous interval now ≤ now + interval.toInt := by
  have hfloor := Int.ediv_mul_le (now - previous) (b := interval.toInt) (by omega)
  have hnext := Int.lt_ediv_add_one_mul_self (now - previous) hpos
  have hnonneg : 0 ≤ (now - previous) / interval.toInt := Int.ediv_nonneg (by omega) (by omega)
  rw [NextRun_eq hpos hprevious hdue hrange]
  refine ⟨⟨((now - previous) / interval.toInt + 1).toNat, ?_⟩, by omega, ?_⟩
  · rw [Int.toNat_of_nonneg (by omega)]
  · rw [Int.add_mul, Int.one_mul]
    omega

/-! ## The runs of a schedule -/

structure ScheduleTimes where
  nextRunAt : Int
  lastRunAt : Option Int
deriving DecidableEq, Repr

/-- What `saveSnapshotScheduleUnlocked` leaves behind. -/
inductive SaveOutcome
  | saved
  /-- An error, with the file as it was. -/
  | kept
  /-- An error, though the file is written. -/
  | written
  /-- An error, and a file that cannot be read. -/
  | broken
deriving DecidableEq, Repr

/-- What `loadMetadata` says about the instance. -/
inductive SourceLookup
  | found
  | missing
  | failed
deriving DecidableEq, Repr

/-- A tick of the scheduler, with the outcomes of the calls that it makes. -/
structure ScheduleTick where
  now : Int
  source : SourceLookup
  /-- The first save of the run. -/
  save : SaveOutcome
  /-- There is a kind of snapshot for the state of the instance. -/
  hasKind : Bool
  /-- What the saves after the snapshot and after an error come to. -/
  resave : SaveOutcome
  /-- The schedule of a missing instance is deleted. -/
  deleted : Bool
deriving DecidableEq, Repr

/-- A call of `createSnapshot`: the run that was due, and when it was made. -/
structure SnapshotAttempt where
  slot : Int
  time : Int
deriving DecidableEq, Repr

/-- The file of the schedule, `none` if there is none that can be read, and the attempts, the latest
first. -/
structure ScheduleState where
  stored : Option ScheduleTimes
  attempts : List SnapshotAttempt := []
deriving DecidableEq, Repr

def SaveOutcome.file (outcome : SaveOutcome) (old new : ScheduleTimes) : Option ScheduleTimes :=
  match outcome with
  | .saved | .written => some new
  | .kept => some old
  | .broken => none

/-- `runSnapshotScheduleForInstanceLocked`, with the reading of the schedule. -/
def ScheduleState.tick (interval : Int64) (s : ScheduleState) (t : ScheduleTick) : ScheduleState :=
  match s.stored with
  | none => s
  | some schedule =>
    if t.now < schedule.nextRunAt then s
    else
      let next := ⟨NextRun schedule.nextRunAt interval t.now, some t.now⟩
      let s' := { s with stored := t.save.file schedule next }
      -- the error of the lookup is saved with the new times, and the run ends
      if t.source = .failed ∨ t.save ≠ .saved then s'
      else
        let attempted : Bool := t.source = .found && t.hasKind
        { stored := if t.source = .missing ∧ t.deleted then none else t.resave.file next next
          attempts :=
            if attempted then ⟨schedule.nextRunAt, t.now⟩ :: s.attempts else s.attempts }

/-- The ticks on a schedule whose first run is at `first`. -/
def scheduleSystem (interval : Int64) (first : Int) : System ScheduleState ScheduleTick where
  init := { stored := some ⟨first, none⟩ }
  step s t := some (s.tick interval t)

/-- The tick comes within a word of nanoseconds after the run that it finds due, less one
interval. -/
def InRange (interval : Int64) (s : ScheduleState) (t : ScheduleTick) : Prop :=
  ∀ schedule ∈ s.stored, t.now - schedule.nextRunAt + interval.toInt < 9223372036854775808

instance (interval : Int64) (s : ScheduleState) (t : ScheduleTick) :
    Decidable (InRange interval s t) :=
  inferInstanceAs (Decidable (∀ schedule ∈ s.stored, _))

section Invariant

variable {interval : Int64} {first : Int}

def OnGrid (interval : Int64) (first time : Int) : Prop :=
  ∃ k : Nat, time = first + k * interval.toInt

/-- What holds of the times in the file. -/
structure ScheduleTimes.Sound (interval : Int64) (first : Int) (attempts : List SnapshotAttempt)
    (schedule : ScheduleTimes) : Prop where
  grid : OnGrid interval first schedule.nextRunAt
  last : ∀ run ∈ schedule.lastRunAt,
    run < schedule.nextRunAt ∧ schedule.nextRunAt ≤ run + interval.toInt
  ahead : ∀ a ∈ attempts, a.time < schedule.nextRunAt

structure ScheduleState.Sound (interval : Int64) (first : Int) (s : ScheduleState) : Prop where
  stored : ∀ schedule ∈ s.stored, schedule.Sound interval first s.attempts
  slots : ∀ a ∈ s.attempts, OnGrid interval first a.slot ∧ a.slot ≤ a.time
  apart : s.attempts.Pairwise fun later earlier => earlier.time < later.slot

theorem SaveOutcome.file_mem {outcome : SaveOutcome} {old new schedule : ScheduleTimes}
    (h : schedule ∈ outcome.file old new) : schedule = old ∨ schedule = new := by
  cases outcome with
  | saved => exact .inr (Option.some.inj h).symm
  | kept => exact .inl (Option.some.inj h).symm
  | written => exact .inr (Option.some.inj h).symm
  | broken => exact absurd h (Option.not_mem_none schedule)

/-- The times of the next run, when the one before is due. -/
theorem ScheduleTimes.Sound.next {schedule : ScheduleTimes} {attempts : List SnapshotAttempt}
    {now : Int} (h : schedule.Sound interval first attempts) (hpos : 0 < interval.toInt)
    (hfirst : 0 < first) (hdue : schedule.nextRunAt ≤ now)
    (hrange : now - schedule.nextRunAt + interval.toInt < 9223372036854775808)
    {attempts' : List SnapshotAttempt} (hattempts : ∀ a ∈ attempts', a.time ≤ now) :
    ScheduleTimes.Sound interval first attempts'
      ⟨NextRun schedule.nextRunAt interval now, some now⟩ := by
  obtain ⟨k, hk⟩ := h.grid
  have hprevious : 0 < schedule.nextRunAt := by
    have : 0 ≤ (k : Int) * interval.toInt := Int.mul_nonneg (Int.natCast_nonneg k) hpos.le
    omega
  obtain ⟨⟨j, hj⟩, hlater, hwithin⟩ := NextRun_spec hpos hprevious hdue hrange
  refine ⟨⟨k + j, ?_⟩, ?_, fun a ha => (hattempts a ha).trans_lt hlater⟩
  · rw [hj, hk, Int.natCast_add, Int.add_mul, Int.add_assoc]
  · rintro run ⟨⟩
    exact ⟨hlater, hwithin⟩

/-- The run after a save that succeeded, with an attempt or without. -/
theorem ScheduleState.Sound.run {s : ScheduleState} {schedule : ScheduleTimes} {now : Int}
    (h : s.Sound interval first) (hschedule : schedule.Sound interval first s.attempts)
    (hpos : 0 < interval.toInt) (hfirst : 0 < first) (hdue : schedule.nextRunAt ≤ now)
    (hrange : now - schedule.nextRunAt + interval.toInt < 9223372036854775808)
    {file : Option ScheduleTimes}
    (hfile : ∀ saved ∈ file, saved = ⟨NextRun schedule.nextRunAt interval now, some now⟩)
    (attempted : Bool) :
    ScheduleState.Sound interval first ⟨file,
      if attempted then ⟨schedule.nextRunAt, now⟩ :: s.attempts else s.attempts⟩ := by
  cases attempted with
  | false =>
    refine ⟨fun saved hsaved => ?_, h.slots, h.apart⟩
    rw [hfile saved hsaved]
    exact hschedule.next hpos hfirst hdue hrange fun a ha =>
      (hschedule.ahead a ha).le.trans hdue
  | true =>
    refine ⟨fun saved hsaved => ?_, List.forall_mem_cons.mpr ⟨⟨hschedule.grid, hdue⟩, h.slots⟩,
      List.pairwise_cons.mpr ⟨hschedule.ahead, h.apart⟩⟩
    rw [hfile saved hsaved]
    refine hschedule.next hpos hfirst hdue hrange (List.forall_mem_cons.mpr ⟨le_refl now, ?_⟩)
    exact fun a ha => (hschedule.ahead a ha).le.trans hdue

theorem ScheduleState.Sound.tick {s : ScheduleState} {t : ScheduleTick}
    (h : s.Sound interval first) (hpos : 0 < interval.toInt) (hfirst : 0 < first)
    (hrange : InRange interval s t) : (s.tick interval t).Sound interval first := by
  unfold ScheduleState.tick
  split
  · exact h
  · next schedule hstored =>
    have hs := h.stored schedule hstored
    have hrange := hrange schedule hstored
    split
    · exact h
    · next hdue =>
      have hdue : schedule.nextRunAt ≤ t.now := not_lt.mp hdue
      dsimp only
      split
      · refine ⟨fun saved hsaved => ?_, h.slots, h.apart⟩
        rcases SaveOutcome.file_mem hsaved with rfl | rfl
        · exact hs
        · exact hs.next hpos hfirst hdue hrange fun a ha => (hs.ahead a ha).le.trans hdue
      · refine h.run hs hpos hfirst hdue hrange (fun saved hsaved => ?_) _
        split at hsaved
        · exact absurd hsaved (Option.not_mem_none saved)
        · exact (or_self _).mp (SaveOutcome.file_mem hsaved)

/-- A schedule with a positive interval, with ticks that come in time for the word: the runs stay on
the grid of the first one, each is later than the tick that computed it by at most an interval, and
the attempts have slots of their own, each after the attempt before. -/
theorem schedule_slots (hpos : 0 < interval.toInt) (hfirst : 0 < first) {s : ScheduleState}
    (hs : (scheduleSystem interval first).Reachable (InRange interval) s) :
    (∀ schedule ∈ s.stored, OnGrid interval first schedule.nextRunAt ∧
      ∀ run ∈ schedule.lastRunAt,
        run < schedule.nextRunAt ∧ schedule.nextRunAt ≤ run + interval.toInt) ∧
    (∀ a ∈ s.attempts, OnGrid interval first a.slot ∧ a.slot ≤ a.time) ∧
    s.attempts.Pairwise fun later earlier => earlier.time < later.slot := by
  have hsound : s.Sound interval first := by
    refine hs.invariant (I := ScheduleState.Sound interval first) ⟨?_, ?_, .nil⟩ ?_
    · rintro schedule ⟨⟩
      exact ⟨⟨0, by simp⟩, fun run hrun => absurd hrun (Option.not_mem_none run),
        fun a ha => absurd ha List.not_mem_nil⟩
    · exact fun a ha => absurd ha List.not_mem_nil
    · rintro s t s' hsound hrange ⟨⟩
      exact hsound.tick hpos hfirst hrange
  refine ⟨fun schedule hstored => ?_, hsound.slots, hsound.apart⟩
  exact ⟨(hsound.stored schedule hstored).grid, (hsound.stored schedule hstored).last⟩

/-- A schedule with an interval of a minute and a tick that comes three slots late: one attempt is
made, and the next run is the first slot after it. -/
theorem schedule_slots_late :
    ∃ s, (scheduleSystem 60000000000 100).Reachable (InRange 60000000000) s ∧
      (s.stored = some ⟨240000000100, some 200000000000⟩ ∧
        s.attempts = [⟨100, 200000000000⟩]) ∧
      ∀ a ∈ s.attempts, OnGrid 60000000000 100 a.slot ∧ a.slot ≤ a.time := by
  obtain ⟨s, hs, hstate⟩ := System.exists_reachable_of_replay
    (scheduleSystem 60000000000 100) (InRange 60000000000)
    (fun s => s.stored = some ⟨240000000100, some 200000000000⟩ ∧
      s.attempts = [⟨100, 200000000000⟩])
    [⟨50, .found, .saved, true, .saved, false⟩, ⟨200000000000, .found, .saved, true, .saved, false⟩,
      ⟨240000000000, .found, .saved, true, .saved, false⟩]
    (by decide +kernel)
  exact ⟨s, hs, hstate, (schedule_slots (by decide) (by decide) hs).2.1⟩

/-- Without an interval the next run is not later than the tick; after the zero time it leaves the
grid; and with an interval of 150 years a tick 150 years late takes the next run into the past. -/
theorem NextRun_off_grid :
    NextRun 5 0 7 = 7 ∧ NextRun 0 60 90 = 150 ∧
      NextRun 1 4730400000000000000 4730400000000000001 < 1 := by
  decide +kernel

end Invariant

end Hypeman.Instances
