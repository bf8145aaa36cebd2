import Hypeman.Foundations.System
import Hypeman.Foundations.Words
import Mathlib.Algebra.Order.BigOperators.Group.Finset
import Mathlib.Algebra.Order.Ring.Int
import Mathlib.Data.Fintype.Pi

/-!
# Time spent in each phase

The tracker of `lib/instances/phasetracking` and the promotion of an initializing instance by its
boot markers (`advancePhaseIfRunning` in `lib/instances/query.go`). The host records a phase at a
time it reads from its own clock; the time of a promotion is the marker's, written by the guest.

* `durations_within_lifetime`: with a host clock that does not go back and markers that are not
  ahead of it, the durations reported at any later time are not negative and sum to at most the time
  since the first record.
* `marker_ahead_of_clock`: a marker ahead of the host clock makes them sum to more.
-/

namespace Hypeman.Instances

open Foundations

inductive Phase
  | stopped
  | created
  | initializing
  | running
  | standby
deriving DecidableEq, Repr

instance : Fintype Phase where
  elems := {Phase.stopped, Phase.created, Phase.initializing, Phase.running, Phase.standby}
  complete phase := by cases phase <;> decide

/-- A wall clock time in nanoseconds after the zero `time.Time`. The metadata is stored as JSON,
which has the times of the years 0 to 9999. -/
structure Time where
  ns : ℤ
  ge : -31622400000000000 ≤ ns
  lt : ns < 315537897600000000000
deriving DecidableEq, Repr

namespace Time

/-- `time.Time{}`. -/
def zero : Time := ⟨0, by decide, by decide⟩

def IsZero (t : Time) : Bool := t.ns == 0

/-- `Sub`: the difference, or the duration closest to it. -/
def Sub (t u : Time) : Int64 :=
  Int64.ofInt (max (-9223372036854775808) (min 9223372036854775807 (t.ns - u.ns)))

end Time

/-- `Duration.Milliseconds`. -/
def milliseconds (d : Int64) : Int64 := d / 1000000

/-- `Tracker`; `none` is the empty phase, and a phase missing in the map has duration 0. -/
structure Tracker where
  current : Option Phase
  since : Time
  cumulative : Phase → Int64
deriving DecidableEq

namespace Tracker

/-- The zero value, which is also what `Reset` leaves. -/
def empty : Tracker := ⟨none, .zero, fun _ => 0⟩

def Snapshot (t : Tracker) (now : Time) : Phase → Int64 :=
  match t.current with
  | none => t.cumulative
  | some current =>
    if t.since.IsZero then t.cumulative
    else
      let elapsed := milliseconds (now.Sub t.since)
      if 0 < elapsed then
        fun phase => if phase = current then t.cumulative phase + elapsed else t.cumulative phase
      else t.cumulative

/-- `Record`: the time in the current phase is rolled in as `Snapshot` does. -/
def Record (t : Tracker) (newPhase : Phase) (now : Time) : Tracker where
  current := some newPhase
  since := now
  cumulative := t.Snapshot now

end Tracker

/-- The boot markers of `StoredMetadata`. -/
structure Markers where
  programStartedAt : Option Time
  guestAgentReadyAt : Option Time
  skipGuestAgent : Bool
deriving DecidableEq, Repr

def runningPhaseFromMarkers (markers : Markers) : Phase × Time :=
  match markers.programStartedAt with
  | none => (.initializing, .zero)
  | some programStartedAt =>
    if markers.skipGuestAgent then (.running, programStartedAt)
    else match markers.guestAgentReadyAt with
      | none => (.initializing, .zero)
      | some guestAgentReadyAt =>
        (.running, if programStartedAt.ns < guestAgentReadyAt.ns then guestAgentReadyAt
          else programStartedAt)

/-- `advancePhaseIfRunning`: a marker from before the current phase counts as its beginning. -/
def advancePhaseIfRunning (t : Tracker) (markers : Markers) : Tracker :=
  if t.current = some .initializing then
    match runningPhaseFromMarkers markers with
    | (.running, transitionAt) =>
      t.Record .running (if transitionAt.ns < t.since.ns then t.since else transitionAt)
    | _ => t
  else t

/-! ## The tracker and the host clock -/

/-- A tracker, the host time of the last call and the time of the first record. -/
structure Account where
  tracker : Tracker
  clock : Time
  first : Option Time
deriving DecidableEq

/-- The calls, at the host time they are made. -/
inductive AccountEvent
  | Record (newPhase : Phase) (now : Time)
  | advancePhaseIfRunning (markers : Markers) (now : Time)
deriving DecidableEq

def AccountEvent.now : AccountEvent → Time
  | .Record _ now => now
  | .advancePhaseIfRunning _ now => now

/-- One call; the host clock does not go back. -/
def Account.step (a : Account) (e : AccountEvent) : Option Account :=
  if e.now.ns < a.clock.ns then none
  else match e with
    | .Record newPhase now =>
      some ⟨a.tracker.Record newPhase now, now, some (a.first.getD now)⟩
    | .advancePhaseIfRunning markers now =>
      some { a with tracker := Instances.advancePhaseIfRunning a.tracker markers, clock := now }

/-- A new tracker on a host whose clock reads `start`. -/
def accounting (start : Time) : System Account AccountEvent where
  init := ⟨.empty, start, none⟩
  step := Account.step

/-- A promotion is not placed by its markers after the host time of the call. -/
def MarkersNotAhead (a : Account) (e : AccountEvent) : Prop :=
  match e with
  | .Record _ _ => True
  | .advancePhaseIfRunning markers now => a.tracker.current = some .initializing →
    (runningPhaseFromMarkers markers).1 = .running → (runningPhaseFromMarkers markers).2.ns ≤ now.ns

instance (a : Account) (e : AccountEvent) : Decidable (MarkersNotAhead a e) :=
  match e with
  | .Record _ _ => inferInstanceAs (Decidable True)
  | .advancePhaseIfRunning markers now =>
    inferInstanceAs (Decidable (a.tracker.current = some .initializing →
      (runningPhaseFromMarkers markers).1 = .running →
        (runningPhaseFromMarkers markers).2.ns ≤ now.ns))

/-! ## One reading of the durations -/

/-- The sum of the durations, in milliseconds. -/
def totalMs (durations : Phase → Int64) : ℤ := ∑ phase, (durations phase).toInt

/-- What has passed between two times, in whole milliseconds, is at most their difference. -/
theorem elapsed_mul_le {t now : Time} (h : t.ns ≤ now.ns) :
    (milliseconds (now.Sub t)).toInt * 1000000 ≤ now.ns - t.ns := by
  have hsub : (now.Sub t).toInt = min 9223372036854775807 (now.ns - t.ns) := by
    rw [Time.Sub, max_eq_right (le_min (by omega) (by omega)), Int64.toInt_ofInt]
    refine Int.bmod_eq_of_le_mul_two ?_ ?_
    · change -18446744073709551616 ≤ _
      omega
    · change _ < 18446744073709551616
      omega
  rw [milliseconds, toInt_div_of_nonneg _ (by omega), hsub]
  change _ / 1000000 * 1000000 ≤ _
  omega

/-- Adding to one phase adds to the total, if the sum of the two does not overflow. -/
theorem totalMs_update {durations : Phase → Int64} {phase : Phase} {d : Int64}
    (hfits : (durations phase + d).toInt = (durations phase).toInt + d.toInt) :
    totalMs (fun p => if p = phase then durations p + d else durations p) =
      totalMs durations + d.toInt := by
  unfold totalMs
  rw [← Finset.add_sum_erase _ _ (Finset.mem_univ phase),
    ← Finset.add_sum_erase _ (fun p => (durations p).toInt) (Finset.mem_univ phase)]
  dsimp only
  rw [if_pos rfl, hfits]
  have hrest : ∑ p ∈ Finset.univ.erase phase,
        (if p = phase then durations p + d else durations p).toInt =
      ∑ p ∈ Finset.univ.erase phase, (durations p).toInt := by
    refine Finset.sum_congr rfl fun p hp => ?_
    rw [if_neg (Finset.ne_of_mem_erase hp)]
  rw [hrest]
  omega

/-- A reading is the totals as they are, or with a positive time added to one phase. -/
theorem Tracker.snapshot_cases (t : Tracker) (now : Time) :
    t.Snapshot now = t.cumulative ∨
      ∃ current, 0 < (milliseconds (now.Sub t.since)).toInt ∧
        t.Snapshot now = fun phase =>
          if phase = current then t.cumulative phase + milliseconds (now.Sub t.since)
          else t.cumulative phase := by
  unfold Tracker.Snapshot
  split
  · exact .inl rfl
  next current _ =>
  split
  · exact .inl rfl
  dsimp only
  split
  next hpos => exact .inr ⟨current, Int64.lt_iff_toInt_lt.mp hpos, rfl⟩
  next => exact .inl rfl

/-- Durations that are not negative and fit into the time from `first` to `until`. -/
structure Within (durations : Phase → Int64) (first upTo : Time) : Prop where
  nonneg : ∀ phase, 0 ≤ (durations phase).toInt
  total : totalMs durations * 1000000 ≤ upTo.ns - first.ns

theorem Within.le_total {durations : Phase → Int64} {first upTo : Time}
    (h : Within durations first upTo) (phase : Phase) :
    (durations phase).toInt ≤ totalMs durations :=
  Finset.single_le_sum (f := fun p => (durations p).toInt) (fun p _ => h.nonneg p)
    (Finset.mem_univ phase)

theorem Within.mono {durations : Phase → Int64} {first t t' : Time}
    (h : Within durations first t) (hle : t.ns ≤ t'.ns) : Within durations first t' :=
  ⟨h.nonneg, h.total.trans (by omega)⟩

/-- The time in the current phase fits as well. -/
theorem Within.snapshot {t : Tracker} {first now : Time} (h : Within t.cumulative first t.since)
    (hnow : t.since.ns ≤ now.ns) : Within (t.Snapshot now) first now := by
  rcases t.snapshot_cases now with hsame | ⟨current, hpos, hadds⟩
  · rw [hsame]
    exact h.mono hnow
  rw [hadds]
  have helapsed := elapsed_mul_le hnow
  have hcurrent := h.le_total current
  have htotal := h.total
  have hnonneg := h.nonneg current
  have hfirst := first.ge
  have hlast := now.lt
  -- the whole lifetime is far below 2^63 milliseconds
  have hfits : (t.cumulative current + milliseconds (now.Sub t.since)).toInt =
      (t.cumulative current).toInt + (milliseconds (now.Sub t.since)).toInt :=
    toInt_add_of_lt (by omega) (by omega)
  constructor
  · intro phase
    split
    next heq =>
      rw [heq, hfits]
      omega
    next => exact h.nonneg phase
  · rw [totalMs_update hfits]
    omega

/-! ## Runs -/

/-- What a run keeps: before the first record nothing has accrued, and after it the durations fit
into the time up to the current phase, which began no later than the clock reads. -/
structure Account.Sound (a : Account) : Prop where
  unused : a.first = none → a.tracker = .empty
  within : ∀ first ∈ a.first, Within a.tracker.cumulative first a.tracker.since
  begun : a.first.isSome → a.tracker.since.ns ≤ a.clock.ns

/-- At the time of the first record nothing has accrued. -/
theorem within_empty (now : Time) : Within (Tracker.empty.Snapshot now) now now := by
  have hzero : Tracker.empty.Snapshot now = fun _ => 0 := rfl
  rw [hzero]
  refine ⟨fun _ => by decide, ?_⟩
  rw [sub_self]
  decide

theorem Account.Sound.record {a : Account} (h : a.Sound) {now : Time}
    (hnow : a.clock.ns ≤ now.ns) (newPhase : Phase) :
    Account.Sound ⟨a.tracker.Record newPhase now, now, some (a.first.getD now)⟩ where
  unused := nofun
  within := by
    rintro _ ⟨⟩
    cases hfirst : a.first with
    | none =>
      rw [h.unused hfirst]
      exact within_empty now
    | some first =>
      have hbegun := h.begun (by rw [hfirst]; rfl)
      exact (h.within first hfirst).snapshot (hbegun.trans hnow)
  begun _ := Int.le_refl _

theorem Account.Sound.advance {a : Account} (h : a.Sound) {markers : Markers} {now : Time}
    (hnow : a.clock.ns ≤ now.ns)
    (hmarkers : MarkersNotAhead a (.advancePhaseIfRunning markers now)) :
    Account.Sound { a with
      tracker := advancePhaseIfRunning a.tracker markers
      clock := now } := by
  have hkeep : Account.Sound { a with clock := now } :=
    ⟨h.unused, h.within, fun hsome => (h.begun hsome).trans hnow⟩
  unfold advancePhaseIfRunning
  split
  next hinit =>
    split
    next transitionAt heq =>
      have hahead := hmarkers hinit (congrArg Prod.fst heq)
      rw [heq] at hahead
      -- only a tracker that has recorded a phase is initializing
      obtain ⟨first, hfirst⟩ : ∃ first, a.first = some first := by
        rw [← Option.ne_none_iff_exists']
        intro hnone
        rw [h.unused hnone] at hinit
        cases hinit
      have hbegun := h.begun (by rw [hfirst]; rfl)
      have hsince : a.tracker.since.ns ≤
          (if transitionAt.ns < a.tracker.since.ns then a.tracker.since else transitionAt).ns := by
        split <;> omega
      refine ⟨fun hnone => ?_, fun f hf => ?_, fun _ => ?_⟩
      · rw [hfirst] at hnone
        cases hnone
      · exact (h.within f hf).snapshot hsince
      · dsimp only [Tracker.Record]
        split <;> omega
    next => exact hkeep
  next => exact hkeep

theorem Account.Sound.step {a a' : Account} {e : AccountEvent} (h : a.Sound)
    (hok : MarkersNotAhead a e) (hs : a.step e = some a') : a'.Sound := by
  unfold Account.step at hs
  split at hs
  · cases hs
  next hclock =>
  cases e with
  | Record newPhase now =>
    cases hs
    exact h.record (Int.not_lt.mp hclock) newPhase
  | advancePhaseIfRunning markers now =>
    cases hs
    exact h.advance (Int.not_lt.mp hclock) hok

theorem sound_of_reachable {start : Time} {a : Account}
    (h : (accounting start).Reachable MarkersNotAhead a) : a.Sound := by
  refine System.Reachable.invariant (I := Account.Sound) ?_ (fun _ _ _ ih => ih.step) h
  refine ⟨fun _ => rfl, ?_, ?_⟩
  · intro first hfirst
    cases hfirst
  · intro hsome
    cases hsome

/-- **Durations fit into the lifetime.** On a host whose clock does not go back, and with markers
that are not ahead of it, the durations reported at the last call or later are not negative,
and their sum is at most the time since the first record. -/
theorem durations_within_lifetime {start : Time} {a : Account}
    (h : (accounting start).Reachable MarkersNotAhead a) {now : Time}
    (hnow : a.clock.ns ≤ now.ns) :
    (∀ phase, 0 ≤ (a.tracker.Snapshot now phase).toInt) ∧
      ∀ first ∈ a.first, totalMs (a.tracker.Snapshot now) * 1000000 ≤ now.ns - first.ns := by
  have hsound := sound_of_reachable h
  cases hfirst : a.first with
  | none =>
    rw [hsound.unused hfirst]
    refine ⟨(within_empty now).nonneg, ?_⟩
    intro first hnone
    cases hnone
  | some first =>
    have hbegun := hsound.begun (by rw [hfirst]; rfl)
    have hwithin := (hsound.within first hfirst).snapshot (hbegun.trans hnow)
    refine ⟨hwithin.nonneg, ?_⟩
    rintro _ ⟨⟩
    exact hwithin.total

/-- A time so many seconds after 1 January of the year 1. -/
def atSecond (s : Fin 1000000) : Time :=
  ⟨s * 1000000000, by have := s.isLt; omega, by have := s.isLt; omega⟩

/-- Boot markers of a guest without an agent. -/
def programMarker (t : Time) : Markers := ⟨some t, none, true⟩

/-- A boot from second 10 on, promoted at second 20 by a marker of second 14. -/
theorem durations_within_lifetime_boot :
    ∃ a, (accounting (atSecond 0)).Reachable MarkersNotAhead a ∧ a.clock = atSecond 20 ∧
      a.first = some (atSecond 10) ∧ a.tracker.Snapshot (atSecond 20) .running = 6000 ∧
      totalMs (a.tracker.Snapshot (atSecond 30)) * 1000000 ≤
        (atSecond 30).ns - (atSecond 10).ns := by
  obtain ⟨a, ha, hclock, hfirst, hrunning⟩ :=
    (accounting (atSecond 0)).exists_reachable_of_replay MarkersNotAhead
      (fun a => a.clock = atSecond 20 ∧ a.first = some (atSecond 10) ∧
        a.tracker.Snapshot (atSecond 20) .running = 6000)
      [.Record .initializing (atSecond 10),
       .advancePhaseIfRunning (programMarker (atSecond 14)) (atSecond 20)]
      (by decide +kernel)
  refine ⟨a, ha, hclock, hfirst, hrunning, ?_⟩
  have hnow : a.clock.ns ≤ (atSecond 30).ns := by
    rw [hclock]
    decide
  exact (durations_within_lifetime ha hnow).2 _ hfirst

/-- One second after the first record a marker of an hour later arrives: the hour is charged to the
initializing phase at once. -/
theorem marker_ahead_of_clock :
    ¬ ∀ a, (accounting (atSecond 0)).Reachable System.Always a → ∀ now : Time,
      a.clock.ns ≤ now.ns → (∀ phase, 0 ≤ (a.tracker.Snapshot now phase).toInt) ∧
        ∀ first ∈ a.first, totalMs (a.tracker.Snapshot now) * 1000000 ≤ now.ns - first.ns := by
  obtain ⟨a, ha, hclock, hfirst, htotal⟩ :=
    (accounting (atSecond 0)).exists_reachable_of_replay System.Always
      (fun a => a.clock = atSecond 11 ∧ a.first = some (atSecond 10) ∧
        totalMs (a.tracker.Snapshot (atSecond 11)) = 3600000)
      [.Record .initializing (atSecond 10),
       .advancePhaseIfRunning (programMarker (atSecond 3610)) (atSecond 11)]
      (by decide +kernel)
  intro hall
  have hle := (hall a ha (atSecond 11) (by rw [hclock])).2 _ hfirst
  rw [htotal] at hle
  revert hle
  decide

end Hypeman.Instances
