import Hypeman.Instances.Restarts

/-!
# The attempts of automatic restarts

The reconciler and the handler of failed health checks share one status: the number of attempts and
the time of the last one. The handler reads, writes and restarts under the lock. The reconciler
decides on a status that it has read before it took the lock, and it does not look again.

* `AttemptHistory`, `attemptSystem`: the attempts made after the last reset, and whether the status
  has been changed behind the back of the reconciler.
* `Tally`: attempts that are recorded first and made afterwards, under a limit and a backoff.
* `Counted`: the status is the tally of the attempts made, with at most one that is pending.
* `attempts_limited`: in every run in which the reconciler acts on a status that nobody has changed
  meanwhile and no decision comes too early after a delayed attempt, the attempts are counted,
  limited and apart.
-/

namespace Hypeman.Instances

open Foundations RestartPolicy

/-- The time of the attempt that the holder of the lock has recorded in the status and not made. -/
def Holder.pending : Holder → Option Int
  | .unhealthy _ now => some now
  | _ => none

structure RestartAttempt where
  /-- The clock when it was decided on, which is its `LastAttemptAt`. -/
  decided : Int
  made : Int
deriving DecidableEq, Repr

structure AttemptHistory where
  /-- The attempts made after the last reset, the latest first. -/
  made : List RestartAttempt := []
  /-- The status has been changed by somebody else after the reconciler loaded it. -/
  touched : Bool := false
deriving DecidableEq, Repr

/-- The step resets the counter: a call of `StartInstance` or `StopInstance`, or the write of the
reconciler for an instance that has been stable. -/
def resetsAttempts (s : RestartState) : RestartEvent → Bool
  | .start _ | .stop => true
  | .write => s.reconciler == .resetting && s.writes {} false
  | _ => false

/-- The attempt that the step makes. -/
def attemptMade (s : RestartState) : RestartEvent → Option Int
  | .restart _ => s.reconciler.pending
  | .replaceStop _ => s.holder.pending
  | _ => none

def AttemptHistory.next (h : AttemptHistory) (s : RestartState) (e : RestartEvent)
    (s' : RestartState) : AttemptHistory where
  made :=
    if resetsAttempts s e then []
    else match attemptMade s e with
      | some decided => ⟨decided, s.now⟩ :: h.made
      | none => h.made
  touched :=
    match e with
    | .load => false
    | .write => h.touched
    | _ => h.touched || s'.status != s.status

def attemptSystem (lib : StdLib) (policy : Option Policy) :
    System (RestartState × AttemptHistory) RestartEvent :=
  (restartSystem lib policy).monitored {} AttemptHistory.next

/-- The policy counts the backoff from the time at which the last attempt was decided on. That is
over only when the backoff from the time at which it was made is over as well. -/
def Timely (backoff now : Int) (holder : Holder) (made : List RestartAttempt) : Prop :=
  (∀ a ∈ made.head?, now < a.decided + backoff ∨ a.made + backoff ≤ now) ∧
    ∀ t ∈ holder.pending, now < t + backoff

instance (backoff now : Int) (holder : Holder) (made : List RestartAttempt) :
    Decidable (Timely backoff now holder made) :=
  inferInstanceAs (Decidable (_ ∧ _))

def Reconciler.foundStopped : Reconciler → Bool
  | .derived _ state => state == .stopped
  | _ => false

/-- The condition on the steps: the reconciler writes a status, other than to reset it, and restarts
the instance only when nobody else has changed the status after it loaded the metadata, and the
decisions that may lead to an attempt are timely. -/
def undisturbed (backoff : Int) (x : RestartState × AttemptHistory) : RestartEvent → Prop
  | .write => x.1.reconciler = .resetting ∨ x.2.touched = false
  | .restart _ => x.2.touched = false
  | .decide => x.1.reconciler.foundStopped = true → Timely backoff x.1.now x.1.holder x.2.made
  | .unhealthy => x.1.state = .running → Timely backoff x.1.now x.1.holder x.2.made
  | _ => True

instance (backoff : Int) (x : RestartState × AttemptHistory) :
    (e : RestartEvent) → Decidable (undisturbed backoff x e)
  | .write => inferInstanceAs (Decidable (_ ∨ _))
  | .restart _ => inferInstanceAs (Decidable (_ = _))
  | .decide | .unhealthy => inferInstanceAs (Decidable (_ → Timely _ _ _ _))
  | .elapse _ | .observe _ _ _ | .load | .derive | .stop | .stopped _ | .start _
  | .started _ | .replaceStop _ | .replaceStart _ => .isTrue trivial

/-! ## The tally -/

section Tally

/-- The status records the attempts `made`, one that is `pending` and `slack` many that will not be
made. -/
structure Tally (backoff limit : Int) (status : Status) (made : List RestartAttempt)
    (pending : Option Int) (slack : Nat) : Prop where
  count : status.attempts = made.length + pending.toList.length + slack
  bounded : 0 < limit → (status.attempts : Int) ≤ limit
  latest : ∀ a ∈ made.head?, ∃ last ∈ status.lastAttemptAt, a.decided ≤ last
  due : ∀ t ∈ pending, status.lastAttemptAt = some t ∧
    ∀ a ∈ made.head?, a.made + backoff ≤ t
  spaced : made.IsChain fun later earlier => earlier.made + backoff ≤ later.decided

variable {backoff limit : Int} {status status' : Status} {made : List RestartAttempt}
  {pending : Option Int} {slack : Nat}

theorem Tally.reset (hzero : status.attempts = 0) : Tally backoff limit status [] none 0 where
  count := hzero
  bounded hlimit := by omega
  latest a ha := nomatch ha
  due t ht := nomatch ht
  spaced := .nil

theorem Tally.congr (h : Tally backoff limit status made pending slack)
    (hattempts : status'.attempts = status.attempts)
    (hlast : status'.lastAttemptAt = status.lastAttemptAt) :
    Tally backoff limit status' made pending slack where
  count := hattempts.trans h.count
  bounded := hattempts ▸ h.bounded
  latest := hlast ▸ h.latest
  due := hlast ▸ h.due
  spaced := h.spaced

/-- A pending attempt is given up. -/
theorem Tally.abandon (h : Tally backoff limit status made pending slack) :
    Tally backoff limit status made none (pending.toList.length + slack) where
  count := by
    rw [h.count]
    simp only [Option.toList_none, List.length_nil]
    omega
  bounded := h.bounded
  latest := h.latest
  due t ht := nomatch ht
  spaced := h.spaced

/-- An attempt is recorded when the backoff is over and attempts are left. -/
theorem Tally.reserve (h : Tally backoff limit status made none slack) (hbackoff : 0 < backoff)
    {now : Int} (hdue : ∀ last ∈ status.lastAttemptAt, last + backoff ≤ now)
    (hmade : ∀ a ∈ made.head?, a.made + backoff ≤ now)
    (hleft : 0 < limit → (status.attempts : Int) < limit)
    (hattempts : status'.attempts = status.attempts + 1)
    (hlast : status'.lastAttemptAt = some now) :
    Tally backoff limit status' made (some now) slack := by
  refine ⟨?_, fun hlimit => ?_, fun a ha => ?_, ?_, h.spaced⟩
  · have hcount := h.count
    simp only [Option.toList_none, List.length_nil] at hcount
    simp only [hattempts, hcount, Option.toList_some, List.length_singleton]
    omega
  · have := hleft hlimit
    omega
  · obtain ⟨last, hmem, hle⟩ := h.latest a ha
    have := hdue last hmem
    exact ⟨now, hlast, by omega⟩
  · rintro t ⟨⟩
    exact ⟨hlast, hmade⟩

/-- The pending attempt is made. -/
theorem Tally.make {t : Int} (h : Tally backoff limit status made (some t) slack) (now : Int) :
    Tally backoff limit status (⟨t, now⟩ :: made) none slack := by
  obtain ⟨hlast, hearlier⟩ := h.due t rfl
  refine ⟨?_, h.bounded, ?_, fun t ht => (nomatch ht), ?_⟩
  · have hcount := h.count
    simp only [Option.toList_some, List.length_singleton] at hcount
    simp only [hcount, Option.toList_none, List.length_nil, List.length_cons]
    omega
  · rintro a ⟨⟩
    exact ⟨t, hlast, le_refl t⟩
  · exact List.isChain_cons.mpr ⟨hearlier, h.spaced⟩

end Tally

/-! ## The status as a tally -/

/-- What the reconciler has read or decided agrees with the status. -/
def Reconciler.Current (lib : StdLib) (p : Policy) (status : Status) : Reconciler → Prop
  | .loaded stored | .derived stored _ => stored.status = status
  | .noting _ next | .failed next =>
    next.attempts = status.attempts ∧ next.lastAttemptAt = status.lastAttemptAt
  | .attempting _ next now =>
    (∀ last ∈ status.lastAttemptAt, last + Backoff lib p ≤ now) ∧
    (0 < p.maxAttempts → (status.attempts : Int) < p.maxAttempts) ∧
    next.attempts = status.attempts + 1 ∧ next.lastAttemptAt = some now
  | .restarting next _ => next = status
  | .idle | .resetting => True

/-- An attempt that the reconciler has decided on comes after those made; no other is pending. -/
def Reconciler.Apart (backoff : Int) (holder : Holder) (made : List RestartAttempt) :
    Reconciler → Prop
  | .attempting _ _ now => holder.pending = none ∧ ∀ a ∈ made.head?, a.made + backoff ≤ now
  | _ => True

/-- The time of the attempt that the reconciler has decided on. -/
def Reconciler.decided : Reconciler → Option Int
  | .attempting _ _ now | .restarting _ now => some now
  | _ => none

/-- While the handler of failed health checks holds the lock, the status is the one it has written,
which is not the one that a reconciler wrote before a restart. -/
def Holder.Current (status : Status) (re : Reconciler) (touched : Bool) : Holder → Prop
  | .unhealthy next _ | .replacing next _ =>
    next = status ∧ (touched = false → re.pending = none)
  | _ => True

/-- The attempt that is recorded and to be made. The reconciler makes none on a status that was
changed. -/
def pendingAttempt (holder : Holder) (re : Reconciler) (touched : Bool) : Option Int :=
  holder.pending.or (if touched then none else re.pending)

/-- The status counts the attempts made and the one that is pending. -/
structure Counted (lib : StdLib) (p : Policy) (status : Status) (held : Holder) (re : Reconciler)
    (made : List RestartAttempt) (touched : Bool) : Prop where
  tally : ∃ slack,
    Tally (Backoff lib p) p.maxAttempts status made (pendingAttempt held re touched) slack ∧
      (touched = false ∨ re.pending = none → slack = 0)
  holder : held.Current status re touched
  reconciler : touched = false → re.Current lib p status
  apart : touched = false → re.Apart (Backoff lib p) held made

section Counted

variable {lib : StdLib} {p : Policy} {status status' : Status} {holder : Holder}
  {re re' : Reconciler} {made : List RestartAttempt} {touched touched' : Bool}

theorem Backoff_pos : 0 < Backoff lib p := by
  unfold Backoff durationOrDefault normalizeDuration
  split
  · next d hd =>
    split at hd
    · cases hd
      decide
    · split at hd
      · cases hd
      · split at hd
        · cases hd
        · next hpos =>
          cases hd
          exact not_le.mp hpos
  · decide

theorem Counted.reset (hzero : status.attempts = 0) (hpending : holder.pending = none)
    (hholder : holder.Current status re touched)
    (hre : touched = false → re.pending = none ∧ re.Current lib p status) :
    Counted lib p status holder re [] touched := by
  have hapart : re.Apart (Backoff lib p) holder [] := by
    cases re with
    | attempting read next now => exact ⟨hpending, nofun⟩
    | _ => trivial
  have hnone : pendingAttempt holder re touched = none := by
    cases touched with
    | false => simp [pendingAttempt, hpending, (hre rfl).1]
    | true => simp [pendingAttempt, hpending]
  refine ⟨⟨0, ?_, fun _ => rfl⟩, hholder, fun htouched => (hre htouched).2, fun _ => hapart⟩
  rw [hnone]
  exact .reset hzero

/-- The lock is released while no attempt of its holder is pending. -/
theorem Counted.release (hc : Counted lib p status holder re made touched)
    (hpending : holder.pending = none) : Counted lib p status .free re made touched := by
  obtain ⟨slack, htally, hslack⟩ := hc.tally
  refine ⟨⟨slack, ?_, hslack⟩, trivial, hc.reconciler, fun htouched => ?_⟩
  · rwa [pendingAttempt, hpending] at htally
  · have hapart := hc.apart htouched
    cases re with
    | attempting read next now => exact ⟨rfl, hapart.2⟩
    | _ => trivial

/-- The reconciler goes on while no attempt of it is pending. -/
theorem Counted.set_reconciler (hc : Counted lib p status holder re made touched)
    (hpending : re.pending = none) (hpending' : re'.pending = none)
    (hre : touched' = false → re'.Current lib p status)
    (hapart : touched' = false → re'.Apart (Backoff lib p) holder made) :
    Counted lib p status holder re' made touched' := by
  obtain ⟨slack, htally, hslack⟩ := hc.tally
  refine ⟨⟨slack, ?_, fun _ => hslack (.inr hpending)⟩, ?_, hre, hapart⟩
  · simpa [pendingAttempt, hpending, hpending'] using htally
  · have hholder := hc.holder
    cases holder with
    | unhealthy next now => exact ⟨hholder.1, fun _ => hpending'⟩
    | replacing next now => exact ⟨hholder.1, fun _ => hpending'⟩
    | _ => trivial

/-- A pending attempt of the reconciler is given up when the status is changed. -/
theorem Counted.disturb (hc : Counted lib p status .free re made touched) :
    Counted lib p status .free re made true := by
  obtain ⟨slack, htally, hslack⟩ := hc.tally
  refine ⟨⟨_, htally.abandon, fun hre => ?_⟩, trivial, nofun, nofun⟩
  have hpending : re.pending = none := by simpa using hre
  simp [pendingAttempt, Holder.pending, hpending, hslack (.inr hpending)]

/-- Somebody other than the reconciler changes the status and leaves the counter alone. -/
theorem Counted.restatus (hc : Counted lib p status .free re made touched)
    (hattempts : status'.attempts = status.attempts)
    (hlast : status'.lastAttemptAt = status.lastAttemptAt) :
    Counted lib p status' .free re made (touched || status' != status) := by
  -- a write of the same status disturbs nobody
  by_cases hsame : status' = status
  · subst hsame
    simpa using hc
  · have hchanged : (touched || status' != status) = true := by simp [hsame]
    rw [hchanged]
    obtain ⟨slack, htally, hslack⟩ := hc.disturb.tally
    exact ⟨⟨slack, htally.congr hattempts hlast, hslack⟩, trivial, nofun, nofun⟩

/-- The reconciler changes the status and leaves the counter alone. -/
theorem Counted.note (hc : Counted lib p status .free re made touched)
    (hpending : re.pending = none) (hattempts : status'.attempts = status.attempts)
    (hlast : status'.lastAttemptAt = status.lastAttemptAt) :
    Counted lib p status' .free .idle made touched := by
  have hidle : Counted lib p status .free .idle made touched :=
    hc.set_reconciler hpending rfl (fun _ => trivial) fun _ => trivial
  obtain ⟨slack, htally, hslack⟩ := hidle.tally
  exact ⟨⟨slack, htally.congr hattempts hlast, hslack⟩, trivial, fun _ => trivial, fun _ => trivial⟩

/-- When the backoff is over for the policy, a timely decision comes after the attempts made. -/
theorem Counted.due (hc : Counted lib p status holder re made touched) {now : Int}
    (htimely : Timely (Backoff lib p) now holder made)
    (hdue : ∀ last ∈ status.lastAttemptAt, last + Backoff lib p ≤ now) :
    holder.pending = none ∧ ∀ a ∈ made.head?, a.made + Backoff lib p ≤ now := by
  obtain ⟨slack, htally, -⟩ := hc.tally
  constructor
  · by_contra hne
    obtain ⟨t, ht⟩ := Option.ne_none_iff_exists'.mp hne
    have hpending : pendingAttempt holder re touched = some t := by rw [pendingAttempt, ht]; rfl
    have hlast := hdue t (htally.due t hpending).1
    have hearly := htimely.2 t ht
    omega
  · intro a ha
    obtain ⟨last, hlast, hle⟩ := htally.latest a ha
    have hover := hdue last hlast
    exact (htimely.1 a ha).resolve_left (by omega)

/-- The reconciler decides on the status that is stored. -/
theorem Counted.decides (hc : Counted lib p status holder re made touched) (now : Int)
    (hcurrent : re'.Current lib p status)
    (hdecided : ∀ t ∈ re'.decided, t = now ∧ Timely (Backoff lib p) now holder made) :
    re'.Apart (Backoff lib p) holder made := by
  cases re' with
  | attempting read next t =>
    obtain ⟨rfl, htimely⟩ := hdecided t rfl
    exact hc.due htimely hcurrent.1
  | _ => trivial

/-- The handler of failed health checks records an attempt. -/
theorem Counted.handle (hc : Counted lib p status .free re made touched)
    {reason : Option RestartReason} {next : Status} {now : Int}
    (htimely : Timely (Backoff lib p) now .free made)
    (hprepare : PrepareAttempt lib p { status with lastReason := reason } now = (next, true)) :
    Counted lib p next (.unhealthy next now) re made true := by
  obtain ⟨-, hdue, hleft, rfl⟩ := PrepareAttempt_true hprepare
  obtain ⟨slack, htally, hslack⟩ := hc.disturb.tally
  exact ⟨⟨slack, htally.reserve Backoff_pos hdue (hc.due htimely hdue).2 hleft rfl rfl, hslack⟩,
    ⟨rfl, nofun⟩, nofun, nofun⟩

/-- The handler makes the attempt. -/
theorem Counted.replace {next : Status} {t : Int}
    (hc : Counted lib p status (.unhealthy next t) re made touched) (now : Int) :
    Counted lib p status (.replacing next t) re (⟨t, now⟩ :: made) touched := by
  obtain ⟨slack, htally, hslack⟩ := hc.tally
  have hnone : pendingAttempt (.replacing next t) re touched = none := by
    cases touched with
    | false => simp [pendingAttempt, Holder.pending, hc.holder.2 rfl]
    | true => rfl
  refine ⟨⟨slack, ?_, hslack⟩, hc.holder, hc.reconciler, fun htouched => ?_⟩
  · rw [hnone]
    exact htally.make now
  · have hapart := hc.apart htouched
    cases re with
    | attempting read next' now' => cases hapart.1
    | _ => trivial

/-- The reconciler records an attempt. -/
theorem Counted.record {read next : Status} {now : Int}
    (hc : Counted lib p status .free (.attempting read next now) made false) :
    Counted lib p next .free (.restarting next now) made false := by
  obtain ⟨hdue, hleft, hattempts, hlast⟩ := hc.reconciler rfl
  obtain ⟨slack, htally, hslack⟩ := hc.tally
  refine ⟨⟨slack, ?_, fun _ => hslack (.inl rfl)⟩, trivial, fun _ => rfl, fun _ => trivial⟩
  exact htally.reserve Backoff_pos hdue (hc.apart rfl).2 hleft hattempts hlast

/-- The reconciler makes the attempt. -/
theorem Counted.restart {next : Status} {t : Int}
    (hc : Counted lib p status .free (.restarting next t) made false) (re' : Reconciler) (now : Int)
    (hpending : re'.pending = none) (hre : re'.Current lib p status)
    (hapart : re'.Apart (Backoff lib p) .free (⟨t, now⟩ :: made)) :
    Counted lib p status .free re' (⟨t, now⟩ :: made) false := by
  obtain ⟨slack, htally, hslack⟩ := hc.tally
  refine ⟨⟨slack, ?_, fun _ => hslack (.inl rfl)⟩, trivial, fun _ => hre, fun _ => hapart⟩
  simp only [pendingAttempt, Holder.pending, hpending]
  exact htally.make now

end Counted

section Step

variable {lib : StdLib} {policy : Option Policy} {p : Policy} {s s' : RestartState}
  {h : AttemptHistory} {e : RestartEvent}

theorem AttemptHistory.next_made_of_resets (hreset : resetsAttempts s e = true) :
    (h.next s e s').made = [] :=
  if_pos hreset

theorem AttemptHistory.next_made_of_attempt {t : Int} (hreset : resetsAttempts s e = false)
    (hattempt : attemptMade s e = some t) : (h.next s e s').made = ⟨t, s.now⟩ :: h.made := by
  simp [AttemptHistory.next, hreset, hattempt]

theorem AttemptHistory.next_made_of_none (hreset : resetsAttempts s e = false)
    (hattempt : attemptMade s e = none) : (h.next s e s').made = h.made := by
  simp [AttemptHistory.next, hreset, hattempt]

theorem resetsAttempts_write (hre : s.reconciler ≠ .resetting) :
    resetsAttempts s .write = false := by
  simp [resetsAttempts, hre]

theorem Decides.current {status : Status} {state : State} {now : Int} {re : Reconciler}
    (hp : normalizedPolicy lib policy = some p) (h : Decides lib policy status state now re) :
    re.pending = none ∧ re.Current lib p status := by
  cases h with
  | idle => exact ⟨rfl, trivial⟩
  | resetting => exact ⟨rfl, trivial⟩
  | noting hpolicy hprepare =>
    cases hp.symm.trans hpolicy
    exact ⟨rfl, PrepareAttempt_false hprepare⟩
  | attempting hpolicy _ hprepare =>
    cases hp.symm.trans hpolicy
    obtain ⟨-, hdue, hleft, rfl⟩ := PrepareAttempt_true hprepare
    exact ⟨rfl, hdue, hleft, rfl, rfl⟩

theorem Decides.decided {status : Status} {state : State} {now : Int} {re : Reconciler}
    (h : Decides lib policy status state now re) :
    ∀ t ∈ re.decided, t = now ∧ state = .stopped := by
  cases h with
  | attempting _ hstopped _ =>
    rintro t ⟨⟩
    exact ⟨rfl, hstopped⟩
  | _ => exact nofun

theorem restartStatusAfterFailedAttempt_counts (status : Status) (now : Int) :
    (restartStatusAfterFailedAttempt lib p status now).attempts = status.attempts ∧
      (restartStatusAfterFailedAttempt lib p status now).lastAttemptAt = status.lastAttemptAt :=
  AfterFailedAttempt_counts

abbrev Counts (lib : StdLib) (p : Policy) (s : RestartState) (h : AttemptHistory) : Prop :=
  Counted lib p s.status s.holder s.reconciler h.made h.touched

theorem Counts.of_moves {status : Status} {holder : Holder} {re : Reconciler}
    {made : List RestartAttempt} {touched : Bool} (hm : Moves s s' status holder re)
    (hmade : (h.next s e s').made = made) (htouched : (h.next s e s').touched = touched)
    (hc : Counted lib p status holder re made touched) : Counts lib p s' (h.next s e s') := by
  obtain ⟨-, rfl, rfl, rfl⟩ := hm
  rwa [Counts, hmade, htouched]

/-- A step that leaves the status alone. -/
theorem Counts.of_same {holder : Holder} {re : Reconciler} {made : List RestartAttempt}
    (hm : Moves s s' s.status holder re) (hload : e ≠ .load) (hmade : (h.next s e s').made = made)
    (hc : Counted lib p s.status holder re made h.touched) : Counts lib p s' (h.next s e s') := by
  refine .of_moves hm hmade ?_ hc
  cases e with
  | load => exact absurd rfl hload
  | write => rfl
  | _ => simp [AttemptHistory.next, hm.status]

/-- A call clears the status, so that the reconciler cannot go on to a restart undisturbed. -/
theorem Counts.clear (hc : Counts lib p s h) {status : Status} {holder : Holder}
    (hzero : status.attempts = 0) (hlast : status.lastAttemptAt = none)
    (hpending : holder.pending = none)
    (hholder : holder.Current status s.reconciler (h.touched || status != s.status)) :
    Counted lib p status holder s.reconciler [] (h.touched || status != s.status) := by
  refine .reset hzero hpending hholder fun htouched => ?_
  simp only [Bool.or_eq_false_iff, bne_eq_false_iff_eq] at htouched
  obtain ⟨htouched, rfl⟩ := htouched
  refine ⟨?_, hc.reconciler htouched⟩
  obtain ⟨slack, htally, -⟩ := hc.tally
  -- a pending attempt would have left its time in the status, which the call has not changed
  by_contra hre
  obtain ⟨t, hre⟩ := Option.ne_none_iff_exists'.mp hre
  obtain ⟨t', hpending⟩ : ∃ t', pendingAttempt s.holder s.reconciler h.touched = some t' := by
    cases hholder : s.holder.pending <;> simp [pendingAttempt, hholder, htouched, hre]
  have hdue := (htally.due t' hpending).1
  rw [hlast] at hdue
  cases hdue

/-- **One step.** -/
theorem Counts.step (hp : normalizedPolicy lib policy = some p) (hc : Counts lib p s h)
    (hok : undisturbed (Backoff lib p) (s, h) e) (ht : Transition lib policy s s' e) :
    Counts lib p s' (h.next s e s') := by
  unfold Counts at hc
  cases ht with
  | elapse hm | observe hm => exact .of_same hm (by simp) rfl hc
  | load hre hm =>
    rw [hre] at hc
    exact .of_moves hm rfl rfl (hc.set_reconciler rfl rfl (fun _ => rfl) fun _ => trivial)
  | derive hre hm =>
    rw [hre] at hc
    exact .of_same hm (by simp) rfl (hc.set_reconciler rfl rfl hc.reconciler fun _ => trivial)
  | decide hre hdecides hm =>
    rw [hre] at hc
    obtain ⟨hpending, hcurrent⟩ := hdecides.current hp
    have hstored : h.touched = false → _ := fun htouched => hc.reconciler htouched ▸ hcurrent
    refine .of_same hm (by simp) rfl (hc.set_reconciler rfl hpending hstored fun htouched =>
      hc.decides s.now (hstored htouched) fun t ht => ?_)
    obtain ⟨hnow, hstopped⟩ := hdecides.decided t ht
    exact ⟨hnow, hok (by rw [hre, hstopped]; rfl)⟩
  | refused hfree hre hwrites hm =>
    rw [hfree] at hc
    have hreset : resetsAttempts s .write = false := by simpa [resetsAttempts] using hwrites
    exact .of_same hm (by simp) (h.next_made_of_none hreset rfl)
      (hc.set_reconciler hre rfl (fun _ => trivial) fun _ => trivial)
  | reset hfree hre hwrites hm =>
    have hreset : resetsAttempts s .write = true := by simp [resetsAttempts, hre, hwrites]
    exact .of_moves hm (h.next_made_of_resets hreset) rfl
      (.reset rfl rfl trivial fun _ => ⟨rfl, trivial⟩)
  | noted hfree hre hwrites hm =>
    have hreset : s.reconciler ≠ .resetting := by
      rcases hre with ⟨read, hre⟩ | hre <;> simp [hre]
    have htouched : h.touched = false := hok.resolve_left hreset
    rw [hfree] at hc
    refine .of_moves hm (h.next_made_of_none (resetsAttempts_write hreset) rfl) rfl ?_
    rcases hre with ⟨read, hre⟩ | hre <;>
    · rw [hre] at hc
      obtain ⟨hattempts, hlast⟩ := hc.reconciler htouched
      exact hc.note rfl hattempts hlast
  | recorded hfree hre hwrites hm =>
    have hreset : s.reconciler ≠ .resetting := by simp [hre]
    have htouched : h.touched = false := hok.resolve_left hreset
    rw [hfree, hre, htouched] at hc
    exact .of_moves hm (h.next_made_of_none (resetsAttempts_write hreset) rfl) htouched hc.record
  | restarted hfree hre hm =>
    have htouched : h.touched = false := hok
    rw [hfree, hre, htouched] at hc
    exact .of_same hm (by simp) (h.next_made_of_attempt rfl (congrArg Reconciler.pending hre))
      (htouched ▸ hc.restart .idle s.now rfl trivial trivial)
  | restartFailed hfree hpolicy hre hfail hm =>
    have htouched : h.touched = false := hok
    rw [hfree, hre, htouched] at hc
    obtain rfl := hc.reconciler rfl
    exact .of_same hm (by simp) (h.next_made_of_attempt rfl (congrArg Reconciler.pending hre))
      (htouched ▸ hc.restart (.failed _) s.now rfl (restartStatusAfterFailedAttempt_counts _ _)
        trivial)
  | stop hfree hholder hm =>
    obtain ⟨policy, rfl⟩ := Option.isSome_iff_exists.mp (isSome_of_normalizedPolicy hp)
    refine .of_moves hm rfl (by simp [AttemptHistory.next, hm.status])
      (Counts.clear hc rfl rfl ?_ ?_)
    · rw [hholder]
      split <;> rfl
    · rw [hholder]
      split <;> trivial
  | start hfree hholder hm =>
    refine .of_moves hm rfl (by simp [AttemptHistory.next, hm.status])
      (Counts.clear hc rfl rfl ?_ ?_)
    · rcases hholder with rfl | rfl <;> rfl
    · rcases hholder with rfl | rfl <;> trivial
  | ignored hfree hm =>
    rw [hfree] at hc
    exact .of_same hm (by simp) rfl hc
  | postponed hfree hpolicy hblocked hprepare hm =>
    rw [hfree] at hc
    obtain ⟨hattempts, hlast⟩ := PrepareAttempt_false hprepare
    exact .of_moves hm rfl (by simp [AttemptHistory.next, hm.status]) (hc.restatus hattempts hlast)
  | replaces hfree hrunning hpolicy hblocked hprepare hm =>
    cases hp.symm.trans hpolicy
    rw [hfree] at hc
    refine .of_moves hm rfl ?_ (hc.handle (hfree ▸ hok hrunning) hprepare)
    -- one attempt more is a change of the status
    obtain ⟨-, -, -, rfl⟩ := PrepareAttempt_true hprepare
    have hchanged : s'.status ≠ s.status := by
      intro hsame
      have hcount : s.status.attempts + 1 = s.status.attempts :=
        congrArg Status.attempts (hm.status.symm.trans hsame)
      omega
    simp [AttemptHistory.next, hchanged]
  | replaceStopped hholder hm =>
    rw [hholder] at hc
    exact .of_same hm (by simp) (h.next_made_of_attempt rfl (congrArg Holder.pending hholder))
      (hc.replace s.now)
  | replaceStopFailed hpolicy hholder hm =>
    rw [hholder] at hc
    obtain ⟨rfl, -⟩ := hc.holder
    obtain ⟨hattempts, hlast⟩ := restartStatusAfterFailedAttempt_counts s.status _
    have hreplaced := (hc.replace s.now).release rfl
    exact .of_moves hm (h.next_made_of_attempt rfl (congrArg Holder.pending hholder))
      (by simp [AttemptHistory.next, hm.status]) (hreplaced.restatus hattempts hlast)
  | stopped hholder hm | started hholder hm | replaced hholder hm =>
    rw [hholder] at hc
    exact .of_same hm (by simp) rfl (hc.release rfl)
  | replaceStartFailed hpolicy hholder hfail hm =>
    rw [hholder] at hc
    obtain ⟨rfl, -⟩ := hc.holder
    obtain ⟨hattempts, hlast⟩ := restartStatusAfterFailedAttempt_counts s.status _
    have hreplaced := hc.release rfl
    exact .of_moves hm rfl (by simp [AttemptHistory.next, hm.status])
      (hreplaced.restatus hattempts hlast)

/-! ## The time of an attempt -/

/-- An attempt is decided on before it is made. -/
structure Punctual (s : RestartState) (made : List RestartAttempt) : Prop where
  reconciler : ∀ t ∈ s.reconciler.decided, t ≤ s.now
  holder : ∀ t ∈ s.holder.pending, t ≤ s.now
  made : ∀ a ∈ made, a.decided ≤ a.made

theorem Punctual.of_moves {status : Status} {holder : Holder} {re : Reconciler}
    {made : List RestartAttempt} (hm : Moves s s' status holder re)
    (hre : ∀ t ∈ re.decided, t ≤ s.now) (hholder : ∀ t ∈ holder.pending, t ≤ s.now)
    (hmade : ∀ a ∈ made, a.decided ≤ a.made) : Punctual s' made := by
  obtain ⟨hnow, rfl, rfl, rfl⟩ := hm
  exact ⟨fun t ht => (hre t ht).trans hnow, fun t ht => (hholder t ht).trans hnow, hmade⟩

theorem Reconciler.decided_of_pending {re : Reconciler} {t : Int} (h : re.pending = some t) :
    re.decided = some t := by
  cases re with
  | restarting next now => exact h
  | _ => cases h

theorem Punctual.attemptMade_le {made : List RestartAttempt} (hs : Punctual s made) {t : Int}
    (h : attemptMade s e = some t) : t ≤ s.now := by
  cases e with
  | restart ok => exact hs.reconciler t (Reconciler.decided_of_pending h)
  | replaceStop ok => exact hs.holder t h
  | _ => cases h

theorem Punctual.next_made (hs : Punctual s h.made) :
    ∀ a ∈ (h.next s e s').made, a.decided ≤ a.made := by
  cases hreset : resetsAttempts s e with
  | true => simp [h.next_made_of_resets hreset]
  | false =>
    cases hattempt : attemptMade s e with
    | none =>
      rw [h.next_made_of_none hreset hattempt]
      exact hs.made
    | some t =>
      rw [h.next_made_of_attempt hreset hattempt, List.forall_mem_cons]
      exact ⟨hs.attemptMade_le hattempt, hs.made⟩

theorem Punctual.step (hs : Punctual s h.made) (ht : Transition lib policy s s' e) :
    Punctual s' (h.next s e s').made := by
  cases ht with
  | elapse hm | observe hm => exact .of_moves hm hs.reconciler hs.holder hs.next_made
  | load hre hm | derive hre hm =>
    exact .of_moves hm (by simp [Reconciler.decided]) hs.holder hs.next_made
  | decide hre hdecides hm =>
    exact .of_moves hm (fun t ht => (hdecides.decided t ht).1.le) hs.holder hs.next_made
  | recorded hfree hre hwrites hm =>
    have hdecided := hs.reconciler
    rw [hre] at hdecided
    exact .of_moves hm hdecided nofun hs.next_made
  | refused _ _ _ hm | reset _ _ _ hm | noted _ _ _ hm | restarted _ _ hm
  | restartFailed _ _ _ _ hm => exact .of_moves hm nofun nofun hs.next_made
  | stop hfree hholder hm =>
    refine .of_moves hm hs.reconciler ?_ hs.next_made
    rw [hholder]
    split <;> exact nofun
  | start hfree hholder hm =>
    refine .of_moves hm hs.reconciler ?_ hs.next_made
    rcases hholder with rfl | rfl <;> exact nofun
  | replaces hfree hrunning hpolicy hblocked hprepare hm =>
    exact .of_moves hm hs.reconciler (by simp [Holder.pending]) hs.next_made
  | stopped _ hm | started _ hm | ignored _ hm | postponed _ _ _ _ hm | replaceStopped _ hm
  | replaceStopFailed _ _ hm | replaced _ hm | replaceStartFailed _ _ _ hm =>
    exact .of_moves hm hs.reconciler nofun hs.next_made

/-! ## Every run -/

/-- **Automatic restarts are counted, limited and apart**, in every run in which the reconciler acts
on a status that nobody has changed meanwhile and decisions are timely: while no attempt is pending
the status counts the attempts made after the last reset, there are at most `maxAttempts` of them,
and each is made when the backoff after the one before is over. -/
theorem attempts_limited (hp : normalizedPolicy lib policy = some p)
    {x : RestartState × AttemptHistory}
    (hx : (attemptSystem lib policy).Reachable (undisturbed (Backoff lib p)) x) :
    (x.1.holder.pending = none → x.1.reconciler.pending = none →
      x.1.status.attempts = x.2.made.length) ∧
    (0 < p.maxAttempts → (x.2.made.length : Int) ≤ p.maxAttempts) ∧
    x.2.made.IsChain fun later earlier => earlier.made + Backoff lib p ≤ later.made := by
  obtain ⟨hcounts, hpunctual⟩ : Counts lib p x.1 x.2 ∧ Punctual x.1 x.2.made := by
    refine hx.invariant (I := fun x => Counts lib p x.1 x.2 ∧ Punctual x.1 x.2.made) ?_ ?_
    · exact ⟨.reset rfl rfl trivial fun _ => ⟨rfl, trivial⟩, nofun, nofun, nofun⟩
    · rintro x e y ⟨hcounts, hpunctual⟩ hok hstep
      obtain ⟨hstep, hnext⟩ := System.monitored_step_iff.mp hstep
      have ht := transition_of_step hstep
      rw [hnext]
      exact ⟨hcounts.step hp hok ht, hpunctual.step ht⟩
  obtain ⟨slack, htally, hslack⟩ := hcounts.tally
  -- without a pending attempt of the reconciler none was given up
  refine ⟨fun hholder hre => ?_, fun hmax => ?_, ?_⟩
  · have hcount := htally.count
    rw [hslack (.inr hre)] at hcount
    simpa [pendingAttempt, hholder, hre] using hcount
  · have hbounded := htally.bounded hmax
    have hcount := htally.count
    omega
  · refine htally.spaced.imp_of_mem_imp fun later earlier hlater _ hspaced => ?_
    exact hspaced.trans (hpunctual.made later hlater)

end Step

/-- The policy `restartAlways`, normalized. -/
theorem normalizedPolicy_restartAlways (maxAttempts : Int) (h : maxAttempts = 1 ∨ maxAttempts = 2) :
    normalizedPolicy restartLib (some (restartAlways maxAttempts)) =
      some ⟨.always, "5s", maxAttempts, "10m0s"⟩ := by
  rcases h with rfl | rfl <;> decide +kernel

/-- An instance with one attempt exits. The reconciler restarts it, and after the next exit it has
no attempt left. -/
theorem attempts_limited_once :
    ∃ x, (attemptSystem restartLib (some (restartAlways 1))).Reachable (undisturbed 5000000000) x ∧
      (x.1.status.blockedReason = some .maxAttemptsExceeded ∧ x.2.made = [⟨0, 1⟩]) ∧
      x.1.status.attempts = x.2.made.length := by
  obtain ⟨x, hx, ⟨hholder, hre⟩, hmade⟩ := System.exists_reachable_of_replay
    (attemptSystem restartLib (some (restartAlways 1))) (undisturbed 5000000000)
    (fun x => (x.1.holder.pending = none ∧ x.1.reconciler.pending = none) ∧
      x.1.status.blockedReason = some .maxAttemptsExceeded ∧ x.2.made = [⟨0, 1⟩])
    [.observe .stopped (some 1) none, .load, .derive, .decide, .write, .elapse 1, .restart true,
      .elapse 5000000000, .observe .stopped (some 1) (some 1), .load, .derive, .decide, .write]
    (by decide +kernel)
  refine ⟨x, hx, hmade, ?_⟩
  exact (attempts_limited (normalizedPolicy_restartAlways 1 (.inl rfl)) hx).1 hholder hre

/-- The handler of failed health checks has stopped an instance for its only attempt. The
reconciler, which loaded the metadata before that, finds it stopped and decides on an attempt of its
own. The attempt of the handler fails and blocks the instance, the reconciler overwrites that and
restarts the instance: two attempts are made without a backoff, and the status counts one. And where
nobody disturbs the reconciler, an attempt that is made late is followed by the next at once. -/
theorem stale_status_counts_once :
    (∃ p x, normalizedPolicy restartLib (some (restartAlways 1)) = some p ∧
      (attemptSystem restartLib (some (restartAlways 1))).Reachable (fun _ _ => True) x ∧
      (x.1.holder.pending = none ∧ x.1.reconciler.pending = none) ∧
      x.1.status.attempts = 1 ∧ x.2.made = [⟨1, 1⟩, ⟨0, 0⟩] ∧ p.maxAttempts = 1 ∧
      Backoff restartLib p = 5000000000) ∧
    ∃ x, (attemptSystem restartLib (some (restartAlways 2))).Reachable
        (fun x _ => x.2.touched = false) x ∧
      x.2.made = [⟨5000000000, 5000000000⟩, ⟨0, 5000000000⟩] := by
  constructor
  · obtain ⟨x, hx, hpending, hattempts, hmade⟩ := System.exists_reachable_of_replay
      (attemptSystem restartLib (some (restartAlways 1))) (fun _ _ => True)
      (fun x => (x.1.holder.pending = none ∧ x.1.reconciler.pending = none) ∧
        x.1.status.attempts = 1 ∧ x.2.made = [⟨1, 1⟩, ⟨0, 0⟩])
      [.observe .running none (some 0), .load, .unhealthy, .replaceStop true, .elapse 1, .derive,
        .decide, .replaceStart false, .write, .restart true]
      (by decide +kernel)
    exact ⟨_, x, normalizedPolicy_restartAlways 1 (.inl rfl), hx, hpending, hattempts, hmade, rfl,
      by decide +kernel⟩
  · exact System.exists_reachable_of_replay (attemptSystem restartLib (some (restartAlways 2)))
      (fun x _ => x.2.touched = false)
      (fun x => x.2.made = [⟨5000000000, 5000000000⟩, ⟨0, 5000000000⟩])
      [.observe .stopped (some 1) none, .load, .derive, .decide, .write, .elapse 5000000000,
        .restart true, .observe .stopped (some 1) none, .load, .derive, .decide, .write,
        .restart true]
      (by decide +kernel)

end Hypeman.Instances
