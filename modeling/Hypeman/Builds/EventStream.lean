import Hypeman.Builds.Status

/-!
# Following a build

`StreamBuildEvents` with `follow` (`lib/builds/manager.go`), beside the calls that change the status
of the build. `updateStatus` and `updateBuildComplete` write the metadata and then tell the
subscribers, without waiting for them; the stream reads the metadata, subscribes, and then waits for
a terminal status in its channel. Log lines and heartbeats change none of this and are left out.

* `follower_not_stranded`: if the build is not over yet when the stream subscribes, or its last
  status is still to be announced, the stream does not wait for what has been announced already.
* `subscribed_too_late`: a build that ends between the reading and the subscription.
-/

namespace Hypeman.Builds

open Foundations

/-! ## The system -/

/-- The status that `notifyStatusChange` is called with at the end of an update. -/
def Update.announces : Update → Option BuildStatus
  | .updateStatus status _ | .updateBuildComplete status _ _ _ => some status
  | .builderInstance _ | .imageRef _ => none

def BuildEvent.actor : BuildEvent → Option ℕ
  | .cancelBuild call | .queueCancel call => some call
  | .start | .next _ => none
  | .read who _ _ | .write who _ => who

/-- What the caller has to announce after the event, whether the write succeeds or not. -/
def BuildEvent.announces (b : BuildState) : BuildEvent → Option BuildStatus
  | .write who _ =>
    match b.calls.lookup who with
    | some (.writing u _ _) => u.announces
    | _ => none
  | _ => none

/-- Where the stream is. It has subscribed if it awaits the log, or tails the log of a build that
was not complete. -/
inductive StreamPhase
  | idle
  | opened (isComplete : Bool)
  | awaitingLog
  | tailing (follows : Bool)
  | done
deriving DecidableEq

def StreamPhase.Waiting : StreamPhase → Bool
  | .awaitingLog | .tailing true => true
  | .idle | .opened _ | .tailing false | .done => false

/-- The build, the notifications that its callers are about to send, the stream and its
`statusChan`. -/
structure StreamState where
  build : BuildState
  due : Table (Option ℕ) BuildStatus
  phase : StreamPhase
  channel : List BuildStatus

inductive StreamEvent
  | build (e : BuildEvent)
  | notify (who : Option ℕ)
  | openStream
  | subscribe (logExists : Bool)
  | logAppears
  | receive
  /-- The log or the context ends. -/
  | ends

/-- `notifyStatusChange`: the channel afterwards, which has room for 10 statuses. -/
def StreamState.notifyStatusChange (s : StreamState) (status : BuildStatus) : List BuildStatus :=
  if s.phase.Waiting ∧ s.channel.length < 10 then s.channel ++ [status] else s.channel

def StreamState.step (s : StreamState) : StreamEvent → Option StreamState
  | .build e =>
    -- a caller announces its status before it goes on
    if s.due.lookup e.actor = none then
      (s.build.step e).map fun build =>
        { s with build := build, due := s.due.set e.actor (e.announces s.build) }
    else none
  | .notify who =>
    (s.due.lookup who).map fun status =>
      { s with due := s.due.erase who, channel := s.notifyStatusChange status }
  | .openStream =>
    if s.phase = .idle then some { s with phase := .opened s.build.stored.status.Terminal }
    else none
  | .subscribe logExists =>
    match s.phase with
    | .opened isComplete =>
      some { s with
        phase := if logExists then .tailing (!isComplete)
          else if isComplete then .done else .awaitingLog }
    | _ => none
  | .logAppears => if s.phase = .awaitingLog then some { s with phase := .tailing true } else none
  | .receive =>
    match s.phase.Waiting, s.channel with
    | true, status :: rest =>
      some { s with phase := if status.Terminal then .done else s.phase, channel := rest }
    | _, _ => none
  | .ends => if s.phase = .idle then none else some { s with phase := .done }

/-- A build that has been enqueued, and a stream that is not open yet. -/
def streamSystem (m : BuildMetadata) : System StreamState StreamEvent where
  init := { build := (buildSystem m).init, due := ∅, phase := .idle, channel := [] }
  step := StreamState.step

/-- The build is over and everything is announced, and the stream waits for a terminal status that
is not in its channel. -/
def StreamState.Stranded (s : StreamState) : Prop :=
  s.build.stored.status.Terminal = true ∧ s.due.keys = [] ∧ s.phase.Waiting = true ∧
    s.channel.all (!·.Terminal) = true

instance (s : StreamState) : Decidable s.Stranded := inferInstanceAs (Decidable (_ ∧ _ ∧ _ ∧ _))

/-- A caller is about to announce a terminal status. -/
def StreamState.terminalDue (s : StreamState) : Bool :=
  s.due.keys.any fun who => (s.due.lookup who).any (·.Terminal)

/-- The stream subscribes while the build is not over, or its end not announced. -/
def InTime (s : StreamState) : StreamEvent → Prop
  | .subscribe _ => s.phase = .opened false →
      s.build.stored.status.Terminal = true → s.terminalDue = true
  | _ => True

instance (s : StreamState) : DecidablePred (InTime s)
  | .subscribe _ => inferInstanceAs (Decidable (_ → _ → _))
  | .build _ | .notify _ | .openStream | .logAppears | .receive | .ends => isTrue trivial

/-! ## The calls -/

/-- The updates of `runBuild`, and that of a cancellation. -/
def Update.Regular (who : Option ℕ) : Update → Prop
  | .updateStatus status _ => if who = none then status = .building else status = .cancelled
  | .updateBuildComplete status _ _ _ => who = none ∧ status.Terminal = true
  | .builderInstance _ | .imageRef _ => who = none

/-- What is known of a call: it writes the status that it announces, or none that would make the
build terminal. -/
def Call.Regular (stored : BuildStatus) (who : Option ℕ) : Call → Prop
  | .reading u _ => u.Regular who
  | .writing u m _ => u.Regular who ∧ (∀ status ∈ u.announces, m.status = status) ∧
      (u.announces = none → m.status.Terminal = true → stored.Terminal = true)
  | .checked _ | .updated _ => True

def BuildState.Regular (b : BuildState) : Prop :=
  ∀ who call, b.calls.lookup who = some call → call.Regular b.stored.status who

/-- The update is an `updateStatus`, in `runBuild` the first one. -/
def Update.first : Update → Bool
  | .updateStatus _ _ => true
  | .updateBuildComplete _ _ _ _ | .builderInstance _ | .imageRef _ => false

def Call.first : Call → Bool
  | .reading u _ | .writing u _ _ => u.first
  | .checked _ | .updated _ => false

/-- How often `runBuild` may still announce a status that is not terminal. -/
def BuildState.firstUpdates (b : BuildState) : ℕ :=
  (decide (b.queue = .pending)).toNat + ((b.calls.lookup none).any Call.first).toNat

/-- Whether a status that is not terminal is announced, as a number. -/
def early (announced : Option BuildStatus) : ℕ := (announced.any (!·.Terminal)).toNat

variable {b b' : BuildState} {s s' : StreamState} {e : BuildEvent} {u : Update} {who : Option ℕ}

theorem Update.Regular.terminal_of_ne (hu : u.Regular who)
    (hwho : who ≠ none) : u.announces = some .cancelled := by
  cases u with
  | updateStatus status err =>
    simp only [Update.Regular, if_neg hwho] at hu
    simp [Update.announces, hu]
  | updateBuildComplete => exact absurd hu.1 hwho
  | builderInstance | imageRef => exact absurd hu hwho

/-- After its first update `runBuild` does not call `updateStatus`. -/
theorem Update.leadsTo_regular {u u' : Update} (h : u.leadsTo u' = true) :
    u'.Regular none ∧ u'.first = false := by
  unfold Update.leadsTo at h
  split at h <;> simp_all [Update.Regular, Update.first]
  all_goals grind [BuildStatus.Terminal]

/-- What is known of a call stays known while a terminal status stays terminal. -/
theorem Call.Regular.mono {stored stored' : BuildStatus} {call : Call}
    (h : call.Regular stored who)
    (hstored : who = none → stored.Terminal = true → stored'.Terminal = true) :
    call.Regular stored' who := by
  cases call with
  | checked | reading | updated => exact h
  | writing u m acted =>
    refine ⟨h.1, h.2.1, fun hnone hterm => ?_⟩
    have hwho : who = none := by
      by_contra hne
      rw [h.1.terminal_of_ne hne] at hnone
      cases hnone
    exact hstored hwho (h.2.2 hnone hterm)

theorem afterUpdate_regular {stored : BuildStatus} (u : Update) :
    ∀ call ∈ afterUpdate who u, call.Regular stored who := by
  grind [afterUpdate, Call.Regular]

/-- The call of one caller goes on, and the metadata stay. -/
theorem BuildState.Regular.set (hb : b.Regular) {new : Option Call}
    {queue : Place} {calls : Table (Option ℕ) Call} (hset : Table.Sets who new b.calls calls)
    (hnew : ∀ call ∈ new, call.Regular b.stored.status who) :
    BuildState.Regular { b with queue := queue, calls := calls } :=
  hset.all hb hnew

/-- What an update is about to write. -/
theorem Update.Regular.writing (hu : u.Regular who) {now : Int}
    {stored m : BuildMetadata} (h : u.apply now stored = some m) (acted : BuildStatus) :
    (Call.writing u m acted).Regular stored.status who := by
  cases u with
  | updateStatus => cases h; simp [Call.Regular, hu, Update.announces]
  | updateBuildComplete =>
    obtain ⟨-, ⟨⟩⟩ := Option.ite_none_left_eq_some.mp h
    simp [Call.Regular, hu, Update.announces]
  | builderInstance | imageRef => cases h; simp [Call.Regular, hu, Update.announces]

theorem BuildState.Regular.step (hb : b.Regular) (h : b.step e = some b') :
    b'.Regular := by
  have hcancel : ∀ call acted, (Call.reading (.updateStatus .cancelled none) acted).Regular
      b.stored.status (some call) := fun _ _ => rfl
  cases e with simp only [BuildState.step] at h
  | cancelBuild call =>
    obtain ⟨-, h⟩ := Option.ite_none_right_eq_some.mp h
    split at h
    · cases h
      exact hb.set (.insert _ _ _) (by simp [Call.Regular])
    iterate 2
      · cases h
        exact hb.set (.insert _ _ _) (by simp [hcancel])
    all_goals
      cases h
      exact hb
  | queueCancel call =>
    split at h
    · cases h
      exact hb.set (.insert _ _ _) (by simp [hcancel])
    · cases h
      exact hb.set (.erase _ _) (by simp)
    · cases h
  | start =>
    obtain ⟨-, ⟨⟩⟩ := Option.ite_none_right_eq_some.mp h
    exact hb.set (.insert _ _ _) (by simp [Call.Regular, Update.Regular])
  | next u =>
    split at h
    next u₀ hcall =>
      obtain ⟨hnext, ⟨⟩⟩ := Option.ite_none_right_eq_some.mp h
      exact hb.set (.insert _ _ _) (by simpa [Call.Regular] using (Update.leadsTo_regular hnext).1)
    · cases h
  | read who now reads =>
    split at h
    next u acted hcall =>
      split at h
      next m hm =>
        cases h
        have happly : u.apply now b.stored = some m := (Option.ite_none_right_eq_some.mp hm).2
        have hnew := Update.Regular.writing (hb who _ hcall) happly (acted.getD b.stored.status)
        exact hb.set (.insert _ _ _) (by simpa using hnew)
      · cases h
        exact hb.set (fun k => Table.lookup_set _ _ k _) (afterUpdate_regular u)
    · cases h
  | write who writes =>
    split at h
    next u m acted hcall =>
      cases h
      obtain ⟨hu, hannounced, hquiet⟩ := hb who _ hcall
      cases writes with
      | false => exact hb.set (fun k => Table.lookup_set _ _ k _) (afterUpdate_regular u)
      | true =>
        intro who' call hcall'
        rcases Table.Sets.eq_some (fun k => Table.lookup_set _ _ k _) hcall' with
          ⟨rfl, hnew⟩ | ⟨hne, hold⟩
        · exact afterUpdate_regular u call hnew
        · refine (hb who' call hold).mono fun hnone hterm => ?_
          -- another caller than `runBuild` writes `cancelled`
          have hcancelled := hannounced _ (hu.terminal_of_ne fun h => hne (hnone.trans h.symm))
          simp [hcancelled, BuildStatus.Terminal]
    · cases h

/-- A build that becomes terminal announces it. -/
theorem BuildState.Regular.terminal (hb : b.Regular) (h : b.step e = some b')
    (hterm : b'.stored.status.Terminal = true) :
    b.stored.status.Terminal = true ∨ ∃ status ∈ e.announces b, status.Terminal = true := by
  cases e with
  | write who writes =>
    simp only [BuildState.step] at h
    split at h
    next u m acted hcall =>
      cases h
      obtain ⟨-, hannounced, hquiet⟩ := hb who _ hcall
      simp only [BuildEvent.announces, hcall]
      cases writes with
      | false => exact .inl hterm
      | true =>
        cases hstatus : u.announces with
        | none => exact .inl (hquiet hstatus hterm)
        | some status => exact .inr ⟨status, rfl, hannounced status hstatus ▸ hterm⟩
    · cases h
  | cancelBuild | queueCancel | start | next | read => grind [BuildState.step]

theorem Update.Regular.early_le (hu : u.Regular who) :
    early u.announces ≤ if who = none then u.first.toNat else 0 := by
  cases u <;> grind [Update.Regular, early, Update.announces, Update.first, BuildStatus.Terminal]

/-- One call goes on and announces `n` statuses that are not terminal. -/
theorem firstUpdates_set {new : Option Call} {n : ℕ}
    (hset : Table.Sets who new b.calls b'.calls) (hqueue : b'.queue = .pending → b.queue = .pending)
    (hnew : who = none →
      (new.any Call.first).toNat + n ≤ ((b.calls.lookup who).any Call.first).toNat)
    (hn : who ≠ none → n = 0) : b'.firstUpdates + n ≤ b.firstUpdates := by
  have hpending : (decide (b'.queue = .pending)).toNat ≤ (decide (b.queue = .pending)).toNat := by
    by_cases h : b'.queue = .pending
    · simp [h, hqueue h]
    · simp [h]
  simp only [BuildState.firstUpdates, hset none]
  by_cases hwho : who = none
  · have hle := hnew hwho
    subst hwho
    rw [if_pos rfl]
    omega
  · rw [if_neg (Ne.symm hwho), hn hwho]
    omega

theorem afterUpdate_first (who : Option ℕ) (u : Update) :
    (afterUpdate who u).any Call.first = false := by
  grind [afterUpdate, Call.first]

/-- A status that is not terminal is announced once. -/
theorem BuildState.Regular.firstUpdates (hb : b.Regular)
    (h : b.step e = some b') :
    b'.firstUpdates + early (e.announces b) ≤ b.firstUpdates := by
  have hother : ∀ {call : ℕ} {P : Prop}, some call = none → P :=
    fun h => absurd h (Option.some_ne_none _)
  cases e with simp only [BuildState.step] at h
  | cancelBuild call =>
    obtain ⟨-, h⟩ := Option.ite_none_right_eq_some.mp h
    split at h
    iterate 3
      · cases h
        exact firstUpdates_set (.insert (some call) _ _) id hother fun _ => rfl
    all_goals
      cases h
      exact Nat.le_refl _
  | queueCancel call =>
    split at h
    · cases h
      exact firstUpdates_set (.insert (some call) _ _) (fun h => by cases h) hother fun _ => rfl
    · cases h
      exact firstUpdates_set (.erase (some call) _) id hother fun _ => rfl
    · cases h
  | start =>
    obtain ⟨hqueue, ⟨⟩⟩ := Option.ite_none_right_eq_some.mp h
    simp [BuildState.firstUpdates, hqueue, early, BuildEvent.announces, Call.first, Update.first]
  | next u =>
    split at h
    next u₀ hcall =>
      obtain ⟨hnext, ⟨⟩⟩ := Option.ite_none_right_eq_some.mp h
      refine firstUpdates_set (.insert none _ _) id (fun _ => ?_) (fun hne => absurd rfl hne)
      simp [Call.first, (Update.leadsTo_regular hnext).2, early, BuildEvent.announces]
    · cases h
  | read who now reads =>
    have hquiet : early (BuildEvent.announces b (.read who now reads)) = 0 := rfl
    split at h
    next u acted hcall =>
      split at h
      · cases h
        exact firstUpdates_set (.insert who _ _) id (fun _ => by simp [hquiet, hcall, Call.first])
          fun _ => hquiet
      · cases h
        exact firstUpdates_set (fun k => Table.lookup_set _ _ k _) id
          (fun _ => by simp [hquiet, afterUpdate_first]) fun _ => hquiet
    · cases h
  | write who writes =>
    split at h
    next u m acted hcall =>
      cases h
      have hearly := (hb who _ hcall).1.early_le
      have hannounces : BuildEvent.announces b (.write who writes) = u.announces := by
        simp only [BuildEvent.announces, hcall]
      rw [hannounces]
      refine firstUpdates_set (fun k => Table.lookup_set _ _ k _) id (fun hnone => ?_)
        (fun hne => ?_)
      · rw [if_pos hnone] at hearly
        simpa [afterUpdate_first, hcall, Call.first] using hearly
      · rw [if_neg hne] at hearly
        exact Nat.le_zero.mp hearly
    · cases h

/-! ## The stream -/

/-- What holds of the stream: a status that is not terminal is in the channel at most once, so it
has room for a terminal one; and a terminal status that the stream waits for is due. -/
structure StreamState.Sound (s : StreamState) : Prop where
  regular : s.build.Regular
  once : s.build.firstUpdates + early (s.due.lookup none) + s.channel.countP (!·.Terminal) ≤ 1
  quiet : ∀ who status, s.due.lookup who = some status → who ≠ none → status.Terminal = true
  due : s.phase.Waiting = true → s.build.stored.status.Terminal = true →
    (∃ status ∈ s.channel, status.Terminal = true) ∨
      ∃ who, ∃ status ∈ s.due.lookup who, status.Terminal = true

/-- Unless a terminal status is in the channel, there is room in it. -/
theorem StreamState.Sound.room (hs : s.Sound) (hfull : ¬ s.channel.length < 10) :
    ∃ status ∈ s.channel, status.Terminal = true := by
  by_contra hnone
  push Not at hnone
  have hall : s.channel.countP (!·.Terminal) = s.channel.length :=
    List.countP_eq_length.mpr fun status hmem => by simpa using hnone status hmem
  have honce := hs.once
  omega

theorem BuildState.Regular.announces_terminal (hb : b.Regular)
    {status : BuildStatus} (h : e.announces b = some status) (hactor : e.actor ≠ none) :
    status.Terminal = true := by
  cases e with
  | write who writes =>
    simp only [BuildEvent.announces] at h
    split at h
    next u m acted hcall =>
      rw [(hb who _ hcall).1.terminal_of_ne hactor] at h
      cases h
      rfl
    · cases h
  | cancelBuild | queueCancel | start | next | read => cases h

theorem StreamState.terminalDue_iff :
    s.terminalDue = true ↔ ∃ who, ∃ status ∈ s.due.lookup who, status.Terminal = true := by
  simp only [StreamState.terminalDue, List.any_eq_true, Option.any_eq_true]
  constructor
  · rintro ⟨who, -, status, hstatus, hterm⟩
    exact ⟨who, status, hstatus, hterm⟩
  · rintro ⟨who, status, hstatus, hterm⟩
    have hmem : who ∈ s.due := AList.lookup_isSome.mp (Option.isSome_of_mem hstatus)
    exact ⟨who, AList.mem_keys.mp hmem, status, hstatus, hterm⟩

theorem StreamState.Sound.build (hs : s.Sound)
    (hdue : s.due.lookup e.actor = none) (h : s.build.step e = some b') :
    StreamState.Sound
      { s with build := b', due := s.due.set e.actor (e.announces s.build) } where
  regular := hs.regular.step h
  once := by
    have hfirst := hs.regular.firstUpdates h
    have honce := hs.once
    simp only [Table.lookup_set]
    split
    next hactor =>
      omega
    next hactor =>
      omega
  quiet who status hstatus hwho := by
    rw [Table.lookup_set] at hstatus
    split at hstatus
    next hactor => exact hs.regular.announces_terminal hstatus (hactor ▸ hwho)
    next => exact hs.quiet who status hstatus hwho
  due hwaiting hterm := by
    simp only [Table.lookup_set]
    rcases hs.regular.terminal h hterm with hbefore | ⟨status, hstatus, hterminal⟩
    · rcases hs.due hwaiting hbefore with hchannel | ⟨who, status, hstatus, hterminal⟩
      · exact .inl hchannel
      · refine .inr ⟨who, status, ?_, hterminal⟩
        have hne : who ≠ e.actor := by
          rintro rfl
          rw [hdue] at hstatus
          cases hstatus
        rwa [if_neg hne]
    · exact .inr ⟨e.actor, status, by rwa [if_pos rfl], hterminal⟩

theorem StreamState.countP_notifyStatusChange (status : BuildStatus) :
    (s.notifyStatusChange status).countP (!·.Terminal) ≤
      s.channel.countP (!·.Terminal) + early (some status) := by
  unfold StreamState.notifyStatusChange
  split
  · cases hterminal : status.Terminal <;> simp [early, hterminal]
  · omega

theorem StreamState.mem_notifyStatusChange {old : BuildStatus} (h : old ∈ s.channel)
    (status : BuildStatus) : old ∈ s.notifyStatusChange status := by
  unfold StreamState.notifyStatusChange
  split
  · exact List.mem_append_left _ h
  · exact h

theorem StreamState.Sound.notify (hs : s.Sound) {status : BuildStatus}
    (hstatus : s.due.lookup who = some status) : StreamState.Sound
      { s with due := s.due.erase who, channel := s.notifyStatusChange status } where
  regular := hs.regular
  once := by
    have honce := hs.once
    have hcount := s.countP_notifyStatusChange status
    simp only [Table.lookup_erase]
    split
    next hnone =>
      rw [← hnone] at hstatus
      rw [hstatus] at honce
      have hzero : early none = 0 := rfl
      omega
    next hne =>
      have hterminal := hs.quiet who status hstatus (Ne.symm hne)
      have hzero : early (some status) = 0 := by simp [early, hterminal]
      omega
  quiet who' status' hstatus' hwho' :=
    hs.quiet who' status' (Table.lookup_of_erase hstatus').2 hwho'
  due hwaiting hterm := by
    have hkept : (∃ status ∈ s.channel, status.Terminal = true) →
        ∃ status' ∈ s.notifyStatusChange status, status'.Terminal = true := by
      rintro ⟨old, hold, hterminal⟩
      exact ⟨old, s.mem_notifyStatusChange hold status, hterminal⟩
    rcases hs.due hwaiting hterm with hchannel | ⟨who', status', hstatus', hterminal⟩
    · exact .inl (hkept hchannel)
    · by_cases hwho : who' = who
      · subst hwho
        cases hstatus.symm.trans hstatus'
        refine .inl ?_
        by_cases hroom : s.channel.length < 10
        · have hsent : s.notifyStatusChange status = s.channel ++ [status] :=
            if_pos ⟨hwaiting, hroom⟩
          exact ⟨status, by simp [hsent], hterminal⟩
        · exact hkept (hs.room hroom)
      · refine .inr ⟨who', status', ?_, hterminal⟩
        rwa [Table.lookup_erase, if_neg hwho]

/-- The stream goes on to another phase. -/
theorem StreamState.Sound.goto (hs : s.Sound) {phase : StreamPhase}
    (hdue : phase.Waiting = true → s.phase.Waiting = true ∨
      (s.build.stored.status.Terminal = true → s.terminalDue = true)) :
    StreamState.Sound { s with phase := phase } where
  regular := hs.regular
  once := hs.once
  quiet := hs.quiet
  due hwaiting hterm := by
    rcases hdue hwaiting with hbefore | htimely
    · exact hs.due hbefore hterm
    · exact .inr (StreamState.terminalDue_iff.mp (htimely hterm))

theorem StreamState.Sound.receive (hs : s.Sound) {status : BuildStatus} {rest : List BuildStatus}
    (hwaiting : s.phase.Waiting = true) (hchannel : s.channel = status :: rest) :
    StreamState.Sound
      { s with phase := if status.Terminal then .done else s.phase, channel := rest } where
  regular := hs.regular
  once := by
    have honce := hs.once
    rw [hchannel, List.countP_cons] at honce
    exact Nat.le_trans (Nat.add_le_add_left (Nat.le_add_right _ _) _) honce
  quiet := hs.quiet
  due hstill hterm := by
    have hnot : status.Terminal = false := by
      by_contra hterminal
      rw [Bool.not_eq_false] at hterminal
      simp [hterminal, StreamPhase.Waiting] at hstill
    rcases hs.due hwaiting hterm with ⟨other, hother, hterminal⟩ | hdue
    · rw [hchannel] at hother
      rcases List.mem_cons.mp hother with rfl | hother
      · simp [hnot] at hterminal
      · exact .inl ⟨other, hother, hterminal⟩
    · exact .inr hdue

theorem StreamState.Sound.step {e : StreamEvent} (hs : s.Sound) (hok : InTime s e)
    (h : s.step e = some s') : s'.Sound := by
  cases e with simp only [StreamState.step] at h
  | build e =>
    obtain ⟨hdue, h⟩ := Option.ite_none_right_eq_some.mp h
    obtain ⟨b', hstep, ⟨⟩⟩ := Option.map_eq_some_iff.mp h
    exact hs.build hdue hstep
  | notify who =>
    obtain ⟨status, hstatus, ⟨⟩⟩ := Option.map_eq_some_iff.mp h
    exact hs.notify hstatus
  | openStream =>
    obtain ⟨-, ⟨⟩⟩ := Option.ite_none_right_eq_some.mp h
    exact hs.goto nofun
  | subscribe logExists =>
    split at h
    next isComplete hphase =>
      cases h
      refine hs.goto fun hwaiting => .inr fun hterm => hok ?_ hterm
      cases isComplete with
      | false => exact hphase
      | true => cases logExists <;> cases hwaiting
    · cases h
  | logAppears =>
    obtain ⟨hphase, ⟨⟩⟩ := Option.ite_none_right_eq_some.mp h
    exact hs.goto fun _ => .inl (by rw [hphase]; rfl)
  | receive =>
    split at h
    next status rest hwaiting hchannel =>
      cases h
      exact hs.receive hwaiting hchannel
    · cases h
  | ends =>
    obtain ⟨-, ⟨⟩⟩ := Option.ite_none_left_eq_some.mp h
    exact hs.goto nofun

/-- **A follower is not stranded** in any run in which it subscribes while the build is not over or
its end not announced: once everything is announced, a stream that still waits has a terminal status
in its channel. -/
theorem follower_not_stranded (m : BuildMetadata) {s : StreamState}
    (hs : (streamSystem m).Reachable InTime s) : ¬ s.Stranded := by
  have hinit : (streamSystem m).init.Sound :=
    ⟨fun _ _ h => (by cases h), le_rfl, fun _ _ h => (by cases h), nofun⟩
  have hsound : s.Sound := hs.invariant hinit fun _ _ _ hs hok h => hs.step hok h
  rintro ⟨hterm, hkeys, hwaiting, hchannel⟩
  rcases hsound.due hwaiting hterm with ⟨status, hmem, hterminal⟩ | hdue
  · have hnot := List.all_eq_true.mp hchannel status hmem
    simp [hterminal] at hnot
  · have hany := StreamState.terminalDue_iff.mpr hdue
    simp [StreamState.terminalDue, hkeys] at hany

/-! ## A stream that subscribes too late -/

/-- A build that becomes ready, with all its notifications. -/
def announcedRun : List StreamEvent :=
  (readyRun.take 3).map .build ++ [.notify none] ++ (readyRun.drop 3).map .build ++ [.notify none]

/-- The stream reads that the build is queued, and subscribes when it is over. -/
theorem subscribed_too_late :
    ∃ s, (streamSystem newBuild).Reachable System.Always s ∧ s.Stranded :=
  (streamSystem newBuild).exists_reachable_of_replay System.Always StreamState.Stranded
    (.openStream :: announcedRun ++ [.subscribe true]) (by decide +kernel)

/-- A stream that subscribes first has both statuses in its channel. -/
theorem follower_not_stranded_subscribed :
    ∃ s, (streamSystem newBuild).Reachable InTime s ∧ s.channel = [.building, .ready] ∧
      ¬ s.Stranded := by
  obtain ⟨s, hs, hchannel⟩ := (streamSystem newBuild).exists_reachable_of_replay InTime
    (fun s => s.channel = [.building, .ready]) (.openStream :: .subscribe false :: announcedRun)
    (by decide +kernel)
  exact ⟨s, hs, hchannel, follower_not_stranded newBuild hs⟩

end Hypeman.Builds
