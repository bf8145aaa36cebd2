import Hypeman.AutoStandby.Sections
import Hypeman.AutoStandby.IdleTime

/-!
# Writes of the runtime record

A section stages a write under the lock of the controller, and the write is made later by
`persistRuntime` under a lock of the state (`runtimeMu`), if its revision is still the current one.
Between the test of the revision and the write other sections may run, so a write may be overtaken
by a later staging, though never by a later write.

* `Section.stages`: a section stages at most one write, with the next revision.
* `runtime_writes_ordered`: in every interleaving the writes reach `SetRuntime` with increasing
  revisions, and when all calls have returned the last one written is the last one staged.
-/

namespace Hypeman.AutoStandby

open Foundations

variable {A : Type} [DecidableEq A] {lib : NetLib A} {reconcileDelay now : Int}
variable {st b st' : ControllerState A}

/-! ## What a section stages -/

/-- Nothing is staged and the revision is kept, or one write is staged with the next revision. -/
inductive Stages (st st' : ControllerState A) : Option RuntimePersistence → Prop
  | nothing : st'.runtimeRevision = st.runtimeRevision → Stages st st' none
  | write (w : RuntimePersistence) : w.revision = st.runtimeRevision + 1 →
      st'.runtimeRevision = st.runtimeRevision + 1 → Stages st st' (some w)

section Revisions

omit [DecidableEq A]

@[simp] theorem runtimeRevision_armTimer (st : ControllerState A) (now : Int) :
    (st.armTimer now).runtimeRevision = st.runtimeRevision := by
  obtain ⟨next, timer, heq⟩ := armTimer_frame st now
  rw [heq]

theorem stages_refreshIdle (st : ControllerState A) (record : Option Runtime) (now : Int) :
    Stages st (st.refreshIdle record now).1 (st.refreshIdle record now).2 := by
  unfold ControllerState.refreshIdle
  split
  · split
    · exact .write _ rfl (runtimeRevision_armTimer _ now)
    · exact .nothing (runtimeRevision_armTimer _ now)
  · exact .write _ rfl (runtimeRevision_armTimer _ now)

end Revisions

@[simp] theorem runtimeRevision_armReconcile (st : ControllerState A) :
    (st.armReconcile reconcileDelay).runtimeRevision = st.runtimeRevision := by
  obtain ⟨timer, heq⟩ := armReconcile_frame st reconcileDelay
  rw [heq]

omit [DecidableEq A] in
theorem Stages.trans {staged : Option RuntimePersistence} (h : Stages b st' staged)
    (heq : b.runtimeRevision = st.runtimeRevision) : Stages st st' staged := by
  cases h with
  | nothing hrevision => exact .nothing (hrevision.trans heq)
  | write w hw hrevision => exact .write w (heq ▸ hw) (heq ▸ hrevision)

omit [DecidableEq A] in
/-- A write is staged after the other changes of the section. -/
theorem stages_stage (h : b.runtimeRevision = st.runtimeRevision) (runtime : Option Runtime)
    (bestEffort : Bool) (operation : String) :
    Stages st (b.stage runtime bestEffort operation).1 (b.stage runtime bestEffort operation).2 :=
  .write _ (congrArg (· + 1) h) (congrArg (· + 1) h)

namespace ControllerState

theorem stages_refresh (st : ControllerState A) (inst : Instance) (conns : List (Connection A))
    (now : Int) : Stages st (st.refresh lib reconcileDelay inst conns now).1
      ((st.refresh lib reconcileDelay inst conns now).2.toOption.join) := by
  unfold refresh
  split
  · exact .nothing rfl
  split
  · split
    · exact .write _ rfl rfl
    · exact .nothing rfl
  split
  · exact .nothing rfl
  · exact .nothing rfl
  next compiled _ =>
  split
  · exact .nothing rfl
  next activeSet _ =>
  dsimp only
  split
  · exact Stages.trans (stages_refreshIdle { st.withPolicy inst compiled with
      standbyRequested := false, activeInbound := activeSet } inst.runtime now) rfl
  · refine stages_stage ?_ _ _ _
    exact runtimeRevision_armReconcile _

theorem stages_connectionClosed (st : ControllerState A) (key : ConnectionKey A) (time : Int) :
    Stages st (st.connectionClosed reconcileDelay key time).1
      (st.connectionClosed reconcileDelay key time).2 := by
  unfold connectionClosed
  split
  · exact .nothing rfl
  dsimp only
  split
  · exact .nothing (runtimeRevision_armReconcile _)
  · refine stages_stage ?_ _ _ _
    exact runtimeRevision_armTimer _ time

theorem stages_handleConnectionEvent (st : ControllerState A) (event : ConnectionEvent A)
    (time : Int) : Stages st (st.handleConnectionEvent lib reconcileDelay event time).1
      (st.handleConnectionEvent lib reconcileDelay event time).2 := by
  unfold handleConnectionEvent
  split
  · exact .nothing rfl
  dsimp only
  split
  · split
    · exact .nothing rfl
    split
    · exact st.stages_connectionClosed _ _
    · refine stages_stage ?_ _ _ _
      exact runtimeRevision_armReconcile _
  · exact st.stages_connectionClosed _ _

theorem stages_handleActiveReconcile (st : ControllerState A)
    (listing : Except String (List (Connection A))) (time : Int) :
    Stages st (st.handleActiveReconcile lib reconcileDelay listing time).1
      (st.handleActiveReconcile lib reconcileDelay listing time).2 := by
  have hagain : (if st.activeInbound ≠ ∅ then st.armReconcile reconcileDelay else
      st).runtimeRevision = st.runtimeRevision := by
    split
    · exact runtimeRevision_armReconcile st
    · rfl
  unfold handleActiveReconcile
  dsimp only
  split
  · exact .nothing hagain
  split
  · exact .nothing rfl
  split
  · exact .nothing hagain
  split
  · exact .nothing (runtimeRevision_armReconcile _)
  · refine stages_stage ?_ _ _ _
    exact runtimeRevision_armTimer _ time

theorem stages_confirmIdle (st : ControllerState A)
    (listing : Except String (List (Connection A))) (now : Int) :
    Stages st (st.confirmIdle lib reconcileDelay listing now).1
      (st.confirmIdle lib reconcileDelay listing now).2.1 := by
  unfold confirmIdle
  split
  · exact .nothing rfl
  split
  · exact .nothing rfl
  split
  · have htimer := congrArg (· + 1)
      (runtimeRevision_armTimer { st with idleSince := some now } now)
    exact .write _ htimer htimer
  next activeSet _ =>
  split
  · exact .nothing rfl
  · have hreconcile : (armReconcile reconcileDelay { st with
        activeInbound := activeSet, idleSince := none
        lastInboundAt := some now }.cancelTimer).runtimeRevision + 1 = st.runtimeRevision + 1 :=
      congrArg (· + 1) (runtimeRevision_armReconcile _)
    exact .write _ hreconcile hreconcile

theorem runtimeRevision_timerFired (st : ControllerState A) (now : Int) :
    (st.timerFired now).1.runtimeRevision = st.runtimeRevision := by
  unfold timerFired standbyDeadlineElapsed
  split
  · rfl
  split
  · rfl
  · exact runtimeRevision_armTimer st now

theorem runtimeRevision_requestStandby (st : ControllerState A) (now : Int) :
    (st.requestStandby now).1.runtimeRevision = st.runtimeRevision := by
  have hfired := st.runtimeRevision_timerFired now
  unfold requestStandby
  split
  next heq =>
    rw [heq] at hfired
    exact hfired
  next heq =>
    rw [heq] at hfired
    exact hfired

theorem runtimeRevision_claimStandby (st : ControllerState A) :
    st.claimStandby.1.runtimeRevision = st.runtimeRevision := by
  unfold claimStandby
  split
  · split <;> rfl
  · rfl

end ControllerState

omit [DecidableEq A] in
theorem runtimeRevision_HoldStandby (st : ControllerState A) (inst : Instance) (time : Int) :
    ∀ st' ∈ (HoldStandby lib (some st) inst time).1, st'.runtimeRevision = st.runtimeRevision := by
  intro st' hst'
  rcases HoldStandby_cases lib (some st) inst time with ⟨-, heq | heq⟩ | ⟨-, -, -, heq⟩
  · rw [heq] at hst'
    cases hst'
    rfl
  · rw [heq] at hst'
    cases hst'
    rfl
  · rw [heq] at hst'
    cases hst'
    obtain ⟨next, timer, hhold⟩ := hold_frame st (holdDuration lib (some st) inst) time
    rw [Option.getD_some, hhold]

/-- **What a section stages**, on a state that it does not remove. -/
theorem Section.stages (st : ControllerState A) (s : Section A) :
    ∀ st' ∈ (s.run lib reconcileDelay now (some st)).1,
      Stages st st' (s.run lib reconcileDelay now (some st)).2 := by
  intro st' hst'
  cases s with
  | refresh inst conns time =>
    have hstages : Stages st (st.refresh lib reconcileDelay inst conns time).1 _ :=
      st.stages_refresh inst conns time
    simp only [run, Option.getD_some] at hst' ⊢
    split at hst'
    next st₁ staged heq =>
      cases hst'
      rw [heq] at hstages
      exact hstages
    next st₁ err heq =>
      cases hst'
      rw [heq] at hstages
      exact hstages
  | removed => cases hst'
  | connection event time =>
    cases hst'
    exact st.stages_handleConnectionEvent event time
  | reconcile listing time =>
    cases hst'
    exact st.stages_handleActiveReconcile listing time
  | timer =>
    cases hst'
    exact .nothing (st.runtimeRevision_timerFired now)
  | confirm listing =>
    cases hst'
    exact st.stages_confirmIdle listing now
  | request =>
    cases hst'
    exact .nothing (st.runtimeRevision_requestStandby now)
  | claim =>
    cases hst'
    exact .nothing st.runtimeRevision_claimStandby
  | returned result =>
    cases result with
    | notFound => cases hst'
    | ok =>
      cases hst'
      exact .write _ rfl rfl
    | error =>
      simp only [run, ControllerState.standbyReturned] at hst' ⊢
      split at hst'
      next hactive =>
        cases hst'
        rw [if_pos hactive]
        exact .nothing rfl
      next hempty =>
        cases hst'
        rw [if_neg hempty]
        refine stages_stage ?_ _ _ _
        exact runtimeRevision_armTimer _ now
  | release =>
    cases hst'
    exact .nothing rfl
  | hold inst time => exact .nothing (runtimeRevision_HoldStandby st inst time st' hst')
  | stopTimers =>
    cases hst'
    exact .nothing rfl

/-! ## Calls of persistRuntime -/

/-- Where a call of `persistRuntime` is. -/
inductive CallPhase
  /-- Before `runtimeMu` is locked. -/
  | started
  /-- With `runtimeMu`, before the test of the revision. -/
  | locked
  /-- The revision was current; `SetRuntime` has not been called. -/
  | writing
  /-- With `runtimeMu`, about to return. -/
  | unlocking
  | returned
deriving DecidableEq, Repr

namespace CallPhase

/-- The call has `runtimeMu`. -/
def holdsMutex : CallPhase → Bool
  | .locked | .writing | .unlocking => true
  | .started | .returned => false

/-- The call may still come to write. -/
def unfinished : CallPhase → Bool
  | .started | .locked | .writing => true
  | .unlocking | .returned => false

end CallPhase

structure PersistCall where
  write : RuntimePersistence
  phase : CallPhase
deriving DecidableEq, Repr

/-- The state of a tracked instance with the writes that were staged (the newest first), the calls
that were started for them (the oldest first), and the writes that `SetRuntime` made (the newest
first). -/
structure RuntimeWrites (A : Type) where
  state : ControllerState A
  staged : List RuntimePersistence
  calls : List PersistCall
  written : List RuntimePersistence

/-- The steps: a section of the controller, and the steps of a call of `persistRuntime`. -/
inductive PersistEvent (A : Type)
  | run (s : Section A) (now : Int)
  | lock (call : Nat)
  | check (call : Nat)
  | setRuntime (call : Nat)
  | unlock (call : Nat)

variable (lib reconcileDelay)

namespace RuntimeWrites

variable (c : RuntimeWrites A)

def move (k : Nat) (call : PersistCall) (phase : CallPhase) : RuntimeWrites A :=
  { c with calls := c.calls.set k { call with phase := phase } }

/-- A step of a call that is in the given phase. -/
def whenIn (k : Nat) (phase : CallPhase) (next : PersistCall → Option (RuntimeWrites A)) :
    Option (RuntimeWrites A) :=
  match c.calls[k]? with
  | some call => if call.phase = phase then next call else none
  | none => none

/-- One step; the state is neither removed nor replaced, and `SetRuntime` does not fail. -/
def step (c : RuntimeWrites A) : PersistEvent A → Option (RuntimeWrites A)
  | .run s now =>
    match s.run lib reconcileDelay now (some c.state) with
    | (none, _) => none
    | (some st, none) => some { c with state := st }
    | (some st, some w) => some { c with
        state := st, staged := w :: c.staged, calls := c.calls ++ [⟨w, .started⟩] }
  | .lock k => c.whenIn k .started fun call =>
    if c.calls.any (·.phase.holdsMutex) then none else some (c.move k call .locked)
  | .check k => c.whenIn k .locked fun call =>
    some (c.move k call
      (if c.state.runtimeRevision = call.write.revision then .writing else .unlocking))
  | .setRuntime k => c.whenIn k .writing fun call =>
    some { c.move k call .unlocking with written := call.write :: c.written }
  | .unlock k => c.whenIn k .unlocking fun call => some (c.move k call .returned)

variable {c} {k : Nat}

omit [DecidableEq A] in
theorem whenIn_eq_some {c' : RuntimeWrites A} {phase : CallPhase}
    {next : PersistCall → Option (RuntimeWrites A)} (h : c.whenIn k phase next = some c') :
    ∃ call, c.calls[k]? = some call ∧ call.phase = phase ∧ next call = some c' := by
  unfold whenIn at h
  split at h
  next call hcall =>
    split at h
    next hphase => exact ⟨call, hcall, hphase, h⟩
    next => cases h
  next => cases h

omit [DecidableEq A] in
/-- A call after one of them has moved. -/
theorem getElem?_move {i : Nat} {call a : PersistCall} {phase : CallPhase}
    (h : (c.move k call phase).calls[i]? = some a) :
    i = k ∧ a = { call with phase := phase } ∨ i ≠ k ∧ c.calls[i]? = some a := by
  simp only [move, List.getElem?_set] at h
  split at h
  next hik =>
    split at h
    · cases h
      exact .inl ⟨hik.symm, rfl⟩
    · cases h
  next hik => exact .inr ⟨fun heq => hik heq.symm, h⟩

omit [DecidableEq A] in
theorem getElem?_move_self {call : PersistCall} (phase : CallPhase)
    (h : c.calls[k]? = some call) :
    (c.move k call phase).calls[k]? = some { call with phase := phase } := by
  obtain ⟨hlt, -⟩ := List.getElem?_eq_some_iff.mp h
  simp [move, hlt]

omit [DecidableEq A] in
theorem getElem?_move_ne {i : Nat} {call : PersistCall} (phase : CallPhase) (h : i ≠ k) :
    (c.move k call phase).calls[i]? = c.calls[i]? := by
  simp [move, h.symm]

end RuntimeWrites

open RuntimeWrites (getElem?_move getElem?_move_self getElem?_move_ne whenIn_eq_some)

/-- The runs from a state for which no write is outstanding. -/
def persistSystem (start : ControllerState A) : System (RuntimeWrites A) (PersistEvent A) where
  init := ⟨start, [], [], []⟩
  step := RuntimeWrites.step lib reconcileDelay

/-! ## The order of the writes -/

/-- Revisions increase from call to call, up to the current one, and one call at a time has the
lock. -/
structure CallsOrdered (c : RuntimeWrites A) : Prop where
  started : c.staged = [] → c.calls = []
  increasing : ∀ (i j : Nat) (a b : PersistCall), c.calls[i]? = some a → c.calls[j]? = some b →
    i < j → a.write.revision < b.write.revision
  current : ∀ (i : Nat) (a : PersistCall), c.calls[i]? = some a →
    a.write.revision ≤ c.state.runtimeRevision
  mutex : ∀ (i j : Nat) (a b : PersistCall), c.calls[i]? = some a → c.calls[j]? = some b →
    a.phase.holdsMutex = true → b.phase.holdsMutex = true → i = j

/-- The invariant of the writes: what was written increases and is behind a call that is about to
write, and the last write staged is the last one made, or still to be made. -/
structure Ordered (c : RuntimeWrites A) : Prop extends CallsOrdered c where
  sorted : c.written.Pairwise fun later earlier => earlier.revision < later.revision
  finished : ∀ v ∈ c.written, ∃ (i : Nat) (a : PersistCall), c.calls[i]? = some a ∧ a.write = v ∧
    a.phase.unfinished = false
  writing : ∀ (i : Nat) (a : PersistCall), c.calls[i]? = some a → a.phase = .writing →
    ∀ v ∈ c.written, v.revision < a.write.revision
  latest : ∀ w ∈ c.staged.head?, w.revision = c.state.runtimeRevision ∧
    ((∃ (i : Nat) (a : PersistCall), c.calls[i]? = some a ∧ a.write = w ∧
      a.phase.unfinished = true) ∨ c.written.head? = some w)

variable {lib reconcileDelay} {c c' : RuntimeWrites A} {e : PersistEvent A} {k : Nat}

section Steps

omit [DecidableEq A]

/-- A revision belongs to one call. -/
theorem CallsOrdered.injective (h : CallsOrdered c) {i j : Nat} {a b : PersistCall}
    (ha : c.calls[i]? = some a) (hb : c.calls[j]? = some b)
    (heq : a.write.revision = b.write.revision) : i = j := by
  rcases lt_trichotomy i j with hlt | heq | hlt
  · exact absurd heq (h.increasing i j a b ha hb hlt).ne
  · exact heq
  · exact absurd heq.symm (h.increasing j i b a hb ha hlt).ne

/-- A section that stages nothing. -/
theorem Ordered.unstaged (h : Ordered c)
    (hrevision : st.runtimeRevision = c.state.runtimeRevision) :
    Ordered { c with state := st } :=
  ⟨⟨h.started, h.increasing, fun i a ha => (h.current i a ha).trans hrevision.ge, h.mutex⟩,
    h.sorted,
    h.finished, h.writing, fun w hw => ⟨(h.latest w hw).1.trans hrevision.symm, (h.latest w hw).2⟩⟩

/-- The calls after a new one has been started. -/
theorem getElem?_start {calls : List PersistCall} {call a : PersistCall} {i : Nat}
    (h : (calls ++ [call])[i]? = some a) :
    calls[i]? = some a ∨ i = calls.length ∧ a = call := by
  rcases lt_or_ge i calls.length with hlt | hge
  · rw [List.getElem?_append_left hlt] at h
    exact .inl h
  · rw [List.getElem?_append_right hge] at h
    obtain ⟨hzero, heq⟩ := List.getElem?_eq_some_iff.mp h
    have hzero : i - calls.length = 0 := Nat.lt_one_iff.mp hzero
    simp only [hzero, List.getElem_cons_zero] at heq
    exact .inr ⟨by omega, heq.symm⟩

/-- A section that stages a write, and the call for it. -/
theorem Ordered.stage (h : Ordered c) {w : RuntimePersistence}
    (hw : w.revision = c.state.runtimeRevision + 1)
    (hrevision : st.runtimeRevision = c.state.runtimeRevision + 1) :
    Ordered { c with
      state := st, staged := w :: c.staged, calls := c.calls ++ [⟨w, .started⟩] } := by
  have hkept : ∀ {i : Nat} {a : PersistCall}, c.calls[i]? = some a →
      (c.calls ++ [⟨w, .started⟩])[i]? = some a := by
    intro i a ha
    rw [List.getElem?_append_left (List.getElem?_eq_some_iff.mp ha).1]
    exact ha
  refine ⟨⟨fun hnil => (nomatch hnil), ?_, ?_, ?_⟩, h.sorted, ?_, ?_, ?_⟩
  · intro i j a b ha hb hij
    rcases getElem?_start ha with ha | ⟨rfl, -⟩
    · rcases getElem?_start hb with hb | ⟨-, rfl⟩
      · exact h.increasing i j a b ha hb hij
      · have hcurrent := h.current i a ha
        dsimp only
        omega
    · have hlt := (List.getElem?_eq_some_iff.mp hb).1
      simp only [List.length_append, List.length_singleton] at hlt
      omega
  · intro i a ha
    dsimp only
    rcases getElem?_start ha with ha | ⟨-, rfl⟩
    · have hcurrent := h.current i a ha
      omega
    · dsimp only
      omega
  · intro i j a b ha hb hma hmb
    rcases getElem?_start ha with ha | ⟨-, rfl⟩
    · rcases getElem?_start hb with hb | ⟨-, rfl⟩
      · exact h.mutex i j a b ha hb hma hmb
      · cases hmb
    · cases hma
  · intro v hv
    obtain ⟨i, a, ha, hrest⟩ := h.finished v hv
    exact ⟨i, a, hkept ha, hrest⟩
  · intro i a ha hphase v hv
    rcases getElem?_start ha with ha | ⟨-, rfl⟩
    · exact h.writing i a ha hphase v hv
    · cases hphase
  · rintro _ ⟨⟩
    exact ⟨hw.trans hrevision.symm,
      .inl ⟨c.calls.length, ⟨w, .started⟩, List.getElem?_concat_length, rfl, rfl⟩⟩

variable {call : PersistCall} {phase : CallPhase}

theorem CallsOrdered.move (h : CallsOrdered c) (hcall : c.calls[k]? = some call)
    (phase : CallPhase) (hmutex : phase.holdsMutex = true →
      ∀ (i : Nat) (a : PersistCall), c.calls[i]? = some a →
      a.phase.holdsMutex = true → i = k) : CallsOrdered (c.move k call phase) := by
  refine ⟨fun hnil => ?_, ?_, ?_, ?_⟩
  · rw [h.started hnil] at hcall
    cases hcall
  · intro i j a b ha hb hij
    rcases getElem?_move ha with ⟨rfl, rfl⟩ | ⟨-, ha'⟩
    · rcases getElem?_move hb with ⟨rfl, rfl⟩ | ⟨-, hb'⟩
      · exact absurd hij (lt_irrefl _)
      · exact h.increasing _ _ call b hcall hb' hij
    · rcases getElem?_move hb with ⟨rfl, rfl⟩ | ⟨-, hb'⟩
      · exact h.increasing _ _ a call ha' hcall hij
      · exact h.increasing _ _ a b ha' hb' hij
  · intro i a ha
    rcases getElem?_move ha with ⟨rfl, rfl⟩ | ⟨-, ha'⟩
    · exact h.current _ call hcall
    · exact h.current i a ha'
  · intro i j a b ha hb hma hmb
    rcases getElem?_move ha with ⟨rfl, rfl⟩ | ⟨-, ha'⟩
    · rcases getElem?_move hb with ⟨rfl, rfl⟩ | ⟨-, hb'⟩
      · rfl
      · exact (hmutex hma j b hb' hmb).symm
    · rcases getElem?_move hb with ⟨rfl, rfl⟩ | ⟨-, hb'⟩
      · exact hmutex hmb i a ha' hma
      · exact h.mutex i j a b ha' hb' hma hmb

/-- A call is found again after another or the same one has moved. -/
theorem exists_move (phase : CallPhase) (hcall : c.calls[k]? = some call) {i : Nat}
    {a : PersistCall}
    (ha : c.calls[i]? = some a) (test : CallPhase → Bool)
    (hkeep : i = k → test a.phase = true → test phase = true) (htest : test a.phase = true) :
    ∃ (i : Nat) (a' : PersistCall), (c.move k call phase).calls[i]? = some a' ∧
      a'.write = a.write ∧ test a'.phase = true := by
  by_cases hik : i = k
  · subst hik
    obtain rfl := Option.some.inj (hcall.symm.trans ha)
    exact ⟨i, _, getElem?_move_self phase hcall, rfl, hkeep rfl htest⟩
  · exact ⟨i, a, (getElem?_move_ne phase hik).trans ha, rfl, htest⟩

/-- A call moves without writing. -/
theorem Ordered.move (h : Ordered c) (hcall : c.calls[k]? = some call)
    (hmutex : phase.holdsMutex = true → ∀ (i : Nat) (a : PersistCall), c.calls[i]? = some a →
      a.phase.holdsMutex = true → i = k)
    (hfinished : call.phase.unfinished = false → phase.unfinished = false)
    (hwriting : phase = .writing → ∀ v ∈ c.written, v.revision < call.write.revision)
    (hlatest : call.phase.unfinished = true → call.write.revision = c.state.runtimeRevision →
      phase.unfinished = true) :
    Ordered (c.move k call phase) := by
  refine ⟨h.toCallsOrdered.move hcall phase hmutex, h.sorted, ?_, ?_, ?_⟩
  · intro v hv
    obtain ⟨i, a, ha, rfl, hdone⟩ := h.finished v hv
    have hkeep : i = k → (!a.phase.unfinished) = true → (!phase.unfinished) = true := by
      rintro rfl hopen
      obtain rfl := Option.some.inj (hcall.symm.trans ha)
      rw [hfinished (Bool.not_eq_true' _ ▸ hopen)]
      rfl
    obtain ⟨i', a', ha', hwrite, hdone'⟩ :=
      exists_move phase hcall ha (!·.unfinished) hkeep (by rw [hdone]; rfl)
    exact ⟨i', a', ha', hwrite, Bool.not_eq_true' _ ▸ hdone'⟩
  · intro i a ha hphase v hv
    rcases getElem?_move ha with ⟨rfl, rfl⟩ | ⟨-, ha'⟩
    · exact hwriting hphase v hv
    · exact h.writing i a ha' hphase v hv
  · intro w hw
    obtain ⟨hrevision, hlast⟩ := h.latest w hw
    refine ⟨hrevision, hlast.imp_left ?_⟩
    rintro ⟨i, a, ha, rfl, hopen⟩
    refine exists_move phase hcall ha (·.unfinished) (fun hik hopen => ?_) hopen
    subst hik
    obtain rfl := Option.some.inj (hcall.symm.trans ha)
    exact hlatest hopen hrevision

/-- A call writes. -/
theorem Ordered.write (h : Ordered c) (hcall : c.calls[k]? = some call)
    (hphase : call.phase = .writing) :
    Ordered { c.move k call .unlocking with written := call.write :: c.written } := by
  have hbehind := h.writing k call hcall hphase
  have halone : ∀ (i : Nat) (a : PersistCall), c.calls[i]? = some a →
      a.phase.holdsMutex = true → i = k :=
    fun i a ha hmutex => h.mutex i k a call ha hcall hmutex (by rw [hphase]; rfl)
  obtain ⟨hstarted, hincreasing, hcurrent, hmutex⟩ :=
    h.toCallsOrdered.move hcall .unlocking fun _ => halone
  refine ⟨⟨hstarted, hincreasing, hcurrent, hmutex⟩, ?_, ?_, ?_, ?_⟩
  · exact List.pairwise_cons.mpr ⟨hbehind, h.sorted⟩
  · intro v hv
    rcases List.mem_cons.mp hv with rfl | hv
    · exact ⟨k, _, getElem?_move_self .unlocking hcall, rfl, rfl⟩
    · obtain ⟨i, a, ha, rfl, hdone⟩ := h.finished v hv
      have hik : i ≠ k := by
        rintro rfl
        obtain rfl := Option.some.inj (hcall.symm.trans ha)
        rw [hphase] at hdone
        cases hdone
      exact ⟨i, a, (getElem?_move_ne .unlocking hik).trans ha, rfl, hdone⟩
  · -- no other call has the lock, so none is about to write
    intro i a ha hwriting
    rcases getElem?_move ha with ⟨-, rfl⟩ | ⟨hik, ha'⟩
    · cases hwriting
    · exact absurd (halone i a ha' (by rw [hwriting]; rfl)) hik
  · intro w hw
    obtain ⟨hrevision, hlast⟩ := h.latest w hw
    refine ⟨hrevision, ?_⟩
    rcases hlast with ⟨i, a, ha, rfl, hopen⟩ | hlast
    · by_cases hik : i = k
      · subst hik
        obtain rfl := Option.some.inj (hcall.symm.trans ha)
        exact .inr rfl
      · exact .inl ⟨i, a, (getElem?_move_ne .unlocking hik).trans ha, rfl, hopen⟩
    · -- the last one staged would be behind this write
      have hlt := hbehind w (List.mem_of_mem_head? hlast)
      have hle := h.current k call hcall
      omega

end Steps

theorem Ordered.step (h : Ordered c) (hs : c.step lib reconcileDelay e = some c') : Ordered c' := by
  cases e with
  | run s now =>
    have hstages : ∀ st' ∈ (s.run lib reconcileDelay now (some c.state)).1,
        Stages c.state st' (s.run lib reconcileDelay now (some c.state)).2 := s.stages c.state
    simp only [RuntimeWrites.step] at hs
    split at hs
    · cases hs
    next st heq =>
      cases hs
      rw [heq] at hstages
      cases hstages st rfl with
      | nothing hrevision => exact h.unstaged hrevision
    next st w heq =>
      cases hs
      rw [heq] at hstages
      cases hstages st rfl with
      | write _ hw hrevision => exact h.stage hw hrevision
  | lock k =>
    obtain ⟨call, hcall, hphase, hs⟩ := whenIn_eq_some hs
    split at hs
    · cases hs
    next hfree =>
      cases hs
      refine h.move hcall (fun _ i a ha hmutex => ?_) (fun hdone => ?_) (fun h => (nomatch h))
        (fun _ _ => rfl)
      · refine absurd (List.any_eq_true.mpr ⟨a, List.mem_of_getElem? ha, hmutex⟩) hfree
      · rw [hphase] at hdone
        cases hdone
  | check k =>
    obtain ⟨call, hcall, hphase, hs⟩ := whenIn_eq_some hs
    cases hs
    have halone : ∀ (i : Nat) (a : PersistCall), c.calls[i]? = some a →
        a.phase.holdsMutex = true → i = k :=
      fun i a ha hmutex => h.mutex i k a call ha hcall hmutex (by rw [hphase]; rfl)
    split
    next hcurrent =>
      refine h.move hcall (fun _ => halone) (fun hdone => ?_) (fun _ v hv => ?_) (fun _ _ => rfl)
      · rw [hphase] at hdone
        cases hdone
      · -- what was written belongs to other calls
        obtain ⟨i, a, ha, rfl, hdone⟩ := h.finished v hv
        refine lt_of_le_of_ne (hcurrent ▸ h.current i a ha) fun heq => ?_
        obtain rfl := h.injective ha hcall heq
        obtain rfl := Option.some.inj (hcall.symm.trans ha)
        rw [hphase] at hdone
        cases hdone
    next hold =>
      exact h.move hcall (fun _ => halone) (fun _ => rfl) (fun h => (nomatch h))
        (fun _ hcurrent => absurd hcurrent.symm hold)
  | setRuntime k =>
    obtain ⟨call, hcall, hphase, hs⟩ := whenIn_eq_some hs
    cases hs
    exact h.write hcall hphase
  | unlock k =>
    obtain ⟨call, hcall, hphase, hs⟩ := whenIn_eq_some hs
    cases hs
    refine h.move hcall (fun h => (nomatch h)) (fun _ => rfl) (fun h => (nomatch h))
      (fun hopen _ => ?_)
    rw [hphase] at hopen
    cases hopen

/-- **The writes are ordered.** In every interleaving of the sections of the controller with the
calls of `persistRuntime` for one tracked state, the writes that reach `SetRuntime` have strictly
increasing revisions, and once all calls have returned the last write made is the last one
staged. -/
theorem runtime_writes_ordered (lib : NetLib A) (reconcileDelay : Int) (start : ControllerState A)
    {c : RuntimeWrites A}
    (hc : (persistSystem lib reconcileDelay start).Reachable System.Always c) :
    (c.written.Pairwise fun later earlier => earlier.revision < later.revision) ∧
      ((∀ call ∈ c.calls, call.phase = .returned) → c.written.head? = c.staged.head?) := by
  have hordered : Ordered c := by
    refine hc.invariant (I := Ordered) ?_ fun c e c' h _ hs => h.step hs
    exact ⟨⟨fun _ => rfl, fun _ _ _ _ ha => (nomatch ha), fun _ _ ha => (nomatch ha),
      fun _ _ _ _ ha => (nomatch ha)⟩, .nil, fun _ hv => (nomatch hv), fun _ _ ha => (nomatch ha),
      fun _ hw => nomatch hw⟩
  refine ⟨hordered.sorted, fun hdone => ?_⟩
  cases hstaged : c.staged with
  | nil =>
    cases hwritten : c.written with
    | nil => rfl
    | cons v rest =>
      obtain ⟨i, a, ha, -⟩ := hordered.finished v (by rw [hwritten]; exact List.mem_cons_self)
      rw [hordered.started hstaged] at ha
      cases ha
  | cons w rest =>
    obtain ⟨-, ⟨i, a, ha, -, hopen⟩ | hlast⟩ := hordered.latest w (by rw [hstaged]; rfl)
    · rw [hdone a (List.mem_of_getElem? ha)] at hopen
      cases hopen
    · exact hlast

/-- Two writes are staged before the first call has the lock: only the second is made. -/
theorem runtime_writes_ordered_overtaken : ∃ c : RuntimeWrites Nat,
    (persistSystem smallNet 5 {}).Reachable System.Always c ∧
      (c.staged.map (·.revision) = [2, 1] ∧ c.written.map (·.revision) = [2]) ∧
      (c.written.Pairwise fun later earlier => earlier.revision < later.revision) ∧
      c.written.head? = c.staged.head? := by
  obtain ⟨c, hc, hwrites, hdone⟩ := System.exists_reachable_of_replay
    (persistSystem smallNet 5 {}) System.Always
    (fun c => (c.staged.map (·.revision) = [2, 1] ∧ c.written.map (·.revision) = [2]) ∧
      ∀ call ∈ c.calls, call.phase = .returned)
    [.run (.refresh (webRecord none) [] 0) 0,
      .run (.connection ⟨.new, client .established, some 1⟩ 1) 1, .lock 0, .check 0, .unlock 0,
      .lock 1, .check 1, .setRuntime 1, .unlock 1] (by decide)
  obtain ⟨hsorted, hlast⟩ := runtime_writes_ordered smallNet 5 {} hc
  exact ⟨c, hc, hwrites, hsorted, hlast hdone⟩

end Hypeman.AutoStandby
