import Hypeman.Foundations.System
import Hypeman.Foundations.Waiting

/-!
# The keyed queue

The bounded queue of keyed jobs (`lib/queue/queue.go`): at most `maxConcurrent` jobs run at once and
never two with one key; a job that cannot start waits, and a key waits at most once. Every call is
made under the queue's mutex, so that calls and completions interleave as the steps of a system.

* `enqueue`, `complete`, `GetPosition`: the queue, over any type of start functions.
* `Enqueued`, `Completed`: all that a call can do.
* `Queue.Valid`: the joint invariant of the active set and the pending list.
* `audited`: the queue under any calls, with a history of what became of each of them.
* `queue_orderly`: what holds in every run.
-/

namespace Hypeman.KeyedQueue

open Foundations

/-- `job`: a key and what to run for it. -/
structure Job (F : Type*) where
  key : String
  startFn : F
deriving DecidableEq, Repr

/-- `Queue`; the limit is positive. -/
structure Queue (F : Type*) where
  maxConcurrent : ℕ
  /-- The keys of the jobs that run. -/
  active : Finset String
  pending : List (Job F)
  limit_pos : 0 < maxConcurrent

/-- The limit `New` gives to the queue: at least 1. -/
def limit (maxConcurrent : ℤ) : ℕ := (if maxConcurrent < 1 then 1 else maxConcurrent).toNat

theorem limit_pos (maxConcurrent : ℤ) : 0 < limit maxConcurrent := by
  unfold limit
  split <;> omega

/-- What a call of `enqueue` did. -/
inductive Outcome (F : Type*)
  /-- The key is active, and no successor was asked for. -/
  | running
  /-- The key waits already, at this position; the job there was replaced or kept. -/
  | waiting (position : ℕ) (replaced : Option (Job F))
  /-- The job started at once. -/
  | launched
  /-- The job waits, at this position. -/
  | queued (position : ℕ)
deriving DecidableEq, Repr

section Calls

variable {F : Type*}

def New (maxConcurrent : ℤ) : Queue F where
  maxConcurrent := limit maxConcurrent
  active := ∅
  pending := []
  limit_pos := limit_pos maxConcurrent

def Queue.enqueue (q : Queue F) (key : String) (startFn : F) (allowActive replacePending : Bool) :
    Queue F × Outcome F :=
  if key ∈ q.active ∧ allowActive = false then (q, .running)
  else match q.pending.findIdx? (·.key == key) with
    | some i =>
      if replacePending then
        ({ q with pending := q.pending.set i ⟨key, startFn⟩ }, .waiting (i + 1) q.pending[i]?)
      else (q, .waiting (i + 1) none)
    | none =>
      if q.active.card < q.maxConcurrent ∧ key ∉ q.active then
        ({ q with active := insert key q.active }, .launched)
      else
        ({ q with pending := q.pending ++ [⟨key, startFn⟩] }, .queued (q.pending.length + 1))

def Queue.Enqueue (q : Queue F) (key : String) (startFn : F) : Queue F × Outcome F :=
  q.enqueue key startFn false false

def Queue.EnqueueSuccessor (q : Queue F) (key : String) (startFn : F) : Queue F × Outcome F :=
  q.enqueue key startFn true true

/-- `complete`, with the job it starts. -/
def Queue.complete (q : Queue F) (key : String) : Queue F × Option (Job F) :=
  let active := q.active.erase key
  if active.card < q.maxConcurrent then
    match q.pending.find? (fun job => decide (job.key ∉ active)) with
    | some job =>
      ({ q with active := insert job.key active
                pending := q.pending.eraseP (fun job => decide (job.key ∉ active)) }, some job)
    | none => ({ q with active }, none)
  else ({ q with active }, none)

def Queue.GetPosition (q : Queue F) (key : String) : Option ℕ :=
  (q.pending.findIdx? (·.key == key)).map (· + 1)

/-! ## What the calls do -/

variable (q : Queue F) (key : String) (startFn : F)

/-- The ways a call of `enqueue` can go. -/
inductive Enqueued : Queue F × Outcome F → Prop
  | running (hactive : key ∈ q.active) : Enqueued (q, .running)
  | kept {before after : List (Job F)} {old : Job F} (hpending : q.pending = before ++ old :: after)
      (hkey : old.key = key) : Enqueued (q, .waiting (before.length + 1) none)
  | replaced {before after : List (Job F)} {old : Job F}
      (hpending : q.pending = before ++ old :: after) (hkey : old.key = key) :
      Enqueued ({ q with pending := before ++ ⟨key, startFn⟩ :: after },
        .waiting (before.length + 1) (some old))
  | launched (hnew : ∀ job ∈ q.pending, job.key ≠ key) (hfree : q.active.card < q.maxConcurrent)
      (hidle : key ∉ q.active) : Enqueued ({ q with active := insert key q.active }, .launched)
  | queued (hnew : ∀ job ∈ q.pending, job.key ≠ key)
      (hbusy : q.active.card < q.maxConcurrent → key ∈ q.active) :
      Enqueued ({ q with pending := q.pending ++ [⟨key, startFn⟩] },
        .queued (q.pending.length + 1))

/-- The ways a completion can go: the first pending job whose key is idle starts, if a slot is free
and there is such a job. -/
inductive Completed : Queue F × Option (Job F) → Prop
  | next {before after : List (Job F)} {job : Job F}
      (hpending : q.pending = before ++ job :: after)
      (hfree : (q.active.erase key).card < q.maxConcurrent)
      (hskipped : ∀ b ∈ before, b.key ∈ q.active.erase key)
      (hidle : job.key ∉ q.active.erase key) :
      Completed ({ q with active := insert job.key (q.active.erase key)
                          pending := before ++ after }, some job)
  | idle (hbusy : (q.active.erase key).card < q.maxConcurrent →
        ∀ job ∈ q.pending, job.key ∈ q.active.erase key) :
      Completed ({ q with active := q.active.erase key }, none)

variable {q key startFn}

theorem exists_split_of_findIdx? {l : List (Job F)} {i : ℕ}
    (h : l.findIdx? (·.key == key) = some i) :
    ∃ before old after, l = before ++ old :: after ∧ before.length = i ∧ old.key = key := by
  obtain ⟨hi, hkey, -⟩ := List.findIdx?_eq_some_iff_getElem.mp h
  refine ⟨l.take i, l[i], l.drop (i + 1), ?_, List.length_take_of_le hi.le, by simpa using hkey⟩
  rw [List.cons_getElem_drop_succ, List.take_append_drop]

theorem enqueue_enqueued (allowActive replacePending : Bool) :
    Enqueued q key startFn (q.enqueue key startFn allowActive replacePending) := by
  unfold Queue.enqueue
  split
  next hactive => exact .running hactive.1
  next hallow =>
  split
  · next i hi =>
    obtain ⟨before, old, after, hpending, rfl, hkey⟩ := exists_split_of_findIdx? hi
    split
    · simp only [hpending, List.set_append_right _ _ (le_refl _), Nat.sub_self, List.set_cons_zero,
        List.getElem?_append_right (le_refl _), List.getElem?_cons_zero]
      exact .replaced hpending hkey
    · exact .kept hpending hkey
  · next hnone =>
    have hnew : ∀ job ∈ q.pending, job.key ≠ key := by
      simpa [List.findIdx?_eq_none_iff] using hnone
    split
    next hstart => exact .launched hnew hstart.1 hstart.2
    next hwait => exact .queued hnew fun hfree => not_not.mp fun hidle => hwait ⟨hfree, hidle⟩

theorem complete_completed : Completed q key (q.complete key) := by
  unfold Queue.complete
  dsimp only
  split
  · next hfree =>
    split
    · next job hjob =>
      obtain ⟨before, after, hpending, herase, hidle, hskipped⟩ := exists_split_of_find? hjob
      rw [herase]
      exact .next hpending hfree (fun b hb => not_not.mp (of_decide_eq_false (hskipped b hb)))
        (of_decide_eq_true hidle)
    · next hnone => exact .idle fun _ => by simpa using hnone
  · next hfull => exact .idle fun hfree => absurd hfree hfull

/-! ## The joint invariant -/

variable (q) in
/-- The invariant of the queue: the limit is kept, no key waits twice, and while a slot is free
only successors of running jobs wait. -/
structure Queue.Valid : Prop where
  bounded : q.active.card ≤ q.maxConcurrent
  distinct : (q.pending.map (·.key)).Nodup
  busy : q.active.card < q.maxConcurrent → ∀ job ∈ q.pending, job.key ∈ q.active

theorem New_valid (maxConcurrent : ℤ) : (New maxConcurrent : Queue F).Valid where
  bounded := Nat.zero_le _
  distinct := List.nodup_nil
  busy _ _ h := absurd h List.not_mem_nil

theorem Enqueued.valid {r : Queue F × Outcome F} (h : Enqueued q key startFn r) (hq : q.Valid) :
    r.1.Valid := by
  cases h with
  | running | kept => exact hq
  | @replaced before after old hpending hkey =>
    -- the new job has the key of the old one, so the keys of the list are the same
    obtain ⟨hbounded, hdistinct, hbusy⟩ := hq
    rw [hpending] at hdistinct hbusy
    refine ⟨hbounded, by simpa [hkey] using hdistinct, fun hfree job hjob => ?_⟩
    rcases List.mem_append.mp hjob with hjob | hjob
    · exact hbusy hfree job (List.mem_append_left _ hjob)
    · rcases List.mem_cons.mp hjob with rfl | hjob
      · have hold := hbusy hfree old (List.mem_append_right _ List.mem_cons_self)
        rwa [hkey] at hold
      · exact hbusy hfree job (List.mem_append_right _ (List.mem_cons_of_mem _ hjob))
  | launched hnew hfree hidle =>
    refine ⟨?_, hq.distinct, fun _ job hjob => Finset.mem_insert_of_mem (hq.busy hfree job hjob)⟩
    rw [Finset.card_insert_of_notMem hidle]
    exact hfree
  | queued hnew hbusy =>
    refine ⟨hq.bounded, ?_, fun hfree job hjob => ?_⟩
    · rw [List.map_append, List.map_singleton]
      refine hq.distinct.append (List.nodup_singleton _) fun k hk hk' => ?_
      obtain ⟨job, hjob, rfl⟩ := List.mem_map.mp hk
      exact hnew job hjob (List.mem_singleton.mp hk')
    · rcases List.mem_append.mp hjob with hjob | hjob
      · exact hq.busy hfree job hjob
      · rw [List.mem_singleton.mp hjob]
        exact hbusy hfree

theorem Completed.valid {r : Queue F × Option (Job F)} (h : Completed q key r)
    (hkey : key ∈ q.active) (hq : q.Valid) : r.1.Valid := by
  have hcard := Finset.card_erase_add_one hkey
  have hbounded := hq.bounded
  cases h with
  | @next before after job hpending hfree hskipped hidle =>
    obtain ⟨-, hdistinct, hbusy⟩ := hq
    rw [hpending] at hdistinct hbusy
    have hcard' := Finset.card_insert_of_notMem hidle
    refine ⟨?_, ?_, fun hfree' b hb => ?_⟩
    · change (insert job.key (q.active.erase key)).card ≤ q.maxConcurrent
      omega
    · exact ((List.sublist_cons_self job after).append_left before).map _ |>.nodup hdistinct
    · change (insert job.key (q.active.erase key)).card < q.maxConcurrent at hfree'
      have hmem : b ∈ before ++ job :: after :=
        ((List.sublist_cons_self job after).append_left before).subset hb
      -- before the completion a slot was free too, so that the key of `b` ran
      have hactive := hbusy (by omega) b hmem
      by_cases hb' : b.key = key
      · -- then `b` was the successor of the completed job, and so was `job`
        have hjob : job.key = key := by
          have := hbusy (by omega) job (List.mem_append_right _ List.mem_cons_self)
          by_contra hne
          exact hidle (Finset.mem_erase.mpr ⟨hne, this⟩)
        exact Finset.mem_insert.mpr (.inl (hb'.trans hjob.symm))
      · exact Finset.mem_insert_of_mem (Finset.mem_erase.mpr ⟨hb', hactive⟩)
  | idle hbusy =>
    refine ⟨?_, hq.distinct, hbusy⟩
    change (q.active.erase key).card ≤ q.maxConcurrent
    omega

/-- The position of a key is the place of its job in the pending list, counted from one. -/
theorem Queue.Valid.GetPosition_iff (hq : q.Valid) {position : ℕ} :
    q.GetPosition key = some position ↔
      ∃ i job, q.pending[i]? = some job ∧ job.key = key ∧ position = i + 1 := by
  unfold Queue.GetPosition
  rw [Option.map_eq_some_iff]
  constructor
  · rintro ⟨i, hi, rfl⟩
    obtain ⟨hlt, hkey, -⟩ := List.findIdx?_eq_some_iff_getElem.mp hi
    exact ⟨i, _, List.getElem?_eq_getElem hlt, by simpa using hkey, rfl⟩
  · rintro ⟨i, job, hget, hkey, rfl⟩
    refine ⟨i, ?_, rfl⟩
    obtain ⟨hlt, rfl⟩ := List.getElem?_eq_some_iff.mp hget
    refine List.findIdx?_eq_some_iff_getElem.mpr ⟨hlt, by simpa using hkey, fun j hj => ?_⟩
    -- an earlier job with the key would be a second one
    have hne := List.nodup_iff_injective_get.mp hq.distinct
    simp only [beq_iff_eq]
    intro hj'
    have := @hne ⟨j, by simp; omega⟩ ⟨i, by simp; omega⟩ (by simp [hj', hkey])
    simp only [Fin.mk.injEq] at this
    omega

end Calls

/-! ## The queue in use -/

/-- The queue with its running jobs. The start functions are numbered by the calls that brought
them. -/
structure State where
  queue : Queue ℕ
  running : List (Job ℕ)
  calls : ℕ

/-- What happens to the queue: a call, or the return of a running job. -/
inductive Event
  | enqueue (key : String)
  | enqueueSuccessor (key : String)
  | complete (job : Job ℕ)
deriving DecidableEq, Repr

/-- After the call numbered `s.calls`. -/
def State.called (s : State) (key : String) (r : Queue ℕ × Outcome ℕ) : State where
  queue := r.1
  running := match r.2 with
    | .launched => s.running ++ [⟨key, s.calls⟩]
    | _ => s.running
  calls := s.calls + 1

/-- After the return of a running job. -/
def State.completed (s : State) (job : Job ℕ) (r : Queue ℕ × Option (Job ℕ)) : State where
  queue := r.1
  running := s.running.erase job ++ r.2.toList
  calls := s.calls

def system (maxConcurrent : ℤ) : System State Event where
  init := { queue := New maxConcurrent, running := [], calls := 0 }
  step s
    | .enqueue key => some (s.called key (s.queue.Enqueue key s.calls))
    | .enqueueSuccessor key => some (s.called key (s.queue.EnqueueSuccessor key s.calls))
    | .complete job =>
      if job ∈ s.running then some (s.completed job (s.queue.complete job.key)) else none

/-- What became of the calls. -/
structure History where
  /-- The calls whose jobs started, in this order. -/
  started : List ℕ
  /-- The calls whose pending jobs gave way to later ones. -/
  replaced : List ℕ
  /-- The calls that were turned away because their key ran or waited. -/
  rejected : List ℕ
  /-- The call that opened the place in line of a call's job: a job that replaces another one takes
  over its place. -/
  place : ℕ → ℕ

/-- Take down what call number `call` did. -/
def History.call (t : History) (call : ℕ) : Outcome ℕ → History
  | .running => { t with rejected := t.rejected ++ [call] }
  | .waiting _ none => { t with rejected := t.rejected ++ [call] }
  | .waiting _ (some old) =>
    { t with replaced := t.replaced ++ [old.startFn]
             place := Function.update t.place call (t.place old.startFn) }
  | .launched =>
    { t with started := t.started ++ [call], place := Function.update t.place call call }
  | .queued _ => { t with place := Function.update t.place call call }

def History.next (t : History) (s : State) (e : Event) (_ : State) : History :=
  match e with
  | .enqueue key => t.call s.calls (s.queue.Enqueue key s.calls).2
  | .enqueueSuccessor key => t.call s.calls (s.queue.EnqueueSuccessor key s.calls).2
  | .complete job =>
    { t with started := t.started ++ (s.queue.complete job.key).2.toList.map (·.startFn) }

/-- The queue under any calls, with its history. -/
def audited (maxConcurrent : ℤ) : System (State × History) Event :=
  (system maxConcurrent).monitored
    { started := [], replaced := [], rejected := [], place := id } History.next

/-- The steps of the queue in use, by what the call or the completion did. -/
inductive Moves (x : State × History) : State × History → Prop
  | call {key : String} {r : Queue ℕ × Outcome ℕ} (h : Enqueued x.1.queue key x.1.calls r) :
      Moves x (x.1.called key r, x.2.call x.1.calls r.2)
  | complete {job : Job ℕ} {r : Queue ℕ × Option (Job ℕ)} (hjob : job ∈ x.1.running)
      (h : Completed x.1.queue job.key r) :
      Moves x (x.1.completed job r,
        { x.2 with started := x.2.started ++ r.2.toList.map (·.startFn) })

theorem audited_moves {maxConcurrent : ℤ} {x y : State × History} {e : Event}
    (h : (audited maxConcurrent).step x e = some y) : Moves x y := by
  obtain ⟨s, t⟩ := y
  obtain ⟨hs, ht⟩ := System.monitored_step_iff.mp h
  dsimp only at hs ht
  subst ht
  cases e with
  | enqueue key =>
    cases hs
    exact .call (enqueue_enqueued _ _)
  | enqueueSuccessor key =>
    cases hs
    exact .call (enqueue_enqueued _ _)
  | complete job =>
    obtain ⟨hjob, ⟨⟩⟩ := Option.ite_none_right_eq_some.mp hs
    exact .complete hjob complete_completed

structure Invariant (maxConcurrent : ℤ) (x : State × History) : Prop where
  limited : x.1.queue.maxConcurrent = limit maxConcurrent
  valid : x.1.queue.Valid
  exclusive : (x.1.running.map (·.key)).Nodup
  active : x.1.queue.active = (x.1.running.map (·.key)).toFinset
  begun : ∀ job ∈ x.1.running, job.startFn ∈ x.2.started
  once : EachOnce x.1.calls (x.2.started ++ x.2.replaced ++ x.2.rejected ++
    x.1.queue.pending.map (·.startFn))
  placed : x.1.queue.pending.Pairwise fun a b => x.2.place a.startFn < x.2.place b.startFn
  opened : ∀ job ∈ x.1.queue.pending, x.2.place job.startFn < x.1.calls

theorem init_invariant (maxConcurrent : ℤ) :
    Invariant maxConcurrent (audited maxConcurrent).init where
  limited := rfl
  valid := New_valid maxConcurrent
  exclusive := List.nodup_nil
  active := rfl
  begun _ h := absurd h List.not_mem_nil
  once := .zero
  placed := .nil
  opened _ h := absurd h List.not_mem_nil

variable {maxConcurrent : ℤ} {x y : State × History}

/-- As many keys are active as jobs run. -/
theorem Invariant.card_active (h : Invariant maxConcurrent x) :
    x.1.queue.active.card = x.1.running.length := by
  rw [h.active, List.toFinset_card_of_nodup h.exclusive, List.length_map]

theorem Invariant.mem_active (h : Invariant maxConcurrent x) {key : String} :
    key ∈ x.1.queue.active ↔ ∃ job ∈ x.1.running, job.key = key := by
  rw [h.active, List.mem_toFinset, List.mem_map]

/-- The place of a call that is not pending yet can be set freely. -/
theorem pairwise_place_update {place : ℕ → ℕ} {call n : ℕ} {l : List (Job ℕ)}
    (hnew : ∀ job ∈ l, job.startFn ≠ call) :
    (l.Pairwise fun a b => Function.update place call n a.startFn <
        Function.update place call n b.startFn) ↔
      l.Pairwise fun a b => place a.startFn < place b.startFn := by
  refine List.Pairwise.iff_of_mem fun {a b} ha hb => ?_
  rw [Function.update_of_ne (hnew a ha), Function.update_of_ne (hnew b hb)]

theorem Invariant.call_ne (h : Invariant maxConcurrent x) {job : Job ℕ}
    (hjob : job ∈ x.1.queue.pending) : job.startFn ≠ x.1.calls :=
  (h.once.lt_of_mem (List.mem_append_right _ (List.mem_map_of_mem hjob))).ne

/-- A call that is turned away changes nothing. -/
theorem Invariant.reject (h : Invariant maxConcurrent x) :
    Invariant maxConcurrent ({ x.1 with calls := x.1.calls + 1 },
      { x.2 with rejected := x.2.rejected ++ [x.1.calls] }) where
  limited := h.limited
  valid := h.valid
  exclusive := h.exclusive
  active := h.active
  begun := h.begun
  once := by
    refine h.once.succ (List.perm_iff_count.mpr fun t => ?_)
    simp only [List.count_append, List.count_cons, List.count_nil]
    omega
  placed := h.placed
  opened job hjob := (h.opened job hjob).trans (Nat.lt_succ_self _)

/-- A pending job keeps its place when the next call's place is set, and the place was opened
before the call. -/
theorem Invariant.place_update_lt (h : Invariant maxConcurrent x) {job : Job ℕ}
    (hjob : job ∈ x.1.queue.pending) (n : ℕ) :
    Function.update x.2.place x.1.calls n job.startFn < x.1.calls + 1 := by
  rw [Function.update_of_ne (h.call_ne hjob)]
  exact (h.opened job hjob).trans (Nat.lt_succ_self _)

/-- A job gives way to the one of the call, which takes over its place. -/
theorem Invariant.replace (h : Invariant maxConcurrent x) {key : String}
    {before after : List (Job ℕ)} {old : Job ℕ}
    (hpending : x.1.queue.pending = before ++ old :: after) (hkey : old.key = key) :
    Invariant maxConcurrent
      ({ x.1 with
         queue := { x.1.queue with pending := before ++ ⟨key, x.1.calls⟩ :: after }
         calls := x.1.calls + 1 },
      { x.2 with replaced := x.2.replaced ++ [old.startFn]
                 place := Function.update x.2.place x.1.calls (x.2.place old.startFn) }) := by
  have hr : Enqueued x.1.queue key x.1.calls (_, .waiting _ (some old)) := .replaced hpending hkey
  have hbefore : ∀ job ∈ before, job ∈ x.1.queue.pending := by simp +contextual [hpending]
  have hafter : ∀ job ∈ after, job ∈ x.1.queue.pending := by simp +contextual [hpending]
  have hold : old ∈ x.1.queue.pending := by simp [hpending]
  refine ⟨h.limited, hr.valid h.valid, h.exclusive, h.active, h.begun, h.once.succ ?_, ?_,
    fun job hjob => ?_⟩
  · refine List.perm_iff_count.mpr fun t => ?_
    simp only [hpending, List.map_append, List.map_cons, List.count_append, List.count_cons,
      List.count_nil]
    omega
  · have hplaced := h.placed
    simp only [hpending, List.pairwise_append, List.pairwise_cons,
      pairwise_place_update fun job hjob => h.call_ne (hbefore job hjob),
      pairwise_place_update fun job hjob => h.call_ne (hafter job hjob)] at hplaced ⊢
    refine ⟨hplaced.1, ⟨fun b hb => ?_, hplaced.2.1.2⟩, fun a ha b hb => ?_⟩
    · rw [Function.update_self, Function.update_of_ne (h.call_ne (hafter b hb))]
      exact hplaced.2.1.1 b hb
    · rw [Function.update_of_ne (h.call_ne (hbefore a ha))]
      rcases List.mem_cons.mp hb with rfl | hb
      · rw [Function.update_self]
        exact hplaced.2.2 a ha old List.mem_cons_self
      · rw [Function.update_of_ne (h.call_ne (hafter b hb))]
        exact hplaced.2.2 a ha b (List.mem_cons_of_mem _ hb)
  · rcases List.mem_append.mp hjob with hjob | hjob
    · exact h.place_update_lt (hbefore job hjob) _
    · rcases List.mem_cons.mp hjob with rfl | hjob
      · dsimp only
        rw [Function.update_self]
        exact (h.opened old hold).trans (Nat.lt_succ_self _)
      · exact h.place_update_lt (hafter job hjob) _

/-- The job of the call starts at once. -/
theorem Invariant.launch (h : Invariant maxConcurrent x) {key : String}
    (hnew : ∀ job ∈ x.1.queue.pending, job.key ≠ key)
    (hfree : x.1.queue.active.card < x.1.queue.maxConcurrent) (hidle : key ∉ x.1.queue.active) :
    Invariant maxConcurrent
      ({ queue := { x.1.queue with active := insert key x.1.queue.active }
         running := x.1.running ++ [⟨key, x.1.calls⟩]
         calls := x.1.calls + 1 },
        { x.2 with started := x.2.started ++ [x.1.calls]
                   place := Function.update x.2.place x.1.calls x.1.calls }) := by
  have hr : Enqueued x.1.queue key x.1.calls (_, .launched) := .launched hnew hfree hidle
  refine ⟨h.limited, hr.valid h.valid, nodup_map_concat h.exclusive (h.active ▸ hidle), ?_,
    fun r hr => ?_, h.once.succ ?_, ?_, fun job hjob => h.place_update_lt hjob _⟩
  · rw [toFinset_map_concat, ← h.active]
  · rcases List.mem_append.mp hr with hr | hr
    · exact List.mem_append_left _ (h.begun r hr)
    · rw [List.mem_singleton.mp hr]
      exact List.mem_append_right _ (List.mem_singleton.mpr rfl)
  · refine List.perm_iff_count.mpr fun t => ?_
    simp only [List.count_append, List.count_cons, List.count_nil]
    omega
  · exact (pairwise_place_update fun job hjob => h.call_ne hjob).mpr h.placed

/-- The job of the call waits behind all others. -/
theorem Invariant.append (h : Invariant maxConcurrent x) {key : String}
    (hnew : ∀ job ∈ x.1.queue.pending, job.key ≠ key)
    (hbusy : x.1.queue.active.card < x.1.queue.maxConcurrent → key ∈ x.1.queue.active) :
    Invariant maxConcurrent
      ({ x.1 with
         queue := { x.1.queue with pending := x.1.queue.pending ++ [⟨key, x.1.calls⟩] }
         calls := x.1.calls + 1 },
      { x.2 with place := Function.update x.2.place x.1.calls x.1.calls }) := by
  have hr : Enqueued x.1.queue key x.1.calls (_, .queued _) := .queued hnew hbusy
  refine ⟨h.limited, hr.valid h.valid, h.exclusive, h.active, h.begun, h.once.succ ?_, ?_,
    fun job hjob => ?_⟩
  · refine List.perm_iff_count.mpr fun t => ?_
    simp only [List.map_append, List.map_cons, List.map_nil, List.count_append, List.count_cons,
      List.count_nil]
    omega
  · simp only [List.pairwise_append, pairwise_place_update fun job hjob => h.call_ne hjob]
    refine ⟨h.placed, List.pairwise_singleton _ _, fun a ha b hb => ?_⟩
    rw [List.mem_singleton.mp hb, Function.update_self, Function.update_of_ne (h.call_ne ha)]
    exact h.opened a ha
  · rcases List.mem_append.mp hjob with hjob | hjob
    · exact h.place_update_lt hjob _
    · rw [List.mem_singleton.mp hjob]
      dsimp only
      rw [Function.update_self]
      exact Nat.lt_succ_self _

theorem Invariant.call {key : String} {r : Queue ℕ × Outcome ℕ} (h : Invariant maxConcurrent x)
    (hr : Enqueued x.1.queue key x.1.calls r) :
    Invariant maxConcurrent (x.1.called key r, x.2.call x.1.calls r.2) := by
  cases hr with
  | running | kept => exact h.reject
  | replaced hpending hkey => exact h.replace hpending hkey
  | launched hnew hfree hidle => exact h.launch hnew hfree hidle
  | queued hnew hbusy => exact h.append hnew hbusy

/-- The keys of the other running jobs when one returns. -/
theorem Invariant.erase (h : Invariant maxConcurrent x) {job : Job ℕ} (hjob : job ∈ x.1.running) :
    x.1.queue.active.erase job.key = ((x.1.running.erase job).map (·.key)).toFinset := by
  rw [h.active, toFinset_map_erase h.exclusive hjob]

theorem Invariant.complete {job : Job ℕ} {r : Queue ℕ × Option (Job ℕ)}
    (h : Invariant maxConcurrent x) (hjob : job ∈ x.1.running)
    (hr : Completed x.1.queue job.key r) :
    Invariant maxConcurrent (x.1.completed job r,
      { x.2 with started := x.2.started ++ r.2.toList.map (·.startFn) }) := by
  have hvalid := hr.valid (h.mem_active.mpr ⟨job, hjob, rfl⟩) h.valid
  have hexclusive := nodup_map_erase h.exclusive hjob
  have herase := h.erase hjob
  cases hr with
  | @next before after next hpending hfree hskipped hidle =>
    obtain ⟨hlimited, -, -, -, hbegun, honce, hplaced, hopened⟩ := h
    have hsub : (before ++ after).Sublist x.1.queue.pending := by
      rw [hpending]
      exact (List.sublist_cons_self next after).append_left before
    refine ⟨hlimited, hvalid, ?_, ?_, fun r hr => ?_, honce.perm ?_, hplaced.sublist hsub,
      fun b hb => hopened b (hsub.subset hb)⟩
    · exact nodup_map_concat hexclusive (herase ▸ hidle)
    · simp only [State.completed, Option.toList_some]
      rw [toFinset_map_concat, herase]
    · rcases List.mem_append.mp hr with hr | hr
      · exact List.mem_append_left _ (hbegun r (List.mem_of_mem_erase hr))
      · rw [List.mem_singleton.mp hr]
        exact List.mem_append_right _ (List.mem_singleton.mpr rfl)
    · refine List.perm_iff_count.mpr fun t => ?_
      simp only [State.completed, hpending, Option.toList_some, List.map_append, List.map_cons,
        List.map_nil, List.count_append, List.count_cons, List.count_nil]
      omega
  | idle hbusy =>
    refine ⟨h.limited, hvalid, ?_, ?_, ?_, ?_, h.placed, h.opened⟩
    · simpa [State.completed] using hexclusive
    · simpa [State.completed] using herase
    · intro r hr
      simpa using h.begun r (List.mem_of_mem_erase (by simpa [State.completed] using hr))
    · simpa [State.completed] using h.once

theorem Invariant.moves (h : Invariant maxConcurrent x) (hxy : Moves x y) :
    Invariant maxConcurrent y := by
  cases hxy with
  | call hr => exact h.call hr
  | complete hjob hr => exact h.complete hjob hr

theorem reachable_invariant (h : (audited maxConcurrent).Reachable System.Always x) :
    Invariant maxConcurrent x :=
  h.invariant (init_invariant maxConcurrent) fun _ _ _ hx _ hs => hx.moves (audited_moves hs)

/-! ## What holds in every run -/

/-- A running job is not pending. -/
theorem Invariant.running_ne_pending (h : Invariant maxConcurrent x) {job pending : Job ℕ}
    (hjob : job ∈ x.1.running) (hpending : pending ∈ x.1.queue.pending) :
    job.startFn ≠ pending.startFn := by
  have hdisjoint := (List.nodup_append.mp h.once.nodup).2.2
  refine hdisjoint _ ?_ _ (List.mem_map_of_mem hpending)
  exact List.mem_append_left _ (List.mem_append_left _ (h.begun job hjob))

/-- Among the pending jobs whose key no other job runs with, the first in line starts. -/
theorem Invariant.first (h : Invariant maxConcurrent x) (hxy : Moves x y) {t : ℕ}
    (ht : y.2.started = x.2.started ++ [t]) {job : Job ℕ} (hjob : job ∈ y.1.queue.pending)
    (hidle : ∀ r ∈ y.1.running, r.startFn ≠ t → r.key ≠ job.key) :
    y.2.place t < y.2.place job.startFn := by
  -- a step that starts nothing leaves the list as it was
  have hnone : x.2.started ≠ x.2.started ++ [t] := by simp
  cases hxy with
  | call hr =>
    cases hr with
    | running | kept | replaced | queued => exact absurd ht hnone
    | launched hnew hfree =>
      -- a free slot: every pending key runs already
      obtain ⟨r, hr, hkey⟩ := h.mem_active.mp (h.valid.busy hfree job hjob)
      obtain rfl : t = x.1.calls := by simpa [History.call] using ht.symm
      refine absurd hkey (hidle r (List.mem_append_left _ hr) (Nat.ne_of_lt ?_))
      refine h.once.lt_of_mem ?_
      simp [h.begun r hr]
  | complete hreturned hr =>
    cases hr with
    | idle => simp at ht
    | @next before after next hpending hfree hskipped =>
      obtain rfl : t = next.startFn := by simpa using ht.symm
      have hnext : next ∈ x.1.queue.pending := by simp [hpending]
      rcases List.mem_append.mp hjob with hjob | hjob
      · -- what stands before the job that starts waits for a running key
        have hactive := hskipped job hjob
        rw [h.erase hreturned, List.mem_toFinset, List.mem_map] at hactive
        obtain ⟨r, hr, hkey⟩ := hactive
        refine absurd hkey (hidle r (List.mem_append_left _ hr) ?_)
        exact h.running_ne_pending (List.mem_of_mem_erase hr) hnext
      · have hplaced := h.placed
        rw [hpending, List.pairwise_append, List.pairwise_cons] at hplaced
        exact hplaced.2.1.1 job hjob

theorem complete_enabled {job : Job ℕ} (hjob : job ∈ x.1.running) :
    ∃ y, (audited maxConcurrent).step x (.complete job) = some y ∧
      y.1.running.length + y.1.queue.pending.length + 1 =
        x.1.running.length + x.1.queue.pending.length := by
  refine ⟨(x.1.completed job (x.1.queue.complete job.key), _),
    System.monitored_step_iff.mpr ⟨if_pos hjob, rfl⟩, ?_⟩
  have hlength := (List.perm_cons_erase hjob).length_eq
  rw [List.length_cons] at hlength
  have hr : Completed x.1.queue job.key (x.1.queue.complete job.key) := complete_completed
  generalize x.1.queue.complete job.key = r at hr
  cases hr with
  | next hpending =>
    simp only [State.completed, hpending, Option.toList_some, List.length_append, List.length_cons,
      List.length_nil]
    omega
  | idle =>
    simp only [State.completed, Option.toList_none, List.append_nil]
    omega

/-- What the queue promises its callers, in a state of a run. -/
structure Orderly (maxConcurrent : ℤ) (x : State × History) : Prop where
  /-- At most the limit of jobs run. -/
  bounded : x.1.running.length ≤ limit maxConcurrent
  /-- No two running jobs have one key. -/
  exclusive : (x.1.running.map (·.key)).Nodup
  /-- No two pending jobs have one key. -/
  distinct : (x.1.queue.pending.map (·.key)).Nodup
  /-- While fewer jobs run, every pending key is the key of a running job. -/
  conserving : x.1.running.length < limit maxConcurrent →
    ∀ job ∈ x.1.queue.pending, ∃ r ∈ x.1.running, r.key = job.key
  /-- Every call's job has started, is pending, was replaced or was rejected, one of these only and
  once only. -/
  once : EachOnce x.1.calls (x.2.started ++ x.2.replaced ++ x.2.rejected ++
    x.1.queue.pending.map (·.startFn))
  /-- A job that runs may return, and the jobs that run or wait become one fewer. -/
  returns : ∀ job ∈ x.1.running, ∃ y, (audited maxConcurrent).step x (.complete job) = some y ∧
    y.1.running.length + y.1.queue.pending.length + 1 =
      x.1.running.length + x.1.queue.pending.length
  /-- When all jobs have returned, none is left waiting. -/
  drained : x.1.running = [] → x.1.queue.pending = []
  /-- The job that starts comes before the pending jobs whose key no other job runs with. -/
  first : ∀ e y, (audited maxConcurrent).step x e = some y →
    ∀ t, y.2.started = x.2.started ++ [t] → ∀ job ∈ y.1.queue.pending,
      (∀ r ∈ y.1.running, r.startFn ≠ t → r.key ≠ job.key) →
        y.2.place t < y.2.place job.startFn
  /-- `GetPosition` is the index in the pending list, counted from one. -/
  position : ∀ key position, x.1.queue.GetPosition key = some position ↔
    ∃ i job, x.1.queue.pending[i]? = some job ∧ job.key = key ∧ position = i + 1

theorem Invariant.conserving (h : Invariant maxConcurrent x)
    (hfree : x.1.running.length < limit maxConcurrent) {job : Job ℕ}
    (hjob : job ∈ x.1.queue.pending) : ∃ r ∈ x.1.running, r.key = job.key := by
  rw [← h.card_active, ← h.limited] at hfree
  exact h.mem_active.mp (h.valid.busy hfree job hjob)

/-- **The keyed queue keeps its limit, its keys and its order**: in every run, whatever is called
and whenever jobs return. -/
theorem queue_orderly (maxConcurrent : ℤ) (x : State × History)
    (h : (audited maxConcurrent).Reachable System.Always x) : Orderly maxConcurrent x := by
  have hx := reachable_invariant h
  refine ⟨?_, hx.exclusive, hx.valid.distinct, fun hfree job => hx.conserving hfree, hx.once,
    fun job => complete_enabled, fun hnone => ?_,
    fun e y hs t ht job hjob => hx.first (audited_moves hs) ht hjob,
    fun key position => hx.valid.GetPosition_iff⟩
  · rw [← hx.card_active, ← hx.limited]
    exact hx.valid.bounded
  · refine List.eq_nil_iff_forall_not_mem.mpr fun job hjob => ?_
    have hfree : x.1.running.length < limit maxConcurrent := by
      rw [hnone]
      exact limit_pos maxConcurrent
    obtain ⟨r, hr, -⟩ := hx.conserving hfree hjob
    rw [hnone] at hr
    exact absurd hr List.not_mem_nil

/-- In a queue with one slot, `b` and `c` wait behind `a` when the job of `b` is replaced. -/
theorem queue_orderly_replaced :
    ∃ x, (audited 1).Reachable System.Always x ∧ x.1.queue.pending = [⟨"b", 3⟩, ⟨"c", 2⟩] ∧
      Orderly 1 x := by
  obtain ⟨x, hx, hpending⟩ := System.exists_reachable_of_replay (audited 1) System.Always
    (fun x => x.1.queue.pending = [⟨"b", 3⟩, ⟨"c", 2⟩])
    [.enqueue "a", .enqueue "b", .enqueue "c", .enqueueSuccessor "b"] (by decide +kernel)
  exact ⟨x, hx, hpending, queue_orderly 1 x hx⟩

/-- A job that replaces a pending one starts before a job that was enqueued before it. -/
theorem replaced_starts_before_earlier :
    ∃ x, (audited 1).Reachable System.Always x ∧
      ∃ y, (audited 1).step x (.complete ⟨"a", 0⟩) = some y ∧ y.2.started = x.2.started ++ [3] ∧
        ⟨"c", 2⟩ ∈ y.1.queue.pending ∧ ∀ r ∈ y.1.running, r.startFn ≠ 3 → r.key ≠ "c" := by
  obtain ⟨x, hx, hy⟩ := System.exists_reachable_of_replay (audited 1) System.Always
    (fun x => ((audited 1).step x (.complete ⟨"a", 0⟩)).any (fun y =>
      decide (y.2.started = x.2.started ++ [3] ∧ ⟨"c", 2⟩ ∈ y.1.queue.pending ∧
        ∀ r ∈ y.1.running, r.startFn ≠ 3 → r.key ≠ "c")) = true)
    [.enqueue "a", .enqueue "b", .enqueue "c", .enqueueSuccessor "b"] (by decide +kernel)
  obtain ⟨hsome, h⟩ := (Option.any_eq_true_iff_get _ _).mp hy
  exact ⟨x, hx, _, (Option.some_get hsome).symm, of_decide_eq_true h⟩

end Hypeman.KeyedQueue
