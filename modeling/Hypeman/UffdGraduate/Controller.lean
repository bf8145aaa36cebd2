import Hypeman.Foundations.System
import Hypeman.Foundations.Waiting
import Mathlib.Data.List.Sort

/-!
# Graduation off the snapshot memory pager

The controller of `lib/uffdgraduate/controller.go`: scans that list the instances with a pager
session, pick those that have been listed for `MinSessionAge` and start their graduations, and the
graduations themselves. Maps are functions to `Option`, times are nanoseconds.

A scan knows instances and not sessions. An instance that goes to standby and is restored between
two scans keeps the age of its old session, and graduates too early (`graduation_of_new_session`).
The other promises do not depend on that: the number of graduations, one for each instance, and the
pause after a failure.
-/

namespace Hypeman.UffdGraduate

open Foundations

/-! ## The controller -/

/-- `Instance`, without its name. -/
structure Instance where
  id : String
  pagerVersion : String
deriving DecidableEq, Repr

/-- `Config`, without what only the loop around the scans reads. -/
structure Config where
  minSessionAge : Int
  maxConcurrent : Int
deriving DecidableEq, Repr

def minute : Int := 60 * 1000000000

def Config.Normalize (c : Config) : Config where
  minSessionAge := if c.minSessionAge ≤ 0 then 10 * minute else c.minSessionAge
  maxConcurrent := if c.maxConcurrent ≤ 0 then 1 else c.maxConcurrent

def failureBackoff : Int := 5 * minute

/-- `Controller`, without its store, its configuration and its metrics. -/
structure Controller where
  firstSeen : String → Option Int
  lastFailure : String → Option Int
  inFlight : Finset String

section Scan

variable (cfg : Config) (c : Controller) (insts : List Instance) (target : String) (now : Int)

/-- An instance that should graduate, with whether its pager is outdated and its age. -/
def Controller.soaked (inst : Instance) : Option (Instance × Bool × Int) :=
  match c.firstSeen inst.id with
  | none => none
  | some seen =>
    if now - seen < cfg.minSessionAge then none
    else if inst.id ∈ c.inFlight then none
    else if ∃ failed ∈ c.lastFailure inst.id, now - failed < failureBackoff then none
    else some (inst,
      target ≠ "" && inst.pagerVersion ≠ "" && inst.pagerVersion ≠ target, now - seen)

/-- Outdated pagers first, then the oldest. -/
def precedes (a b : Instance × Bool × Int) : Bool :=
  if a.2.1 ≠ b.2.1 then a.2.1 else a.2.2 > b.2.2

def Controller.selectCandidatesLocked : List Instance :=
  ((insts.filterMap (c.soaked cfg target now)).insertionSort fun a b =>
    precedes b a = false).map (·.1)

/-- The candidates that are started, and what is in flight then. -/
def launch : List Instance → Finset String → List Instance × Finset String
  | [], inFlight => ([], inFlight)
  | inst :: rest, inFlight =>
    if cfg.maxConcurrent ≤ inFlight.card then ([], inFlight)
    else if inst.id ∈ inFlight then launch rest inFlight
    else
      let r := launch rest (insert inst.id inFlight)
      (inst :: r.1, r.2)

def lists (insts : List Instance) (id : String) : Bool := insts.any (·.id == id)

/-- What is known of the instances, once those of the list have been seen. -/
def Controller.observe : Controller :=
  { c with
    firstSeen := fun id => if lists insts id then some ((c.firstSeen id).getD now) else none
    lastFailure := fun id => if lists insts id then c.lastFailure id else none }

/-- The locked part of `scan`. -/
def Controller.scan : Controller × List Instance :=
  let seen := c.observe insts now
  let r := launch cfg (seen.selectCandidatesLocked cfg insts target now) c.inFlight
  ({ seen with inFlight := r.2 }, r.1)

end Scan

/-! ## Runs -/

/-- Where a graduation is: started by a scan, in `GraduateInstance`, back from it, or about to leave
`inFlight`. -/
inductive Phase
  | launched
  | running
  | succeeded
  | failed
  | leaving
deriving DecidableEq, Repr

structure Graduation where
  id : String
  phase : Phase
deriving DecidableEq, Repr

/-- The controller among its instances: the time, the pager sessions by instance with the time they
began, the scan that has listed its instances and may have read the time, and the graduations. -/
structure State where
  clock : Int
  sessions : String → Option Int
  controller : Controller
  scanning : Option (List Instance × Option Int)
  graduations : List Graduation

inductive Event
  | tick (clock : Int)
  | bind (id : String)
  | unbind (id : String)
  | list (insts : List Instance)
  | readClock
  | scan (target : String)
  | call (id : String)
  | returned (id : String) (ok : Bool)
  | record (id : String) (ok : Bool)
  | leave (id : String)
deriving DecidableEq, Repr

/-- One graduation goes on. -/
def advance (gs : List Graduation) (id : String) (p q : Phase) : List Graduation :=
  gs.map fun g => if g = ⟨id, p⟩ then ⟨id, q⟩ else g

/-- Where a graduation is after `GraduateInstance`. -/
def Phase.result (ok : Bool) : Phase := if ok then .succeeded else .failed

def State.step (cfg : Config) (s : State) : Event → Option State
  | .tick clock => if s.clock ≤ clock then some { s with clock := clock } else none
  | .bind id =>
    if s.sessions id = none then
      some { s with sessions := Function.update s.sessions id (some s.clock) }
    else none
  | .unbind id => some { s with sessions := Function.update s.sessions id none }
  | .list insts =>
    if s.scanning = none ∧ ∀ inst ∈ insts, (s.sessions inst.id).isSome then
      some { s with scanning := some (insts, none) }
    else none
  | .readClock =>
    match s.scanning with
    | some (insts, none) => some { s with scanning := some (insts, some s.clock) }
    | _ => none
  | .scan target =>
    match s.scanning with
    | some (insts, some now) =>
      let r := s.controller.scan cfg insts target now
      some { s with
        controller := r.1, scanning := none
        graduations := s.graduations ++ r.2.map fun inst => ⟨inst.id, .launched⟩ }
    | _ => none
  | .call id =>
    if ⟨id, .launched⟩ ∈ s.graduations then
      some { s with graduations := advance s.graduations id .launched .running }
    else none
  | .returned id ok =>
    if ⟨id, .running⟩ ∈ s.graduations then
      some { s with
        -- an instance that has graduated has no pager any more
        sessions := if ok then Function.update s.sessions id none else s.sessions
        graduations := advance s.graduations id .running (.result ok) }
    else none
  | .record id ok =>
    if ⟨id, .result ok⟩ ∈ s.graduations then
      some { s with
        controller := { s.controller with
          firstSeen := if ok then Function.update s.controller.firstSeen id none
            else s.controller.firstSeen
          lastFailure := Function.update s.controller.lastFailure id
            (if ok then none else some s.clock) }
        graduations := advance s.graduations id (.result ok) .leaving }
    else none
  | .leave id =>
    if ⟨id, .leaving⟩ ∈ s.graduations then
      some { s with
        controller := { s.controller with inFlight := s.controller.inFlight.erase id }
        graduations := s.graduations.erase ⟨id, .leaving⟩ }
    else none

/-- When the graduation of an instance failed last, as long as the instance is listed. -/
def failures (f : String → Option Int) (s : State) (e : Event) (_ : State) : String → Option Int :=
  match e with
  | .returned id ok => Function.update f id (if ok then none else some s.clock)
  | .list insts => fun id => if lists insts id then f id else none
  | _ => f

/-- A controller that has just been made, with the history of failures. -/
def graduationSystem (cfg : Config) : System (State × (String → Option Int)) Event :=
  System.monitored
    { init := ⟨0, fun _ => none, ⟨fun _ => none, fun _ => none, ∅⟩, none, []⟩
      step := State.step cfg.Normalize } (fun _ => none) failures

/-- A session begins only after the controller has forgotten the one before: no scan has read the
clock after it listed the instance, no graduation of it is about to call, and it is not in
`firstSeen` or about to be removed from there. And no graduation fails while a scan works on a list
without its instance. -/
def Noticed (x : State × (String → Option Int)) : Event → Prop
  | .bind id =>
    (x.1.controller.firstSeen id = none ∨ ⟨id, .succeeded⟩ ∈ x.1.graduations) ∧
      (∀ p ∈ x.1.scanning, p.2.isSome → lists p.1 id = false) ∧
        ⟨id, .launched⟩ ∉ x.1.graduations
  | .returned id false => ∀ insts ∈ x.1.scanning.map (·.1), lists insts id = true
  | _ => True

instance (x : State × (String → Option Int)) : DecidablePred (Noticed x)
  | .bind id => inferInstanceAs (Decidable ((x.1.controller.firstSeen id = none ∨
      ⟨id, .succeeded⟩ ∈ x.1.graduations) ∧
        (∀ p ∈ x.1.scanning, p.2.isSome → lists p.1 id = false) ∧
          ⟨id, .launched⟩ ∉ x.1.graduations))
  | .returned id false =>
    inferInstanceAs (Decidable (∀ insts ∈ x.1.scanning.map (·.1), lists insts id = true))
  | .returned _ true | .tick _ | .unbind _ | .list _ | .readClock | .scan _ | .call _ | .record _ _
  | .leave _ => isTrue trivial

/-! ## One step -/

theorem map_fst_advance (gs : List Graduation) (id : String) (p q : Phase) :
    (advance gs id p q).map (·.id) = gs.map (·.id) := by
  simp only [advance, List.map_map]
  refine List.map_congr_left fun g _ => ?_
  simp only [Function.comp_apply]
  split <;> simp [*]

@[simp, grind =] theorem mem_advance {gs : List Graduation} {id i : String} {p q r : Phase} :
    ⟨i, r⟩ ∈ advance gs id p q ↔
      ⟨i, r⟩ ∈ gs ∧ (i = id → r ≠ p) ∨ i = id ∧ r = q ∧ ⟨id, p⟩ ∈ gs := by
  simp only [advance, List.mem_map]
  constructor
  · rintro ⟨g, hg, heq⟩
    grind
  · rintro (⟨hmem, hne⟩ | ⟨rfl, rfl, hmem⟩)
    · exact ⟨_, hmem, if_neg (by grind)⟩
    · exact ⟨_, hmem, if_pos rfl⟩

/-- What is started is not in flight and not started twice, and does not exceed the limit. -/
theorem launch_spec (cfg : Config) (cands : List Instance) (f : Finset String) :
    (∀ inst ∈ (launch cfg cands f).1, inst ∈ cands ∧ inst.id ∉ f) ∧
      ((launch cfg cands f).1.map (·.id)).Nodup ∧
      (launch cfg cands f).2 = f ∪ ((launch cfg cands f).1.map (·.id)).toFinset ∧
      ((f.card : Int) ≤ cfg.maxConcurrent →
        ((launch cfg cands f).2.card : Int) ≤ cfg.maxConcurrent) := by
  induction cands generalizing f with
  | nil => simp [launch]
  | cons inst rest ih =>
    unfold launch
    split
    · simp
    split
    · obtain ⟨h, hrest⟩ := ih f
      exact ⟨fun i hi => ⟨List.mem_cons_of_mem _ (h i hi).1, (h i hi).2⟩, hrest⟩
    next hlimit hnew =>
      obtain ⟨h, hnodup, hset, hcard⟩ := ih (insert inst.id f)
      refine ⟨?_, ?_, ?_, fun _ => hcard ?_⟩
      · intro i hi
        rcases List.mem_cons.mp hi with rfl | hi
        · exact ⟨List.mem_cons_self, hnew⟩
        · have := h i hi
          grind
      · refine List.nodup_cons.mpr ⟨fun hmem => ?_, hnodup⟩
        obtain ⟨i, hi, heq⟩ := List.mem_map.mp hmem
        have := (h i hi).2
        grind
      · rw [hset]
        ext id
        simp
      · rw [Finset.card_insert_of_notMem hnew]
        push_cast
        omega

variable {cfg : Config} {s s' : State} {f : String → Option Int} {e : Event}

/-- The graduations are those in flight. -/
structure Counted (cfg : Config) (s : State) : Prop where
  nodup : (s.graduations.map (·.id)).Nodup
  inFlight : s.controller.inFlight = (s.graduations.map (·.id)).toFinset
  limit : (s.controller.inFlight.card : Int) ≤ cfg.maxConcurrent

theorem Counted.mem (h : Counted cfg s) {id : String} {p : Phase} (hp : ⟨id, p⟩ ∈ s.graduations) :
    id ∈ s.controller.inFlight := by
  rw [h.inFlight, List.mem_toFinset]
  exact List.mem_map_of_mem hp

theorem Counted.phase_eq (h : Counted cfg s) {id : String} {p q : Phase}
    (hp : ⟨id, p⟩ ∈ s.graduations) (hq : ⟨id, q⟩ ∈ s.graduations) : p = q :=
  (Graduation.mk.inj (List.inj_on_of_nodup_map h.nodup hp hq rfl)).2

theorem Counted.step (h : Counted cfg s) (hs : s.step cfg e = some s') : Counted cfg s' := by
  obtain ⟨hnodup, hflight, hlimit⟩ := h
  cases e with
  | scan target =>
    simp only [State.step] at hs
    split at hs
    next insts now _ =>
      cases hs
      obtain ⟨hnew, hnew', hset, hcard⟩ := launch_spec cfg ((s.controller.observe insts
        now).selectCandidatesLocked cfg insts target now) s.controller.inFlight
      refine ⟨?_, ?_, hcard hlimit⟩
      · simp only [List.map_append, List.map_map]
        refine hnodup.append hnew' fun id hold hid => ?_
        obtain ⟨inst, hinst, rfl⟩ := List.mem_map.mp hid
        refine (hnew inst hinst).2 ?_
        rw [hflight]
        exact List.mem_toFinset.mpr hold
      · simp only [List.map_append, List.map_map, List.toFinset_append, ← hflight]
        exact hset
    · cases hs
  | leave id =>
    obtain ⟨hmem, ⟨⟩⟩ := Option.ite_none_right_eq_some.mp hs
    refine ⟨nodup_map_erase hnodup hmem, ?_,
      le_trans (by exact_mod_cast Finset.card_erase_le) hlimit⟩
    rw [toFinset_map_erase hnodup hmem, ← hflight]
  | call | returned | record =>
    obtain ⟨-, ⟨⟩⟩ := Option.ite_none_right_eq_some.mp hs
    exact ⟨by rwa [map_fst_advance], by rwa [map_fst_advance], hlimit⟩
  | tick | bind | list =>
    obtain ⟨-, ⟨⟩⟩ := Option.ite_none_right_eq_some.mp hs
    exact ⟨hnodup, hflight, hlimit⟩
  | unbind =>
    cases hs
    exact ⟨hnodup, hflight, hlimit⟩
  | readClock =>
    simp only [State.step] at hs
    split at hs
    · cases hs
      exact ⟨hnodup, hflight, hlimit⟩
    · cases hs

/-- No session is older than the controller believes it to be, unless its graduation has
succeeded. -/
structure Aged (cfg : Config) (s : State) : Prop where
  began : ∀ id b, s.sessions id = some b → b ≤ s.clock
  seen : ∀ id t b, s.controller.firstSeen id = some t → s.sessions id = some b →
    b ≤ t ∨ ⟨id, .succeeded⟩ ∈ s.graduations
  stamped : ∀ insts now, s.scanning = some (insts, some now) → now ≤ s.clock ∧
    ∀ id b, lists insts id = true → s.sessions id = some b → b ≤ now
  launched : ∀ id, ⟨id, .launched⟩ ∈ s.graduations →
    ∀ b, s.sessions id = some b → cfg.minSessionAge ≤ s.clock - b

/-- What is started has soaked. -/
theorem soaked_of_scan {c : Controller} {insts : List Instance} {target : String} {now : Int}
    {inst : Instance} (h : inst ∈ (c.scan cfg insts target now).2) :
    lists insts inst.id = true ∧ inst.id ∉ c.inFlight ∧
      cfg.minSessionAge ≤ now - (c.firstSeen inst.id).getD now ∧
      ∀ failed ∈ c.lastFailure inst.id, failureBackoff ≤ now - failed := by
  have hmem := ((launch_spec cfg _ _).1 inst h).1
  simp only [Controller.selectCandidatesLocked, List.mem_map, List.mem_insertionSort,
    List.mem_filterMap] at hmem
  obtain ⟨_, ⟨i, -, hsoaked⟩, rfl⟩ := hmem
  simp only [Controller.soaked, Controller.observe] at hsoaked
  cases hlists : lists insts i.id with
  | false => simp [hlists] at hsoaked
  | true =>
    simp only [hlists, if_true] at hsoaked
    split at hsoaked
    · cases hsoaked
    next hage =>
    split at hsoaked
    · cases hsoaked
    next hfree =>
    split at hsoaked
    · cases hsoaked
    next hfailed =>
      cases hsoaked
      exact ⟨hlists, hfree, not_lt.mp hage, by simpa using hfailed⟩

/-- Sessions end, or begin where the controller has forgotten the one before. -/
theorem Aged.sessions (h : Aged cfg s) {sessions : String → Option Int}
    (hsessions : ∀ id b, sessions id = some b → s.sessions id = some b ∨
      b = s.clock ∧ Noticed (s, f) (.bind id)) : Aged cfg { s with sessions := sessions } where
  began id b hb := by
    rcases hsessions id b hb with hold | ⟨rfl, -⟩
    · exact h.began id b hold
    · exact le_rfl
  seen id t b ht hb := by
    rcases hsessions id b hb with hold | ⟨-, hseen, -⟩
    · exact h.seen id t b ht hold
    · exact .inr (hseen.resolve_left fun hnone => nomatch hnone.symm.trans ht)
  stamped insts now hscan := by
    refine ⟨(h.stamped insts now hscan).1, fun id b hlists hb => ?_⟩
    rcases hsessions id b hb with hold | ⟨-, -, hscanned, -⟩
    · exact (h.stamped insts now hscan).2 id b hlists hold
    · simp [hscanned _ hscan rfl] at hlists
  launched id hid b hb := by
    rcases hsessions id b hb with hold | ⟨-, -, -, hnot⟩
    · exact h.launched id hid b hold
    · exact absurd hid hnot

/-- A graduation goes on from a phase in which the age of its session does not matter any more. -/
theorem Aged.advance (h : Aged cfg s) {id : String} {p q : Phase} (hp : p ≠ .succeeded)
    (hq : q ≠ .launched) : Aged cfg { s with graduations := advance s.graduations id p q } where
  began := h.began
  seen i t b ht hb := (h.seen i t b ht hb).imp_right fun hmem => by grind
  stamped := h.stamped
  launched i hi := h.launched i (by grind)

theorem Aged.step (h : Aged cfg s) (hc : Counted cfg s) (hok : Noticed (s, f) e)
    (hs : s.step cfg e = some s') : Aged cfg s' := by
  cases e with
  | tick clock =>
    obtain ⟨hle, ⟨⟩⟩ := Option.ite_none_right_eq_some.mp hs
    refine ⟨fun id b hb => (h.began id b hb).trans hle, h.seen, fun insts now hscan => ?_,
      fun id hid b hb => (h.launched id hid b hb).trans (by simpa using hle)⟩
    exact ⟨(h.stamped insts now hscan).1.trans hle, (h.stamped insts now hscan).2⟩
  | bind id =>
    obtain ⟨-, ⟨⟩⟩ := Option.ite_none_right_eq_some.mp hs
    refine h.sessions (f := f) fun i b hb => ?_
    grind [Function.update_apply]
  | unbind id =>
    cases hs
    exact h.sessions (f := f) fun i b hb => .inl (by grind [Function.update_apply])
  | list insts =>
    obtain ⟨-, ⟨⟩⟩ := Option.ite_none_right_eq_some.mp hs
    exact ⟨h.began, h.seen, by simp, h.launched⟩
  | readClock =>
    simp only [State.step] at hs
    split at hs
    · cases hs
      refine ⟨h.began, h.seen, ?_, h.launched⟩
      rintro _ _ ⟨⟩
      exact ⟨le_rfl, fun id b _ => h.began id b⟩
    · cases hs
  | scan target =>
    simp only [State.step] at hs
    split at hs
    next insts now hscan =>
      obtain ⟨hnow, hlisted⟩ := h.stamped insts now hscan
      cases hs
      refine ⟨h.began, fun id t b ht hb => ?_, by simp, fun id hid b hb => ?_⟩
      · obtain ⟨hlists, ht⟩ := Option.ite_none_right_eq_some.mp ht
        obtain rfl := Option.some.inj ht
        cases hseen : s.controller.firstSeen id with
        | none => exact .inl (hlisted id b hlists hb)
        | some t => exact (h.seen id t b hseen hb).imp_right (List.mem_append_left _)
      · rcases List.mem_append.mp hid with hold | hnew
        · exact h.launched id hold b hb
        · obtain ⟨inst, hinst, heq⟩ := List.mem_map.mp hnew
          cases heq
          obtain ⟨hlists, hfree, hage, -⟩ := soaked_of_scan hinst
          have hfresh := hlisted inst.id b hlists hb
          have hnot : ⟨inst.id, .succeeded⟩ ∉ s.graduations := fun hmem => hfree (hc.mem hmem)
          change cfg.minSessionAge ≤ s.clock - b
          cases hseen : s.controller.firstSeen inst.id with
          | none =>
            rw [hseen, Option.getD_none] at hage
            omega
          | some t =>
            rw [hseen, Option.getD_some] at hage
            have hle := (h.seen inst.id t b hseen hb).resolve_right hnot
            omega
    · cases hs
  | call id =>
    obtain ⟨-, ⟨⟩⟩ := Option.ite_none_right_eq_some.mp hs
    exact h.advance (by simp) (by simp)
  | returned id ok =>
    obtain ⟨-, ⟨⟩⟩ := Option.ite_none_right_eq_some.mp hs
    have hq : Phase.result ok ≠ .launched := by cases ok <;> simp [Phase.result]
    refine (h.advance (by simp) hq).sessions (f := f) fun i b hb => .inl ?_
    grind [Function.update_apply]
  | record id ok =>
    obtain ⟨-, ⟨⟩⟩ := Option.ite_none_right_eq_some.mp hs
    refine ⟨h.began, ?_, h.stamped, fun i hi => h.launched i ?_⟩
    · have hold := h.seen
      grind [Function.update_apply, Phase.result]
    · grind
  | leave id =>
    obtain ⟨-, ⟨⟩⟩ := Option.ite_none_right_eq_some.mp hs
    have hold := h.seen
    exact ⟨h.began, by grind, h.stamped, fun i hi => h.launched i (List.mem_of_mem_erase hi)⟩

/-- The failures of the history are known to the controller, or about to be recorded. -/
structure Paused (x : State × (String → Option Int)) : Prop where
  known : ∀ id t, x.2 id = some t → t ≤ x.1.clock ∧
    (∀ insts ∈ x.1.scanning.map (·.1), lists insts id = true) ∧
      ((∃ t' ∈ x.1.controller.lastFailure id, t ≤ t') ∨ ⟨id, .failed⟩ ∈ x.1.graduations)
  launched : ∀ id, ⟨id, .launched⟩ ∈ x.1.graduations →
    ∀ t, x.2 id = some t → failureBackoff ≤ x.1.clock - t
  succeeded : ∀ id, ⟨id, .succeeded⟩ ∈ x.1.graduations → x.2 id = none

/-- Time passes, sessions and phases of graduations change, and no failure is forgotten. -/
theorem Paused.of_state (h : Paused (s, f)) (hclock : s.clock ≤ s'.clock)
    (hscan : s'.scanning.map (·.1) = s.scanning.map (·.1))
    (hlast : s'.controller.lastFailure = s.controller.lastFailure)
    (hfailed : ∀ id, ⟨id, .failed⟩ ∈ s.graduations → ⟨id, .failed⟩ ∈ s'.graduations)
    (hrest : ∀ id p, p ≠ .running → p ≠ .leaving → ⟨id, p⟩ ∈ s'.graduations →
      ⟨id, p⟩ ∈ s.graduations) : Paused (s', f) where
  known id t ht := by
    obtain ⟨hle, hlists, hlast'⟩ := h.known id t ht
    exact ⟨hle.trans hclock, hscan ▸ hlists, hlast ▸ hlast'.imp_right (hfailed id)⟩
  launched id hid t ht :=
    (h.launched id (hrest id _ (by simp) (by simp) hid) t ht).trans (by simpa using hclock)
  succeeded id hid := h.succeeded id (hrest id _ (by simp) (by simp) hid)

theorem Paused.step (h : Paused (s, f)) (hc : Counted cfg s) (ha : Aged cfg s)
    (hok : Noticed (s, f) e) (hs : s.step cfg e = some s') : Paused (s', failures f s e s') := by
  cases e with
  | tick clock =>
    obtain ⟨hle, ⟨⟩⟩ := Option.ite_none_right_eq_some.mp hs
    exact h.of_state hle rfl rfl (fun _ hid => hid) fun _ _ _ _ hid => hid
  | bind id =>
    obtain ⟨-, ⟨⟩⟩ := Option.ite_none_right_eq_some.mp hs
    exact h.of_state le_rfl rfl rfl (fun _ hid => hid) fun _ _ _ _ hid => hid
  | unbind id =>
    cases hs
    exact h.of_state le_rfl rfl rfl (fun _ hid => hid) fun _ _ _ _ hid => hid
  | list insts =>
    obtain ⟨-, ⟨⟩⟩ := Option.ite_none_right_eq_some.mp hs
    refine ⟨fun id t ht => ?_, fun id hid t ht => ?_, fun id hid => ?_⟩
    · obtain ⟨hlists, ht⟩ := Option.ite_none_right_eq_some.mp ht
      obtain ⟨hle, -, hlast⟩ := h.known id t ht
      refine ⟨hle, ?_, hlast⟩
      rintro _ ⟨⟩
      exact hlists
    · exact h.launched id hid t (Option.ite_none_right_eq_some.mp ht).2
    · have hnone : f id = none := h.succeeded id hid
      simp [failures, hnone]
  | readClock =>
    simp only [State.step] at hs
    split at hs
    next insts hscan =>
      cases hs
      exact h.of_state le_rfl (by simp [hscan]) rfl (fun _ hid => hid) fun _ _ _ _ hid => hid
    · cases hs
  | scan target =>
    simp only [State.step] at hs
    split at hs
    next insts now hscan =>
      cases hs
      refine ⟨fun id t ht => ?_, fun id hid t ht => ?_, fun id hid => h.succeeded id (by grind)⟩
      · obtain ⟨hle, hlists, hlast⟩ := h.known id t ht
        have hlisted : lists insts id = true := hlists insts (by simp [hscan])
        refine ⟨hle, by simp, hlast.imp (fun hlast => ?_) fun hmem => List.mem_append_left _ hmem⟩
        simpa [Controller.scan, Controller.observe, hlisted] using hlast
      · rcases List.mem_append.mp hid with hold | hnew
        · exact h.launched id hold t ht
        · obtain ⟨inst, hinst, heq⟩ := List.mem_map.mp hnew
          cases heq
          obtain ⟨-, hfree, -, hpause⟩ := soaked_of_scan hinst
          obtain ⟨-, -, ⟨t', ht', hle⟩ | hfailed⟩ := h.known inst.id t ht
          · have hstamp := (ha.stamped insts now hscan).1
            have hage := hpause t' ht'
            simp only at hle ⊢
            omega
          · exact absurd (hc.mem hfailed) hfree
    · cases hs
  | call id =>
    obtain ⟨-, ⟨⟩⟩ := Option.ite_none_right_eq_some.mp hs
    exact h.of_state le_rfl rfl rfl (by grind) (by grind)
  | returned id ok =>
    obtain ⟨hmem, ⟨⟩⟩ := Option.ite_none_right_eq_some.mp hs
    let result := if ok then none else some s.clock
    have hself : Function.update f id result id = result := Function.update_self id result f
    have hnew (i : String) (hne : i ≠ id) : Function.update f id result i = f i :=
      Function.update_of_ne hne result f
    -- another graduation is where it was, and this one is back
    refine ⟨fun i t ht => ?_, fun i hi t ht => ?_, fun i hi => ?_⟩
    · by_cases heq : i = id
      · subst heq
        have ht : (if ok then none else some s.clock) = some t := hself.symm.trans ht
        cases ok with
        | true => cases ht
        | false =>
          cases ht
          exact ⟨le_rfl, hok, .inr (mem_advance.mpr (.inr ⟨rfl, rfl, hmem⟩))⟩
      · obtain ⟨hle, hlists, hlast⟩ := h.known i t ((hnew i heq).symm.trans ht)
        refine ⟨hle, hlists, hlast.imp_right fun hfailed => ?_⟩
        exact mem_advance.mpr (.inl ⟨hfailed, fun h => absurd h heq⟩)
    · rcases mem_advance.mp hi with ⟨hold, hne⟩ | ⟨-, hresult, -⟩
      · have heq : i ≠ id := fun heq => hne heq (hc.phase_eq hold (heq ▸ hmem))
        exact h.launched i hold t ((hnew i heq).symm.trans ht)
      · cases ok <;> cases hresult
    · rcases mem_advance.mp hi with ⟨hold, hne⟩ | ⟨rfl, hresult, -⟩
      · have heq : i ≠ id := fun heq => hne heq (hc.phase_eq hold (heq ▸ hmem))
        exact (hnew i heq).trans (h.succeeded i hold)
      · cases ok with
        | true => exact hself
        | false => cases hresult
  | record id ok =>
    obtain ⟨hmem, ⟨⟩⟩ := Option.ite_none_right_eq_some.mp hs
    have hbefore {i : String} {p : Phase} (hp : p ≠ .leaving)
        (hi : ⟨i, p⟩ ∈ advance s.graduations id (.result ok) .leaving) :
        ⟨i, p⟩ ∈ s.graduations :=
      (mem_advance.mp hi).elim (·.1) fun h => absurd h.2.1 hp
    refine ⟨fun i t ht => ?_, fun i hi => h.launched i (hbefore (by simp) hi),
      fun i hi => h.succeeded i (hbefore (by simp) hi)⟩
    obtain ⟨hle, hlists, hlast⟩ := h.known i t ht
    refine ⟨hle, hlists, ?_⟩
    by_cases heq : i = id
    · subst heq
      cases ok with
      | true => cases (h.succeeded i hmem).symm.trans ht
      | false => exact .inl ⟨s.clock, Function.update_self i _ _, hle⟩
    · refine hlast.imp (fun hlast => ?_) fun hfailed => ?_
      · simpa [Function.update_of_ne heq] using hlast
      · exact mem_advance.mpr (.inl ⟨hfailed, fun h => absurd h heq⟩)
  | leave id =>
    obtain ⟨-, ⟨⟩⟩ := Option.ite_none_right_eq_some.mp hs
    exact h.of_state le_rfl rfl rfl (by grind) fun _ _ _ _ => List.mem_of_mem_erase

/-! ## Whole runs -/

theorem Config.Normalize_pos (cfg : Config) : 0 ≤ cfg.Normalize.maxConcurrent := by
  simp only [Config.Normalize]
  split <;> omega

/-- **Graduations are few, one for an instance, of old sessions and not of instances that have just
failed**, in every run in which the controller notices the end of each session. -/
theorem graduation_bounds (cfg : Config) {x : State × (String → Option Int)}
    (h : (graduationSystem cfg).Reachable Noticed x) :
    (x.1.graduations.length : Int) ≤ cfg.Normalize.maxConcurrent ∧
      (x.1.graduations.map (·.id)).Nodup ∧
      ∀ id y, (graduationSystem cfg).step x (.call id) = some y →
        (∀ began, x.1.sessions id = some began →
          cfg.Normalize.minSessionAge ≤ x.1.clock - began) ∧
        ∀ failed, x.2 id = some failed → failureBackoff ≤ x.1.clock - failed := by
  have hinv : Counted cfg.Normalize x.1 ∧ Aged cfg.Normalize x.1 ∧ Paused x := by
    refine h.invariant (I := fun x => Counted cfg.Normalize x.1 ∧ Aged cfg.Normalize x.1 ∧ Paused x)
      ?_ ?_
    · refine ⟨⟨List.nodup_nil, rfl, cfg.Normalize_pos⟩, ⟨?_, ?_, ?_, ?_⟩, ⟨?_, ?_, ?_⟩⟩ <;>
        simp [graduationSystem, System.monitored]
    · rintro ⟨s, f⟩ e ⟨s', f'⟩ ⟨hc, ha, hp⟩ hok hstep
      obtain ⟨hs, hf⟩ := System.monitored_step_iff.mp hstep
      dsimp only at hs hf
      subst hf
      exact ⟨hc.step hs, ha.step hc hok hs, hp.step hc ha hok hs⟩
  obtain ⟨hc, ha, hp⟩ := hinv
  refine ⟨?_, hc.nodup, fun id y hy => ?_⟩
  · have hcard := hc.limit
    rw [hc.inFlight, List.toFinset_card_of_nodup hc.nodup, List.length_map] at hcard
    exact hcard
  · have hmem : ⟨id, .launched⟩ ∈ x.1.graduations := by
      by_contra hnot
      simp [graduationSystem, System.monitored, State.step, hnot] at hy
    exact ⟨ha.launched id hmem, hp.launched id hmem⟩

def scanRun : List Event := [.list [⟨"vm", "v1"⟩], .readClock, .scan "v2"]

/-- A session is as old as the instance has been listed. -/
theorem graduation_bounds_once : ∃ x y, (graduationSystem ⟨0, 0⟩).Reachable Noticed x ∧
    (graduationSystem ⟨0, 0⟩).step x (.call "vm") = some y ∧
      ∀ began, x.1.sessions "vm" = some began → 10 * minute ≤ x.1.clock - began := by
  obtain ⟨x, hx, hstep⟩ := (graduationSystem ⟨0, 0⟩).exists_reachable_of_replay Noticed
    (fun x => ((graduationSystem ⟨0, 0⟩).step x (.call "vm")).isSome = true)
    (List.flatten [[.bind "vm"], scanRun, [.tick (10 * minute)], scanRun]) (by decide +kernel)
  obtain ⟨y, hy⟩ := Option.isSome_iff_exists.mp hstep
  exact ⟨x, y, hx, hy, ((graduation_bounds ⟨0, 0⟩ hx).2.2 "vm" y hy).1⟩

/-- The instance goes to standby and is restored between two scans, and its new session graduates
at once. -/
theorem graduation_of_new_session : ∃ x y, (graduationSystem ⟨0, 0⟩).Reachable System.Always x ∧
    (graduationSystem ⟨0, 0⟩).step x (.call "vm") = some y ∧
      x.1.sessions "vm" = some x.1.clock := by
  obtain ⟨x, hx, hstep, hage⟩ := (graduationSystem ⟨0, 0⟩).exists_reachable_of_replay System.Always
    (fun x => ((graduationSystem ⟨0, 0⟩).step x (.call "vm")).isSome = true ∧
      x.1.sessions "vm" = some x.1.clock)
    (List.flatten [[.bind "vm"], scanRun, [.tick (10 * minute), .unbind "vm", .bind "vm"], scanRun])
    (by decide +kernel)
  obtain ⟨y, hy⟩ := Option.isSome_iff_exists.mp hstep
  exact ⟨x, y, hx, hy, hage⟩

end Hypeman.UffdGraduate
