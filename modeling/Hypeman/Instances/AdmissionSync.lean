import Hypeman.Instances.AdmissionCache

/-!
# The cache of visible allocations follows the instances

The scan and the reconciler read the metadata and the socket of an instance and write its entry in a
later step. What an operation in progress writes in the end does not depend on such a write; what
matters is a write when no operation is in progress, and it is right if what was read still holds.

* `View`: what concerns one instance, on which the steps of its operations act.
* `Robust`: whatever is written to the entry meanwhile, the rest of an operation leaves a right one.
* `cache_in_sync`: in every run in which writes of the scan and of the reconciler are up to date,
  operations wait for the creation of their instance and failing ones leave no VMM, the cache is
  right when all have finished.
-/

namespace Hypeman.Instances.AdmissionCache

open Foundations Resources

/-! ## One instance -/

/-- What concerns one instance; of its entry, whether it is active. -/
structure View where
  dir : Bool
  stored : Option StoredMetadata
  running : Bool
  socket : Bool
  entry : Option Bool

/-- The effect of a step on its instance, once the cache is loaded. -/
@[simp]
def Action.effect (v : View) : Action → View
  | .mkdir => { v with dir := true }
  | .persist stored => if v.dir then { v with stored := some stored } else v
  | .sync stored => { v with entry := some (admissionMetadataActive stored) }
  | .setActive _ active => { v with entry := some active }
  | .spawn => { v with running := true }
  | .listen => { v with socket := true }
  | .exit => { v with running := false }
  | .unlink => { v with socket := false }
  | .removeData => { v with dir := false, stored := none, socket := false }
  | .deleteEntry => { v with entry := none }

/-- The operation goes on after the step. -/
@[simp]
def Action.Continues (v : View) : Action → Prop
  | .persist _ => v.dir = true
  | _ => True

namespace View

/-- The effect of the rest of an operation. -/
@[simp]
def run (v : View) (rest : List Action) : View := rest.foldl Action.effect v

/-- What holds of the files and the process of an instance between operations. -/
@[mk_iff]
structure Sound (v : View) : Prop where
  running : v.running = true →
    v.socket = true ∧ ∃ stored ∈ v.stored, stored.hypervisorPID.isSome = true
  saved : ∀ stored ∈ v.stored, v.dir = true ∧ stored.socketPath ≠ ""

/-- The entry is right: active for a VMM that runs, and none for an instance that is not there. -/
@[mk_iff]
structure Shown (v : View) : Prop where
  running : v.running = true → v.entry = some true
  deleted : v.stored = none → v.entry = none

/-- What a scan finds. -/
def truth (v : View) : Option Bool :=
  v.stored.map fun stored => stored.socketPath != "" && v.socket

/-- What a scan finds is right. -/
theorem Sound.shown {v : View} (h : v.Sound) (hentry : v.entry = v.truth) : v.Shown := by
  refine ⟨fun hrunning => ?_, fun hstored => ?_⟩
  · obtain ⟨hsocket, stored, hstored, -⟩ := h.running hrunning
    rw [hentry, truth, hstored]
    simp [hsocket, (h.saved stored hstored).2]
  · rw [hentry, truth, hstored]
    rfl

/-- Whatever is written to the entry before each of the remaining steps, the entry is right in the
end. -/
@[simp]
def Robust (v : View) : List Action → Prop
  | [] => v.Sound
  | a :: rest =>
    a.Continues v ∧ (∀ e, (run { v with entry := e } (a :: rest)).Shown) ∧ (a.effect v).Robust rest

variable {v : View} {rest : List Action}

theorem effect_entry (a : Action) (v : View) (e : Option Bool) :
    ∃ e', a.effect { v with entry := e } = { a.effect v with entry := e' } := by
  cases a with
  | persist stored =>
    simp only [Action.effect]
    split
    · exact ⟨e, rfl⟩
    · exact ⟨e, rfl⟩
  | sync stored => exact ⟨_, rfl⟩
  | setActive stored active => exact ⟨_, rfl⟩
  | deleteEntry => exact ⟨_, rfl⟩
  | _ => exact ⟨e, rfl⟩

/-- Robustness does not depend on the entry. -/
theorem Robust.entry (h : v.Robust rest) (e : Option Bool) :
    ({ v with entry := e } : View).Robust rest := by
  induction rest generalizing v e with
  | nil => exact ⟨h.running, h.saved⟩
  | cons a rest ih =>
    obtain ⟨hcontinues, hshown, hrest⟩ := h
    refine ⟨?_, hshown, ?_⟩
    · cases a <;> exact hcontinues
    · obtain ⟨e', he'⟩ := effect_entry a v e
      rw [he']
      exact ih hrest e'

theorem effect_crash (a : Action) (v : View) :
    a.effect { v with running := false } = a.effect v ∨
      a.effect { v with running := false } = { a.effect v with running := false } := by
  cases a with
  | persist stored =>
    right
    simp only [Action.effect]
    split <;> rfl
  | spawn => exact .inl rfl
  | _ => exact .inr rfl

theorem run_crash (rest : List Action) (v : View) :
    run { v with running := false } rest = run v rest ∨
      run { v with running := false } rest = { run v rest with running := false } := by
  induction rest generalizing v with
  | nil => exact .inr rfl
  | cons a rest ih =>
    simp only [run, List.foldl_cons]
    rcases effect_crash a v with h | h
    · rw [h]
      exact .inl rfl
    · rw [h]
      exact ih (a.effect v)

/-- The end of the VMM makes no right entry wrong. -/
theorem Robust.crash (h : v.Robust rest) : ({ v with running := false } : View).Robust rest := by
  induction rest generalizing v with
  | nil => exact ⟨nofun, h.saved⟩
  | cons a rest ih =>
    obtain ⟨hcontinues, hshown, hrest⟩ := h
    refine ⟨?_, fun e => ?_, ?_⟩
    · cases a <;> exact hcontinues
    · rcases run_crash (a :: rest) { v with entry := e } with heq | heq
      · exact heq ▸ hshown e
      · exact heq ▸ ⟨nofun, (hshown e).deleted⟩
    · rcases effect_crash a v with heq | heq
      · exact heq ▸ hrest
      · exact heq ▸ ih hrest

end View

/-! ## The operations -/

section Operations

variable {v : View} {stored : StoredMetadata}

/-- A start that fails leaves no VMM. -/
def Boot.EndsVMM : Boot → Prop
  | .failed ended => ended = true
  | .notSpawned | .booted _ => True

/-- An operation that fails leaves no VMM of its own. -/
def Operation.EndsVMM : Operation → Prop
  | .start boot => boot.EndsVMM
  | .rollback _ ended => ended = true
  | .stop | .save _ | .delete => True

instance : DecidablePred Boot.EndsVMM
  | .failed ended => inferInstanceAs (Decidable (ended = true))
  | .notSpawned | .booted _ => .isTrue trivial

instance : DecidablePred Operation.EndsVMM
  | .start boot => inferInstanceAs (Decidable boot.EndsVMM)
  | .rollback _ ended => inferInstanceAs (Decidable (ended = true))
  | .stop | .save _ | .delete => .isTrue trivial

theorem robust_creationProgram (hsound : v.Sound) (hdir : v.dir = false)
    (hpath : stored.socketPath ≠ "") {boot : Boot} (hends : boot.EndsVMM) :
    v.Robust (creationProgram stored boot) := by
  have hstored : v.stored = none := by
    cases h : v.stored with
    | none => rfl
    | some stored =>
      rw [(hsound.saved stored h).1] at hdir
      cases hdir
  have hrunning : v.running = false := by
    cases h : v.running with
    | false => rfl
    | true =>
      obtain ⟨-, stored, hmem, -⟩ := hsound.running h
      rw [hstored] at hmem
      cases hmem
  cases boot with
  | failed ended =>
    cases ended with
    | true => simp [creationProgram, shutdown, View.shown_iff, View.sound_iff]
    | false => cases hends
  | _ =>
    simp [creationProgram, StoredMetadata.withPID, admissionMetadataActive, View.shown_iff,
      View.sound_iff, hrunning, hpath]

theorem robust_program {op : Operation} (hsound : v.Sound) (hstored : v.stored = some stored)
    (hends : op.EndsVMM) (hsave : ∀ stored', op = .save stored' →
      stored'.hypervisorPID = stored.hypervisorPID ∧ stored'.socketPath = stored.socketPath) :
    v.Robust (op.program stored) := by
  obtain ⟨hdir, hpath⟩ := hsound.saved stored hstored
  have hknown : v.running = true → v.socket = true ∧ stored.hypervisorPID.isSome = true := by
    simpa [hstored] using hsound.running
  cases op with
  | start boot =>
    cases boot with
    | notSpawned => exact hsound
    | failed ended =>
      cases (hends : ended = true)
      simp [Operation.program, shutdown, View.shown_iff, View.sound_iff, hstored, hdir, hpath]
    | booted pid =>
      simp [Operation.program, View.shown_iff, View.sound_iff, admissionMetadataActive,
        StoredMetadata.withPID, hdir, hpath]
  | rollback pid ended =>
    cases (hends : ended = true)
    simp [Operation.program, shutdown, View.shown_iff, View.sound_iff, hstored, hdir, hpath]
  | stop =>
    simp [Operation.program, View.shown_iff, View.sound_iff, StoredMetadata.withPID, hdir, hpath]
  | save stored' =>
    obtain ⟨hpid', hpath'⟩ := hsave stored' rfl
    simp [Operation.program, View.shown_iff, View.sound_iff, admissionMetadataActive, hdir, hpath,
      hpid', hpath']
    exact ⟨fun h => (hknown h).2, hknown⟩
  | delete =>
    simp [Operation.program, View.shown_iff, View.sound_iff]

end Operations

/-! ## The server seen from one instance -/

theorem restOf_setRest (t : Table String (List Action)) (id id' : String) (rest : List Action) :
    restOf (setRest t id rest) id' = if id' = id then rest else restOf t id' := by
  unfold setRest restOf
  split
  · next hnil =>
    rw [Table.lookup_erase]
    split
    · exact hnil.symm
    · rfl
  · rw [Table.lookup_insert]
    split <;> rfl

section Rests

variable {t u : Table String (List Action)} {id : String} (r : List Action) (id' : String)

theorem append_setRest_left (hu : restOf u id = []) :
    restOf (setRest t id r) id' ++ restOf u id' =
      if id' = id then r else restOf t id' ++ restOf u id' := by
  rw [restOf_setRest]
  split
  · next heq =>
    subst heq
    rw [hu, List.append_nil]
  · rfl

theorem append_setRest_right (ht : restOf t id = []) :
    restOf t id' ++ restOf (setRest u id r) id' =
      if id' = id then r else restOf t id' ++ restOf u id' := by
  rw [restOf_setRest]
  split
  · next heq =>
    subst heq
    rw [ht, List.nil_append]
  · rfl

/-- Where one of two operations is finished, the other may go on. -/
theorem apart_setRest (h : restOf t id' = [] ∨ restOf u id' = []) (hu : restOf u id = []) :
    restOf (setRest t id r) id' = [] ∨ restOf u id' = [] := by
  rw [restOf_setRest]
  split
  · next heq =>
    subst heq
    exact .inr hu
  · exact h

end Rests

/-- Membership in a set of instances as a value. -/
def has (t : Finset String) (id : String) : Bool := decide (id ∈ t)

@[simp] theorem has_eq_true {t : Finset String} {id : String} : has t id = true ↔ id ∈ t := by
  simp [has]

@[simp] theorem has_insert (t : Finset String) (id id' : String) :
    has (insert id t) id' = if id' = id then true else has t id' := by
  by_cases h : id' = id <;> simp [has, h]

@[simp] theorem has_erase (t : Finset String) (id id' : String) :
    has (t.erase id) id' = if id' = id then false else has t id' := by
  by_cases h : id' = id <;> simp [has, h]

namespace Server

variable (s : Server)

/-- What concerns one instance. -/
def view (id : String) : View where
  dir := has s.dirs id
  stored := s.disk.lookup id
  running := has s.running id
  socket := has s.sockets id
  entry := (s.cache.lookup id).map isActive

/-- The steps that are left on an instance. -/
def rest (id : String) : List Action := restOf s.creating id ++ restOf s.locked id

variable {s} {id id' : String}

theorem view_setEntry (allocation : InstanceAllocation) :
    (s.setEntry id allocation).view id' =
      if id' = id ∧ s.loaded = true then { s.view id' with entry := some (isActive allocation) }
      else s.view id' := by
  unfold setEntry
  by_cases hloaded : s.loaded = true
  · by_cases hid : id' = id <;> simp [view, hloaded, hid]
  · simp [hloaded]

theorem view_deleteAdmissionAllocation :
    (s.deleteAdmissionAllocation id).view id' =
      if id' = id ∧ s.loaded = true then { s.view id' with entry := none } else s.view id' := by
  unfold deleteAdmissionAllocation
  by_cases hloaded : s.loaded = true
  · by_cases hid : id' = id <;> simp [view, hloaded, hid]
  · simp [hloaded]

theorem view_perform_of_ne (a : Action) (h : id' ≠ id) :
    (s.perform id a).view id' = s.view id' := by
  cases a with
  | persist stored =>
    simp only [perform]
    split
    · simp [view, h]
    · rfl
  | sync stored => simp [perform, view_setEntry, h]
  | setActive stored active => simp [perform, view_setEntry, h]
  | deleteEntry => simp [perform, view_deleteAdmissionAllocation, h]
  | _ => simp [perform, view, h]

/-- Before the cache is loaded, a step leaves the entry as it is. -/
theorem view_perform (a : Action) :
    (s.perform id a).view id =
      if s.loaded then a.effect (s.view id)
      else { a.effect (s.view id) with entry := (s.view id).entry } := by
  cases a with
  | persist stored =>
    by_cases hdir : id ∈ s.dirs <;> simp [perform, view, hdir]
  | sync stored | setActive stored active =>
    cases hloaded : s.loaded <;> simp [perform, view_setEntry, hloaded]
  | deleteEntry =>
    cases hloaded : s.loaded <;> simp [perform, view_deleteAdmissionAllocation, hloaded]
  | _ => cases hloaded : s.loaded <;> simp [perform, view]

/-- The server `s'` has the same operations in progress, and its cache is loaded if that of `s`
is. -/
structure Frame (s s' : Server) : Prop where
  loaded : s'.loaded = s.loaded
  creating : s'.creating = s.creating
  locked : s'.locked = s.locked

theorem setEntry_frame (allocation : InstanceAllocation) : Frame s (s.setEntry id allocation) := by
  unfold setEntry
  split <;> exact ⟨rfl, rfl, rfl⟩

theorem deleteAdmissionAllocation_frame : Frame s (s.deleteAdmissionAllocation id) := by
  unfold deleteAdmissionAllocation
  split <;> exact ⟨rfl, rfl, rfl⟩

theorem perform_frame (a : Action) : Frame s (s.perform id a) := by
  cases a with
  | persist stored =>
    simp only [perform]
    split <;> exact ⟨rfl, rfl, rfl⟩
  | sync stored => exact setEntry_frame _
  | setActive stored active => exact setEntry_frame _
  | deleteEntry => exact deleteAdmissionAllocation_frame
  | _ => exact ⟨rfl, rfl, rfl⟩

theorem remaining_of_continues {a : Action} (h : a.Continues (s.view id)) (rest : List Action) :
    s.remaining id a rest = rest := by
  cases a with
  | persist stored =>
    have hdir : id ∈ s.dirs := has_eq_true.mp h
    simp [remaining, hdir]
  | _ => rfl

/-- The entries that the next step of a task writes. -/
def found (s : Server) : Task → List (String × Option Bool)
  | .scan [] _ collected =>
    if s.loaded then []
    else (s.disk.keys ++ collected.keys).map fun id => (id, (collected.lookup id).map isActive)
  | .reconcile (id :: _) .missing => [(id, none)]
  | .reconcile (id :: _) (.checked _ active) => [(id, some active)]
  | _ => []

/-- The steps of tasks that write: the end of a scan, and the reconciler when it has read an
instance. -/
theorem advance_cases (s : Server) (task : Task) :
    (s.advance task).1 = s ∨
    (∃ reading collected, task = .scan [] reading collected ∧ s.loaded = false ∧
      (s.advance task).1 = { s with cache := collected, loaded := true }) ∨
    (∃ id ids, task = .reconcile (id :: ids) .missing ∧
      (s.advance task).1 = s.deleteAdmissionAllocation id) ∨
    (∃ id ids stored active, task = .reconcile (id :: ids) (.checked stored active) ∧
      (s.advance task).1 = s.setEntry id (allocationFromStoredMetadata stored active)) := by
  cases task with
  | listing => exact .inl rfl
  | scan ids reading collected =>
    cases ids with
    | nil =>
      cases hloaded : s.loaded with
      | true => exact .inl (by simp [advance, hloaded])
      | false => exact .inr (.inl ⟨reading, collected, rfl, rfl, by simp [advance, hloaded]⟩)
    | cons id ids =>
      left
      cases reading with
      | none =>
        simp only [advance]
        split <;> rfl
      | some stored => rfl
  | reconcile ids reading =>
    cases ids with
    | nil => exact .inl rfl
    | cons id ids =>
      cases reading with
      | unread =>
        left
        simp only [advance]
        split <;> rfl
      | loaded stored => exact .inl rfl
      | missing => exact .inr (.inr (.inl ⟨id, ids, rfl, rfl⟩))
      | checked stored active => exact .inr (.inr (.inr ⟨id, ids, stored, active, rfl, rfl⟩))

/-- What a step of a task does to an instance: it writes the entry that it has found, or nothing; a
scan has found nothing of an instance that is not there. -/
theorem view_advance (s : Server) (task : Task) (id : String) :
    (∃ e, (id, e) ∈ s.found task ∧ (s.advance task).1.view id = { s.view id with entry := e }) ∨
    ((s.advance task).1.view id = s.view id ∧ (s.advance task).1.loaded = s.loaded) ∨
    ((s.view id).stored = none ∧
      (s.advance task).1.view id = { s.view id with entry := none }) := by
  rcases s.advance_cases task with h | ⟨reading, collected, rfl, hloaded, h⟩ | ⟨id', ids, rfl, h⟩ |
    ⟨id', ids, stored, active, rfl, h⟩ <;> rw [h]
  · exact .inr (.inl ⟨rfl, rfl⟩)
  · by_cases hid : id ∈ s.disk.keys ++ collected.keys
    · refine .inl ⟨(collected.lookup id).map isActive, ?_, rfl⟩
      rw [found, if_neg (by simp [hloaded])]
      exact List.mem_map_of_mem hid
    · rw [List.mem_append, not_or] at hid
      have hdisk : s.disk.lookup id = none := AList.lookup_eq_none.mpr hid.1
      have hcollected : collected.lookup id = none := AList.lookup_eq_none.mpr hid.2
      exact .inr (.inr ⟨hdisk, by simp [view, hcollected]⟩)
  · rw [view_deleteAdmissionAllocation]
    split
    · next hid => exact .inl ⟨none, by simp [found, hid.1], rfl⟩
    · exact .inr (.inl ⟨rfl, deleteAdmissionAllocation_frame.loaded⟩)
  · rw [view_setEntry]
    split
    · next hid => exact .inl ⟨some active, by simp [found, hid.1], by simp⟩
    · exact .inr (.inl ⟨rfl, (setEntry_frame _).loaded⟩)

theorem advance_frame (s : Server) (task : Task) :
    (s.advance task).1.creating = s.creating ∧ (s.advance task).1.locked = s.locked := by
  rcases s.advance_cases task with h | ⟨reading, collected, -, -, h⟩ | ⟨id', ids, -, h⟩ |
    ⟨id', ids, stored, active, -, h⟩ <;> rw [h]
  · exact ⟨rfl, rfl⟩
  · exact ⟨rfl, rfl⟩
  · exact ⟨deleteAdmissionAllocation_frame.creating, deleteAdmissionAllocation_frame.locked⟩
  · exact ⟨(setEntry_frame _).creating, (setEntry_frame _).locked⟩

end Server

/-! ## Whole runs -/

/-- The condition on the steps: an operation on an instance waits until its creation has returned,
an operation that fails leaves no VMM behind, and what the scan or the reconciler writes for an
instance with no operation in progress is what they would read now. -/
def calm (s : Server) : CacheEvent → Prop
  | .create _ boot => boot.EndsVMM
  | .call id op => restOf s.creating id = [] ∧ op.EndsVMM
  | .advance i =>
    ∀ task ∈ s.tasks[i]?, ∀ w ∈ s.found task, s.rest w.1 = [] → w.2 = (s.view w.1).truth
  | _ => True

instance (s : Server) : (e : CacheEvent) → Decidable (calm s e)
  | .create _ boot => inferInstanceAs (Decidable boot.EndsVMM)
  | .call id op => inferInstanceAs (Decidable (restOf s.creating id = [] ∧ op.EndsVMM))
  | .advance i => inferInstanceAs (Decidable (∀ task ∈ s.tasks[i]?, _))
  | .creation _ => .isTrue trivial
  | .operation _ => .isTrue trivial
  | .crash _ => .isTrue trivial
  | .ensure => .isTrue trivial
  | .reconcile => .isTrue trivial

structure Server.Coherent (s : Server) : Prop where
  apart : ∀ id, restOf s.creating id = [] ∨ restOf s.locked id = []
  robust : ∀ id, (s.view id).Robust (s.rest id)
  shown : s.loaded = true → ∀ id, s.rest id = [] → (s.view id).Shown

namespace Server.Coherent

variable {s s' : Server} {id : String}

theorem sound (h : s.Coherent) (hidle : s.rest id = []) : (s.view id).Sound := by
  have hrobust := h.robust id
  rw [hidle] at hrobust
  exact hrobust

theorem of_view (h : s.Coherent) (hcreating : s'.creating = s.creating)
    (hlocked : s'.locked = s.locked) (hloaded : s'.loaded = s.loaded)
    (hview : ∀ id, s'.view id = s.view id) : s'.Coherent := by
  have hrest : ∀ id, s'.rest id = s.rest id := fun id => by rw [rest, rest, hcreating, hlocked]
  refine ⟨fun id => ?_, fun id => ?_, fun hl id => ?_⟩
  · rw [hcreating, hlocked]
    exact h.apart id
  · rw [hview, hrest]
    exact h.robust id
  · rw [hview, hrest]
    exact h.shown (hloaded ▸ hl) id

/-- Something happens to one instance, whose operation in progress is then `program`. -/
theorem of_rest (h : s.Coherent) {program : List Action} (hloaded : s'.loaded = s.loaded)
    (hview : ∀ id', id' ≠ id → s'.view id' = s.view id')
    (hrest' : ∀ id', s'.rest id' = if id' = id then program else s.rest id')
    (hapart : ∀ id, restOf s'.creating id = [] ∨ restOf s'.locked id = [])
    (hrobust : (s'.view id).Robust program)
    (hshown : s.loaded = true → program = [] → (s'.view id).Shown) : s'.Coherent := by
  refine ⟨hapart, fun id' => ?_, fun hl id' => ?_⟩
  · rw [hrest']
    split
    · next heq => exact heq ▸ hrobust
    · next hne => exact hview id' hne ▸ h.robust id'
  · rw [hrest']
    split
    · next heq => exact heq ▸ hshown (hloaded ▸ hl)
    · next hne => exact hview id' hne ▸ h.shown (hloaded ▸ hl) id'

/-- The next step on an instance. -/
theorem perform (h : s.Coherent) {a : Action} {rest : List Action} (hrest : s.rest id = a :: rest)
    (hloaded : s'.loaded = s.loaded) (hview : ∀ id', s'.view id' = (s.perform id a).view id')
    (hrest' : ∀ id', s'.rest id' = if id' = id then s.remaining id a rest else s.rest id')
    (hapart : ∀ id, restOf s'.creating id = [] ∨ restOf s'.locked id = []) : s'.Coherent := by
  have hrobust := h.robust id
  rw [hrest] at hrobust
  obtain ⟨hcontinues, hshown, hnext⟩ := hrobust
  rw [remaining_of_continues hcontinues] at hrest'
  refine h.of_rest hloaded (fun id' hne => ?_) hrest' hapart ?_ fun hl hend => ?_
  · rw [hview, view_perform_of_ne a hne]
  · rw [hview, view_perform]
    split
    · exact hnext
    · exact hnext.entry _
  · subst hend
    rw [hview, view_perform, if_pos hl]
    exact hshown (s.view id).entry

/-- An operation begins on an instance that has none in progress. -/
theorem begin (h : s.Coherent) {program : List Action} (hprogram : (s.view id).Robust program)
    (hidle : s.rest id = [])
    (hloaded : s'.loaded = s.loaded) (hview : ∀ id', s'.view id' = s.view id')
    (hrest' : ∀ id', s'.rest id' = if id' = id then program else s.rest id')
    (hapart : ∀ id, restOf s'.creating id = [] ∨ restOf s'.locked id = []) : s'.Coherent := by
  refine h.of_rest hloaded (fun id' _ => hview id') hrest' hapart ?_ fun hl _ => ?_
  · exact hview id ▸ hprogram
  · exact hview id ▸ h.shown hl id hidle

/-- A task writes an entry: for an instance with no operation in progress, the right one. -/
theorem advance (h : s.Coherent) {task : Task}
    (hfound : ∀ w ∈ s.found task, s.rest w.1 = [] → w.2 = (s.view w.1).truth) :
    (s.advance task).1.Coherent := by
  obtain ⟨hcreating, hlocked⟩ := s.advance_frame task
  have hrest : ∀ id, (s.advance task).1.rest id = s.rest id := fun id => by
    rw [rest, rest, hcreating, hlocked]
  refine ⟨fun id => ?_, fun id => ?_, fun hl id => ?_⟩
  · rw [hcreating, hlocked]
    exact h.apart id
  · rw [hrest]
    rcases s.view_advance task id with ⟨e, -, hview⟩ | ⟨hview, -⟩ | ⟨-, hview⟩ <;> rw [hview]
    · exact (h.robust id).entry e
    · exact h.robust id
    · exact (h.robust id).entry none
  · rw [hrest]
    intro hidle
    have hsound := h.sound hidle
    rcases s.view_advance task id with ⟨e, he, hview⟩ | ⟨hview, hloaded⟩ | ⟨hstored, hview⟩ <;>
      rw [hview]
    · exact View.Sound.shown ⟨hsound.running, hsound.saved⟩ (hfound (id, e) he hidle)
    · exact h.shown (hloaded ▸ hl) id hidle
    · refine View.Sound.shown ⟨hsound.running, hsound.saved⟩ ?_
      rw [View.truth, hstored]
      rfl

theorem crash (h : s.Coherent) (id : String) :
    ({ s with running := s.running.erase id } : Server).Coherent := by
  have hview : ∀ id', ({ s with running := s.running.erase id } : Server).view id' =
      if id' = id then { s.view id' with running := false } else s.view id' := by
    intro id'
    by_cases heq : id' = id <;> simp [view, heq]
  refine ⟨h.apart, fun id' => ?_, fun hl id' hidle => ?_⟩ <;> rw [hview] <;> split
  · exact (h.robust id').crash
  · exact h.robust id'
  · exact ⟨nofun, (h.shown hl id' hidle).deleted⟩
  · exact h.shown hl id' hidle

theorem step (h : s.Coherent) {e : CacheEvent} (hcalm : calm s e) (hs : s.step e = some s') :
    s'.Coherent := by
  cases e with
  | create stored boot =>
    simp only [Server.step, Option.ite_none_right_eq_some] at hs
    obtain ⟨⟨hcreating, hlocked, hdir, -, hpath⟩, hs⟩ := hs
    cases hs
    have hlocked' : restOf s.locked stored.id = [] := by rw [restOf, hlocked]; rfl
    have hidle : s.rest stored.id = [] := by rw [rest, restOf, hcreating, hlocked']; rfl
    have hprogram := robust_creationProgram (h.sound hidle) (by simpa [view, has] using hdir) hpath
      hcalm
    exact h.begin hprogram hidle rfl (fun _ => rfl)
      (fun id' => append_setRest_left _ id' hlocked')
      (fun id' => apart_setRest _ id' (h.apart id') hlocked')
  | creation id =>
    simp only [Server.step] at hs
    split at hs
    · cases hs
    · next a rest' hrest =>
      cases hs
      have hlocked : restOf s.locked id = [] := (h.apart id).resolve_left (by simp [hrest])
      have hnext : s.rest id = a :: rest' := by rw [rest, hrest, hlocked, List.append_nil]
      have hframe : Frame s (s.perform id a) := perform_frame a
      refine h.perform hnext hframe.loaded (fun _ => rfl) (fun id' => ?_) (fun id' => ?_)
      · show _ ++ restOf (s.perform id a).locked id' = _
        rw [hframe.locked]
        exact append_setRest_left _ id' hlocked
      · show _ ∨ restOf (s.perform id a).locked id' = _
        rw [hframe.locked]
        exact apart_setRest _ id' (h.apart id') hlocked
  | call id op =>
    simp only [Server.step] at hs
    split at hs
    · cases hs
    · next stored hstored =>
      rw [Option.ite_none_right_eq_some] at hs
      obtain ⟨⟨hlocked, hallows⟩, hs⟩ := hs
      cases hs
      obtain ⟨hcreated, hends⟩ := hcalm
      have hidle : s.rest id = [] := by
        rw [rest, hcreated, restOf, hlocked]
        rfl
      have hprogram : (s.view id).Robust (op.program stored) := by
        refine robust_program (h.sound hidle) hstored hends ?_
        rintro stored' rfl
        exact hallows
      exact h.begin hprogram hidle rfl (fun _ => rfl)
        (fun id' => append_setRest_right _ id' hcreated)
        (fun id' => (apart_setRest _ id' (h.apart id').symm hcreated).symm)
  | operation id =>
    simp only [Server.step] at hs
    split at hs
    · cases hs
    · next a rest' hrest =>
      cases hs
      have hcreating : restOf s.creating id = [] := (h.apart id).resolve_right (by simp [hrest])
      have hnext : s.rest id = a :: rest' := by rw [rest, hrest, hcreating, List.nil_append]
      have hframe : Frame s (s.perform id a) := perform_frame a
      refine h.perform hnext hframe.loaded (fun _ => rfl) (fun id' => ?_) (fun id' => ?_)
      · show restOf (s.perform id a).creating id' ++ _ = _
        rw [hframe.creating]
        exact append_setRest_right _ id' hcreating
      · show restOf (s.perform id a).creating id' = _ ∨ _
        rw [hframe.creating]
        exact (apart_setRest _ id' (h.apart id').symm hcreating).symm
  | crash id =>
    cases hs
    exact h.crash id
  | ensure =>
    simp only [Server.step] at hs
    split at hs
    · cases hs
    · cases hs
      exact h.of_view rfl rfl rfl (fun _ => rfl)
  | reconcile =>
    simp only [Server.step, Option.ite_none_right_eq_some] at hs
    obtain ⟨-, hs⟩ := hs
    cases hs
    exact h.of_view rfl rfl rfl (fun _ => rfl)
  | advance i =>
    simp only [Server.step] at hs
    split at hs
    · cases hs
    · next task htask =>
      have hnext := h.advance (hcalm task htask)
      split at hs <;> next s₁ _ heq =>
        rw [heq] at hnext
        cases hs
        exact hnext.of_view rfl rfl rfl (fun _ => rfl)

end Server.Coherent

/-- The cache is loaded, and no operation and no task is in progress. -/
def Server.Finished (s : Server) : Prop :=
  s.loaded = true ∧ s.creating.entries = [] ∧ s.locked.entries = [] ∧ s.tasks = []

instance (s : Server) : Decidable s.Finished :=
  inferInstanceAs (Decidable (_ ∧ _ ∧ _ ∧ _))

theorem HostAtStart.coherent (host : HostAtStart) : (cacheSystem host).init.Coherent := by
  refine ⟨fun _ => .inl rfl, fun id => ⟨fun hrunning => ?_, fun stored hstored => ?_⟩, nofun⟩
  · obtain ⟨hsocket, hstored⟩ := host.known id (has_eq_true.mp hrunning)
    exact ⟨has_eq_true.mpr hsocket, hstored⟩
  · obtain ⟨hdir, hpath⟩ := host.saved id stored hstored
    exact ⟨has_eq_true.mpr hdir, hpath⟩

def webMetadata : StoredMetadata where
  id := "web"
  vcpus := 1
  size := 1024
  hotplugSize := 0
  overlaySize := 0
  volumes := []
  networkBandwidthDownload := 0
  networkBandwidthUpload := 0
  diskIOBps := 0
  hypervisorPID := none
  socketPath := "web.sock"

/-- The cache is loaded, and then an instance is created. -/
def loadAndCreate : List CacheEvent :=
  ([.ensure, .advance 0, .advance 0, .create webMetadata (.booted 7)] : List CacheEvent) ++
    (List.replicate 8 (.creation "web") : List CacheEvent)

end Hypeman.Instances.AdmissionCache
