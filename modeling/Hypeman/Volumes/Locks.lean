import Hypeman.Foundations.System
import Hypeman.Volumes.Manager

/-!
# Concurrent calls of the volume manager

`CreateVolume`, `DeleteVolume`, `AttachVolume` and `DetachVolume` (`lib/volumes/manager.go`) in any
interleaving of their steps. The last three work under the lock of the volume, which they take from
a table of locks; `DeleteVolume` removes the lock from that table before it unlocks it, and
`CreateVolume` takes no lock.

* `Guarded`: the invariant. Whoever has read the metadata of a volume holds the lock of the table,
  and what it has read is what is stored.
* `attachments_exclusive`: the multi-attach rule over the attachments that were granted, in runs
  where no call works under a lock that has left the table, no creation runs into a volume and no
  failing write loses attachments.
* `waiter_attaches_again`: a call that waited for the lock of a deleted volume attaches the next
  volume of that id a second time.
-/

namespace Hypeman.Volumes

open Foundations

/-- The calls that take the lock of the volume. -/
inductive Operation
  | attach (req : Attachment)
  | detach (instanceID : String)
  | delete
deriving DecidableEq, Repr

/-- What the call does to the stored metadata once it has the lock. -/
def Operation.run (op : Operation) (volumes : VolumeTable) (id : String)
    (fails : Option WriteFailure) :
    Except VolumeError VolumeTable :=
  match op with
  | .attach req => AttachVolume volumes id req fails
  | .detach instanceID => DetachVolume volumes id instanceID fails
  | .delete => DeleteVolume volumes id fails

/-- A call in progress, by what it has done; locks are numbered. -/
inductive Call
  /-- `CreateVolume` has found no volume of this id. -/
  | creating (id : String)
  /-- The call has got the lock from the table and waits for it. -/
  | waiting (id : String) (op : Operation) (lock : ℕ)
  | locked (id : String) (op : Operation) (lock : ℕ)
  /-- The metadata is read. -/
  | loaded (id : String) (op : Operation) (lock : ℕ) (volume : Volume)
  /-- `DeleteVolume` has removed the volume. -/
  | removed (id : String) (lock : ℕ)
  /-- Only the deferred unlock is left. -/
  | returning (lock : ℕ)
deriving DecidableEq, Repr

def Call.holds : Call → Option ℕ
  | .locked _ _ lock | .loaded _ _ lock _ | .removed _ lock | .returning lock => some lock
  | .creating _ | .waiting _ _ _ => none

/-- The volume a call has read and not finished with, and the lock it holds for that. -/
def Call.works : Call → Option (String × ℕ)
  | .loaded id _ lock _ | .removed id lock => some (id, lock)
  | _ => none

/-- The metadata a call has read and will write back. -/
def Call.read : Call → Option (String × Volume)
  | .loaded id _ _ volume => some (id, volume)
  | _ => none

/-- Where a successful call goes on. -/
def Operation.after (op : Operation) (id : String) (lock : ℕ) : Call :=
  match op with
  | .delete => .removed id lock
  | .attach _ | .detach _ => .returning lock

abbrev CallTable := Table ℕ Call

/-- The volume manager and its calls; `made` counts the locks made so far. -/
structure Manager where
  volumes : VolumeTable
  volumeLocks : Table String ℕ
  made : ℕ
  calls : CallTable

/-- How `CreateVolume` ends after its first check. -/
inductive Creation
  /-- The new metadata is saved. -/
  | saved
  /-- The disk or the metadata could not be written: `deleteVolumeData`. -/
  | cleanedUp
  /-- The limit is exceeded, or the directory could not be made. -/
  | refused
deriving DecidableEq, Repr

/-- The stored volumes after the end of a `CreateVolume`. -/
def Creation.store (creation : Creation) (id : String) (volumes : VolumeTable) : VolumeTable :=
  match creation with
  | .saved => volumes.insert id ⟨[]⟩
  | .cleanedUp => volumes.erase id
  | .refused => volumes

/-- The steps of the calls; every call has a number of its own. -/
inductive Event
  /-- `CreateVolume` checks that the volume does not exist. -/
  | create (call : ℕ) (id : String)
  | finish (call : ℕ) (creation : Creation)
  /-- Another call starts: `getVolumeLock`. -/
  | start (call : ℕ) (id : String) (op : Operation)
  | lock (call : ℕ)
  /-- `loadMetadata`. -/
  | load (call : ℕ)
  /-- The checks on the metadata that was read, and `saveMetadata` or `deleteVolumeData`. -/
  | write (call : ℕ) (fails : Option WriteFailure)
  /-- `volumeLocks.Delete`. -/
  | forget (call : ℕ)
  | unlock (call : ℕ)
deriving DecidableEq, Repr

namespace Manager

def getVolumeLock (m : Manager) (id : String) : ℕ × Manager :=
  match m.volumeLocks.lookup id with
  | some lock => (lock, m)
  | none => (m.made, { m with volumeLocks := m.volumeLocks.insert id m.made, made := m.made + 1 })

def moves (m : Manager) (call : ℕ) (c : Call) : Manager :=
  { m with calls := m.calls.insert call c }

def step (m : Manager) : Event → Option Manager
  | .create call id =>
    if m.calls.lookup call ≠ none then none
    else match m.volumes.lookup id with
      | some _ => some m
      | none => some (m.moves call (.creating id))
  | .finish call creation =>
    match m.calls.lookup call with
    | some (.creating id) =>
      some { m with volumes := creation.store id m.volumes, calls := m.calls.erase call }
    | _ => none
  | .start call id op =>
    if m.calls.lookup call ≠ none then none
    else some ((m.getVolumeLock id).2.moves call (.waiting id op (m.getVolumeLock id).1))
  | .lock call =>
    match m.calls.lookup call with
    | some (.waiting id op lock) =>
      if m.calls.entries.all (fun e => e.2.holds != some lock) then
        some (m.moves call (.locked id op lock))
      else none
    | _ => none
  | .load call =>
    match m.calls.lookup call with
    | some (.locked id op lock) =>
      match m.volumes.lookup id with
      | some volume => some (m.moves call (.loaded id op lock volume))
      | none => some (m.moves call (.returning lock))
    | _ => none
  | .write call fails =>
    match m.calls.lookup call with
    | some (.loaded id op lock volume) =>
      -- the call works on the metadata it has read, whatever is stored by now
      match op.run (m.volumes.insert id volume) id fails with
      | .ok volumes => some { m.moves call (op.after id lock) with volumes }
      | .error err =>
        some { m.moves call (.returning lock) with volumes := err.leaves m.volumes id }
    | _ => none
  | .forget call =>
    match m.calls.lookup call with
    | some (.removed id lock) =>
      some { m.moves call (.returning lock) with volumeLocks := m.volumeLocks.erase id }
    | _ => none
  | .unlock call =>
    match m.calls.lookup call with
    | some (.returning _) => some { m with calls := m.calls.erase call }
    | _ => none

end Manager

/-- The attachments of each volume for which `AttachVolume` succeeded and `DetachVolume` did
not. -/
abbrev Granted := String → List Attachment

/-- The attachments after a successful call. -/
def Granted.after (granted : Granted) (id : String) : Operation → Granted
  | .attach req => Function.update granted id (granted id ++ [req])
  | .detach instanceID =>
    Function.update granted id ((granted id).filter (·.instanceID != instanceID))
  | .delete => granted

def Granted.next (granted : Granted) (m : Manager) (e : Event) (_ : Manager) : Granted :=
  match e with
  | .write call fails =>
    match m.calls.lookup call with
    | some (.loaded id op _ volume) =>
      match op.run (m.volumes.insert id volume) id fails with
      | .ok _ => granted.after id op
      | .error _ => granted
    | _ => granted
  | _ => granted

def manager : System Manager Event where
  init := { volumes := ∅, volumeLocks := ∅, made := 0, calls := ∅ }
  step := Manager.step

/-- The calls of the manager with the attachments they have granted. -/
def attachments : System (Manager × Granted) Event :=
  manager.monitored (fun _ => []) Granted.next

/-- A call that reads the metadata of a volume has the lock that the table holds for it, and a
creation that ends finds no volume of its id. -/
def Call.Current (m : Manager) : Call → Prop
  | .locked id _ lock => m.volumes.lookup id ≠ none → m.volumeLocks.lookup id = some lock
  | .creating id => m.volumes.lookup id = none
  | _ => True

instance (m : Manager) : DecidablePred (Call.Current m)
  | .locked id _ lock =>
    inferInstanceAs (Decidable (m.volumes.lookup id ≠ none → m.volumeLocks.lookup id = some lock))
  | .creating id => inferInstanceAs (Decidable (m.volumes.lookup id = none))
  | .waiting _ _ _ | .loaded _ _ _ _ | .removed _ _ | .returning _ =>
    inferInstanceAs (Decidable True)

/-- A call whose write fails does not lose the metadata of a volume with attachments. -/
def Call.Keeps (m : Manager) (failure : WriteFailure) : Call → Prop
  | .loaded id op _ volume => failure.lost = true →
    (op.run (m.volumes.insert id volume) id none).isOk = true → volume.attachments = []
  | _ => True

instance (m : Manager) (failure : WriteFailure) : DecidablePred (Call.Keeps m failure)
  | .loaded id op _ volume => inferInstanceAs (Decidable (failure.lost = true →
      (op.run (m.volumes.insert id volume) id none).isOk = true → volume.attachments = []))
  | .creating _ | .waiting _ _ _ | .locked _ _ _ | .removed _ _ | .returning _ =>
    inferInstanceAs (Decidable True)

/-- No call reads the metadata of a volume under a lock that has left the table, no creation ends
when a volume of its id has come to exist, and no failing write loses attachments. -/
def Current (x : Manager × Granted) : Event → Prop
  | .load call | .finish call _ => ∀ c ∈ x.1.calls.lookup call, c.Current x.1
  | .write call fails => ∀ failure ∈ fails, ∀ c ∈ x.1.calls.lookup call, c.Keeps x.1 failure
  | _ => True

instance (x : Manager × Granted) : DecidablePred (Current x)
  | .load call | .finish call _ =>
    inferInstanceAs (Decidable (∀ c ∈ x.1.calls.lookup call, c.Current x.1))
  | .write call fails => inferInstanceAs (Decidable
      (∀ failure ∈ fails, ∀ c ∈ x.1.calls.lookup call, c.Keeps x.1 failure))
  | .create _ _ | .start _ _ _ | .lock _ | .forget _ | .unlock _ =>
    inferInstanceAs (Decidable True)

/-! ## What the steps are -/

/-- The steps of the calls, case by case, with the attachments that are granted. -/
inductive Steps (m : Manager) (granted : Granted) : Event → Manager → Granted → Prop
  | exists {call : ℕ} {id : String} : Steps m granted (.create call id) m granted
  | check {call : ℕ} {id : String} : m.calls.lookup call = none →
      Steps m granted (.create call id) (m.moves call (.creating id)) granted
  | finish {call : ℕ} {creation : Creation} {id : String} :
      m.calls.lookup call = some (.creating id) →
      Steps m granted (.finish call creation)
        { m with volumes := creation.store id m.volumes, calls := m.calls.erase call } granted
  | start {call : ℕ} {id : String} {op : Operation} : m.calls.lookup call = none →
      Steps m granted (.start call id op)
        ((m.getVolumeLock id).2.moves call (.waiting id op (m.getVolumeLock id).1)) granted
  | lock {call : ℕ} {id : String} {op : Operation} {lock : ℕ} :
      m.calls.lookup call = some (.waiting id op lock) →
      (∀ k c, m.calls.lookup k = some c → c.holds ≠ some lock) →
      Steps m granted (.lock call) (m.moves call (.locked id op lock)) granted
  | load {call : ℕ} {id : String} {op : Operation} {lock : ℕ} {volume : Volume} :
      m.calls.lookup call = some (.locked id op lock) → m.volumes.lookup id = some volume →
      Steps m granted (.load call) (m.moves call (.loaded id op lock volume)) granted
  | missing {call : ℕ} {id : String} {op : Operation} {lock : ℕ} :
      m.calls.lookup call = some (.locked id op lock) →
      Steps m granted (.load call) (m.moves call (.returning lock)) granted
  | write {call : ℕ} {fails : Option WriteFailure} {id : String} {op : Operation} {lock : ℕ}
      {volume : Volume} {volumes : VolumeTable} :
      m.calls.lookup call = some (.loaded id op lock volume) →
      op.run (m.volumes.insert id volume) id fails = .ok volumes →
      Steps m granted (.write call fails) { m.moves call (op.after id lock) with volumes }
        (granted.after id op)
  | fail {call : ℕ} {fails : Option WriteFailure} {id : String} {op : Operation} {lock : ℕ}
      {volume : Volume} {err : VolumeError} :
      m.calls.lookup call = some (.loaded id op lock volume) →
      op.run (m.volumes.insert id volume) id fails = .error err →
      Steps m granted (.write call fails)
        { m.moves call (.returning lock) with volumes := err.leaves m.volumes id } granted
  | forget {call : ℕ} {id : String} {lock : ℕ} : m.calls.lookup call = some (.removed id lock) →
      Steps m granted (.forget call)
        { m.moves call (.returning lock) with volumeLocks := m.volumeLocks.erase id } granted
  | unlock {call lock : ℕ} : m.calls.lookup call = some (.returning lock) →
      Steps m granted (.unlock call) { m with calls := m.calls.erase call } granted

/-- Every step is one of these. -/
theorem attachments_steps {x y : Manager × Granted} {e : Event}
    (h : attachments.step x e = some y) : Steps x.1 x.2 e y.1 y.2 := by
  obtain ⟨m, granted⟩ := x
  obtain ⟨m', granted'⟩ := y
  obtain ⟨hstep, hgranted⟩ := System.monitored_step_iff.mp h
  simp only [manager] at hstep hgranted ⊢
  subst hgranted
  cases e with simp only [Manager.step] at hstep
  | create call id =>
    split at hstep
    · cases hstep
    next hfree =>
    split at hstep <;> cases hstep
    · exact .exists
    · exact .check (not_not.mp hfree)
  | finish call creation =>
    split at hstep
    next hcall =>
      cases hstep
      exact .finish hcall
    · cases hstep
  | start call id op =>
    split at hstep
    · cases hstep
    next hfree =>
      cases hstep
      exact .start (not_not.mp hfree)
  | lock call =>
    split at hstep
    next hcall =>
      split at hstep
      next hall =>
        cases hstep
        refine .lock hcall fun k c hk => ?_
        simpa using List.all_eq_true.mp hall ⟨k, c⟩ (AList.mem_lookup_iff.mp hk)
      · cases hstep
    · cases hstep
  | load call =>
    split at hstep
    next hcall =>
      split at hstep <;> cases hstep
      next hvolume => exact .load hcall hvolume
      · exact .missing hcall
    · cases hstep
  | write call fails =>
    split at hstep
    next hcall =>
      split at hstep <;> cases hstep
      next hrun =>
        simp only [Granted.next, hcall, hrun]
        exact .write hcall hrun
      next hrun =>
        simp only [Granted.next, hcall, hrun]
        exact .fail hcall hrun
    · cases hstep
  | forget call =>
    split at hstep
    next hcall =>
      cases hstep
      exact .forget hcall
    · cases hstep
  | unlock call =>
    split at hstep
    next hcall =>
      cases hstep
      exact .unlock hcall
    · cases hstep

/-! ## The invariant -/

/-- The attachments meet the multi-attach rule, and no instance is among them twice. -/
def Permitted (atts : List Attachment) : Prop :=
  (Volume.mk atts).Shareable ∧ (atts.map Attachment.instanceID).Nodup

theorem Permitted.nil : Permitted [] := ⟨.inl (Nat.zero_le _), List.nodup_nil⟩

def Exclusive (calls : CallTable) : Prop :=
  ∀ {k k' c c' lock}, calls.lookup k = some c → calls.lookup k' = some c' →
    c.holds = some lock → c'.holds = some lock → k = k'

/-- The attachments that are granted are those that are stored, and a call that has read a volume
holds the lock of the table and has read what is stored. -/
structure Guarded (m : Manager) (granted : Granted) : Prop where
  recorded : ∀ id, (m.volumes.lookup id).elim [] Volume.attachments = granted id
  permitted : ∀ id, Permitted (granted id)
  exclusive : Exclusive m.calls
  current : ∀ k c, m.calls.lookup k = some c →
    ∀ id lock, c.works = some (id, lock) → m.volumeLocks.lookup id = some lock
  read : ∀ k c, m.calls.lookup k = some c →
    ∀ id volume, c.read = some (id, volume) → m.volumes.lookup id = some volume

theorem Call.holds_of_works {c : Call} {id : String} {lock : ℕ} (h : c.works = some (id, lock)) :
    c.holds = some lock := by
  cases c <;> cases h <;> rfl

theorem Call.works_of_read {c : Call} {id : String} {volume : Volume}
    (h : c.read = some (id, volume)) : ∃ lock, c.works = some (id, lock) := by
  cases c with
  | loaded id op lock volume =>
    cases h
    exact ⟨lock, rfl⟩
  | _ => cases h

variable {m : Manager} {granted : Granted} {call : ℕ} {id : String}

theorem guarded_init : Guarded attachments.init.1 attachments.init.2 where
  recorded _ := rfl
  permitted _ := Permitted.nil
  exclusive := nofun
  current := nofun
  read := nofun

/-! ## The calls on the metadata they have read -/

theorem Permitted.attach {atts : List Attachment} {req : Attachment} (h : Permitted atts)
    (hall : ∀ att ∈ atts, att.readonly = true) (hmode : atts = [] ∨ req.readonly = true)
    (hfresh : ∀ att ∈ atts, att.instanceID ≠ req.instanceID) : Permitted (atts ++ [req]) := by
  constructor
  · rcases hmode with rfl | hreq
    · exact .inl (Nat.le_refl 1)
    · refine .inr fun att hatt => ?_
      rcases List.mem_append.mp hatt with hatt | hatt
      · exact hall att hatt
      · rw [List.mem_singleton.mp hatt]
        exact hreq
  · rw [List.map_append, List.nodup_append]
    refine ⟨h.2, List.nodup_singleton _, ?_⟩
    intro a ha b hb
    obtain ⟨att, hatt, rfl⟩ := List.mem_map.mp ha
    rw [List.mem_singleton.mp hb]
    exact hfresh att hatt

theorem Permitted.filter {atts : List Attachment} (h : Permitted atts) (p : Attachment → Bool) :
    Permitted (atts.filter p) := by
  constructor
  · rcases h.1 with hone | hall
    · exact .inl (Nat.le_trans (List.length_filter_le _ _) hone)
    · exact .inr fun att hatt => hall att (List.mem_of_mem_filter hatt)
  · exact h.2.sublist ((List.filter_sublist).map _)

/-- What a successful call stores, from the volume that it has read and whose attachments are the
granted ones. -/
theorem Operation.run_eq_ok {op : Operation} {volume : Volume} {fails : Option WriteFailure}
    {volumes : VolumeTable} (h : op.run (m.volumes.insert id volume) id fails = .ok volumes)
    (hvolume : volume.attachments = granted id) (hpermitted : Permitted (granted id)) :
    ∃ new, Table.Sets id new m.volumes volumes ∧ (new = none → granted id = []) ∧
      (∀ k, granted.after id op k =
        if k = id then new.elim [] Volume.attachments else granted k) ∧
      Permitted (new.elim [] Volume.attachments) := by
  have hlookup : (m.volumes.insert id volume).lookup id = some volume := by
    rw [Table.lookup_insert, if_pos rfl]
  have hread := Table.Sets.insert id volume m.volumes
  cases op with
  | attach req =>
    have hfresh := AttachVolume_fresh h hlookup
    obtain ⟨volume', hlookup', hall, hmode, rfl⟩ := AttachVolume_eq_ok h
    cases hlookup.symm.trans hlookup'
    refine ⟨some ⟨volume.attachments ++ [req]⟩, hread.trans (Table.Sets.insert _ _ _), nofun,
      fun k => ?_, ?_⟩
    · rw [hvolume]
      exact Function.update_apply ..
    · refine Permitted.attach (hvolume ▸ hpermitted) hall hmode fun att hatt heq => ?_
      exact hfresh ⟨att, hatt, heq⟩
  | detach instanceID =>
    obtain ⟨volume', hlookup', rfl⟩ := DetachVolume_eq_ok h
    cases hlookup.symm.trans hlookup'
    refine ⟨some ⟨volume.attachments.filter (·.instanceID != instanceID)⟩,
      hread.trans (Table.Sets.insert _ _ _), nofun, fun k => ?_, ?_⟩
    · rw [hvolume]
      exact Function.update_apply ..
    · exact Permitted.filter (hvolume ▸ hpermitted) _
  | delete =>
    obtain ⟨volume', hlookup', hempty, rfl⟩ := DeleteVolume_eq_ok h
    cases hlookup.symm.trans hlookup'
    have hnone : granted id = [] := hvolume.symm.trans hempty
    refine ⟨none, hread.trans (Table.Sets.erase _ _), fun _ => hnone, fun k => ?_, Permitted.nil⟩
    split
    next hk => rw [hk]; exact hnone
    next => rfl

/-- A call loses metadata only when its checks have passed and its write fails. -/
theorem Operation.run_failed {op : Operation} {volume : Volume} {fails : Option WriteFailure}
    {failure : WriteFailure}
    (h : op.run (m.volumes.insert id volume) id fails = .error (.failed failure))
    (hlost : failure.lost = true)
    (hkeeps : ∀ f ∈ fails, Call.Keeps m f (.loaded id op call volume)) :
    volume.attachments = [] := by
  cases op with
  | attach req =>
    obtain ⟨hfails, hallowed⟩ := AttachVolume_failed h
    exact hkeeps failure hfails hlost hallowed
  | detach instanceID =>
    obtain ⟨hfails, hallowed⟩ := DetachVolume_failed h hlost
    exact hkeeps failure hfails hlost hallowed
  | delete =>
    obtain ⟨-, volume', hlookup, hempty⟩ := DeleteVolume_failed h
    rw [Table.lookup_insert, if_pos rfl] at hlookup
    cases hlookup
    exact hempty

/-- What the end of a creation stores, where there was no volume. -/
theorem Creation.store_sets (creation : Creation) (hnone : m.volumes.lookup id = none) :
    ∃ new, Table.Sets id new m.volumes (creation.store id m.volumes) ∧
      new.elim [] Volume.attachments = [] := by
  cases creation with
  | saved => exact ⟨some ⟨[]⟩, Table.Sets.insert _ _ _, rfl⟩
  | cleanedUp => exact ⟨none, Table.Sets.erase _ _, rfl⟩
  | refused => exact ⟨none, hnone ▸ Table.Sets.refl _ _, rfl⟩

/-! ## The steps keep the invariant -/

namespace Guarded

/-- Only one call at a time works on a volume. -/
theorem alone (h : Guarded m granted) {k k' : ℕ} {c c' : Call} {lock lock' : ℕ}
    (hk : m.calls.lookup k = some c) (hk' : m.calls.lookup k' = some c')
    (hc : c.works = some (id, lock)) (hc' : c'.works = some (id, lock')) : k = k' := by
  have hlock := h.current k c hk id lock hc
  have hlock' := h.current k' c' hk' id lock' hc'
  rw [hlock, Option.some_inj] at hlock'
  subst hlock'
  exact h.exclusive hk hk' (Call.holds_of_works hc) (Call.holds_of_works hc')

/-- A call that writes has read the granted attachments. -/
theorem attachments_eq (h : Guarded m granted) {op : Operation} {lock : ℕ} {volume : Volume}
    (hcall : m.calls.lookup call = some (.loaded id op lock volume)) :
    volume.attachments = granted id := by
  rw [← h.recorded id, h.read call _ hcall id volume rfl]
  rfl

/-- A call moves on: if it holds a lock then no other call does, and if it has read a volume then
it has done so rightly. -/
theorem sets (h : Guarded m granted) {new : Option Call} {calls : CallTable}
    (hsets : Table.Sets call new m.calls calls)
    (hholds : ∀ c ∈ new, ∀ lock, c.holds = some lock →
      ∀ k c', k ≠ call → m.calls.lookup k = some c' → c'.holds ≠ some lock)
    (hworks : ∀ c ∈ new, ∀ id lock, c.works = some (id, lock) →
      m.volumeLocks.lookup id = some lock)
    (hread : ∀ c ∈ new, ∀ id volume, c.read = some (id, volume) →
      m.volumes.lookup id = some volume) : Guarded { m with calls } granted where
  recorded := h.recorded
  permitted := h.permitted
  exclusive := by
    intro k k' c c' lock hk hk' hc hc'
    rcases hsets.eq_some hk with ⟨rfl, hnew⟩ | ⟨hne, hk⟩
    · rcases hsets.eq_some hk' with ⟨rfl, -⟩ | ⟨hne', hk'⟩
      · rfl
      · exact absurd hc' (hholds c hnew lock hc k' c' hne' hk')
    · rcases hsets.eq_some hk' with ⟨rfl, hnew⟩ | ⟨-, hk'⟩
      · exact absurd hc (hholds c' hnew lock hc' k c hne hk)
      · exact h.exclusive hk hk' hc hc'
  current := hsets.all h.current hworks
  read := hsets.all h.read hread

/-- A call moves on with the lock it holds, or gives it up. -/
theorem moves (h : Guarded m granted) {c c' : Call} (hcall : m.calls.lookup call = some c)
    (hholds : c'.holds = c.holds)
    (hworks : ∀ id lock, c'.works = some (id, lock) → m.volumeLocks.lookup id = some lock)
    (hread : ∀ id volume, c'.read = some (id, volume) → m.volumes.lookup id = some volume) :
    Guarded (m.moves call c') granted := by
  refine h.sets (Table.Sets.insert call c' m.calls) ?_ ?_ ?_
  · rintro _ ⟨⟩ lock hlock k d hne hk hd
    exact hne (h.exclusive hk hcall hd (hholds ▸ hlock))
  · rintro _ ⟨⟩
    exact hworks
  · rintro _ ⟨⟩
    exact hread

/-- A call moves on without a lock. -/
theorem starts (h : Guarded m granted) {c : Call} (hholds : c.holds = none) :
    Guarded (m.moves call c) granted := by
  have hworks : ∀ id lock, c.works ≠ some (id, lock) := by
    intro id lock hworks
    cases hholds.symm.trans (Call.holds_of_works hworks)
  refine h.sets (Table.Sets.insert call c m.calls) ?_ ?_ ?_
  · rintro _ ⟨⟩ lock hlock
    cases hholds.symm.trans hlock
  · rintro _ ⟨⟩ id lock hlock
    exact absurd hlock (hworks id lock)
  · rintro _ ⟨⟩ id volume hread
    obtain ⟨lock, hlock⟩ := Call.works_of_read hread
    exact absurd hlock (hworks id lock)

/-- A call returns. -/
theorem returns (h : Guarded m granted) (call : ℕ) :
    Guarded { m with calls := m.calls.erase call } granted :=
  h.sets (Table.Sets.erase call m.calls) nofun nofun nofun

/-- The metadata of a volume changes, while no call has read it. -/
theorem stores (h : Guarded m granted) {new : Option Volume} {volumes : VolumeTable}
    {granted' : Granted} (hsets : Table.Sets id new m.volumes volumes)
    (hgranted : ∀ k, granted' k = if k = id then new.elim [] Volume.attachments else granted k)
    (hpermitted : Permitted (new.elim [] Volume.attachments))
    (hunread : ∀ k c, m.calls.lookup k = some c → ∀ volume, c.read ≠ some (id, volume)) :
    Guarded { m with volumes } granted' where
  recorded k := by
    rw [hsets k, hgranted k]
    split
    · rfl
    · exact h.recorded k
  permitted k := by
    rw [hgranted k]
    split
    · exact hpermitted
    · exact h.permitted k
  exclusive := h.exclusive
  current := h.current
  read k c hk k' volume hread := by
    change volumes.lookup k' = some volume
    have hne : k' ≠ id := by
      rintro rfl
      exact hunread k c hk volume hread
    rw [hsets k', if_neg hne]
    exact h.read k c hk k' volume hread

/-- The lock of a volume changes, while no call works on the volume. -/
theorem locks (h : Guarded m granted) {new : Option ℕ} {volumeLocks : Table String ℕ}
    (hsets : Table.Sets id new m.volumeLocks volumeLocks)
    (hidle : ∀ k c, m.calls.lookup k = some c → ∀ lock, c.works ≠ some (id, lock)) :
    Guarded { m with volumeLocks } granted where
  recorded := h.recorded
  permitted := h.permitted
  exclusive := h.exclusive
  current k c hk k' lock hworks := by
    change volumeLocks.lookup k' = some lock
    have hne : k' ≠ id := by
      rintro rfl
      exact hidle k c hk lock hworks
    rw [hsets k', if_neg hne]
    exact h.current k c hk k' lock hworks
  read := h.read

/-- A creation ends where there is no volume. -/
theorem finish (h : Guarded m granted) (creation : Creation)
    (hnone : m.volumes.lookup id = none) :
    Guarded { m with volumes := creation.store id m.volumes, calls := m.calls.erase call }
      granted := by
  have hgranted : granted id = [] := by
    rw [← h.recorded id, hnone]
    rfl
  obtain ⟨new, hsets, hnew⟩ := creation.store_sets hnone
  refine (h.returns call).stores hsets ?_ ?_ ?_
  · intro k
    split
    next hk => rw [hk, hnew, hgranted]
    next => rfl
  · rw [hnew]
    exact Permitted.nil
  · intro k c hk volume hread
    have hlookup := (h.returns call).read k c hk id volume hread
    cases hnone.symm.trans hlookup

/-- A call that gets the lock of a volume makes one only where the table has none, and nobody works
on such a volume. -/
theorem getVolumeLock (h : Guarded m granted) : Guarded (m.getVolumeLock id).2 granted := by
  unfold Manager.getVolumeLock
  split
  · exact h
  next hnone =>
  have hlocks := h.locks (Table.Sets.insert id m.made m.volumeLocks) ?_
  · exact ⟨hlocks.recorded, hlocks.permitted, hlocks.exclusive, hlocks.current, hlocks.read⟩
  · intro k c hk lock hworks
    cases hnone.symm.trans (h.current k c hk id lock hworks)

/-- When a call that has read a volume moves on, no call has read it. -/
theorem unread (h : Guarded m granted) {op : Operation} {lock : ℕ} {volume : Volume}
    (hcall : m.calls.lookup call = some (.loaded id op lock volume)) {c' : Call}
    (hc' : c'.read = none) :
    ∀ k c, (m.moves call c').calls.lookup k = some c → ∀ volume, c.read ≠ some (id, volume) := by
  intro k c hk volume' hread
  rcases (Table.Sets.insert call c' m.calls).eq_some hk with ⟨-, hafter⟩ | ⟨hne, hk⟩
  · cases hafter
    cases hc'.symm.trans hread
  · obtain ⟨lock', hworks⟩ := Call.works_of_read hread
    exact hne (h.alone hk hcall hworks rfl)

/-- A successful call writes. -/
theorem write (h : Guarded m granted) {op : Operation} {lock : ℕ} {volume : Volume}
    {fails : Option WriteFailure} {volumes : VolumeTable}
    (hcall : m.calls.lookup call = some (.loaded id op lock volume))
    (hrun : op.run (m.volumes.insert id volume) id fails = .ok volumes) :
    Guarded { m.moves call (op.after id lock) with volumes } (granted.after id op) := by
  have hcurrent := h.current call _ hcall id lock rfl
  -- first the call moves on, then nobody has read the volume
  have hmoved : Guarded (m.moves call (op.after id lock)) granted := by
    cases op with
    | attach req => exact h.moves hcall rfl nofun nofun
    | detach instanceID => exact h.moves hcall rfl nofun nofun
    | delete =>
      refine h.moves hcall rfl ?_ nofun
      rintro _ _ ⟨⟩
      exact hcurrent
  obtain ⟨new, hsets, -, hgranted, hpermitted⟩ :=
    Operation.run_eq_ok hrun (h.attachments_eq hcall) (h.permitted id)
  refine hmoved.stores hsets hgranted hpermitted (h.unread hcall ?_)
  cases op <;> rfl

/-- A call fails: it keeps the metadata, or loses that of a volume without attachments. -/
theorem fail (h : Guarded m granted) {op : Operation} {lock : ℕ} {volume : Volume}
    {fails : Option WriteFailure} {err : VolumeError}
    (hcall : m.calls.lookup call = some (.loaded id op lock volume))
    (hrun : op.run (m.volumes.insert id volume) id fails = .error err)
    (hok : ∀ failure ∈ fails, Call.Keeps m failure (.loaded id op lock volume)) :
    Guarded { m.moves call (.returning lock) with volumes := err.leaves m.volumes id } granted := by
  have hmoved : Guarded (m.moves call (.returning lock)) granted := h.moves hcall rfl nofun nofun
  unfold VolumeError.leaves
  split
  next failure =>
    split
    next hlost =>
      have hnone : granted id = [] :=
        (h.attachments_eq hcall).symm.trans (Operation.run_failed hrun hlost hok)
      refine hmoved.stores (Table.Sets.erase id m.volumes) (fun k => ?_) Permitted.nil ?_
      · split
        next hk => rw [hk, hnone]; rfl
        next => rfl
      · exact h.unread hcall rfl
    next => exact hmoved
  next => exact hmoved

/-- A deletion removes the lock from the table. -/
theorem forget (h : Guarded m granted) {lock : ℕ}
    (hcall : m.calls.lookup call = some (.removed id lock)) :
    Guarded { m.moves call (.returning lock) with volumeLocks := m.volumeLocks.erase id }
      granted := by
  have hmoved : Guarded (m.moves call (.returning lock)) granted :=
    h.moves hcall rfl nofun nofun
  refine hmoved.locks (Table.Sets.erase id m.volumeLocks) ?_
  intro k c hk lock' hworks
  rcases (Table.Sets.insert call (.returning lock) m.calls).eq_some hk with
    ⟨-, hafter⟩ | ⟨hne, hk⟩
  · cases hafter
    cases hworks
  · exact hne (h.alone hk hcall hworks rfl)

/-- Every step that meets the condition keeps the invariant. -/
theorem step {x y : Manager × Granted} {e : Event} (h : Guarded x.1 x.2) (hok : Current x e)
    (hstep : Steps x.1 x.2 e y.1 y.2) : Guarded y.1 y.2 := by
  obtain ⟨m, granted⟩ := x
  obtain ⟨m', granted'⟩ := y
  cases hstep with
  | «exists» => exact h
  | check hfree => exact h.starts rfl
  | finish hcall => exact h.finish _ (hok _ hcall)
  | start hfree => exact h.getVolumeLock.starts rfl
  | lock hcall hfree =>
    refine h.sets (Table.Sets.insert _ _ _) ?_ ?_ ?_
    · rintro _ ⟨⟩ lock ⟨⟩ k c hne hk
      exact hfree k c hk
    · rintro _ ⟨⟩
      exact nofun
    · rintro _ ⟨⟩
      exact nofun
  | load hcall hvolume =>
    have hcurrent := hok _ hcall (hvolume ▸ Option.some_ne_none _)
    refine h.moves hcall rfl ?_ ?_
    · rintro _ _ ⟨⟩
      exact hcurrent
    · rintro _ _ ⟨⟩
      exact hvolume
  | missing hcall => exact h.moves hcall rfl nofun nofun
  | write hcall hrun => exact h.write hcall hrun
  | fail hcall hrun => exact h.fail hcall hrun fun failure hfailure => hok failure hfailure _ hcall
  | forget hcall => exact h.forget hcall
  | unlock hcall => exact h.returns _

/-- A step that meets the condition removes a volume only when nothing is attached to it. -/
theorem keeps {x y : Manager × Granted} {e : Event} (h : Guarded x.1 x.2) (hok : Current x e)
    (hstep : Steps x.1 x.2 e y.1 y.2) (hgone : y.1.volumes.lookup id = none)
    (hthere : x.1.volumes.lookup id ≠ none) : x.2 id = [] := by
  have hnone : y.2 id = [] := by
    rw [← (h.step hok hstep).recorded id, hgone]
    rfl
  obtain ⟨m, granted⟩ := x
  obtain ⟨m', granted'⟩ := y
  cases hstep with
  | @write call fails k op lock volume volumes hcall hrun =>
    obtain ⟨new, hsets, hempty, -⟩ :=
      Operation.run_eq_ok hrun (h.attachments_eq hcall) (h.permitted k)
    have hlookup := (hsets id).symm.trans hgone
    split at hlookup
    next hk =>
      rw [hk]
      exact hempty hlookup
    next => exact absurd hlookup hthere
  | _ => exact hnone

end Guarded

theorem guarded_of_reachable {x : Manager × Granted} (h : attachments.Reachable Current x) :
    Guarded x.1 x.2 :=
  System.Reachable.invariant (I := fun x => Guarded x.1 x.2) guarded_init
    (fun _ _ _ hinv hok hstep => hinv.step hok (attachments_steps hstep)) h

/-! ## The multi-attach rule -/

instance (volume : Volume) : Decidable volume.Shareable :=
  inferInstanceAs (Decidable (volume.attachments.length ≤ 1 ∨
    ∀ att ∈ volume.attachments, att.readonly = true))

/-- What holds of the attachments of a volume that were granted and not given up. -/
structure Respected (x : Manager × Granted) (id : String) : Prop where
  /-- All are read-only, or there is only one. -/
  shareable : (Volume.mk (x.2 id)).Shareable
  /-- No instance is attached twice. -/
  distinct : ((x.2 id).map Attachment.instanceID).Nodup
  /-- An attached volume exists. -/
  exists_of_ne : x.2 id ≠ [] → x.1.volumes.lookup id ≠ none
  /-- An attached volume is not deleted. -/
  kept : ∀ e y, Current x e → attachments.step x e = some y → x.1.volumes.lookup id ≠ none →
    y.1.volumes.lookup id = none → x.2 id = []

/-- **The multi-attach rule.** However the calls interleave, the attachments for which
`AttachVolume` succeeded and which were not given up are all read-only or a single one, no instance
is among them twice, and their volume is not deleted, provided that no call reads the metadata of a
volume under a lock that is no longer the table's, that no creation ends after a volume of its id
has come to exist, and that no failing write loses the metadata of an attached volume. -/
theorem attachments_exclusive {x : Manager × Granted} (h : attachments.Reachable Current x)
    (id : String) : Respected x id := by
  have hinv := guarded_of_reachable h
  constructor
  · exact (hinv.permitted id).1
  · exact (hinv.permitted id).2
  · intro hne hnone
    apply hne
    rw [← hinv.recorded id, hnone]
    rfl
  · intro e y hok hstep hthere hgone
    exact hinv.keeps hok (attachments_steps hstep) hgone hthere

/-- A volume is attached, given up, deleted, made again and attached to two instances. -/
theorem attachments_exclusive_shared : ∃ x, attachments.Reachable Current x ∧
    (x.2 "data").map Attachment.instanceID = ["web", "worker"] ∧ Respected x "data" := by
  obtain ⟨x, hx, hboth⟩ := System.exists_reachable_of_replay attachments Current
    (fun x => (x.2 "data").map Attachment.instanceID = ["web", "worker"])
    [.create 0 "data", .finish 0 .saved,
      .start 1 "data" (.attach ⟨"web", "/data", false⟩), .lock 1, .load 1, .write 1 none, .unlock 1,
      .start 2 "data" (.detach "web"), .lock 2, .load 2, .write 2 none, .unlock 2,
      .start 3 "data" .delete, .lock 3, .load 3, .write 3 none, .forget 3, .unlock 3,
      .create 4 "data", .finish 4 .saved,
      .start 5 "data" (.attach ⟨"web", "/data", true⟩),
      .start 6 "data" (.attach ⟨"worker", "/data", true⟩), .lock 5, .load 5, .write 5 none,
      .unlock 5, .lock 6, .load 6, .write 6 none] (by decide +kernel)
  exact ⟨x, hx, hboth, attachments_exclusive hx "data"⟩

/-- The first attachment waits for the lock while the volume is deleted and made again. It then
holds a lock that the table has forgotten, so the second attachment does not wait for it: both read
a volume without attachments, and both are granted read-write. And an attachment whose write fails
loses the metadata, so that the volume is made again and attached read-write next to the first
instance. -/
theorem waiter_attaches_again :
    (∃ x, attachments.Reachable System.Always x ∧
      x.2 "data" = [⟨"web", "/data", false⟩, ⟨"worker", "/data", false⟩] ∧
      ¬ (Volume.mk (x.2 "data")).Shareable) ∧
    ∃ x, attachments.Reachable System.Always x ∧
      x.2 "data" = [⟨"web", "/data", true⟩, ⟨"worker", "/data", false⟩] ∧
      ¬ (Volume.mk (x.2 "data")).Shareable := by
  constructor
  · exact System.exists_reachable_of_replay attachments System.Always
      (fun x => x.2 "data" = [⟨"web", "/data", false⟩, ⟨"worker", "/data", false⟩] ∧
        ¬ (Volume.mk (x.2 "data")).Shareable)
      [.create 0 "data", .finish 0 .saved,
        .start 1 "data" .delete, .lock 1,
        .start 2 "data" (.attach ⟨"web", "/data", false⟩),
        .load 1, .write 1 none, .forget 1, .unlock 1,
        .create 3 "data", .finish 3 .saved,
        .lock 2, .load 2,
        .start 4 "data" (.attach ⟨"worker", "/data", false⟩), .lock 4, .load 4,
        .write 2 none, .write 4 none] (by decide +kernel)
  · exact System.exists_reachable_of_replay attachments System.Always
      (fun x => x.2 "data" = [⟨"web", "/data", true⟩, ⟨"worker", "/data", false⟩] ∧
        ¬ (Volume.mk (x.2 "data")).Shareable)
      [.create 0 "data", .finish 0 .saved,
        .start 1 "data" (.attach ⟨"web", "/data", true⟩), .lock 1, .load 1, .write 1 none,
        .unlock 1,
        .start 2 "data" (.attach ⟨"db", "/data", true⟩), .lock 2, .load 2,
        .write 2 (some ⟨"no space left on device", true⟩), .unlock 2,
        .create 3 "data", .finish 3 .saved,
        .start 4 "data" (.attach ⟨"worker", "/data", false⟩), .lock 4, .load 4,
        .write 4 none] (by decide +kernel)

end Hypeman.Volumes
