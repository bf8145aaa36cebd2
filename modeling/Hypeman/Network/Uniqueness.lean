import Hypeman.Foundations.System
import Hypeman.Network.Allocation

/-!
# Identities of instances that are started at the same time

Any number of instances allocate and release network identities, their steps interleaved: the
reservation under the manager's lock, the set-up of the TAP device, the saving of the identity in
the instance's metadata by the caller, and the release. An instance may be new, or stopped with the
identity of its previous run still in its metadata.

The identity of an instance is protected by its pending entry until it is saved. A listing takes a
stored identity for the saved one and drops the entry, so the new identity of an instance that is
started again is unprotected from the next listing until it is saved. `StepOk` says that no listing
falls into that window.

* `held_distinct`: along every run that meets `StepOk`, the identities held by different instances
  have different addresses.
* `restarted_identity_reused`: a run in which two instances hold the same address.
-/

namespace Hypeman.Network

open Hypeman.Foundations

/-- A call of `CreateAllocation` that has reserved its identity, or has returned it. -/
structure Claim where
  instanceName : String
  config : NetworkConfig

/-- The guest directories, the pending map, the calls that are setting up a TAP device and the
identities returned and not released. -/
structure State where
  guests : Table String Guest
  pendingAllocations : Table String Allocation
  calls : Table String Claim
  held : Table String Claim

inductive Event
  /-- `CreateAllocation` up to the unlocking of the manager. -/
  | reserve (req : AllocateRequest) (draws : Draws)
  /-- The TAP device is set up and `CreateAllocation` returns. -/
  | tapCreated (id : String)
  /-- Setting up the TAP device fails; whether it is cleaned up, and whether it exists after. -/
  | tapFailed (id : String) (cleanedUp tapExists : Bool)
  /-- The caller saves the identity it holds in the metadata of the instance. -/
  | saveMetadata (id : String)
  /-- `ReleaseAllocation`. -/
  | release (id : String)
  /-- `NameExists`, which lists as well. -/
  | nameExists (name excludeInstanceID : String) (readDir : Option String)
  /-- The directory of an instance that holds nothing is removed. -/
  | removeData (id : String)

/-- An instance with a call in progress or an identity. -/
def State.busy (s : State) (id : String) : Bool :=
  (s.calls.lookup id).isSome || (s.held.lookup id).isSome

/-- The guest directory after the identity has been saved. -/
def savedGuest (guest : Option Guest) (c : Claim) : Guest where
  metadata := some {
    name := c.instanceName
    networkEnabled := true
    ip := c.config.ip
    mac := c.config.mac }
  socket := (guest.map (·.socket)).getD false
  snapshotConfig := (guest.map (·.snapshotConfig)).getD false
  classID := (guest.map (·.classID)).getD ""

variable (cfg : Config)

/-- One step; operations on one instance exclude each other, so a call starts only when the
instance has neither a call in progress nor an identity. -/
def step (s : State) : Event → Option State
  | .reserve req draws =>
    if s.busy req.instanceID then none
    else match reserveAllocationIdentity cfg s.guests s.pendingAllocations req draws with
      | (.error _, pending) => some { s with pendingAllocations := pending }
      | (.ok config, pending) => some { s with
          pendingAllocations := pending
          calls := s.calls.insert req.instanceID ⟨req.instanceName, config⟩ }
  | .tapCreated id =>
    (s.calls.lookup id).map fun c =>
      { s with calls := s.calls.erase id, held := s.held.insert id c }
  | .tapFailed id cleanedUp tapExists =>
    (s.calls.lookup id).map fun _ => { s with
      calls := s.calls.erase id
      pendingAllocations :=
        if cleanedUp || !tapExists then s.pendingAllocations.erase id else s.pendingAllocations }
  | .saveMetadata id =>
    (s.held.lookup id).map fun c =>
      { s with guests := s.guests.insert id (savedGuest (s.guests.lookup id) c) }
  | .release id =>
    if (s.calls.lookup id).isSome then none
    else some { s with
      pendingAllocations := s.pendingAllocations.erase id
      held := s.held.erase id }
  | .nameExists _ _ readDir =>
    match readDir with
    | some _ => some s
    | none => some { s with
        pendingAllocations :=
          (listAllocationsWithPending cfg s.guests s.pendingAllocations).2 }
  | .removeData id => if s.busy id then none else some { s with guests := s.guests.erase id }

/-- The instances of a host whose guest directories are `guests` at the start. -/
def hosts (guests : Table String Guest) : System State Event where
  init := { guests := guests, pendingAllocations := ∅, calls := ∅, held := ∅ }
  step := step cfg

def Event.lists : Event → Bool
  | .reserve _ draws => draws.readDir.isNone
  | .nameExists _ _ readDir => readDir.isNone
  | _ => false

/-- No listing runs while an instance in the middle of `CreateAllocation`, or holding the identity
it returned, has a pending entry and stored metadata with another address. -/
def StepOk (s : State) (e : Event) : Prop :=
  e.lists = true → ∀ x ∈ s.pendingAllocations.entries, s.busy x.1 = true →
    ∀ a ∈ onDisk cfg s.guests x.1, a.ip = x.2.ip ∧ a.mac = x.2.mac

instance (s : State) (e : Event) : Decidable (StepOk cfg s e) := by
  unfold StepOk
  infer_instance

/-! ## Every identity stays visible to the next listing -/

/-- The instance has reserved this identity, or holds it. -/
def Claimed (s : State) (id : String) (c : Claim) : Prop :=
  s.calls.lookup id = some c ∨ s.held.lookup id = some c

def Matches (a : Allocation) (c : Claim) : Prop := a.ip = c.config.ip ∧ a.mac = c.config.mac

/-- The identity is pending or stored. -/
def Protected (s : State) (id : String) (c : Claim) : Prop :=
  (∃ p, s.pendingAllocations.lookup id = some p ∧ Matches p c) ∨
    ∃ a, onDisk cfg s.guests id = some a ∧ Matches a c

def Apart (c d : Claim) : Prop := c.config.ip ≠ d.config.ip ∧ c.config.mac ≠ d.config.mac

/-- The invariant of the runs that meet `StepOk`. -/
structure Safe (s : State) : Prop where
  alone : ∀ {id c}, s.calls.lookup id = some c → s.held.lookup id = none
  usable : ∀ {id c}, Claimed s id c →
    c.config.ip ≠ "" ∧ c.config.mac ≠ "" ∧ cfg.network.ipNet.isSome
  visible : ∀ {id c}, Claimed s id c → Protected cfg s id c
  apart : ∀ {i j c d}, i ≠ j → Claimed s i c → Claimed s j d → Apart c d

variable {cfg} {s s' : State}

theorem Claimed.busy {id : String} {c : Claim} (h : Claimed s id c) : s.busy id = true := by
  rcases h with h | h <;> simp [State.busy, h]

theorem not_claimed {id : String} (h : s.busy id = false) (c : Claim) : ¬ Claimed s id c :=
  fun hc => by simp [hc.busy] at h

/-- A step that neither adds a claim nor takes away the protection of one keeps the invariant. -/
theorem Safe.mono (h : Safe cfg s)
    (halone : ∀ {id c}, s'.calls.lookup id = some c → s'.held.lookup id = none)
    (hclaim : ∀ {id c}, Claimed s' id c → Claimed s id c)
    (hvis : ∀ {id c}, Claimed s' id c → Protected cfg s id c → Protected cfg s' id c) :
    Safe cfg s' where
  alone := halone
  usable hc := h.usable (hclaim hc)
  visible hc := hvis hc (h.visible (hclaim hc))
  apart hne hc hd := h.apart hne (hclaim hc) (hclaim hd)

/-- Outside the window that `StepOk` excludes, a listing shows the identity of a claim and leaves
it protected. -/
theorem Safe.listed (h : Safe cfg s) {e : Event} (hlists : e.lists = true)
    (hok : StepOk cfg s e) {id : String} {c : Claim} (hc : Claimed s id c) :
    let listed := listAllocationsWithPending cfg s.guests s.pendingAllocations
    (∃ a ∈ listed.1, Matches a c) ∧
      Protected cfg { s with pendingAllocations := listed.2 } id c := by
  intro listed
  have hlookup : listed.2.lookup id = _ := listAllocations_pending id
  cases hdisk : onDisk cfg s.guests id with
  | none =>
    rw [hdisk] at hlookup
    rcases h.visible hc with ⟨p, hp, hm⟩ | ⟨a, ha, -⟩
    · obtain ⟨a, hmem, -, -, hip, hmac⟩ := mem_listAllocations_of_pending hdisk hp
      exact ⟨⟨a, hmem, hip.trans hm.1, hmac.trans hm.2⟩, .inl ⟨p, hlookup.trans hp, hm⟩⟩
    · rw [hdisk] at ha
      cases ha
  | some a =>
    -- the stored identity is the one of the claim, whichever of the two protects it
    have hm : Matches a c := by
      rcases h.visible hc with ⟨p, hp, hm⟩ | ⟨a', ha', hm⟩
      · have hsame := hok hlists ⟨id, p⟩ (AList.mem_lookup_iff.mp hp) hc.busy a hdisk
        exact ⟨hsame.1.trans hm.1, hsame.2.trans hm.2⟩
      · rw [hdisk] at ha'
        cases ha'
        exact hm
    exact ⟨⟨a, mem_listAllocations_of_onDisk hdisk, hm⟩, .inr ⟨a, hdisk, hm⟩⟩

/-- A listing on its own keeps the invariant. -/
theorem Safe.list (h : Safe cfg s) {e : Event} (hlists : e.lists = true)
    (hok : StepOk cfg s e) :
    Safe cfg { s with
      pendingAllocations := (listAllocationsWithPending cfg s.guests s.pendingAllocations).2 } :=
  h.mono h.alone id fun hc _ => (h.listed hlists hok hc).2

theorem Safe.reserve (h : Safe cfg s) {req : AllocateRequest} {draws : Draws}
    (hok : StepOk cfg s (.reserve req draws)) (hs : step cfg s (.reserve req draws) = some s') :
    Safe cfg s' := by
  obtain ⟨hfree, hs⟩ := Option.ite_none_left_eq_some.mp hs
  have hbusy : s.busy req.instanceID = false := by simpa using hfree
  obtain ⟨⟨err, herr⟩, hpend⟩ | ⟨c, p, hres, hpend, hread, -, hip, hmac, hne⟩ :=
    reserve_spec cfg s.guests s.pendingAllocations req draws
  · -- a failed reservation leaves the map alone or has listed
    have hs' : s' = { s with pendingAllocations :=
        (reserveAllocationIdentity cfg s.guests s.pendingAllocations req draws).2 } := by
      split at hs
      · next heq =>
        rw [heq]
        exact (Option.some.inj hs).symm
      · next heq =>
        rw [heq] at herr
        cases herr
    rw [hs']
    rcases hpend with hpend | ⟨hread, hpend⟩
    · rw [hpend]
      exact h
    · rw [hpend]
      exact h.list (by simp [Event.lists, hread]) hok
  · obtain ⟨hipne, hmacne, hnet, hfresh⟩ := hne
    have hlists : (Event.reserve req draws).lists = true := by simp [Event.lists, hread]
    have hs' : s' = { s with
        pendingAllocations := (listAllocationsWithPending cfg s.guests
          s.pendingAllocations).2.insert req.instanceID p
        calls := s.calls.insert req.instanceID ⟨req.instanceName, c⟩ } := by
      split at hs
      · next heq =>
        rw [heq] at hres
        cases hres
      · next heq =>
        rw [heq] at hres hpend
        cases hres
        rw [← hpend]
        exact (Option.some.inj hs).symm
    -- the new claim is the only one of its instance, the others are as before
    have hclaims : ∀ {id d}, Claimed s' id d →
        (id = req.instanceID ∧ d = ⟨req.instanceName, c⟩) ∨
          (id ≠ req.instanceID ∧ Claimed s id d) := by
      intro id d hd
      by_cases hid : id = req.instanceID
      · subst hid
        rw [hs'] at hd
        rcases hd with hd | hd
        · rw [Table.lookup_insert, if_pos rfl] at hd
          exact .inl ⟨rfl, (Option.some.inj hd).symm⟩
        · exact absurd (.inr hd) (not_claimed hbusy d)
      · rw [hs'] at hd
        refine .inr ⟨hid, hd.imp (fun hd => ?_) fun hd => hd⟩
        rwa [Table.lookup_insert, if_neg hid] at hd
    have hapart : ∀ {id d}, Claimed s id d → Apart d ⟨req.instanceName, c⟩ := by
      intro id d hd
      obtain ⟨⟨a, hmem, hm⟩, -⟩ := h.listed hlists hok hd
      have hne := (hfresh a hmem).1
      exact ⟨hm.1 ▸ hne.1, hm.2 ▸ hne.2⟩
    refine ⟨?_, ?_, ?_, ?_⟩
    · intro id d hd
      rw [hs'] at hd ⊢
      by_cases hid : id = req.instanceID
      · simp only [State.busy, Bool.or_eq_false_iff, Option.isSome_eq_false_iff,
          Option.isNone_iff_eq_none] at hbusy
        rw [hid]
        exact hbusy.2
      · rw [Table.lookup_insert, if_neg hid] at hd
        exact h.alone hd
    · intro id d hd
      rcases hclaims hd with ⟨-, rfl⟩ | ⟨-, hd⟩
      · exact ⟨hipne, hmacne, hnet⟩
      · exact h.usable hd
    · intro id d hd
      rcases hclaims hd with ⟨rfl, rfl⟩ | ⟨hid, hd⟩
      · exact .inl ⟨p, by rw [hs']; exact (Table.lookup_insert ..).trans (if_pos rfl), hip, hmac⟩
      · refine (h.listed hlists hok hd).2.imp ?_ fun hdisk => by rw [hs']; exact hdisk
        rintro ⟨q, hq, hm⟩
        exact ⟨q, by rw [hs']; exact ((Table.lookup_insert ..).trans (if_neg hid)).trans hq, hm⟩
    · intro i j ci cj hij hi hj
      rcases hclaims hi with ⟨rfl, rfl⟩ | ⟨-, hi⟩ <;> rcases hclaims hj with ⟨rfl, rfl⟩ | ⟨-, hj⟩
      · exact absurd rfl hij
      · exact (hapart hj).imp Ne.symm Ne.symm
      · exact hapart hi
      · exact h.apart hij hi hj

theorem Safe.tapCreated (h : Safe cfg s) {id : String} {c : Claim}
    (hc : s.calls.lookup id = some c) :
    Safe cfg { s with calls := s.calls.erase id, held := s.held.insert id c } := by
  refine h.mono ?_ ?_ fun _ hp => hp
  · intro i d hd
    simp only [Table.lookup_erase, Table.lookup_insert] at hd ⊢
    split at hd
    · cases hd
    · next hi =>
      rw [if_neg hi]
      exact h.alone hd
  · intro i d hd
    simp only [Claimed, Table.lookup_erase, Table.lookup_insert] at hd
    by_cases hi : i = id
    · simp only [hi, if_true] at hd ⊢
      rcases hd with hd | hd
      · cases hd
      · cases hd
        exact .inl hc
    · simp only [if_neg hi] at hd
      exact hd

/-- Giving up the claim of an instance, with its pending entry or without, keeps the invariant. -/
theorem Safe.giveUp (h : Safe cfg s) (id : String) {calls held : Table String Claim}
    {pending : Table String Allocation}
    (hcalls : ∀ i, calls.lookup i = if i = id then none else s.calls.lookup i)
    (hheld : ∀ i, held.lookup i = if i = id then none else s.held.lookup i)
    (hpending : ∀ i, i ≠ id → pending.lookup i = s.pendingAllocations.lookup i) :
    Safe cfg { s with pendingAllocations := pending, calls := calls, held := held } := by
  have hne : ∀ {i c}, Claimed { s with
      pendingAllocations := pending, calls := calls, held := held } i c →
        i ≠ id ∧ Claimed s i c := by
    intro i c hc
    simp only [Claimed, hcalls, hheld] at hc
    by_cases hi : i = id
    · simp [hi] at hc
    · simp only [if_neg hi] at hc
      exact ⟨hi, hc⟩
  refine h.mono ?_ (fun hc => (hne hc).2) ?_
  · intro i c hc
    dsimp only at hc ⊢
    obtain ⟨hi, -⟩ := hne (.inl hc)
    rw [hcalls, if_neg hi] at hc
    rw [hheld, if_neg hi]
    exact h.alone hc
  · intro i c hc hp
    refine hp.imp ?_ fun hdisk => hdisk
    rintro ⟨p, hp, hm⟩
    exact ⟨p, (hpending i (hne hc).1).trans hp, hm⟩

theorem lookup_eq_ite_of_none {α : Type} {t : Table String α} {id : String}
    (h : t.lookup id = none) (i : String) :
    t.lookup i = if i = id then none else t.lookup i := by
  split
  · next hi => rw [hi, h]
  · rfl

/-- The saved identity is the one the directory yields. -/
theorem onDisk_savedGuest {guests : Table String Guest} {id : String} {g : Option Guest} {c : Claim}
    (hip : c.config.ip ≠ "") (hmac : c.config.mac ≠ "") (hnet : cfg.network.ipNet.isSome) :
    ∃ a, onDisk cfg (guests.insert id (savedGuest g c)) id = some a ∧ Matches a c := by
  obtain ⟨n, hn⟩ := Option.isSome_iff_exists.mp hnet
  rw [onDisk, Table.lookup_insert, if_pos rfl, Option.bind_some]
  simp only [derived, deriveAllocation, savedGuest, hn, Bool.not_true, Bool.false_eq_true, if_false,
    ne_eq, hip, hmac, not_false_eq_true, and_self, if_true]
  exact ⟨_, rfl, rfl, rfl⟩

/-- Changing the directory of an instance without a claim, or saving the identity of its claim,
keeps the invariant. -/
theorem Safe.setGuests (h : Safe cfg s) {guests : Table String Guest} (id : String)
    (hother : ∀ i, i ≠ id → guests.lookup i = s.guests.lookup i)
    (hown : ∀ {c}, Claimed s id c → ∃ a, onDisk cfg guests id = some a ∧ Matches a c) :
    Safe cfg { s with guests := guests } := by
  refine h.mono h.alone (fun hc => hc) ?_
  intro i c hc hp
  by_cases hi : i = id
  · subst hi
    exact .inr (hown hc)
  · refine hp.imp (fun hp => hp) ?_
    rintro ⟨a, ha, hm⟩
    refine ⟨a, ?_, hm⟩
    rw [onDisk, hother i hi]
    exact ha

/-- **One step.** Every step that meets `StepOk` keeps the invariant. -/
theorem Safe.step (h : Safe cfg s) {e : Event} (hok : StepOk cfg s e)
    (hs : Network.step cfg s e = some s') : Safe cfg s' := by
  cases e with
  | reserve req draws => exact h.reserve hok hs
  | tapCreated id =>
    obtain ⟨c, hc, rfl⟩ := Option.map_eq_some_iff.mp hs
    exact h.tapCreated hc
  | tapFailed id cleanedUp tapExists =>
    obtain ⟨c, hc, rfl⟩ := Option.map_eq_some_iff.mp hs
    refine h.giveUp id (Table.lookup_erase _ _) (lookup_eq_ite_of_none (h.alone hc)) ?_
    intro i hi
    split
    · exact (Table.lookup_erase ..).trans (if_neg hi)
    · rfl
  | saveMetadata id =>
    obtain ⟨c, hc, rfl⟩ := Option.map_eq_some_iff.mp hs
    refine h.setGuests id (fun i hi => (Table.lookup_insert ..).trans (if_neg hi)) ?_
    intro d hd
    have hdc : d = c := by
      rcases hd with hd | hd
      · rw [h.alone hd] at hc
        cases hc
      · exact Option.some.inj (hd.symm.trans hc)
    obtain ⟨hip, hmac, hnet⟩ := h.usable hd
    rw [← hdc]
    exact onDisk_savedGuest hip hmac hnet
  | release id =>
    obtain ⟨hcalls, ⟨⟩⟩ := Option.ite_none_left_eq_some.mp hs
    have hnone : s.calls.lookup id = none := by simpa using hcalls
    exact h.giveUp id (lookup_eq_ite_of_none hnone) (Table.lookup_erase _ _)
      fun i hi => (Table.lookup_erase ..).trans (if_neg hi)
  | nameExists name exclude readDir =>
    cases readDir with
    | some err =>
      cases hs
      exact h
    | none =>
      cases hs
      exact h.list rfl hok
  | removeData id =>
    obtain ⟨hfree, ⟨⟩⟩ := Option.ite_none_left_eq_some.mp hs
    refine h.setGuests id (fun i hi => (Table.lookup_erase ..).trans (if_neg hi)) ?_
    intro c hc
    exact absurd hc.busy hfree

/-- **Whole runs.** -/
theorem reachable_safe {guests : Table String Guest}
    (h : (hosts cfg guests).Reachable (StepOk cfg) s) : Safe cfg s := by
  refine h.invariant ?_ fun s e s' hsafe hok hs => hsafe.step hok hs
  exact ⟨nofun, nofun, nofun, nofun⟩

/-- **Identities are exclusive.** Along every run that meets `StepOk`, from any guest directories,
two instances that hold identities hold different IPs and different MACs. -/
theorem held_distinct {guests : Table String Guest}
    (h : (hosts cfg guests).Reachable (StepOk cfg) s) {i j : String} {c d : Claim} (hij : i ≠ j)
    (hi : s.held.lookup i = some c) (hj : s.held.lookup j = some d) :
    c.config.ip ≠ d.config.ip ∧ c.config.mac ≠ d.config.mac :=
  (reachable_safe h).apart hij (.inr hi) (.inr hj)

/-- A `/24` network. -/
def exampleConfig : Config where
  network := {
    name := "default"
    subnet := "10.100.0.0/24"
    ipNet := some { ip := 0x0A640000#32, ones := 24, ones_le := by decide, masked := by decide }
    gateway := "10.100.0.1" }
  dnsServer := "1.1.1.1"

/-- Draws that give the address and the suffix `n` when they are free. -/
def drawing (n : Nat) : Draws where
  readDir := none
  ip _ := n
  mac _ := .ok n

/-- Two new instances are created side by side, and one of them is stopped and started again. -/
def sideBySide : List Event :=
  [.reserve ⟨"b", "web"⟩ (drawing 3), .reserve ⟨"a", "db"⟩ (drawing 4), .tapCreated "a",
   .tapCreated "b", .saveMetadata "b", .saveMetadata "a", .release "b",
   .reserve ⟨"b", "web"⟩ (drawing 5), .tapCreated "b"]

theorem held_distinct_sideBySide :
    ∃ s c d, (hosts exampleConfig ∅).Reachable (StepOk exampleConfig) s ∧
      s.held.lookup "a" = some c ∧ s.held.lookup "b" = some d ∧
      c.config.ip ≠ d.config.ip ∧ c.config.mac ≠ d.config.mac := by
  obtain ⟨s, hs, hP⟩ := (hosts exampleConfig ∅).exists_reachable_of_replay (StepOk exampleConfig)
    (fun s => (s.held.lookup "a").isSome ∧ (s.held.lookup "b").isSome) sideBySide
      (by decide +kernel)
  obtain ⟨c, hc⟩ := Option.isSome_iff_exists.mp hP.1
  obtain ⟨d, hd⟩ := Option.isSome_iff_exists.mp hP.2
  exact ⟨s, c, d, hs, hc, hd, held_distinct hs (by decide) hc hd⟩

/-- Instance `b` is created and stopped; while it is started again, `a` is created. The reservation
of `a` finds the old identity of `b` in its metadata and drops the new one. -/
def restartedRun : List Event :=
  [.reserve ⟨"b", "web"⟩ (drawing 3), .tapCreated "b", .saveMetadata "b", .release "b",
   .reserve ⟨"b", "web"⟩ (drawing 4), .reserve ⟨"a", "db"⟩ (drawing 4), .tapCreated "b",
   .tapCreated "a"]

/-- **The identity of a restarted instance is given away.** After `restartedRun` both instances
hold the same IP and the same MAC. -/
theorem restarted_identity_reused :
    ¬ ∀ s, (hosts exampleConfig ∅).Reachable System.Always s → ∀ i j c d, i ≠ j →
      s.held.lookup i = some c → s.held.lookup j = some d →
        c.config.ip ≠ d.config.ip ∧ c.config.mac ≠ d.config.mac := by
  obtain ⟨s, hs, c, hc, d, hd, hip⟩ := (hosts exampleConfig ∅).exists_reachable_of_replay
    System.Always
    (fun s => ∃ c ∈ s.held.lookup "a", ∃ d ∈ s.held.lookup "b", c.config.ip = d.config.ip)
    restartedRun (by decide +kernel)
  exact fun h => (h s hs "a" "b" c d (by decide) hc hd).1 hip

end Hypeman.Network
