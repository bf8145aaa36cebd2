import Hypeman.Instances.History
import Hypeman.Network.Uniqueness

/-!
# Network identities along histories

An identity is allocated when an instance is created, when it is started and when it is resumed
without one; it is then in the metadata of no other instance. A stopped or suspended instance keeps
its identity in its metadata, which keeps it from being allocated again. `RestoreSnapshot` puts back
the identity of the time of the snapshot, which may have been given to another instance since.

* `running_identities_apart`: instances with a VMM share no address, at every moment of every
  session in which no snapshot is restored whose addresses another instance has.
* `restored_identity_shared`: a session in which two instances with a VMM have the same address.
-/

namespace Hypeman.Instances

open Foundations

/-- The instance and the snapshot of a replacement that is not refused and gets as far as the
metadata. -/
def Op.replaces (w : World) : Op → Option (String × String)
  | .replaceInstance id snapshotID outcome =>
    match w.snapshots.lookup snapshotID, w.guests.lookup id with
    | some record, some guest =>
      if record.sourceInstanceID = id ∧ deriveState guest ≠ .running ∧ outcome.replaces then
        some (id, snapshotID)
      else none
    | _, _ => none
  | _ => none

/-- No snapshot is restored whose addresses are in the metadata of another instance. -/
def RestoresOwnIdentity (w : World) (op : Op) : Prop :=
  ∀ r ∈ op.replaces w, ∀ record ∈ w.snapshots.lookup r.2, ∀ e ∈ w.guests.entries, e.1 ≠ r.1 →
    e.2.stored.identity.Apart record.stored.identity

instance (w : World) (op : Op) : Decidable (RestoresOwnIdentity w op) :=
  inferInstanceAs (Decidable (∀ r ∈ op.replaces w, ∀ record ∈ w.snapshots.lookup r.2,
    ∀ e ∈ w.guests.entries, e.1 ≠ r.1 → e.2.stored.identity.Apart record.stored.identity))

/-- Identities are complete or empty, and no two instances share an address. -/
structure Distinct (guests : Table String Guest) : Prop where
  wellFormed : AllWellFormed guests
  apart : ∀ {i j g h}, i ≠ j → guests.lookup i = some g → guests.lookup j = some h →
    g.stored.identity.Apart h.stored.identity

variable {guests guests' : Table String Guest} {id : String} {guest : Guest}

/-- One guest may be set whose identity is apart from those of all others, or removed. -/
theorem Distinct.set (h : Distinct guests) {new : Option Guest}
    (hset : Table.Sets id new guests guests') (hwf : ∀ guest ∈ new, guest.stored.WellFormed)
    (hapart : ∀ guest ∈ new, ∀ k g, k ≠ id → guests.lookup k = some g →
      g.stored.identity.Apart guest.stored.identity) : Distinct guests' := by
  refine ⟨hset.all h.wellFormed hwf, ?_⟩
  intro i j g g' hij hi hj
  rcases hset.eq_some hi with ⟨rfl, hg⟩ | ⟨hne, hi'⟩
  · rcases hset.eq_some hj with ⟨rfl, -⟩ | ⟨hne, hj'⟩
    · exact absurd rfl hij
    · exact (hapart g hg j g' hne hj').symm
  · rcases hset.eq_some hj with ⟨rfl, hg'⟩ | ⟨-, hj'⟩
    · exact hapart g' hg' i g hne hi'
    · exact h.apart hij hi' hj'

theorem Distinct.erase (h : Distinct guests) (id : String) : Distinct (guests.erase id) :=
  h.set (.erase id guests) (fun guest hguest => absurd hguest (Option.not_mem_none guest))
    fun guest hguest => absurd hguest (Option.not_mem_none guest)

/-- A guest may be set that has a new identity, or the one of the guest in its place. -/
theorem Distinct.renew (h : Distinct guests) {new : Option Guest}
    (hset : Table.Sets id new guests guests')
    (hnew : ∀ guest' ∈ new, guest'.stored.Acquired guests ∨
      ∃ guest, guests.lookup id = some guest ∧
        guest'.stored.identity = guest.stored.identity ∧
        guest'.stored.networkEnabled = guest.stored.networkEnabled) : Distinct guests' := by
  refine h.set hset (fun guest' hguest' => ?_) fun guest' hguest' k g hne hk => ?_
  · rcases hnew guest' hguest' with
      (hnone | ⟨henabled, hip, hmac, -⟩) | ⟨guest, hguest, hidentity, henabled⟩
    · exact .inl hnone
    · exact .inr ⟨henabled, hip, hmac⟩
    · have hip : guest'.stored.ip = guest.stored.ip := congrArg Identity.ip hidentity
      have hmac : guest'.stored.mac = guest.stored.mac := congrArg Identity.mac hidentity
      rw [StoredMetadata.WellFormed, hidentity, henabled, hip, hmac]
      exact h.wellFormed id guest hguest
  · rcases hnew guest' hguest' with (hnone | ⟨-, -, -, hfresh⟩) | ⟨guest, hguest, hidentity, -⟩
    · rw [hnone]
      exact Identity.apart_none _
    · exact hfresh k g hk
    · rw [hidentity]
      exact h.apart hne hk hguest

theorem Distinct.insert_acquired (h : Distinct guests) (hacq : guest.stored.Acquired guests) :
    Distinct (guests.insert id guest) := by
  refine h.renew (.insert id guest guests) ?_
  rintro _ ⟨⟩
  exact .inl hacq

theorem Distinct.revision {w w' : World} {starts : Bool} (h : Distinct w.guests)
    (hrev : Revision w id starts w') : Distinct w'.guests := by
  obtain ⟨new, hset, hnew⟩ := hrev.sets
  refine h.renew hset fun guest' hguest' => ?_
  obtain ⟨guest, hguest, hrevised⟩ := hnew guest' hguest'
  rcases hrevised.identity h.wellFormed with hidentity | hacq
  · exact .inr ⟨guest, hguest, hidentity, hrevised.enabled⟩
  · exact .inl hacq

/-- A fork of well-formed metadata has no identity. -/
theorem identity_fork {stored : StoredMetadata} (hwf : stored.WellFormed) (name : String) :
    (stored.fork name).identity = .none := by
  unfold StoredMetadata.fork
  split
  · rfl
  next hoff =>
  rcases hwf with hnone | ⟨hon, -⟩
  · exact hnone
  · exact absurd hon hoff

/-- The invariant of the sessions: guests are distinct, and snapshots well-formed. -/
structure Identified (w : World) : Prop where
  guests : Distinct w.guests
  snapshots : ∀ s record, w.snapshots.lookup s = some record → record.stored.WellFormed

variable {w : World}

theorem Identified.setGuests (h : Identified w) {w' : World} (hguests : Distinct w'.guests)
    (hsnapshots : w'.snapshots = w.snapshots) : Identified w' :=
  ⟨hguests, by rw [hsnapshots]; exact h.snapshots⟩

theorem Identified.revision (h : Identified w) {w' : World} {starts : Bool}
    (hrev : Revision w id starts w') : Identified w' :=
  h.setGuests (h.guests.revision hrev) hrev.snapshots

theorem Identified.createInstance (h : Identified w) (cfg : Network.Config) (id : String)
    (req : ResourceRequest) (host : CreateHost) :
    Identified (createInstance cfg w id req host).2 := by
  obtain ⟨err, hsame⟩ | ⟨-, c, hsound, ⟨err, hroll⟩ | ⟨-, hcommit⟩⟩ :=
    createInstance_spec cfg w id req host
  · rw [hsame]
    exact h
  · rw [hroll]
    refine h.setGuests ?_ rfl
    obtain ⟨new, hset, hnew⟩ := rollback_guests w id host c
    refine h.guests.renew hset fun guest hguest => ?_
    rcases hnew guest hguest with hold | ⟨-, stored, hsaved, rfl⟩
    · exact .inr ⟨guest, hold, rfl, rfl⟩
    · exact .inl (hsound.savedIdentity h.guests.wellFormed stored hsaved)
  · rw [hcommit]
    exact h.setGuests (h.guests.insert_acquired (hsound.identity h.guests.wellFormed)) rfl

theorem Identified.deleteInstance (h : Identified w) (id : String) (host : DeleteHost) :
    Identified (deleteInstance w id host).2 := by
  obtain hsame | ⟨guest, hguest, hkill | ⟨pending, hdelete⟩⟩ := deleteInstance_cases w id host
  · rw [hsame]
    exact h
  · rw [hkill]
    refine h.setGuests (h.guests.renew (.insert id _ _) ?_) rfl
    rintro _ ⟨⟩
    exact .inr ⟨guest, hguest, rfl, rfl⟩
  · rw [hdelete]
    refine h.setGuests (h.guests.renew (sets_retained _ _ _ _) fun guest' hguest' => ?_) rfl
    split at hguest'
    · cases hguest'
      exact .inr ⟨guest, hguest, rfl, rfl⟩
    · cases hguest'

theorem Identified.copySnapshot (h : Identified w) (id snapshotID : String) (kind : SnapshotKind)
    (copyErr : Option String) : Identified (copySnapshot w id snapshotID kind copyErr).2 := by
  obtain hsame | ⟨guest, hguest, hcopy⟩ := copySnapshot_cases w id snapshotID kind copyErr
  · rw [hsame]
    exact h
  · rw [hcopy]
    refine ⟨h.guests, (Table.Sets.insert _ _ _).all h.snapshots ?_⟩
    rintro _ ⟨⟩
    exact h.guests.wellFormed id guest hguest

theorem Identified.replaceInstance (h : Identified w) (id snapshotID : String)
    (outcome : ReplaceOutcome)
    (hok : RestoresOwnIdentity w (.replaceInstance id snapshotID outcome)) :
    Identified (replaceInstance w id snapshotID outcome).2 := by
  obtain hsame | ⟨record, guest, hrecord, hsource, hguest,
    hgone | ⟨hrunning, hreplaces, name, hset⟩⟩
      := replaceInstance_cases w id snapshotID outcome
  · rw [hsame]
    exact h
  · rw [hgone]
    exact h.setGuests (h.guests.erase id) rfl
  · rw [hset]
    refine h.setGuests (h.guests.set (.insert id _ _) ?_ ?_) rfl
    · rintro _ ⟨⟩
      exact h.snapshots snapshotID record hrecord
    · rintro _ ⟨⟩ k g hne hk
      have hop : Op.replaces w (.replaceInstance id snapshotID outcome) =
          some (id, snapshotID) := by
        simp only [Op.replaces, hrecord, hguest]
        exact if_pos ⟨hsource, hrunning, hreplaces⟩
      exact hok (id, snapshotID) hop record hrecord ⟨k, g⟩ (AList.mem_lookup_iff.mp hk) hne

theorem Identified.withFork (h : Identified w) {source : Guest} (hwf : source.stored.WellFormed)
    (forkID name : String) : Identified (w.withFork source forkID name) :=
  h.setGuests (h.guests.insert_acquired (.inl (identity_fork hwf name))) rfl

theorem Identified.perform (h : Identified w) (cfg : Network.Config) (op : Op)
    (hok : RestoresOwnIdentity w op) : Identified (perform cfg w op).2 := by
  cases op with
  | createInstance id req host => exact h.createInstance cfg id req host
  | startInstance _ _ | stopInstance _ _ | standbyInstance _ _ | restoreInstance _ _
  | removeSnapshot _ _ | vmmReports _ _ | hydrateBootMarkers _ _ _ =>
    exact h.revision (perform_revision cfg w rfl)
  | deleteInstance id host => exact h.deleteInstance id host
  | copySnapshot id snapshotID kind copyErr => exact h.copySnapshot id snapshotID kind copyErr
  | deleteSnapshot snapshotID =>
    exact ⟨h.guests, Table.Sets.all_erase h.snapshots snapshotID⟩
  | replaceInstance id snapshotID outcome => exact h.replaceInstance id snapshotID outcome hok
  | forkInstance id forkID name failed =>
    exact (forkInstance_spec w id forkID name failed).keeps h fun source hsource _ =>
      h.withFork (h.guests.wellFormed id source hsource) forkID name
  | forkSnapshot snapshotID forkID name failed =>
    refine (forkSnapshot_spec w snapshotID forkID name failed).keeps h ?_
    rintro _ ⟨record, hrecord, rfl⟩ -
    exact h.withFork (h.snapshots snapshotID record hrecord) forkID name
  | restartServer host => exact h.setGuests h.guests rfl
  | deleteVolume volumeID fails => exact h.setGuests h.guests rfl

variable {cfg : Network.Config} {devices : Devices.DeviceTable} {volumes : Volumes.VolumeTable}

theorem identified_emptyHost : Identified (emptyHost devices volumes) :=
  ⟨⟨fun _ _ h => (nomatch h), fun _ h => (nomatch h)⟩, fun _ _ h => (nomatch h)⟩

/-- **Instances with a VMM share no address**, at every moment of a session in which no snapshot is
restored whose addresses are in the metadata of another instance. -/
theorem running_identities_apart {s : Session} {i j : String} {g h : Guest}
    (hs : (sessions cfg (emptyHost devices volumes)).Reachable (Each RestoresOwnIdentity) s)
    (hij : i ≠ j) (hi : s.world.guests.lookup i = some g) (hj : s.world.guests.lookup j = some h)
    (_ : g.vmm.isSome) (_ : h.vmm.isSome) : g.stored.identity.Apart h.stored.identity := by
  have hinv : Identified s.world :=
    reachable_invariant identified_emptyHost (fun _ op hI hok => hI.perform cfg op hok) hs
  exact hinv.guests.apart hij hi hj

/-! ## A session that restores an old identity -/

/-- A network on which nothing fails and `n` is drawn. -/
def quietNetwork (n : Nat) : NetworkHost := ⟨none, Network.drawing n, none⟩

def quietCreate (n : Nat) : CreateHost where
  refused := none
  bind _ := .done
  markAttached _ := none
  directories := none
  claimVGPU := none
  claimPersists := false
  configureVGPU := none
  overlayDisk := none
  network := quietNetwork n
  attachVolume _ := none
  volumeOverlay _ := none
  configDisk := none
  saveMetadata := none
  boot := none
  markDetached _ := none
  detachVolume _ := none
  retained := false
  leftVMM := none

def quietStart (n : Nat) : StartHost := ⟨none, quietNetwork n, none, none, false, true⟩

def quietStop : StopHost := ⟨none, false, none⟩

def quietRestore (n : Nat) : RestoreHost := ⟨none, quietNetwork n, none, none, none, false, true⟩

def quietDelete : DeleteHost := ⟨none, none, fun _ => none, fun _ => .done, fun _ => none, none⟩

/-- An instance with networking and without a guest agent. -/
def plainRequest (name : String) : ResourceRequest := ⟨name, true, [], [], "", true⟩

def bootFirst : List Event :=
  [.call (.CreateInstance "a" (plainRequest "web") (quietCreate 3)), .proceed,
   .hydrateBootMarkers "a" true false]

/-- A standby snapshot is taken of the running instance `a`. -/
def snapshotFirst : List Event :=
  [.call (.CreateSnapshot "a" "s" .standby ⟨true, .done none, none, quietRestore 9, false⟩),
   .proceed, .proceed, .proceed, .proceed]

/-- Instance `a` is stopped. -/
def stopFirst : List Event := [.call (.StopInstance "a" quietStop), .proceed]

/-- Instance `a` is restored from its snapshot, and runs. -/
def restoreFirst : List Event :=
  [.call (.RestoreSnapshot "a" "s" none ⟨.done, none, quietRestore 9, quietStart 9⟩),
   .proceed, .proceed, .proceed]

def createSecond (n : Nat) : List Event :=
  [.call (.CreateInstance "b" (plainRequest "db") (quietCreate n)), .proceed]

theorem running_identities_apart_restored :
    ∃ s g h, (sessions Network.exampleConfig (emptyHost ∅ ∅)).Reachable
        (Each RestoresOwnIdentity) s ∧
      s.world.guests.lookup "a" = some g ∧ s.world.guests.lookup "b" = some h ∧
      g.vmm.isSome ∧ h.vmm.isSome ∧ g.stored.identity.Apart h.stored.identity := by
  obtain ⟨s, hs, g, hg, h, hh, hgv, hhv⟩ :=
    (sessions Network.exampleConfig (emptyHost ∅ ∅)).exists_reachable_of_replay
      (Each RestoresOwnIdentity)
      (fun s => ∃ g ∈ s.world.guests.lookup "a", ∃ h ∈ s.world.guests.lookup "b",
        g.vmm.isSome ∧ h.vmm.isSome)
      (bootFirst ++ snapshotFirst ++ stopFirst ++ createSecond 3 ++ restoreFirst)
      (by decide +kernel)
  exact ⟨s, g, h, hs, hg, hh, hgv, hhv, running_identities_apart hs (by decide) hg hh hgv hhv⟩

/-- Instance `a` gets a new identity after its snapshot, `b` is created with the old one, and the
snapshot of `a` is restored: both run with the same address. -/
theorem restored_identity_shared :
    ¬ ∀ s, (sessions Network.exampleConfig (emptyHost ∅ ∅)).Reachable System.Always s →
      ∀ i j g h, i ≠ j → s.world.guests.lookup i = some g → s.world.guests.lookup j = some h →
        g.vmm.isSome → h.vmm.isSome → g.stored.identity.Apart h.stored.identity := by
  obtain ⟨s, hs, g, hg, h, hh, hgv, hhv, hshared⟩ :=
    (sessions Network.exampleConfig (emptyHost ∅ ∅)).exists_reachable_of_replay System.Always
      (fun s => ∃ g ∈ s.world.guests.lookup "a", ∃ h ∈ s.world.guests.lookup "b",
        g.vmm.isSome ∧ h.vmm.isSome ∧ ¬ g.stored.identity.Apart h.stored.identity)
      (List.flatten [bootFirst, snapshotFirst, stopFirst,
        [.call (.StartInstance "a" (quietStart 4)), .proceed], createSecond 3, stopFirst,
        restoreFirst])
      (by decide +kernel)
  exact fun hall => hshared (hall s hs "a" "b" g h (by decide) hg hh hgv hhv)

end Hypeman.Instances
