import Hypeman.Instances.NetworkIdentity

/-!
# Volumes along histories

The metadata of an instance lists its volumes, and the record of a volume lists the instances it is
attached to. Both are written when the instance is created, and the records are cleared when it is
deleted or its creation is rolled back. Forks copy the list of the metadata and leave the records.

* `listed_volumes_attached`: in a session in which nothing with volumes is forked, no instance
  directory outlives the detaching of its volumes and no failing write loses the records of others,
  every listed volume exists, is attached to the instance, and is attached to others for reading
  only.
* `forked_volume_deleted`: a session in which a volume is deleted that an instance lists.
-/

namespace Hypeman.Instances

open Foundations

/-- Every volume that an instance lists exists, is attached to the instance, and is attached to
others for reading only. -/
def VolumesRecorded (w : World) : Prop :=
  ∀ i guest, w.guests.lookup i = some guest → ∀ vol ∈ guest.stored.volumes,
    ∃ volume, w.volumes.lookup vol.volumeID = some volume ∧ volume.attachedTo i ∧
      ∀ att ∈ volume.attachments, att.instanceID ≠ i → att.readonly = true

def Op.copies (w : World) : Op → Option StoredMetadata
  | .forkInstance id _ _ _ => (w.guests.lookup id).map Guest.stored
  | .forkSnapshot snapshotID _ _ _ => (w.snapshots.lookup snapshotID).map SnapshotRecord.stored
  | _ => none

/-- The volumes of an instance directory that stays after they have been detached. -/
def Op.abandons (w : World) : Op → List VolumeAttachment
  | .createInstance _ req host => if host.retained then req.volumes else []
  | .deleteInstance id host =>
    if host.retained.isSome then
      ((w.guests.lookup id).map fun guest => guest.stored.volumes).getD []
    else []
  | _ => []

/-- The writes of volume metadata: the instance they are for, their outcomes and the volumes. -/
def Op.volumeWrites (w : World) :
    Op → List (String × (String → Option WriteFailure) × List String)
  | .createInstance id req host =>
    [(id, host.attachVolume, req.volumeIDs), (id, host.detachVolume, req.volumeIDs)]
  | .deleteInstance id host => (w.guests.lookup id).toList.map fun guest =>
    (id, host.detachVolume, guest.stored.volumes.map VolumeAttachment.volumeID)
  | _ => []

/-- Nothing with volumes is forked, no directory outlives the detaching of its volumes, and no
failing write loses the record of a volume that other instances have. -/
def VolumesInOrder (w : World) (op : Op) : Prop :=
  (∀ stored ∈ op.copies w, stored.volumes = []) ∧ op.abandons w = [] ∧
    ∀ e ∈ op.volumeWrites w, Volumes.KeepsOthers e.2.1 e.1 e.2.2 w.volumes

instance (w : World) (op : Op) : Decidable (VolumesInOrder w op) :=
  inferInstanceAs (Decidable ((∀ stored ∈ op.copies w, stored.volumes = []) ∧ op.abandons w = [] ∧
    ∀ e ∈ op.volumeWrites w, Volumes.KeepsOthers e.2.1 e.1 e.2.2 w.volumes))

/-! ## Listed volumes are attached -/

/-- The invariant. A snapshot lists the volumes of its source while that exists, so that restoring
it changes none. -/
structure Recorded (w : World) : Prop where
  listed : ∀ i guest, w.guests.lookup i = some guest → ∀ vol ∈ guest.stored.volumes,
    Volumes.Attached w.volumes vol.volumeID i
  shareable : Volumes.AllShareable w.volumes
  snapshots : ∀ s record guest, w.snapshots.lookup s = some record →
    w.guests.lookup record.sourceInstanceID = some guest →
    record.stored.volumes = guest.stored.volumes
  used : ∀ i guest, w.guests.lookup i = some guest → i ∈ w.used
  sources : ∀ s record, w.snapshots.lookup s = some record → record.sourceInstanceID ∈ w.used

variable {w w' : World} {id : String}

theorem Recorded.recorded (h : Recorded w) : VolumesRecorded w := by
  intro i guest hguest vol hvol
  obtain ⟨volume, hvolume, hatt⟩ := h.listed i guest hguest vol hvol
  refine ⟨volume, hvolume, hatt, fun att hmem hne => ?_⟩
  exact (h.shareable vol.volumeID volume hvolume).readonly_of_ne hatt hmem hne

/-- A change of the guest `id` and of its attachments. Its volumes are attached, and are those it
had before if it is the source of a snapshot. -/
theorem Recorded.change (h : Recorded w) {new : Option Guest}
    (hguests : Table.Sets id new w.guests w'.guests)
    (hvolumes : Volumes.SameBut id w.volumes w'.volumes)
    (hshareable : Volumes.AllShareable w'.volumes) (hsnapshots : w'.snapshots = w.snapshots)
    (hused : ∀ i ∈ w.used, i ∈ w'.used)
    (hid : ∀ guest ∈ new, id ∈ w'.used ∧
      (∀ vol ∈ guest.stored.volumes, Volumes.Attached w'.volumes vol.volumeID id) ∧
      ∀ s record, w.snapshots.lookup s = some record → record.sourceInstanceID = id →
        record.stored.volumes = guest.stored.volumes) : Recorded w' := by
  refine ⟨?_, hshareable, ?_, ?_, ?_⟩
  · intro i guest hguest vol hvol
    rcases hguests.eq_some hguest with ⟨rfl, hnew⟩ | ⟨hi, hold⟩
    · exact (hid guest hnew).2.1 vol hvol
    · exact hvolumes.attached hi (h.listed i guest hold vol hvol)
  · intro s record guest hs hguest
    rw [hsnapshots] at hs
    rcases hguests.eq_some hguest with ⟨hi, hnew⟩ | ⟨-, hold⟩
    · exact (hid guest hnew).2.2 s record hs hi
    · exact h.snapshots s record guest hs hold
  · exact hguests.all (fun i guest hguest => hused i (h.used i guest hguest))
      fun guest hnew => (hid guest hnew).1
  · intro s record hs
    rw [hsnapshots] at hs
    exact hused _ (h.sources s record hs)

/-- The guest `id` is replaced by one with the same volumes, or removed. -/
theorem Recorded.keep (h : Recorded w) {new : Option Guest}
    (hguests : Table.Sets id new w.guests w'.guests)
    (hvolumes : w'.volumes = w.volumes) (hsnapshots : w'.snapshots = w.snapshots)
    (hused : w'.used = w.used)
    (hid : ∀ guest' ∈ new, ∃ guest, w.guests.lookup id = some guest ∧
      guest'.stored.volumes = guest.stored.volumes) : Recorded w' := by
  refine h.change hguests ?_ ?_ hsnapshots ?_ ?_
  · rw [hvolumes]
    exact .refl _ _
  · rw [hvolumes]
    exact h.shareable
  · rw [hused]
    exact fun _ hi => hi
  · intro guest' hguest'
    obtain ⟨guest, hguest, hsame⟩ := hid guest' hguest'
    rw [hused, hvolumes, hsame]
    refine ⟨h.used id guest hguest, h.listed id guest hguest, ?_⟩
    rintro s record hs rfl
    exact h.snapshots s record guest hs hguest

theorem Recorded.revision (h : Recorded w) {starts : Bool} (hrev : Revision w id starts w') :
    Recorded w' := by
  obtain ⟨new, hguests, hnew⟩ := hrev.sets
  refine h.keep hguests hrev.volumes hrev.snapshots hrev.used fun guest' hguest' => ?_
  obtain ⟨guest, hguest, hrevised⟩ := hnew guest' hguest'
  exact ⟨guest, hguest, hrevised.volumes⟩

/-- An instance whose id is new is the source of no snapshot. -/
theorem Recorded.not_source (h : Recorded w) (hnew : id ∉ w.used) {P : Prop} {s : String}
    {record : SnapshotRecord} (hs : w.snapshots.lookup s = some record)
    (hid : record.sourceInstanceID = id) : P :=
  absurd (hid ▸ h.sources s record hs) hnew

theorem Recorded.createInstance (h : Recorded w) (cfg : Network.Config) (id : String)
    (req : ResourceRequest) (host : CreateHost)
    (hok : VolumesInOrder w (.createInstance id req host)) :
    Recorded (createInstance cfg w id req host).2 := by
  obtain ⟨err, hsame⟩ | ⟨hnew, c, hsound, ⟨err, hroll⟩ | ⟨hcomplete, hcommit⟩⟩ :=
    createInstance_spec cfg w id req host
  · rw [hsame]
    exact h
  · rw [hroll]
    have hsame := hsound.sameBut (hok.2.2 _ List.mem_cons_self)
    have hkeeps : Volumes.KeepsOthers host.detachVolume id req.volumeIDs w.volumes :=
      hok.2.2 _ (List.mem_cons_of_mem _ List.mem_cons_self)
    have hdetach := Volumes.detachVolumes_sameBut fun k hk =>
      hkeeps.sameBut hsame k (hsound.notedVolumes (List.mem_reverse.mp hk))
    have hshareable := Volumes.detachVolumes_shareable id host.detachVolume
      c.attachedVolumes.reverse c.volumes (hsound.shareable h.shareable)
    obtain ⟨new, hguests, hleft⟩ := rollback_guests w id host c
    refine h.change hguests (hsame.trans hdetach) hshareable rfl
      (fun _ hi => List.mem_cons_of_mem _ hi) fun guest hguest => ?_
    rcases hleft guest hguest with hold | ⟨hretained, stored, hsaved, rfl⟩
    · exact absurd (h.used id guest hold) hnew
    refine ⟨List.mem_cons_self, fun vol hvol => ?_, fun s record hs hid => h.not_source hnew hs hid⟩
    -- a directory that is left behind lists no volumes
    have hnone : req.volumes = [] := by
      simpa only [Op.abandons, hretained, if_true] using hok.2.1
    have hmem := hsound.savedRequested stored hsaved hvol
    rw [hnone] at hmem
    cases hmem
  · rw [hcommit]
    refine h.change (.insert id _ _) (hsound.sameBut (hok.2.2 _ List.mem_cons_self))
      (hsound.shareable h.shareable) rfl (fun _ hi => List.mem_cons_of_mem _ hi) ?_
    rintro _ ⟨⟩
    refine ⟨List.mem_cons_self, ?_, fun s record hs hid => h.not_source hnew hs hid⟩
    rw [hcomplete.1]
    exact hcomplete.2

theorem Recorded.deleteInstance (h : Recorded w) (id : String) (host : DeleteHost)
    (hok : VolumesInOrder w (.deleteInstance id host)) : Recorded (deleteInstance w id host).2 := by
  obtain hsame | ⟨guest, hguest, hkill | ⟨pending, hdelete⟩⟩ := deleteInstance_cases w id host
  · rw [hsame]
    exact h
  · rw [hkill]
    refine h.keep (.insert id _ _) rfl rfl rfl ?_
    rintro _ ⟨⟩
    exact ⟨guest, hguest, rfl⟩
  · rw [hdelete]
    have hkeeps : Volumes.KeepsOthers host.detachVolume id
        (guest.stored.volumes.map VolumeAttachment.volumeID) w.volumes := by
      refine hok.2.2 (id, host.detachVolume, _) ?_
      rw [Op.volumeWrites, hguest]
      exact List.mem_cons_self
    have hdetach := Volumes.detachVolumes_sameBut hkeeps
    have hshareable := Volumes.detachVolumes_shareable id host.detachVolume
      (guest.stored.volumes.map VolumeAttachment.volumeID) w.volumes h.shareable
    refine h.change (sets_retained _ _ _ _) hdetach hshareable rfl (fun _ hi => hi) ?_
    intro g hg
    split at hg
    next hretained =>
      cases hg
      have hnone : guest.stored.volumes = [] := by
        simpa only [Op.abandons, hretained, if_true, hguest, Option.map_some,
          Option.getD_some] using hok.2.1
      refine ⟨h.used id guest hguest, fun vol hvol => ?_, ?_⟩
      · rw [show guest.stored.volumes = [] from hnone] at hvol
        cases hvol
      · rintro s record hs rfl
        exact h.snapshots s record guest hs hguest
    next => cases hg

theorem Recorded.copySnapshot (h : Recorded w) (id snapshotID : String) (kind : SnapshotKind)
    (copyErr : Option String) : Recorded (copySnapshot w id snapshotID kind copyErr).2 := by
  obtain hsame | ⟨guest, hguest, hcopy⟩ := copySnapshot_cases w id snapshotID kind copyErr
  · rw [hsame]
    exact h
  · rw [hcopy]
    have hset : Table.Sets snapshotID (some ⟨id, kind, guest.stored⟩) w.snapshots
        (w.snapshots.insert snapshotID ⟨id, kind, guest.stored⟩) := .insert _ _ _
    refine ⟨h.listed, h.shareable, ?_, h.used, hset.all h.sources ?_⟩
    · intro s record g hs hg
      rcases hset.eq_some hs with ⟨-, ⟨⟩⟩ | ⟨-, hold⟩
      · have heq : guest = g := Option.some.inj (hguest.symm.trans hg)
        rw [heq]
      · exact h.snapshots s record g hold hg
    · rintro _ ⟨⟩
      exact h.used id guest hguest

theorem Recorded.deleteSnapshot (h : Recorded w) (snapshotID : String) :
    Recorded (deleteSnapshot w snapshotID) := by
  have hset : Table.Sets snapshotID none w.snapshots (w.snapshots.erase snapshotID) := .erase _ _
  refine ⟨h.listed, h.shareable, fun s record g hs hg => ?_, h.used,
    Table.Sets.all_erase h.sources snapshotID⟩
  rcases hset.eq_some hs with ⟨-, ⟨⟩⟩ | ⟨-, hold⟩
  exact h.snapshots s record g hold hg

theorem Recorded.replaceInstance (h : Recorded w) (id snapshotID : String)
    (outcome : ReplaceOutcome) : Recorded (replaceInstance w id snapshotID outcome).2 := by
  obtain hsame | ⟨record, guest, hrecord, hsource, hguest, hgone | ⟨-, -, name, hset⟩⟩ :=
    replaceInstance_cases w id snapshotID outcome
  · rw [hsame]
    exact h
  · rw [hgone]
    exact h.keep (.erase id _) rfl rfl rfl nofun
  · rw [hset]
    refine h.keep (.insert id _ _) rfl rfl rfl ?_
    rintro _ ⟨⟩
    exact ⟨guest, hguest,
      h.snapshots snapshotID record guest hrecord (by rw [hsource]; exact hguest)⟩

theorem volumes_fork (stored : StoredMetadata) (name : String) :
    (stored.fork name).volumes = stored.volumes := by
  unfold StoredMetadata.fork
  split <;> rfl

theorem Recorded.withFork (h : Recorded w) {source : Guest} (hnone : source.stored.volumes = [])
    {forkID : String} (hnew : forkID ∉ w.used) (name : String) :
    Recorded (w.withFork source forkID name) := by
  refine h.change (.insert forkID _ _) (.refl _ _) h.shareable rfl
    (fun _ hi => List.mem_cons_of_mem _ hi) ?_
  rintro _ ⟨⟩
  refine ⟨List.mem_cons_self, fun vol hvol => ?_, fun s record hs hid => h.not_source hnew hs hid⟩
  rw [volumes_fork, hnone] at hvol
  cases hvol

/-- A volume without attachments goes, so no instance lists it. -/
theorem Recorded.eraseVolume (h : Recorded w) {volumeID : String} {volume : Volumes.Volume}
    (hvolume : w.volumes.lookup volumeID = some volume) (hempty : volume.attachments = []) :
    Recorded { w with volumes := w.volumes.erase volumeID } := by
  refine ⟨?_, Table.Sets.all_erase h.shareable volumeID, h.snapshots, h.used, h.sources⟩
  intro i guest hguest vol hvol
  obtain ⟨listed, hlisted, att, hmem, hatt⟩ := h.listed i guest hguest vol hvol
  have hne : vol.volumeID ≠ volumeID := by
    intro heq
    rw [heq, hvolume] at hlisted
    cases hlisted
    rw [hempty] at hmem
    cases hmem
  exact ⟨listed, (AList.lookup_erase_ne hne).trans hlisted, att, hmem, hatt⟩

/-- A volume is deleted without attachments only, also when the deletion fails halfway. -/
theorem Recorded.deleteVolume (h : Recorded w) (volumeID : String) (fails : Option WriteFailure) :
    Recorded (deleteVolume w volumeID fails) := by
  unfold Instances.deleteVolume
  cases hd : Volumes.DeleteVolume w.volumes volumeID fails with
  | error err =>
    unfold Volumes.settled Volumes.VolumeError.leaves
    dsimp only
    split
    next failure =>
      obtain ⟨-, volume, hvolume, hempty⟩ := Volumes.DeleteVolume_failed hd
      split
      · exact h.eraseVolume hvolume hempty
      · exact h
    next => exact h
  | ok volumes =>
    obtain ⟨volume, hvolume, hempty, rfl⟩ := Volumes.DeleteVolume_eq_ok hd
    exact h.eraseVolume hvolume hempty

theorem Recorded.perform (h : Recorded w) (cfg : Network.Config) (op : Op)
    (hok : VolumesInOrder w op) : Recorded (perform cfg w op).2 := by
  cases op with
  | createInstance id req host => exact h.createInstance cfg id req host hok
  | startInstance _ _ | stopInstance _ _ | standbyInstance _ _ | restoreInstance _ _
  | removeSnapshot _ _ | vmmReports _ _ | hydrateBootMarkers _ _ _ =>
    exact h.revision (perform_revision cfg w rfl)
  | deleteInstance id host => exact h.deleteInstance id host hok
  | copySnapshot id snapshotID kind copyErr => exact h.copySnapshot id snapshotID kind copyErr
  | deleteSnapshot snapshotID => exact h.deleteSnapshot snapshotID
  | replaceInstance id snapshotID outcome => exact h.replaceInstance id snapshotID outcome
  | forkInstance id forkID name failed =>
    refine (forkInstance_spec w id forkID name failed).keeps h fun source hsource hnew => ?_
    refine h.withFork (hok.1 source.stored ?_) hnew name
    rw [Op.copies, hsource]
    rfl
  | forkSnapshot snapshotID forkID name failed =>
    refine (forkSnapshot_spec w snapshotID forkID name failed).keeps h ?_
    rintro _ ⟨record, hrecord, rfl⟩ hnew
    refine h.withFork (hok.1 record.stored ?_) hnew name
    rw [Op.copies, hrecord]
    rfl
  | restartServer host => exact ⟨h.listed, h.shareable, h.snapshots, h.used, h.sources⟩
  | deleteVolume volumeID fails => exact h.deleteVolume volumeID fails

def Unattached (volumes : Volumes.VolumeTable) : Prop :=
  ∀ e ∈ volumes.entries, e.2.attachments = []

instance (volumes : Volumes.VolumeTable) : Decidable (Unattached volumes) :=
  inferInstanceAs (Decidable (∀ e ∈ volumes.entries, e.2.attachments = []))

variable {cfg : Network.Config} {devices : Devices.DeviceTable} {volumes : Volumes.VolumeTable}

theorem recorded_emptyHost (hvolumes : Unattached volumes) :
    Recorded (emptyHost devices volumes) := by
  refine ⟨fun _ _ h => (nomatch h), ?_, fun _ _ _ h => (nomatch h), fun _ _ h => (nomatch h),
    fun _ _ h => (nomatch h)⟩
  intro id volume hvolume
  left
  rw [hvolumes ⟨id, volume⟩ (AList.mem_lookup_iff.mp hvolume)]
  exact Nat.zero_le _

/-- **Listed volumes are attached.** In every session whose operations find the volumes in order,
every volume that an instance lists exists, is attached to it, and is attached to others for reading
only. -/
theorem listed_volumes_attached (hvolumes : Unattached volumes) {s : Session}
    (hs : (sessions cfg (emptyHost devices volumes)).Reachable (Each VolumesInOrder) s) :
    VolumesRecorded s.world := by
  have hinv : Recorded s.world := reachable_invariant (recorded_emptyHost hvolumes)
    (fun _ op hI hok => hI.perform cfg op hok) hs
  exact hinv.recorded

/-! ## A session in which a listed volume is deleted -/

def oneVolume : Volumes.VolumeTable := (∅ : Volumes.VolumeTable).insert "data" ⟨[]⟩

/-- An instance without networking that reads the volume. -/
def volumeRequest (name : String) : ResourceRequest :=
  ⟨name, false, [], [⟨"data", "/data", true, false, 0⟩], "", true⟩

def createWithVolume (id name : String) : List Event :=
  [.call (.CreateInstance id (volumeRequest name) (quietCreate 0)), .proceed]

def deleteBoth : List Event :=
  [.call (.DeleteInstance "a" quietDelete), .proceed, .call (.DeleteVolume "data" none), .proceed]

def quietFork : ForkHost where
  guestAgentReady := true
  standby := .done none
  failed := none
  rotateErr := false
  restoreSource := quietRestore 0
  start := quietStart 0
  restore := quietRestore 0
  standbyFork := .done none
  stop := quietStop
  removeErr := none
  forkReady := true
  cleanup := quietDelete

theorem listed_volumes_attached_shared :
    ∃ s, (sessions Network.exampleConfig (emptyHost ∅ oneVolume)).Reachable
      (Each VolumesInOrder) s ∧
      (∃ g, s.world.guests.lookup "b" = some g ∧ g.stored.volumes ≠ []) ∧
      VolumesRecorded s.world := by
  obtain ⟨s, hs, g, hg, hlist⟩ :=
    (sessions Network.exampleConfig (emptyHost ∅ oneVolume)).exists_reachable_of_replay
      (Each VolumesInOrder)
      (fun s => ∃ g ∈ s.world.guests.lookup "b", g.stored.volumes ≠ [])
      (createWithVolume "a" "web" ++ createWithVolume "b" "db" ++ deleteBoth) (by decide +kernel)
  exact ⟨s, hs, ⟨g, hg, hlist⟩, listed_volumes_attached (by decide) hs⟩

/-- Instance `a` is stopped and forked to `f`, and then deleted. The volume has no attachment left
and is deleted, while `f` lists it. -/
theorem forked_volume_deleted :
    ¬ ∀ s, (sessions Network.exampleConfig (emptyHost ∅ oneVolume)).Reachable System.Always s →
      VolumesRecorded s.world := by
  obtain ⟨s, hs, ⟨g, hg, hlist⟩, hgone⟩ :=
    (sessions Network.exampleConfig (emptyHost ∅ oneVolume)).exists_reachable_of_replay
      System.Always
      (fun s => (∃ g ∈ s.world.guests.lookup "f",
        (⟨"data", "/data", true, false, 0⟩ : VolumeAttachment) ∈ g.stored.volumes) ∧
        s.world.volumes.lookup "data" = none)
      (List.flatten [createWithVolume "a" "web", stopFirst,
        [.call (.ForkInstance "a" "f" "copy" false none quietFork), .proceed, .proceed, .proceed],
        deleteBoth])
      (by decide +kernel)
  intro hall
  obtain ⟨volume, hvolume, -⟩ := hall s hs "f" g hg _ hlist
  rw [hgone] at hvolume
  cases hvolume

end Hypeman.Instances
