import Hypeman.Instances.Passthrough
import Hypeman.Instances.VolumeRecords

/-!
# Creations that fail

`createInstance` notes the devices and volumes it attaches, and its clean-up goes through the notes.
Whatever step fails, the notes are complete (`acquire_tracked`), so that a clean-up whose calls
succeed takes back every claim of the new instance and no other (`failed_creation_undone`).
-/

namespace Hypeman.Volumes

open Foundations

/-- A detachment that can be saved takes away what the instance has of the volume. -/
theorem attached_of_detach {volumes : VolumeTable} {id instanceID k : String}
    (h : Attached (settled volumes id (DetachVolume volumes id instanceID none)) k instanceID) :
    Attached volumes k instanceID ∧ k ≠ id := by
  unfold DetachVolume at h
  split at h
  next hnone =>
    refine ⟨h, ?_⟩
    rintro rfl
    obtain ⟨volume, hvolume, -⟩ := h
    exact absurd (hvolume.symm.trans hnone) (Option.some_ne_none _)
  next volume hvolume =>
  split at h
  next hfree =>
    refine ⟨h, ?_⟩
    rintro rfl
    obtain ⟨v, hv, att, hmem, hinst⟩ := h
    cases hvolume.symm.trans hv
    simp only [Bool.not_eq_true', List.any_eq_false, beq_iff_eq] at hfree
    exact hfree att hmem hinst
  next =>
    obtain ⟨v, hv, att, hmem, hinst⟩ := h
    rw [save, settled, Table.lookup_insert] at hv
    split at hv
    · cases hv
      simp only [List.mem_filter, bne_iff_ne, ne_eq] at hmem
      exact absurd hinst hmem.2
    next hk => exact ⟨⟨v, hv, att, hmem, hinst⟩, hk⟩

/-- A failing call attaches nothing. -/
theorem attached_of_leaves {volumes : VolumeTable} {id k instanceID : String} {err : VolumeError}
    (h : Attached (err.leaves volumes id) k instanceID) : Attached volumes k instanceID := by
  unfold VolumeError.leaves at h
  split at h
  · split at h
    · obtain ⟨volume, hvolume, hatt⟩ := h
      exact ⟨volume, ((Table.Sets.erase id volumes).eq_some hvolume).elim (nomatch ·.2) (·.2), hatt⟩
    · exact h
  · exact h

/-- Detachments that can be saved leave the instance only volumes that are not among them. -/
theorem detachVolumes_clears {fails : String → Option WriteFailure} (hfails : ∀ k, fails k = none)
    {instanceID : String} {ids : List String} {volumes : VolumeTable} {k : String}
    (hk : Attached (detachVolumes instanceID fails ids volumes) k instanceID) :
    Attached volumes k instanceID ∧ k ∉ ids := by
  induction ids generalizing volumes with
  | nil => exact ⟨hk, List.not_mem_nil⟩
  | cons id ids ih =>
    unfold detachVolumes at ih hk
    rw [List.foldl_cons, hfails] at hk
    obtain ⟨hatt, hids⟩ := ih hk
    obtain ⟨hatt, hne⟩ := attached_of_detach hatt
    exact ⟨hatt, fun hmem => (List.mem_cons.mp hmem).elim hne hids⟩

end Hypeman.Volumes

namespace Hypeman.Devices

open Foundations

/-- Detachments that can be saved free the devices they name and no other. -/
theorem holder_detachDevices {fails : String → Option WriteFailure} (hfails : ∀ k, fails k = none)
    (ids : List String) (devices : DeviceTable) (hids : ∀ id ∈ ids, (devices.lookup id).isSome)
    (k : String) :
    holder (detachDevices fails ids devices) k = if k ∈ ids then none else holder devices k := by
  induction ids generalizing devices with
  | nil => exact (if_neg List.not_mem_nil).symm
  | cons id ids ih =>
    obtain ⟨device, -, hget⟩ := GetDevice_of_isSome (hids id List.mem_cons_self)
    have hmark : (MarkDetached devices id (fails id)).2 =
        devices.insert id { device with attachedTo := none } := by
      rw [MarkDetached, hget, hfails]
      rfl
    unfold detachDevices at ih ⊢
    rw [List.foldl_cons, hmark, ih, holder_of_sets (.insert id _ devices)]
    · by_cases hk : k = id
      · simp [hk]
      · simp [hk]
    · intro d hd
      rw [Table.lookup_insert]
      split
      · rfl
      · exact hids d (List.mem_cons_of_mem _ hd)

end Hypeman.Devices

namespace Hypeman.Instances

open Foundations

variable {w : World} {id : String} {host : CreateHost}

/-- The notes of a creation: a device whose holder has changed was free and is among them, and so is
every volume that the new instance is attached to. -/
structure Creation.Tracked (w : World) (id : String) (c : Creation) : Prop where
  free : ∀ d ∈ c.attachedDevices, Devices.holder w.devices d = none
  kept : ∀ k, k ∉ c.attachedDevices → Devices.holder c.devices k = Devices.holder w.devices k
  noted : ∀ k, Volumes.Attached c.volumes k id → Volumes.Attached w.volumes k id ∨
    k ∈ c.attachedVolumes

theorem attachDevice_tracked (deviceRef : String) :
    Attempt.Spec (·.Tracked w id) (attachDevice id host deviceRef) (·.Tracked w id)
      (·.Tracked w id) := by
  refine .keeps fun c h => ?_
  unfold attachDevice
  split
  · exact h
  next deviceID device hget =>
  split
  · exact h
  next hnone =>
  have hid : (c.devices.lookup deviceID).isSome := by
    rw [Devices.lookup_of_GetDevice hget]
    rfl
  have hfree : Devices.holder c.devices deviceID = none :=
    (Devices.holder_of_GetDevice hget).trans hnone
  -- a free device stays free until it is attached, also if its record is lost
  have hstays : ∀ {new : Option Devices.Device} {devices : Devices.DeviceTable},
      Table.Sets deviceID new c.devices devices → new.bind Devices.Device.attachedTo = none →
      ∀ k, Devices.holder devices k = Devices.holder c.devices k := by
    intro new devices hset hnew k
    rw [Devices.holder_of_sets hset]
    split
    next heq => rw [hnew, heq, hfree]
    next => rfl
  have hbound : ∀ r, (if device.boundToVfio then (none, c.devices)
      else Devices.BindToVfio c.devices deviceID (host.bind deviceID)) = r →
      ∃ new, Table.Sets deviceID new c.devices r.2 ∧
        new.bind Devices.Device.attachedTo = none ∧ (r.1 = none → new.isSome) := by
    rintro r rfl
    split
    · exact ⟨_, .refl deviceID c.devices, hfree, fun _ => hid⟩
    · obtain ⟨new, hset, hnew, hdone⟩ := Devices.BindToVfio_sets hid (host.bind deviceID)
      exact ⟨new, hset, hnew hfree, hdone⟩
  split
  next heq =>
    obtain ⟨new, hset, hnew, -⟩ := hbound _ heq
    exact { h with kept := fun k hk => (hstays hset hnew k).trans (h.kept k hk) }
  next devices heq =>
  obtain ⟨new, hset, hnew, hsome⟩ := hbound _ heq
  have hid' : (devices.lookup deviceID).isSome := by
    rw [hset deviceID, if_pos rfl]
    exact hsome rfl
  obtain ⟨new', hset', hmark⟩ := Devices.MarkAttached_sets hid' id (host.markAttached deviceID)
  split
  next heq' =>
    rw [heq'] at hset' hmark
    have hnew' : new'.bind Devices.Device.attachedTo = none := by
      rcases hmark with ⟨hdone, -⟩ | ⟨-, rfl | rfl⟩
      · cases hdone
      · rfl
      · rw [hset deviceID, if_pos rfl]
        exact hnew
    exact { h with kept := fun k hk => (hstays (hset.trans hset') hnew' k).trans (h.kept k hk) }
  next devices' heq' =>
  rw [heq'] at hset'
  refine { h with free := ?_, kept := ?_ }
  · intro d hd
    rcases List.mem_append.mp hd with hd | hd
    · exact h.free d hd
    · rw [List.mem_singleton.mp hd]
      by_cases hmem : deviceID ∈ c.attachedDevices
      · exact h.free deviceID hmem
      · rw [← h.kept deviceID hmem]
        exact hfree
  · intro k hk
    rw [List.mem_append, not_or, List.mem_singleton] at hk
    rw [Devices.holder_of_sets (hset.trans hset'), if_neg hk.2]
    exact h.kept k hk.1

theorem attachVolume_tracked (volAttach : VolumeAttachment) :
    Attempt.Spec (·.Tracked w id) (attachVolume id host volAttach) (·.Tracked w id)
      (·.Tracked w id) := by
  refine .keeps fun c h => ?_
  unfold attachVolume
  split
  · exact h
  split
  next err herr =>
    exact { h with noted := fun k hk => h.noted k (Volumes.attached_of_leaves hk) }
  next volumes hok =>
  refine { h with noted := fun k hk => ?_ }
  by_cases hkey : k = volAttach.volumeID
  · exact .inr (List.mem_append_right _ (List.mem_singleton.mpr hkey))
  · obtain ⟨volume, hvolume, hatt⟩ := hk
    obtain ⟨_, _, _, _, heq⟩ := Volumes.AttachVolume_eq_ok hok
    rw [heq, Table.lookup_insert, if_neg hkey] at hvolume
    exact (h.noted k ⟨volume, hvolume, hatt⟩).imp_right (List.mem_append_left _)

/-- The notes are complete however far the creation came. -/
theorem acquire_tracked (cfg : Network.Config) (req : ResourceRequest) (host : CreateHost) :
    Attempt.Spec (Creation.Tracked w id) (acquire cfg w id req host) (Creation.Tracked w id)
      (Creation.Tracked w id) := by
  have hnetwork : Attempt.Spec (Creation.Tracked w id) (acquireNetwork cfg w id req host)
      (Creation.Tracked w id) (Creation.Tracked w id) := by
    refine .keeps fun c h => ?_
    unfold acquireNetwork
    split
    · exact { h with }
    · exact { h with }
  have hcheck : ∀ err, Attempt.Spec (Creation.Tracked w id) (Attempt.check err : Attempt String _)
      (Creation.Tracked w id) (Creation.Tracked w id) := fun _ => .check fun _ h => h
  refine .andThen (.each req.devices [] fun _ d _ => attachDevice_tracked d) ?_
  refine (hcheck _).andThen (.andThen (.when (fun _ => ?_) fun _ _ h => h) ?_)
  · exact (hcheck _).andThen (.andThen (.modify fun _ h => { h with }) (hcheck _))
  refine (hcheck _).andThen (.andThen (.when (fun _ => hnetwork) fun _ _ h => h) ?_)
  refine .andThen (.each req.volumes [] fun _ vol _ => attachVolume_tracked vol) ?_
  refine .andThen (.modify fun _ h => { h with }) ((hcheck _).andThen ((hcheck _).andThen ?_))
  exact .andThen (.modify fun _ h => { h with }) (hcheck _)

/-- **A failed creation leaves no claim.** Whatever step fails and whatever was acquired before it:
if the clean-up calls succeed, and a failing attachment does not lose the record of a volume that
others have, every device has the holder it had, the volumes have the attachments of the others and
no new one, and the instances are as before. -/
theorem failed_creation_undone {cfg : Network.Config} {w w' : World} {id err : String}
    {req : ResourceRequest} {host : CreateHost} (hdevices : ∀ k, host.markDetached k = none)
    (hvolumes : ∀ k, host.detachVolume k = none) (hretained : host.retained = false)
    (hkeeps : Volumes.KeepsOthers host.attachVolume id req.volumeIDs w.volumes)
    (hfailed : createInstance cfg w id req host = (some err, w')) :
    (∀ k, Devices.holder w'.devices k = Devices.holder w.devices k) ∧
      Volumes.SameBut id w.volumes w'.volumes ∧
      (∀ k, Volumes.Attached w'.volumes k id → Volumes.Attached w.volumes k id) ∧
      w'.guests = w.guests := by
  have hstart : (Creation.start w req).Tracked w id :=
    ⟨fun _ hd => absurd hd List.not_mem_nil, fun _ _ => rfl, fun _ hk => .inl hk⟩
  have htracked := acquire_tracked cfg req host _ hstart
  have hsound₀ : (Creation.start w req).Sound w id req host := Creation.sound_start
  have hsound := acquire_spec cfg host _ ⟨hsound₀, rfl⟩
  unfold createInstance at hfailed
  split at hfailed
  · cases hfailed
    exact ⟨fun _ => rfl, .refl _ _, fun _ hk => hk, rfl⟩
  split at hfailed
  · cases hfailed
    exact ⟨fun _ => rfl, .refl _ _, fun _ hk => hk, rfl⟩
  split at hfailed
  next c heq =>
    cases hfailed
    rw [heq] at htracked hsound
    have ht := htracked.2 (Option.some_ne_none _)
    have hs := hsound.2 (Option.some_ne_none _)
    have hsame : Volumes.SameBut id c.volumes
        (Volumes.detachVolumes id host.detachVolume c.attachedVolumes.reverse c.volumes) := by
      refine Volumes.detachVolumes_sameBut fun k _ failure hfailure => ?_
      rw [hvolumes] at hfailure
      cases hfailure
    refine ⟨fun k => ?_, (hs.sameBut hkeeps).trans hsame, fun k hk => ?_, ?_⟩
    · have hregistered : ∀ d ∈ c.attachedDevices, (c.devices.lookup d).isSome := fun d hd =>
        Option.isSome_of_isSome_bind (Option.isSome_iff_exists.mpr ⟨id, hs.attached d hd⟩)
      refine (Devices.holder_detachDevices hdevices _ _ hregistered k).trans ?_
      split
      next hmem => exact (ht.free k hmem).symm
      next hmem => exact ht.kept k hmem
    · obtain ⟨hatt, hnot⟩ := Volumes.detachVolumes_clears hvolumes hk
      rw [List.mem_reverse] at hnot
      exact (ht.noted k hatt).resolve_right hnot
    · unfold rollback
      dsimp only
      split
      · exact if_neg (Bool.eq_false_iff.mp hretained)
      · rfl
  next => cases hfailed

/-- The boot fails after a device and a volume have been attached. -/
theorem failed_boot_undone :
    ∃ w', createInstance Network.exampleConfig (emptyHost oneDevice oneVolume) "a"
        ⟨"web", true, ["gpu"], (volumeRequest "web").volumes, "", true⟩
        { quietCreate 0 with boot := some "no kvm" } = (some "no kvm", w') ∧
      ∀ k, Devices.holder w'.devices k = Devices.holder oneDevice k := by
  have herr : (createInstance Network.exampleConfig (emptyHost oneDevice oneVolume) "a"
      ⟨"web", true, ["gpu"], (volumeRequest "web").volumes, "", true⟩
      { quietCreate 0 with boot := some "no kvm" }).1 = some "no kvm" := by decide +kernel
  have hr := Prod.ext herr rfl
  refine ⟨_, hr, (failed_creation_undone (fun _ => rfl) (fun _ => rfl) rfl ?_ hr).1⟩
  exact fun _ _ _ hfailure => (nomatch hfailure)

end Hypeman.Instances
