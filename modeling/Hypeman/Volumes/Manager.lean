import Hypeman.Foundations.Results
import Hypeman.Foundations.Table

/-!
# Volumes and their attachment records

The attachment records of volumes (`lib/volumes/manager.go`): a volume may be attached read-write
to one instance, or read-only to any number, and is deleted only without attachments.

* `AttachVolume_shareable`, `DetachVolume_shareable`: the multi-attach rule is kept.
* `SameBut`: attaching and detaching one instance leaves the attachments of the others.
-/

namespace Hypeman.Volumes

open Foundations

/-- `storedAttachment`. -/
structure Attachment where
  instanceID : String
  mountPath : String
  readonly : Bool
deriving DecidableEq, Repr

/-- The fields of a volume's `storedMetadata` that attaching uses. -/
structure Volume where
  attachments : List Attachment
deriving DecidableEq, Repr

abbrev VolumeTable := Table String Volume

/-- The errors of the volume manager; `failed` is a failure of a write or a removal, which may lose
the metadata. -/
inductive VolumeError
  | notFound
  | inUse
  | alreadyAttached (instanceID : String)
  | exclusive (instanceID : String)
  | readonlyAttachments
  | failed (failure : WriteFailure)
deriving DecidableEq, Repr

def VolumeError.text : VolumeError → String
  | .notFound => "volume not found"
  | .inUse => "volume is in use"
  | .alreadyAttached instanceID => s!"volume already attached to instance {instanceID}"
  | .exclusive instanceID => s!"volume has exclusive read-write attachment to instance {instanceID}"
  | .readonlyAttachments => "cannot attach read-write: volume has existing read-only attachments"
  | .failed failure => failure.err

variable (volumes : VolumeTable)

/-- `saveMetadata`. -/
def save (id : String) (volume : Volume) (fails : Option WriteFailure) :
    Except VolumeError VolumeTable :=
  match fails with
  | some failure => .error (.failed failure)
  | none => .ok (volumes.insert id volume)

def AttachVolume (id : String) (req : Attachment) (fails : Option WriteFailure) :
    Except VolumeError VolumeTable :=
  match volumes.lookup id with
  | none => .error .notFound
  | some volume =>
    if volume.attachments.any (·.instanceID == req.instanceID) then
      .error (.alreadyAttached req.instanceID)
    else match volume.attachments.find? (!·.readonly) with
      | some att => .error (.exclusive att.instanceID)
      | none =>
        if volume.attachments ≠ [] ∧ req.readonly = false then .error .readonlyAttachments
        else save volumes id { volume with attachments := volume.attachments ++ [req] } fails

def DetachVolume (volumeID instanceID : String) (fails : Option WriteFailure) :
    Except VolumeError VolumeTable :=
  match volumes.lookup volumeID with
  | none => .error .notFound
  | some volume =>
    if !volume.attachments.any (·.instanceID == instanceID) then
      .error (.failed ⟨s!"volume not attached to instance {instanceID}", false⟩)
    else save volumes volumeID
      { volume with attachments := volume.attachments.filter (·.instanceID != instanceID) } fails

def DeleteVolume (id : String) (fails : Option WriteFailure) : Except VolumeError VolumeTable :=
  match volumes.lookup id with
  | none => .error .notFound
  | some volume =>
    if volume.attachments ≠ [] then .error .inUse
    else match fails with
      | some failure => .error (.failed failure)
      | none => .ok (volumes.erase id)

/-- The volumes after a failing call. A volume whose metadata is lost can no longer be loaded, and
counts as one that does not exist. -/
def VolumeError.leaves (id : String) : VolumeError → VolumeTable
  | .failed failure => if failure.lost then volumes.erase id else volumes
  | _ => volumes

/-- The volumes after a call whose error is ignored. -/
def settled (id : String) : Except VolumeError VolumeTable → VolumeTable
  | .ok volumes => volumes
  | .error err => err.leaves volumes id

def Volume.attachedTo (volume : Volume) (instanceID : String) : Prop :=
  ∃ att ∈ volume.attachments, att.instanceID = instanceID

/-- The multi-attach rule: there is one attachment at most, or all are read-only. -/
def Volume.Shareable (volume : Volume) : Prop :=
  volume.attachments.length ≤ 1 ∨ ∀ att ∈ volume.attachments, att.readonly = true

variable {volumes} {id instanceID : String} {req : Attachment} {fails : Option WriteFailure}
  {volumes' : VolumeTable}

theorem save_eq_ok {volume : Volume} (h : save volumes id volume fails = .ok volumes') :
    volumes' = volumes.insert id volume := by
  cases fails with
  | some failure => cases h
  | none =>
    cases h
    rfl

/-- Only a write that the checks allow can fail. -/
theorem AttachVolume_failed {failure : WriteFailure}
    (h : AttachVolume volumes id req fails = .error (.failed failure)) :
    failure ∈ fails ∧ (AttachVolume volumes id req none).isOk = true := by
  unfold AttachVolume at h ⊢
  split at h
  · cases h
  next volume hvolume =>
  split at h
  · cases h
  next hany =>
  split at h
  · cases h
  next hfind =>
  split at h
  · cases h
  next hmode =>
  simp only [if_neg hany, if_neg hmode]
  cases fails with
  | some f =>
    cases h
    exact ⟨rfl, rfl⟩
  | none => cases h

theorem DetachVolume_failed {failure : WriteFailure}
    (h : DetachVolume volumes id instanceID fails = .error (.failed failure))
    (hlost : failure.lost = true) :
    failure ∈ fails ∧ (DetachVolume volumes id instanceID none).isOk = true := by
  unfold DetachVolume at h ⊢
  split at h
  · cases h
  next volume hvolume =>
  split at h
  · cases h
    cases hlost
  next hany =>
  simp only [if_neg hany]
  cases fails with
  | some f =>
    cases h
    exact ⟨rfl, rfl⟩
  | none => cases h

theorem DeleteVolume_failed {failure : WriteFailure}
    (h : DeleteVolume volumes id fails = .error (.failed failure)) :
    failure ∈ fails ∧ ∃ volume, volumes.lookup id = some volume ∧ volume.attachments = [] := by
  unfold DeleteVolume at h
  split at h
  · cases h
  next volume hvolume =>
  split at h
  · cases h
  next hempty =>
  cases fails with
  | some f =>
    cases h
    exact ⟨rfl, volume, hvolume, not_not.mp hempty⟩
  | none => cases h

theorem AttachVolume_eq_ok (h : AttachVolume volumes id req fails = .ok volumes') :
    ∃ volume, volumes.lookup id = some volume ∧ (∀ att ∈ volume.attachments, att.readonly = true) ∧
      (volume.attachments = [] ∨ req.readonly = true) ∧
      volumes' = volumes.insert id { volume with attachments := volume.attachments ++ [req] } := by
  unfold AttachVolume at h
  split at h
  · cases h
  next volume hvolume =>
  split at h
  · cases h
  split at h
  · cases h
  next hfind =>
  split at h
  · cases h
  next hmode =>
  refine ⟨volume, hvolume, ?_, ?_, save_eq_ok h⟩
  · simpa using hfind
  · by_cases hempty : volume.attachments = []
    · exact .inl hempty
    · exact .inr (by simpa [hempty] using hmode)

/-- Attaching succeeds only for an instance that is not attached yet. -/
theorem AttachVolume_fresh (h : AttachVolume volumes id req fails = .ok volumes') {volume : Volume}
    (hvolume : volumes.lookup id = some volume) : ¬ volume.attachedTo req.instanceID := by
  rintro ⟨att, hmem, hinst⟩
  have hany : volume.attachments.any (·.instanceID == req.instanceID) = true :=
    List.any_eq_true.mpr ⟨att, hmem, beq_iff_eq.mpr hinst⟩
  unfold AttachVolume at h
  rw [hvolume] at h
  simp only [hany, if_true] at h
  cases h

theorem DetachVolume_eq_ok (h : DetachVolume volumes id instanceID fails = .ok volumes') :
    ∃ volume, volumes.lookup id = some volume ∧ volumes' = volumes.insert id
      { volume with attachments := volume.attachments.filter (·.instanceID != instanceID) } := by
  unfold DetachVolume at h
  split at h
  · cases h
  next volume hvolume =>
  split at h
  · cases h
  · exact ⟨volume, hvolume, save_eq_ok h⟩

theorem DeleteVolume_eq_ok (h : DeleteVolume volumes id fails = .ok volumes') :
    ∃ volume, volumes.lookup id = some volume ∧ volume.attachments = [] ∧
      volumes' = volumes.erase id := by
  unfold DeleteVolume at h
  split at h
  · cases h
  next volume hvolume =>
  split at h
  · cases h
  next hempty =>
  cases fails with
  | some failure => cases h
  | none =>
    cases h
    exact ⟨volume, hvolume, not_not.mp hempty, rfl⟩

/-- A shareable volume that is attached to an instance is attached read-only to all others. -/
theorem Volume.Shareable.readonly_of_ne {volume : Volume} (h : volume.Shareable)
    (hatt : volume.attachedTo instanceID) {att : Attachment} (hmem : att ∈ volume.attachments)
    (hne : att.instanceID ≠ instanceID) : att.readonly = true := by
  rcases h with hone | hall
  · obtain ⟨own, hown, rfl⟩ := hatt
    have heq : att = own := by
      obtain ⟨a, ha⟩ | hnil : (∃ a, volume.attachments = [a]) ∨ volume.attachments = [] := by
        match hl : volume.attachments, hone with
        | [], _ => exact .inr rfl
        | [a], _ => exact .inl ⟨a, rfl⟩
      · rw [ha, List.mem_singleton] at hmem hown
        rw [hmem, hown]
      · rw [hnil] at hmem
        cases hmem
    exact absurd (congrArg Attachment.instanceID heq) hne
  · exact hall att hmem

def AllShareable (volumes : VolumeTable) : Prop :=
  ∀ id volume, volumes.lookup id = some volume → volume.Shareable

theorem AllShareable.insert (h : AllShareable volumes) {volume : Volume}
    (hvolume : volume.Shareable) : AllShareable (volumes.insert id volume) := by
  refine (Table.Sets.insert id volume volumes).all h ?_
  rintro _ ⟨⟩
  exact hvolume

theorem AttachVolume_shareable (h : AllShareable volumes)
    (hok : AttachVolume volumes id req fails = .ok volumes') : AllShareable volumes' := by
  obtain ⟨volume, -, hall, hmode, rfl⟩ := AttachVolume_eq_ok hok
  refine h.insert ?_
  rcases hmode with hempty | hreq
  · left
    simp only [hempty, List.nil_append, List.length_singleton, le_refl]
  · right
    intro att hatt
    rcases List.mem_append.mp hatt with hatt | hatt
    · exact hall att hatt
    · rw [List.mem_singleton.mp hatt]
      exact hreq

theorem DetachVolume_shareable (h : AllShareable volumes)
    (hok : DetachVolume volumes id instanceID fails = .ok volumes') : AllShareable volumes' := by
  obtain ⟨volume, hvolume, rfl⟩ := DetachVolume_eq_ok hok
  refine h.insert ((h id volume hvolume).imp ?_ ?_)
  · exact fun hone => Nat.le_trans (List.length_filter_le _ _) hone
  · exact fun hall att hatt => hall att (List.mem_of_mem_filter hatt)

theorem AllShareable.leaves (h : AllShareable volumes) (err : VolumeError) (id : String) :
    AllShareable (err.leaves volumes id) := by
  unfold VolumeError.leaves
  split
  · split
    · exact Table.Sets.all_erase h id
    · exact h
  · exact h

/-! ## One instance at a time -/

def Attached (volumes : VolumeTable) (volumeID instanceID : String) : Prop :=
  ∃ volume, volumes.lookup volumeID = some volume ∧ volume.attachedTo instanceID

def Volume.others (volume : Volume) (instanceID : String) : List Attachment :=
  volume.attachments.filter (·.instanceID != instanceID)

/-- The attachments of the other instances, none if the volume does not exist. -/
def others (volumes : VolumeTable) (id instanceID : String) : List Attachment :=
  (volumes.lookup id).elim [] (·.others instanceID)

/-- The volumes have the same attachments of the other instances. -/
def SameBut (instanceID : String) (volumes volumes' : VolumeTable) : Prop :=
  ∀ id, others volumes' id instanceID = others volumes id instanceID

theorem SameBut.refl (instanceID : String) (volumes : VolumeTable) :
    SameBut instanceID volumes volumes := fun _ => rfl

theorem SameBut.trans {volumes'' : VolumeTable} (h : SameBut instanceID volumes volumes')
    (h' : SameBut instanceID volumes' volumes'') : SameBut instanceID volumes volumes'' :=
  fun id => (h' id).trans (h id)

theorem SameBut.insert {volume volume' : Volume} (hlookup : volumes.lookup id = some volume)
    (hothers : volume'.others instanceID = volume.others instanceID) :
    SameBut instanceID volumes (volumes.insert id volume') := by
  intro k
  unfold others
  rw [Table.lookup_insert]
  split
  next hk => rw [hk, hlookup, Option.elim_some, Option.elim_some, hothers]
  next => rfl

/-- A failing call leaves the other instances unless it loses a volume that they have. -/
theorem SameBut.leaves {err : VolumeError} (h : ∀ failure, err = .failed failure →
    failure.lost = true → others volumes id instanceID = []) :
    SameBut instanceID volumes (err.leaves volumes id) := by
  intro k
  unfold VolumeError.leaves
  split
  next failure =>
    split
    next hlost =>
      by_cases hk : k = id
      · rw [hk, h failure rfl hlost, others, AList.lookup_erase]
        rfl
      · rw [others, AList.lookup_erase_ne hk]
        rfl
    next => rfl
  next => rfl

theorem AttachVolume_sameBut (hok : AttachVolume volumes id req fails = .ok volumes') :
    SameBut req.instanceID volumes volumes' := by
  obtain ⟨volume, hvolume, -, -, rfl⟩ := AttachVolume_eq_ok hok
  refine SameBut.insert hvolume ?_
  simp [Volume.others, List.filter_append]

theorem DetachVolume_sameBut (hok : DetachVolume volumes id instanceID fails = .ok volumes') :
    SameBut instanceID volumes volumes' := by
  obtain ⟨volume, hvolume, rfl⟩ := DetachVolume_eq_ok hok
  refine SameBut.insert hvolume ?_
  simp [Volume.others, List.filter_filter]

theorem mem_others {volume : Volume} {att : Attachment} :
    att ∈ volume.others instanceID ↔ att ∈ volume.attachments ∧ att.instanceID ≠ instanceID := by
  simp [Volume.others]

/-- The attachments of another instance stay. -/
theorem SameBut.attached (h : SameBut instanceID volumes volumes') {volumeID other : String}
    (hne : other ≠ instanceID) (hatt : Attached volumes volumeID other) :
    Attached volumes' volumeID other := by
  obtain ⟨volume, hvolume, att, hmem, rfl⟩ := hatt
  have hothers : att ∈ others volumes' volumeID instanceID := by
    rw [h volumeID, others, hvolume]
    exact mem_others.mpr ⟨hmem, hne⟩
  unfold others at hothers
  cases hlookup : volumes'.lookup volumeID with
  | none =>
    rw [hlookup] at hothers
    cases hothers
  | some volume' =>
    rw [hlookup] at hothers
    exact ⟨volume', hlookup, att, (mem_others.mp hothers).1, rfl⟩

theorem AttachVolume_attached (hok : AttachVolume volumes id req fails = .ok volumes') :
    Attached volumes' id req.instanceID := by
  obtain ⟨volume, -, -, -, rfl⟩ := AttachVolume_eq_ok hok
  refine ⟨_, (Table.lookup_insert ..).trans (if_pos rfl), req, ?_, rfl⟩
  exact List.mem_append_right _ List.mem_cons_self

/-- Attaching takes nothing away. -/
theorem AttachVolume_keeps (hok : AttachVolume volumes id req fails = .ok volumes')
    {volumeID other : String} (hatt : Attached volumes volumeID other) :
    Attached volumes' volumeID other := by
  obtain ⟨volume, hvolume, -, -, rfl⟩ := AttachVolume_eq_ok hok
  obtain ⟨v, hv, att, hmem, hinst⟩ := hatt
  by_cases hid : volumeID = id
  · subst hid
    rw [hvolume] at hv
    cases hv
    exact ⟨_, (Table.lookup_insert ..).trans (if_pos rfl), att, List.mem_append_left _ hmem, hinst⟩
  · exact ⟨v, ((Table.lookup_insert ..).trans (if_neg hid)).trans hv, att, hmem, hinst⟩

/-- No failing write loses the metadata of a volume that other instances have. -/
def KeepsOthers (fails : String → Option WriteFailure) (instanceID : String) (ids : List String)
    (volumes : VolumeTable) : Prop :=
  ∀ id ∈ ids, ∀ failure ∈ fails id, failure.lost = true → others volumes id instanceID = []

instance (fails : String → Option WriteFailure) (instanceID : String) (ids : List String)
    (volumes : VolumeTable) : Decidable (KeepsOthers fails instanceID ids volumes) :=
  inferInstanceAs (Decidable (∀ id ∈ ids, ∀ failure ∈ fails id, failure.lost = true →
    others volumes id instanceID = []))

theorem KeepsOthers.sameBut {fails : String → Option WriteFailure} {ids : List String}
    (h : KeepsOthers fails instanceID ids volumes) (hsame : SameBut instanceID volumes volumes') :
    KeepsOthers fails instanceID ids volumes' :=
  fun id hid failure hfailure hlost => (hsame id).trans (h id hid failure hfailure hlost)

/-- Detach the instance from the volumes, with the errors ignored. -/
def detachVolumes (instanceID : String) (fails : String → Option WriteFailure) (ids : List String)
    (volumes : VolumeTable) : VolumeTable :=
  ids.foldl (fun volumes id =>
    settled volumes id (DetachVolume volumes id instanceID (fails id))) volumes

theorem detachVolumes_shareable (instanceID : String) (fails : String → Option WriteFailure)
    (ids : List String) (volumes : VolumeTable) (hshare : AllShareable volumes) :
    AllShareable (detachVolumes instanceID fails ids volumes) := by
  induction ids generalizing volumes with
  | nil => exact hshare
  | cons id ids ih =>
    refine ih (settled volumes id (DetachVolume volumes id instanceID (fails id))) ?_
    cases hd : DetachVolume volumes id instanceID (fails id) with
    | error err => exact hshare.leaves err id
    | ok volumes₁ => exact DetachVolume_shareable hshare hd

/-- Detaching an instance from volumes leaves the other instances what they have. -/
theorem detachVolumes_sameBut {fails : String → Option WriteFailure} {ids : List String}
    (h : KeepsOthers fails instanceID ids volumes) :
    SameBut instanceID volumes (detachVolumes instanceID fails ids volumes) := by
  induction ids generalizing volumes with
  | nil => exact .refl _ _
  | cons id ids ih =>
    have hone : SameBut instanceID volumes
        (settled volumes id (DetachVolume volumes id instanceID (fails id))) := by
      cases hd : DetachVolume volumes id instanceID (fails id) with
      | error err =>
        refine SameBut.leaves ?_
        rintro failure rfl hlost
        exact h id List.mem_cons_self failure (DetachVolume_failed hd hlost).1 hlost
      | ok volumes₁ => exact DetachVolume_sameBut hd
    refine hone.trans (ih (KeepsOthers.sameBut ?_ hone))
    exact fun k hk => h k (List.mem_cons_of_mem _ hk)

end Hypeman.Volumes
