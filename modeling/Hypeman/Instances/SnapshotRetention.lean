import Hypeman.Foundations.Ranking
import Hypeman.Tags.Validation
import Mathlib.Data.List.Dedup

/-!
# Retention of scheduled snapshots

Model of `cleanupScheduledSnapshots` (`lib/instances/snapshot_schedule.go`) with
`BuildSnapshotMetadata` and `IsScheduledSnapshot` (`lib/scheduledsnapshots/policy.go`). What was
taken by the schedule is recognised by two tags, and a user may give a snapshot the same two.

* `cleanup_exact_iff`: the cleanup removes what the retention says, and nothing of a user, exactly
  if no snapshot of a user has the tags or these are too young and too few to change anything.
* `imitation_deleted`: a snapshot of a user that is removed.
-/

namespace Hypeman.Instances

open Foundations

def metadataKeyScheduled : String := "hypeman.scheduled"

def metadataKeySourceInstanceID : String := "hypeman.schedule_instance_id"

def BuildSnapshotMetadata (instanceID : String) (userMetadata : Table String String) :
    Table String String :=
  (userMetadata.insert metadataKeyScheduled "true").insert metadataKeySourceInstanceID instanceID

/-- `IsScheduledSnapshot`; a key that is missing reads as the empty string. -/
def IsScheduledSnapshot (metadata : Table String String) (instanceID : String) : Bool :=
  (metadata.lookup metadataKeyScheduled).getD "" == "true" &&
    (metadata.lookup metadataKeySourceInstanceID).getD "" == instanceID

/-- Who took a snapshot: `CreateSnapshot` with the tags of the request, or the schedule of the
instance with its metadata. -/
inductive SnapshotOrigin
  | user (tags : Table String String)
  | schedule (metadata : Table String String)

structure StoredSnapshot where
  id : String
  sourceInstanceID : String
  createdAt : Int
  origin : SnapshotOrigin

structure SnapshotScheduleRetention where
  maxCount : Int
  maxAge : Int

namespace StoredSnapshot

def tags (snap : StoredSnapshot) : Table String String :=
  match snap.origin with
  | .user tags => tags
  | .schedule metadata => BuildSnapshotMetadata snap.sourceInstanceID metadata

def byUser (snap : StoredSnapshot) : Bool :=
  match snap.origin with
  | .user _ => true
  | .schedule _ => false

/-- The snapshot is before `now - MaxAge`. -/
def aged (retention : SnapshotScheduleRetention) (now : Int) (snap : StoredSnapshot) : Bool :=
  0 < retention.maxAge && snap.createdAt < now - retention.maxAge

end StoredSnapshot

open StoredSnapshot

inductive DeleteAnswer
  | deleted
  | notFound
  | failed (err : String)

variable (snapshots : List StoredSnapshot) (instanceID : String)
  (retention : SnapshotScheduleRetention) (now : Int)

def listScheduledSnapshotsByInstance : List StoredSnapshot :=
  snapshots.filter fun snap =>
    snap.sourceInstanceID == instanceID && IsScheduledSnapshot snap.tags instanceID

/-- The order that `cleanupScheduledSnapshots` sorts by. -/
def newestFirst (candidates : List StoredSnapshot) : List StoredSnapshot :=
  candidates.insertionSort fun a b => b.createdAt ≤ a.createdAt

/-- `deleteIDs`, without repetitions. -/
def deleteIDs (candidates : List StoredSnapshot) : List String :=
  let sorted := newestFirst candidates
  let beyond := if 0 < retention.maxCount then sorted.drop retention.maxCount.toNat else []
  ((beyond ++ sorted.filter (aged retention now)).map (·.id)).dedup

/-- `cleanupScheduledSnapshots`: the error and the snapshots that were deleted. `listing` is the
error of the listing; the map `deleteIDs` is gone through in the order of the list here. -/
def cleanupScheduledSnapshots (listing : Option String) (delete : String → DeleteAnswer) :
    Option String × List String :=
  if retention.maxCount = 0 ∧ retention.maxAge = 0 then (none, [])
  else match listing with
    | some err => (some s!"list snapshots: {err}", [])
    | none =>
      let ids := deleteIDs retention now (listScheduledSnapshotsByInstance snapshots instanceID)
      let errs := ids.filterMap fun id => match delete id with
        | .failed err => some s!"delete snapshot {id}: {err}"
        | _ => none
      let gone := ids.filter fun id => match delete id with
        | .failed _ => false
        | _ => true
      (if errs = [] then none else some ("\n".intercalate errs), gone)

/-! ## What is to be removed -/

def scheduledSnapshots : List StoredSnapshot :=
  snapshots.filter fun snap => snap.sourceInstanceID == instanceID && !snap.byUser

/-- `snap` has `MaxCount` newer ones in `among`. -/
def Outnumbered (among : List StoredSnapshot) (snap : StoredSnapshot) : Prop :=
  0 < retention.maxCount ∧ retention.maxCount ≤ rank createdAt among snap

/-- `snap` is not to be kept, if `among` are the snapshots that count. -/
def Expired (among : List StoredSnapshot) (snap : StoredSnapshot) : Prop :=
  Outnumbered retention among snap ∨ snap.aged retention now = true

/-- The cleanup deletes the snapshots of the schedule that are not to be kept, if it returns no
error, and never one of a user. -/
def CleanupExact : Prop :=
  ∀ listing delete,
    let result := cleanupScheduledSnapshots snapshots instanceID retention now listing delete
    (result.1 = none → ∀ snap ∈ snapshots, snap.id ∈ result.2 ↔
      snap ∈ scheduledSnapshots snapshots instanceID ∧
        Expired retention now (scheduledSnapshots snapshots instanceID) snap) ∧
    ∀ snap ∈ snapshots, snap.id ∈ result.2 → snap.byUser = false

abbrev DistinctTimes (candidates : List StoredSnapshot) : Prop :=
  candidates.Pairwise fun a b => a.createdAt ≠ b.createdAt

/-- The identifiers are different, and so are the times at which the snapshots of the instance were
taken. -/
structure DistinctSnapshots : Prop where
  ids : snapshots.Pairwise fun a b => a.id ≠ b.id
  times : DistinctTimes (snapshots.filter (·.sourceInstanceID == instanceID))

/-- Of snapshots with the tags of the schedule, none is of a user; or none of a user is too old, and
none is removed for their number alone. -/
def ImitationsHarmless (marked : List StoredSnapshot) : Prop :=
  (∀ snap ∈ marked, snap.byUser = false) ∨
    (∀ snap ∈ marked, snap.byUser = true → snap.aged retention now = false) ∧
      ∀ snap ∈ marked, Outnumbered retention marked snap → snap.aged retention now = true

/-- The same snapshots are not to be kept, whether those of users count or not. -/
def Agree (marked : List StoredSnapshot) : Prop :=
  ∀ snap ∈ marked, Expired retention now marked snap ↔
    snap.byUser = false ∧ Expired retention now (marked.filter (!·.byUser)) snap

variable {snapshots instanceID retention now}

theorem isScheduledSnapshot_buildSnapshotMetadata (instanceID : String)
    (userMetadata : Table String String) :
    IsScheduledSnapshot (BuildSnapshotMetadata instanceID userMetadata) instanceID = true := by
  have hne : metadataKeyScheduled ≠ metadataKeySourceInstanceID := by decide
  simp [IsScheduledSnapshot, BuildSnapshotMetadata, hne]

/-- The snapshots of the schedule are those with the tags that are not of a user. -/
theorem scheduledSnapshots_eq : scheduledSnapshots snapshots instanceID =
    (listScheduledSnapshotsByInstance snapshots instanceID).filter (!·.byUser) := by
  rw [scheduledSnapshots, listScheduledSnapshotsByInstance, List.filter_filter]
  refine List.filter_congr fun snap _ => ?_
  cases horigin : snap.origin with
  | user tags => simp [byUser, horigin]
  | schedule metadata =>
    by_cases hsource : snap.sourceInstanceID = instanceID
    · have htags := isScheduledSnapshot_buildSnapshotMetadata snap.sourceInstanceID metadata
      rw [hsource] at htags
      simp [byUser, tags, horigin, hsource, htags]
    · simp [beq_false_of_ne hsource]

section

variable {candidates : List StoredSnapshot} {snap : StoredSnapshot}

theorem perm_newestFirst : (newestFirst candidates).Perm candidates := List.perm_insertionSort _ _

theorem falling_newestFirst (h : DistinctTimes candidates) :
    Falling createdAt (newestFirst candidates) := by
  have hsorted := List.pairwise_insertionSort
    (fun a b : StoredSnapshot => b.createdAt ≤ a.createdAt) candidates
  have hne := h.perm perm_newestFirst.symm fun hab => hab.symm
  exact hsorted.imp₂ (fun a b hle hne => lt_of_le_of_ne hle hne.symm) hne

theorem outnumbered_iff_mem_drop (h : DistinctTimes candidates) (hmem : snap ∈ candidates) :
    Outnumbered retention candidates snap ↔
      0 < retention.maxCount ∧ snap ∈ (newestFirst candidates).drop retention.maxCount.toNat := by
  rw [Outnumbered, mem_drop_iff_rank (falling_newestFirst h) _ (perm_newestFirst.mem_iff.mpr hmem),
    rank_perm perm_newestFirst]
  exact and_congr_right fun _ => by omega

theorem exists_rank_eq_of_distinct (h : DistinctTimes candidates) {n : ℕ}
    (hmem : snap ∈ candidates) (hn : n ≤ rank createdAt candidates snap) :
    ∃ other ∈ candidates, rank createdAt candidates other = n ∧
      snap.createdAt ≤ other.createdAt := by
  obtain ⟨other, hother, hrank, hle⟩ := exists_rank_eq (falling_newestFirst h)
    (perm_newestFirst.mem_iff.mpr hmem) (hn.trans_eq (rank_perm perm_newestFirst).symm)
  exact ⟨other, perm_newestFirst.mem_iff.mp hother, (rank_perm perm_newestFirst).symm.trans hrank,
    hle⟩

theorem mem_deleteIDs (h : DistinctTimes candidates) {id : String} :
    id ∈ deleteIDs retention now candidates ↔
      ∃ snap ∈ candidates, Expired retention now candidates snap ∧ snap.id = id := by
  simp only [deleteIDs, List.mem_dedup, List.mem_map, List.mem_append, List.mem_filter,
    perm_newestFirst.mem_iff]
  refine exists_congr fun snap => ?_
  by_cases hsnap : snap ∈ candidates
  · rw [Expired, outnumbered_iff_mem_drop h hsnap]
    split <;> simp [*]
  · have hnot : snap ∉ (newestFirst candidates).drop retention.maxCount.toNat := fun hdrop =>
      hsnap (perm_newestFirst.mem_iff.mp (List.mem_of_mem_drop hdrop))
    split <;> simp [*]

end

theorem cleanup_subset {listing : Option String} {delete : String → DeleteAnswer} {id : String}
    (h : id ∈ (cleanupScheduledSnapshots snapshots instanceID retention now listing delete).2) :
    id ∈ deleteIDs retention now (listScheduledSnapshotsByInstance snapshots instanceID) := by
  unfold cleanupScheduledSnapshots at h
  split at h
  · cases h
  cases listing with
  | some err => cases h
  | none => exact List.mem_of_mem_filter h

theorem cleanup_complete {listing : Option String} {delete : String → DeleteAnswer} {id : String}
    (hok : (cleanupScheduledSnapshots snapshots instanceID retention now listing delete).1 = none)
    (hid : id ∈ deleteIDs retention now (listScheduledSnapshotsByInstance snapshots instanceID)) :
    id ∈ (cleanupScheduledSnapshots snapshots instanceID retention now listing delete).2 := by
  unfold cleanupScheduledSnapshots at hok ⊢
  split at hok
  next hoff =>
    simp [deleteIDs, aged, hoff] at hid
  next hon =>
    rw [if_neg hon]
    cases listing with
    | some err => cases hok
    | none =>
      have herrs := (List.filterMap_eq_nil_iff.mp (by simpa using hok)) id hid
      refine List.mem_filter.mpr ⟨hid, ?_⟩
      cases hdelete : delete id with
      | failed err => simp [hdelete] at herrs
      | deleted => rfl
      | notFound => rfl

theorem cleanup_all_deleted :
    cleanupScheduledSnapshots snapshots instanceID retention now none (fun _ => .deleted) =
      (none, deleteIDs retention now (listScheduledSnapshotsByInstance snapshots instanceID)) := by
  unfold cleanupScheduledSnapshots
  split
  next hoff => simp [deleteIDs, aged, hoff]
  next => simp

theorem distinct_times (h : DistinctSnapshots snapshots instanceID) :
    DistinctTimes (listScheduledSnapshotsByInstance snapshots instanceID) := by
  refine h.times.sublist ?_
  rw [listScheduledSnapshotsByInstance, ← List.filter_filter, List.filter_comm]
  exact List.filter_sublist

/-- Of the snapshots with the tags, those are deleted that are not to be kept among them. -/
theorem id_mem_deleteIDs (h : DistinctSnapshots snapshots instanceID) {snap : StoredSnapshot}
    (hsnap : snap ∈ snapshots) :
    snap.id ∈ deleteIDs retention now (listScheduledSnapshotsByInstance snapshots instanceID) ↔
      snap ∈ listScheduledSnapshotsByInstance snapshots instanceID ∧
        Expired retention now (listScheduledSnapshotsByInstance snapshots instanceID) snap := by
  rw [mem_deleteIDs (distinct_times h)]
  constructor
  · rintro ⟨other, hother, hexpired, hid⟩
    have hsame : other = snap := List.inj_on_of_nodup_map (List.pairwise_map.mpr h.ids)
      (List.mem_of_mem_filter hother) hsnap hid
    exact hsame ▸ ⟨hother, hexpired⟩
  · rintro ⟨hmem, hexpired⟩
    exact ⟨snap, hmem, hexpired, rfl⟩

/-- Only the snapshots with the tags matter to the exactness of the cleanup. -/
theorem cleanupExact_iff_expired (h : DistinctSnapshots snapshots instanceID) :
    CleanupExact snapshots instanceID retention now ↔
      Agree retention now (listScheduledSnapshotsByInstance snapshots instanceID) := by
  have hsched : ∀ snap, snap ∈ scheduledSnapshots snapshots instanceID ↔
      snap ∈ listScheduledSnapshotsByInstance snapshots instanceID ∧ snap.byUser = false := by
    intro snap
    rw [scheduledSnapshots_eq, List.mem_filter, Bool.not_eq_true']
  rw [Agree, ← scheduledSnapshots_eq]
  constructor
  · intro hexact snap hmem
    have hsnap := List.mem_of_mem_filter hmem
    have hiff := (hexact none fun _ => .deleted).1 (by rw [cleanup_all_deleted]) snap hsnap
    rw [cleanup_all_deleted, id_mem_deleteIDs h hsnap, hsched] at hiff
    simpa [hmem] using hiff
  · intro hagree listing delete
    have hdeleted : ∀ snap ∈ snapshots,
        snap.id ∈ deleteIDs retention now (listScheduledSnapshotsByInstance snapshots instanceID) ↔
          snap ∈ scheduledSnapshots snapshots instanceID ∧
            Expired retention now (scheduledSnapshots snapshots instanceID) snap := by
      intro snap hsnap
      rw [id_mem_deleteIDs h hsnap, hsched, and_assoc]
      exact and_congr_right (hagree snap)
    refine ⟨fun hok snap hsnap => ?_, fun snap hsnap hid => ?_⟩
    · rw [← hdeleted snap hsnap]
      exact ⟨cleanup_subset, cleanup_complete hok⟩
    · exact ((hsched snap).mp ((hdeleted snap hsnap).mp (cleanup_subset hid)).1).2

/-! ## Snapshots of users among those of the schedule -/

section

variable {marked : List StoredSnapshot} {snap imitation : StoredSnapshot}

theorem aged_of_le {a b : StoredSnapshot} (hle : a.createdAt ≤ b.createdAt)
    (h : b.aged retention now = true) : a.aged retention now = true := by
  simp only [aged, Bool.and_eq_true, decide_eq_true_eq] at h ⊢
  omega

/-- A newer snapshot of a user takes a place from those of the schedule. -/
theorem rank_scheduled_lt (hmem : imitation ∈ marked) (huser : imitation.byUser = true)
    (hnewer : snap.createdAt < imitation.createdAt) :
    rank createdAt (marked.filter (!·.byUser)) snap < rank createdAt marked snap := by
  have hadd := rank_filter_add (f := createdAt) (x := snap) (l := marked) (!·.byUser)
  have hpos := rank_pos (f := createdAt) (x := snap)
    (List.mem_filter.mpr ⟨hmem, by simp [huser]⟩ : imitation ∈ marked.filter (!!·.byUser)) hnewer
  omega

/-- If a snapshot of a user is kept and the schedule loses none of its own to it, then the number of
the snapshots removes nothing. -/
theorem aged_of_outnumbered (h : DistinctTimes marked)
    (hagree : Agree retention now marked) (hmem : imitation ∈ marked)
    (huser : imitation.byUser = true) (hsnap : snap ∈ marked)
    (hout : Outnumbered retention marked snap) : snap.aged retention now = true := by
  by_contra hyoung
  obtain ⟨hpos, hrank⟩ := hout
  -- the first snapshot that is removed for their number
  obtain ⟨first, hfirst, hplace, hnewer⟩ :=
    exists_rank_eq_of_distinct h hsnap (n := retention.maxCount.toNat) (by omega)
  have hexpired : Expired retention now marked first := .inl ⟨hpos, by omega⟩
  have hkept : ¬ Expired retention now marked imitation := by
    intro hgone
    rw [hagree imitation hmem, huser] at hgone
    cases hgone.1
  have habove : first.createdAt < imitation.createdAt := by
    by_contra hle
    have hrankLe := rank_anti (f := createdAt) (l := marked) (not_lt.mp hle)
    exact hkept (.inl ⟨hpos, by omega⟩)
  have hless := rank_scheduled_lt hmem huser habove
  obtain ⟨-, hsched | haged⟩ := (hagree first hfirst).mp hexpired
  · have hle := hsched.2
    omega
  · exact hyoung (aged_of_le hnewer haged)

theorem agree_iff (h : DistinctTimes marked) :
    Agree retention now marked ↔ ImitationsHarmless retention now marked := by
  constructor
  · intro hagree
    by_cases hnone : ∀ snap ∈ marked, snap.byUser = false
    · exact .inl hnone
    · push Not at hnone
      obtain ⟨imitation, hmem, huser⟩ := hnone
      rw [Bool.ne_false_iff] at huser
      refine .inr ⟨fun snap hsnap hbyUser => ?_, fun snap hsnap hout => ?_⟩
      · by_contra haged
        have hgone := (hagree snap hsnap).mp (.inr (Bool.ne_false_iff.mp haged))
        rw [hbyUser] at hgone
        cases hgone.1
      · exact aged_of_outnumbered h hagree hmem huser hsnap hout
  · rintro (hnone | ⟨hyoung, hfew⟩) snap hsnap
    · have hall : marked.filter (!·.byUser) = marked := by
        rw [List.filter_eq_self]
        intro other hother
        rw [hnone other hother, Bool.not_false]
      rw [hall, hnone snap hsnap]
      exact (and_iff_right rfl).symm
    · have haged : ∀ among : List StoredSnapshot,
          (Outnumbered retention among snap → snap.aged retention now = true) →
          (Expired retention now among snap ↔ snap.aged retention now = true) := by
        intro among hout
        exact ⟨fun hexpired => hexpired.elim hout id, .inr⟩
      have hfewer : rank createdAt (marked.filter (!·.byUser)) snap ≤ rank createdAt marked snap :=
        List.Sublist.countP_le List.filter_sublist
      rw [haged _ (hfew snap hsnap), haged _ fun hout => hfew snap hsnap
        ⟨hout.1, hout.2.trans (by exact_mod_cast hfewer)⟩]
      refine ⟨fun hold => ⟨?_, hold⟩, And.right⟩
      by_contra huser
      rw [hyoung snap hsnap (Bool.ne_false_iff.mp huser)] at hold
      cases hold

end

/-- The cleanup deletes exactly what the retention of the schedule says, and nothing of a user, if
and only if the snapshots that users have given the tags of the schedule do not matter. -/
theorem cleanup_exact_iff (h : DistinctSnapshots snapshots instanceID) :
    CleanupExact snapshots instanceID retention now ↔
      ImitationsHarmless retention now (listScheduledSnapshotsByInstance snapshots instanceID) :=
  (cleanupExact_iff_expired h).trans (agree_iff (distinct_times h))

/-! ## A snapshot with the tags of the schedule -/

/-- The tags of the schedule of the instance `web`, given by a user. -/
def imitatedTags : Table String String := BuildSnapshotMetadata "web" ∅

/-- A snapshot of a user with these tags, and a newer one of the schedule. -/
def imitatedSnapshots : List StoredSnapshot :=
  [⟨"before-upgrade", "web", 10, .user imitatedTags⟩, ⟨"scheduled-1", "web", 20, .schedule ∅⟩]

theorem distinct_imitatedSnapshots : DistinctSnapshots imitatedSnapshots "web" :=
  ⟨by decide, by decide⟩

/-- The tags pass the check of the request, and the snapshot is deleted. -/
theorem imitation_deleted : Tags.Validate String.quote imitatedTags = .ok () ∧
    cleanupScheduledSnapshots imitatedSnapshots "web" ⟨1, 0⟩ 30 none (fun _ => .deleted) =
      (none, ["before-upgrade"]) ∧
    ¬ CleanupExact imitatedSnapshots "web" ⟨1, 0⟩ 30 := by
  have hrun : cleanupScheduledSnapshots imitatedSnapshots "web" ⟨1, 0⟩ 30 none (fun _ => .deleted) =
      (none, ["before-upgrade"]) := by decide +kernel
  refine ⟨by decide +kernel, hrun, fun hexact => ?_⟩
  have hnever := (hexact none fun _ => .deleted).2 _ (.head _)
  rw [hrun] at hnever
  exact absurd (hnever (by simp)) (by decide)

/-- With room for two, both are kept. -/
theorem cleanup_exact_imitated : CleanupExact imitatedSnapshots "web" ⟨2, 0⟩ 30 := by
  refine (cleanup_exact_iff distinct_imitatedSnapshots).mpr (.inr ⟨?_, ?_⟩)
  · intro snap _ _
    simp [aged]
  · have hfew : ∀ snap ∈ listScheduledSnapshotsByInstance imitatedSnapshots "web",
        rank createdAt (listScheduledSnapshotsByInstance imitatedSnapshots "web") snap < 2 := by
      decide +kernel
    intro snap hsnap hout
    have hmany : (2 : Int) ≤ _ := hout.2
    have hless := hfew snap hsnap
    omega

end Hypeman.Instances
