import Hypeman.Volumes.Storage

/-!
# The running total under concurrent calls

The steps of `getTotalVolumeBytes`, `CreateVolume` and `DeleteVolume` (`lib/volumes/manager.go`)
that touch the running total, in any interleaving. A computation that has found no total lists the
volumes, reads them one by one and publishes the sum unless another computation was first, with no
lock held over all of it; creations and deletions change the metadata and then adjust the total,
which does nothing while no sum is published. Calls in progress at the same time are about different
volumes. A read that would wait for the deletion of its volume need not wait here, which only adds
interleavings.

* `Accounted`: once a sum is published, the total and the adjustments that are still to come make up
  the sum of the sizes; before that, what a computation has read and what it has left to read do.
* `runningTotal_exact`: with all calls finished the total is exact, in runs where the first
  computation does not overlap with the changes of a creation or deletion.
* `firstTotal_races`: when they overlap, a volume is lost from the total or counted twice.
-/

namespace Hypeman.Volumes

open Foundations

/-- The adjustment of the total that a creation or a deletion has still to make. -/
inductive Change
  | added (sizeGb : Int64)
  | removed (sizeGb : Int64)
deriving DecidableEq, Repr

/-- A computation of the total: the listed volumes it has still to read, and the sum so far. -/
structure Reading where
  rest : List String
  totalBytes : Int64
deriving DecidableEq, Repr

/-- The volumes with the running total, the creations and deletions between their change of the
metadata and their adjustment, and the computations in progress. -/
structure Accounts where
  storage : Storage
  changes : Table String Change
  readings : Table ℕ Reading

/-- The steps; computations are numbered. -/
inductive AccountsEvent
  /-- `listVolumeIDs`. -/
  | list (reading : ℕ)
  /-- `GetVolume` for the next volume of the list. -/
  | sum (reading : ℕ)
  /-- The end of `getTotalVolumeBytes`. -/
  | publish (reading : ℕ)
  /-- `CreateVolume` saves the metadata. -/
  | save (id : String) (sizeGb : Int64)
  /-- `DeleteVolume` removes the data. -/
  | remove (id : String)
  /-- `addVolumeBytes` or `subtractVolumeBytes`, and the call returns. -/
  | adjust (id : String)
deriving DecidableEq, Repr

/-- The sum is published by the computation that is the first to finish. -/
def Storage.publish (s : Storage) (total : Int64) : Storage :=
  if s.totalVolumeBytesReady then s
  else { s with totalVolumeBytes := total, totalVolumeBytesReady := true }

/-- The adjustment that is due. -/
def Change.apply : Change → Storage → Storage
  | .added sizeGb, s => s.addVolumeBytes (sizeBytes sizeGb)
  | .removed sizeGb, s => s.subtractVolumeBytes (sizeBytes sizeGb)

/-- The sum with the next volume, which is skipped if it is gone. -/
def Reading.add (sizes : Table String Int64) (id : String) (totalBytes : Int64) : Int64 :=
  match sizes.lookup id with
  | some sizeGb => totalBytes + sizeBytes sizeGb
  | none => totalBytes

def Accounts.step (x : Accounts) : AccountsEvent → Option Accounts
  | .list reading =>
    if x.readings.lookup reading ≠ none then none
    else some { x with readings := x.readings.insert reading ⟨x.storage.sizes.keys, 0⟩ }
  | .sum reading =>
    match x.readings.lookup reading with
    | some ⟨id :: rest, totalBytes⟩ =>
      some { x with
        readings := x.readings.insert reading
          ⟨rest, Reading.add x.storage.sizes id totalBytes⟩ }
    | _ => none
  | .publish reading =>
    match x.readings.lookup reading with
    | some ⟨[], totalBytes⟩ =>
      some { x with
        storage := x.storage.publish totalBytes
        readings := x.readings.erase reading }
    | _ => none
  | .save id sizeGb =>
    if x.storage.sizes.lookup id ≠ none ∨ x.changes.lookup id ≠ none then none
    else some { x with
      storage := { x.storage with sizes := x.storage.sizes.insert id sizeGb }
      changes := x.changes.insert id (.added sizeGb) }
  | .remove id =>
    match x.storage.sizes.lookup id with
    | some sizeGb =>
      if x.changes.lookup id ≠ none then none
      else some { x with
        storage := x.storage.deleteVolumeData id
        changes := x.changes.insert id (.removed sizeGb) }
    | none => none
  | .adjust id =>
    match x.changes.lookup id with
    | some change =>
      some { x with storage := change.apply x.storage, changes := x.changes.erase id }
    | none => none

/-- A manager without volumes, and the steps of its calls. -/
def accounts : System Accounts AccountsEvent where
  init := {
    storage := { sizes := ∅, totalVolumeBytes := 0, totalVolumeBytesReady := false }
    changes := ∅
    readings := ∅ }
  step := Accounts.step

/-- Until a total is published, no metadata changes during a computation, and no sum is published
between a change of the metadata and its adjustment. -/
def Apart (x : Accounts) : AccountsEvent → Prop
  | .save _ _ | .remove _ =>
    x.storage.totalVolumeBytesReady = true ∨ x.readings.entries = []
  | .publish _ => x.storage.totalVolumeBytesReady = true ∨ x.changes.entries = []
  | .list _ | .sum _ | .adjust _ => True

instance (x : Accounts) : DecidablePred (Apart x)
  | .save _ _ | .remove _ => inferInstanceAs (Decidable
    (x.storage.totalVolumeBytesReady = true ∨ x.readings.entries = []))
  | .publish _ => inferInstanceAs (Decidable
    (x.storage.totalVolumeBytesReady = true ∨ x.changes.entries = []))
  | .list _ | .sum _ | .adjust _ => inferInstanceAs (Decidable True)

/-! ## What is left to read and to adjust -/

/-- What the adjustment will add to the total. -/
def Change.bytes : Change → ℤ
  | .added sizeGb => sizeGb.toInt * 1073741824
  | .removed sizeGb => -(sizeGb.toInt * 1073741824)

/-- What the adjustments to come will add to the total. -/
def pendingBytes (changes : Table String Change) : ℤ :=
  (Table.mapValues Change.bytes changes).total

/-- What a volume adds to the total. -/
def bytesOf (sizes : Table String Int64) (id : String) : ℤ :=
  ((sizes.lookup id).map fun sizeGb => sizeGb.toInt * 1073741824).getD 0

/-- What a computation has still to add. -/
def restBytes (sizes : Table String Int64) (rest : List String) : ℤ :=
  (rest.map (bytesOf sizes)).sum

theorem restBytes_cons (sizes : Table String Int64) (id : String) (rest : List String) :
    restBytes sizes (id :: rest) = bytesOf sizes id + restBytes sizes rest :=
  List.sum_cons

theorem restBytes_keys (sizes : Table String Int64) :
    restBytes sizes sizes.keys = volumeBytes sizes := by
  rw [volumeBytes, Table.total_eq_sum_keys, Table.keys_mapValues]
  simp only [Table.lookup_mapValues]
  rfl

theorem Reading.add_eq (sizes : Table String Int64) (id : String) (n : ℤ) :
    Reading.add sizes id (Int64.ofInt n) = Int64.ofInt (n + bytesOf sizes id) := by
  unfold Reading.add bytesOf
  split
  next sizeGb h => rw [h, sizeBytes_eq, ← Int64.ofInt_add, Option.map_some, Option.getD_some]
  next h => rw [h, Option.map_none, Option.getD_none, add_zero]

section Changes

variable {changes : Table String Change} {id : String} {change : Change}

theorem pendingBytes_insert (h : changes.lookup id = none) :
    pendingBytes (changes.insert id change) = pendingBytes changes + change.bytes := by
  rw [pendingBytes, Table.total_mapValues_insert, h, Option.map_none, Option.getD_none, sub_zero]
  rfl

theorem pendingBytes_erase (h : changes.lookup id = some change) :
    pendingBytes (changes.erase id) = pendingBytes changes - change.bytes := by
  rw [pendingBytes, Table.total_mapValues_erase, h, Option.map_some, Option.getD_some]
  rfl

theorem pendingBytes_of_entries_eq_nil (h : changes.entries = []) : pendingBytes changes = 0 := by
  rw [pendingBytes, Table.total, Table.entries_mapValues, h]
  rfl

end Changes

/-- The adjustment is made on the image of the exact sum. -/
theorem Change.apply_total {s : Storage} (hready : s.totalVolumeBytesReady = true) {n : ℤ}
    (h : s.totalVolumeBytes = Int64.ofInt n) (change : Change) :
    (change.apply s).totalVolumeBytes = Int64.ofInt (n + change.bytes) := by
  cases change with
  | added sizeGb =>
    rw [Change.apply, Storage.addVolumeBytes_total hready, h, sizeBytes_eq, ← Int64.ofInt_add]
    rfl
  | removed sizeGb =>
    rw [Change.apply, Storage.subtractVolumeBytes_total hready, h, sizeBytes_eq,
      ← Int64.ofInt_sub, Int.sub_eq_add_neg]
    rfl

@[simp] theorem Change.apply_sizes (change : Change) (s : Storage) :
    (change.apply s).sizes = s.sizes := by
  cases change <;> simp [Change.apply]

@[simp] theorem Change.apply_ready (change : Change) (s : Storage) :
    (change.apply s).totalVolumeBytesReady = s.totalVolumeBytesReady := by
  cases change <;> simp [Change.apply]

/-! ## The invariant -/

/-- A published total lacks only the adjustments to come; as long as nothing is published, every
computation in progress lacks only what it has left to read. -/
structure Accounted (x : Accounts) : Prop where
  ready : x.storage.totalVolumeBytesReady = true → x.storage.totalVolumeBytes =
    Int64.ofInt (volumeBytes x.storage.sizes - pendingBytes x.changes)
  reading : x.storage.totalVolumeBytesReady = false → ∀ k reading,
    x.readings.lookup k = some reading → reading.totalBytes =
      Int64.ofInt (volumeBytes x.storage.sizes - restBytes x.storage.sizes reading.rest)

namespace Accounted

variable {x : Accounts} {k : ℕ} {id : String} {sizeGb : Int64}

theorem list (h : Accounted x) :
    Accounted { x with readings := x.readings.insert k ⟨x.storage.sizes.keys, 0⟩ } where
  ready := h.ready
  reading hready := by
    refine (Table.Sets.insert k _ x.readings).all (h.reading hready) ?_
    rintro _ ⟨⟩
    rw [restBytes_keys, sub_self]
    rfl

theorem sum (h : Accounted x) {rest : List String} {totalBytes : Int64}
    (hreading : x.readings.lookup k = some ⟨id :: rest, totalBytes⟩) :
    Accounted { x with
      readings := x.readings.insert k ⟨rest, Reading.add x.storage.sizes id totalBytes⟩ } where
  ready := h.ready
  reading hready := by
    refine (Table.Sets.insert k _ x.readings).all (h.reading hready) ?_
    rintro _ ⟨⟩
    have hsofar := h.reading hready k _ hreading
    dsimp only at hsofar ⊢
    rw [hsofar, Reading.add_eq, restBytes_cons]
    congr 1
    omega

theorem publish (h : Accounted x) {totalBytes : Int64}
    (hreading : x.readings.lookup k = some ⟨[], totalBytes⟩)
    (hok : x.storage.totalVolumeBytesReady = true ∨ x.changes.entries = []) :
    Accounted { x with
      storage := x.storage.publish totalBytes
      readings := x.readings.erase k } := by
  unfold Storage.publish
  split
  next hready =>
    refine ⟨h.ready, fun hnot => ?_⟩
    cases hnot.symm.trans hready
  next hready =>
    have hready := Bool.not_eq_true _ ▸ hready
    refine ⟨fun _ => ?_, nofun⟩
    rcases hok with hok | hempty
    · cases hready.symm.trans hok
    · rw [pendingBytes_of_entries_eq_nil hempty]
      exact h.reading hready k _ hreading

/-- A change of the metadata together with the adjustment that becomes due; no computation whose
sum could be published is in progress. -/
theorem changed (h : Accounted x) {sizes : Table String Int64} {change : Change}
    (hnone : x.changes.lookup id = none)
    (hsizes : volumeBytes sizes = volumeBytes x.storage.sizes + change.bytes)
    (hok : x.storage.totalVolumeBytesReady = true ∨ x.readings.entries = []) :
    Accounted { x with
      storage := { x.storage with sizes }
      changes := x.changes.insert id change } where
  ready hready := by
    refine (h.ready hready).trans (congrArg Int64.ofInt ?_)
    rw [pendingBytes_insert hnone]
    dsimp only
    omega
  reading hready k reading hk := by
    rcases hok with hok | hempty
    · cases hready.symm.trans hok
    · cases (Table.lookup_of_entries_eq_nil hempty k).symm.trans hk

theorem adjust (h : Accounted x) {change : Change} (hsome : x.changes.lookup id = some change) :
    Accounted { x with storage := change.apply x.storage, changes := x.changes.erase id } where
  ready hready := by
    have hready : x.storage.totalVolumeBytesReady = true :=
      (change.apply_ready x.storage).symm.trans hready
    refine (change.apply_total hready (h.ready hready)).trans (congrArg Int64.ofInt ?_)
    rw [pendingBytes_erase hsome, change.apply_sizes]
    omega
  reading hready := by
    rw [change.apply_sizes]
    exact h.reading ((change.apply_ready x.storage).symm.trans hready)

/-- Every step that meets the condition keeps the invariant. -/
theorem step (h : Accounted x) {e : AccountsEvent} {y : Accounts} (hok : Apart x e)
    (hstep : accounts.step x e = some y) : Accounted y := by
  simp only [accounts] at hstep
  cases e with
  | list reading =>
    obtain ⟨-, ⟨⟩⟩ := Option.ite_none_left_eq_some.mp hstep
    exact h.list
  | sum reading =>
    simp only [Accounts.step] at hstep
    split at hstep
    next hreading =>
      cases hstep
      exact h.sum hreading
    · cases hstep
  | publish reading =>
    simp only [Accounts.step] at hstep
    split at hstep
    next hreading =>
      cases hstep
      exact h.publish hreading hok
    · cases hstep
  | save id sizeGb =>
    obtain ⟨hfree, ⟨⟩⟩ := Option.ite_none_left_eq_some.mp hstep
    rw [not_or, not_not, not_not] at hfree
    exact h.changed hfree.2 (volumeBytes_insert hfree.1) hok
  | remove id =>
    simp only [Accounts.step] at hstep
    split at hstep
    next hsome =>
      obtain ⟨hfree, ⟨⟩⟩ := Option.ite_none_left_eq_some.mp hstep
      refine h.changed (not_not.mp hfree) ?_ hok
      rw [volumeBytes_erase hsome, Int.sub_eq_add_neg]
      rfl
    · cases hstep
  | adjust id =>
    simp only [Accounts.step] at hstep
    split at hstep
    next hsome =>
      cases hstep
      exact h.adjust hsome
    · cases hstep

end Accounted

/-- **The running total.** Once a total is published and every creation and deletion has adjusted
it, it is the sum of the sizes of the volumes, provided that until then no metadata changes during
a computation and no sum is published between a change and its adjustment. -/
theorem runningTotal_exact {x : Accounts} (h : accounts.Reachable Apart x)
    (hfinished : x.changes.entries = []) (hready : x.storage.totalVolumeBytesReady = true) :
    x.storage.totalVolumeBytes = Int64.ofInt (volumeBytes x.storage.sizes) := by
  have hinv : Accounted x := by
    refine System.Reachable.invariant (I := Accounted) ?_ ?_ h
    · exact ⟨nofun, nofun⟩
    · intro x e y hx hok hstep
      exact hx.step hok hstep
  rw [hinv.ready hready, pendingBytes_of_entries_eq_nil hfinished, sub_zero]

/-- A volume made before the first computation, one made and one deleted after it. -/
theorem runningTotal_exact_threeVolumes : ∃ x, accounts.Reachable Apart x ∧
    x.storage.totalVolumeBytes = 5368709120 ∧
    x.storage.totalVolumeBytes = Int64.ofInt (volumeBytes x.storage.sizes) := by
  obtain ⟨x, hx, htotal, hfinished, hready⟩ := System.exists_reachable_of_replay accounts Apart
    (fun x => x.storage.totalVolumeBytes = 5368709120 ∧ x.changes.entries = [] ∧
      x.storage.totalVolumeBytesReady = true)
    [.save "a" 1, .save "b" 2, .adjust "b", .adjust "a", .list 0, .sum 0, .list 1, .sum 0,
      .publish 0, .save "c" 3, .remove "a", .adjust "a", .sum 1, .adjust "c"] (by decide +kernel)
  exact ⟨x, hx, htotal, runningTotal_exact hx hfinished hready⟩

/-- A volume that is made between the listing and the publication is missing from the total, and
one whose creation has not come to its adjustment when it is listed is counted twice. -/
theorem firstTotal_races :
    (∃ x, accounts.Reachable System.Always x ∧ x.changes.entries = [] ∧ x.readings.entries = [] ∧
      x.storage.totalVolumeBytesReady = true ∧ x.storage.totalVolumeBytes = 0 ∧
      volumeBytes x.storage.sizes = 1073741824) ∧
    ∃ x, accounts.Reachable System.Always x ∧ x.changes.entries = [] ∧ x.readings.entries = [] ∧
      x.storage.totalVolumeBytesReady = true ∧ x.storage.totalVolumeBytes = 2147483648 ∧
      volumeBytes x.storage.sizes = 1073741824 := by
  constructor
  · exact System.exists_reachable_of_replay accounts System.Always _
      [.list 0, .save "data" 1, .adjust "data", .publish 0] (by decide +kernel)
  · exact System.exists_reachable_of_replay accounts System.Always _
      [.save "data" 1, .list 0, .sum 0, .publish 0, .adjust "data"] (by decide +kernel)

end Hypeman.Volumes
