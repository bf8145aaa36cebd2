import Hypeman.Foundations.System
import Hypeman.Foundations.Totals
import Hypeman.Volumes.Extraction
import Mathlib.Algebra.Order.Ring.Int

/-!
# The storage limit of volumes

`CreateVolume`, `CreateVolumeFromArchive` and `DeleteVolume` (`lib/volumes/manager.go`) as far as
they count storage: a volume counts with the size that its metadata records, and the manager keeps
a running total of these sizes once it has computed them. An empty volume records the size that was
asked for; a volume made from an archive records the size of the disk that the export made
(`lib/images/disk.go`), which is half as large again as the content.

* `volumeBytes`: the sum that the limit is about, in integers; the running total is its image in
  the 64-bit words of the code.
* `ExtractTarGz_of_run`: an extraction that succeeds counts its bytes this way.
* `storage_limited`: the limit over every history of calls whose archives fit, with the disk's
  overhead, into the size that was asked for.
* `archive_exceeds`: an archive that fits into its own size makes a volume beyond the limit.
-/

namespace Hypeman.Volumes

open Foundations

/-- `int64(sizeGb) * 1024 * 1024 * 1024`. -/
def sizeBytes (sizeGb : Int64) : Int64 := sizeGb * 1024 * 1024 * 1024

/-- The volumes with the `SizeGb` of their metadata, and the running total. -/
structure Storage where
  sizes : Table String Int64
  totalVolumeBytes : Int64
  totalVolumeBytesReady : Bool

/-- Why a volume is not created or deleted; `failed` is a failure of the file system. -/
inductive StorageError
  | alreadyExists
  | notFound
  | exceedsLimit (bytes limit : Int64)
  | archiveTooLarge (maxBytes : Int64)
  | failed (err : String)
deriving DecidableEq, Repr

namespace Storage

def calculateTotalVolumeStorage (sizes : Table String Int64) : Int64 :=
  sizes.entries.foldl (fun totalBytes e => totalBytes + sizeBytes e.2) 0

def getTotalVolumeBytes (s : Storage) : Int64 × Storage :=
  if s.totalVolumeBytesReady then (s.totalVolumeBytes, s)
  else
    let total := calculateTotalVolumeStorage s.sizes
    (total, { s with totalVolumeBytes := total, totalVolumeBytesReady := true })

def addVolumeBytes (s : Storage) (bytes : Int64) : Storage :=
  if s.totalVolumeBytesReady then { s with totalVolumeBytes := s.totalVolumeBytes + bytes } else s

def subtractVolumeBytes (s : Storage) (bytes : Int64) : Storage :=
  if s.totalVolumeBytesReady then { s with totalVolumeBytes := s.totalVolumeBytes - bytes } else s

/-- The check of the limit before a volume is created; 0 is no limit. -/
def checkLimit (maxTotalVolumeStorage : Int64) (s : Storage) (bytes : Int64) :
    Except StorageError Unit × Storage :=
  if maxTotalVolumeStorage > 0 then
    let (currentStorage, s) := s.getTotalVolumeBytes
    if currentStorage + bytes > maxTotalVolumeStorage then
      (.error (.exceedsLimit (currentStorage + bytes) maxTotalVolumeStorage), s)
    else (.ok (), s)
  else (.ok (), s)

/-- The end of a creation: the metadata is saved and the size counted. -/
def record (s : Storage) (id : String) (sizeGb : Int64) : Storage :=
  { s with sizes := s.sizes.insert id sizeGb }.addVolumeBytes (sizeBytes sizeGb)

def deleteVolumeData (s : Storage) (id : String) : Storage :=
  { s with sizes := s.sizes.erase id }

variable (maxTotalVolumeStorage : Int64)

/-- `CreateVolume`; `fails` is a failure to make the disk or to save the metadata. -/
def CreateVolume (s : Storage) (id : String) (sizeGb : Int64) (fails : Option String) :
    Except StorageError Unit × Storage :=
  match s.sizes.lookup id with
  | some _ => (.error .alreadyExists, s)
  | none =>
    match checkLimit maxTotalVolumeStorage s (sizeBytes sizeGb) with
    | (.error err, s) => (.error err, s)
    | (.ok _, s) =>
      match fails with
      | some err => (.error (.failed err), s.deleteVolumeData id)
      | none => (.ok (), s.record id sizeGb)

/-- `DeleteVolume`; `fails` is an attachment or a failure to remove the data. -/
def DeleteVolume (s : Storage) (id : String) (fails : Option String) :
    Except StorageError Unit × Storage :=
  match s.sizes.lookup id with
  | none => (.error .notFound, s)
  | some sizeGb =>
    match fails with
    | some err => (.error (.failed err), s)
    | none => (.ok (), (s.deleteVolumeData id).subtractVolumeBytes (sizeBytes sizeGb))

end Storage

/-! ## Archives -/

/-- An archive: the sizes of its regular files in their order, and what `dirSize` finds in the
directory they are extracted to, where links count as well. -/
structure Archive where
  files : List ℕ
  dirSize : ℕ
deriving DecidableEq, Repr

/-- `ExtractTarGz` over the entries that are left. -/
def extractFiles (maxBytes extractedBytes : Int64) : List ℕ → Except StorageError Int64
  | [] => .ok extractedBytes
  | size :: files =>
    if extractedBytes + Int64.ofNat size > maxBytes then .error (.archiveTooLarge maxBytes)
    else extractFiles maxBytes (extractedBytes + Int64.ofNat size) files

def ExtractTarGz (archive : Archive) (maxBytes : Int64) : Except StorageError Int64 :=
  extractFiles maxBytes 0 archive.files

namespace Extraction

open Action Filesystem

/-- The sizes of the regular files that can be read from the archive. -/
def Entry.sizes (header : Entry) : List ℕ :=
  if header.typeflag = .reg then [header.content.data.length] else []

section Counting

variable {lib : Lib} {dir : Path} {maxBytes extractedBytes : Int64} {header : Entry}

/-- The count after an entry is the one of `extractFiles`. -/
def CountsEntry (maxBytes extractedBytes : Int64) (header : Entry) (n : Int64) : Prop :=
  (∃ bytes, Counted maxBytes n bytes) ∧ ∀ files,
    extractFiles maxBytes extractedBytes (header.sizes ++ files) = extractFiles maxBytes n files

theorem spec_any {σ ε α : Type} {f : Action ε σ α} :
    Spec (fun _ => True) f (fun _ _ => True) fun _ => True :=
  fun _ _ => ⟨fun _ _ => trivial, fun _ _ => trivial⟩

/-- A file that is counted was copied as a whole. -/
theorem countsEntry_reg {bytes : ℕ} (hcount : Counted maxBytes extractedBytes bytes)
    (hmax : maxBytes.toInt < 2 ^ 62) (hreg : header.typeflag = .reg) {n : ℕ}
    (hn : n = (header.content.limit (maxBytes - extractedBytes + 1).toInt).data.length)
    (hover : ¬ extractedBytes + Int64.ofNat n > maxBytes) :
    CountsEntry maxBytes extractedBytes header (extractedBytes + Int64.ofNat n) := by
  have hlimit := header.content.length_limit (maxBytes - extractedBytes + 1).toInt
  rw [← hn, hcount.toInt_remaining hmax] at hlimit
  have hsum := hcount.toInt_add hmax hlimit
  have hle := Int64.le_iff_toInt_le.mp (Int64.not_lt.mp hover)
  rw [hsum] at hle
  have hwhole : n = header.content.data.length := by
    rw [Reader.limit, hcount.toInt_remaining hmax] at hn
    split at hn
    next =>
      rw [List.length_take] at hn
      omega
    next => exact hn
  refine ⟨⟨bytes + n, fun _ => ⟨hsum, .inr hle⟩⟩, fun files => ?_⟩
  rw [Entry.sizes, if_pos hreg, List.singleton_append, extractFiles, ← hwhole, if_neg hover]

theorem spec_copy_length {file : File} {r : Reader} :
    Spec (fun _ => True) (copy file r) (fun n _ => n = r.data.length ∧ True) fun _ => True := by
  refine fun w _ => ⟨fun n hn => ⟨?_, trivial⟩, fun _ _ => trivial⟩
  unfold copy at hn
  split at hn
  next => cases hn
  next =>
    dsimp only at hn
    split at hn
    next => cases hn
    next => exact (Except.ok.inj hn).symm

theorem spec_countsEntry {bytes : ℕ} (hcount : Counted maxBytes extractedBytes bytes)
    (hmax : maxBytes.toInt < 2 ^ 62) :
    Spec (fun _ => True) (extractEntry lib dir maxBytes extractedBytes header)
      (fun n _ => CountsEntry maxBytes extractedBytes header n ∧ True) fun _ => True := by
  have hother (h : header.typeflag ≠ .reg) :
      CountsEntry maxBytes extractedBytes header extractedBytes :=
    ⟨⟨bytes, hcount⟩, fun files => by rw [Entry.sizes, if_neg h, List.nil_append]⟩
  unfold extractEntry
  split
  next => exact .fail fun _ h => h
  next =>
    refine spec_any.bind fun p => ?_
    split
    next => exact .fail fun _ h => h
    next =>
      split
      next h => exact spec_any.bind fun _ => .pure fun _ h => ⟨hother (by simp [*]), h⟩
      next hreg =>
        refine spec_any.bind fun _ => spec_any.bind fun f => ?_
        refine spec_copy_length.orFail.bind fun n => .assume fun hn => ?_
        dsimp only
        split
        next => exact .fail fun _ h => h
        next hover => exact .pure fun _ h => ⟨countsEntry_reg hcount hmax hreg hn hover, h⟩
      next h =>
        unfold extractSymlink
        split
        next => exact .fail fun _ h => h
        next =>
          split
          next => exact .fail fun _ h => h
          next =>
            refine spec_any.bind fun _ => ?_
            split
            next => exact .fail fun _ h => h
            next =>
              exact spec_any.bind fun _ => spec_any.bind fun _ =>
                .pure fun _ h => ⟨hother (by simp [*]), h⟩
      next h =>
        exact spec_any.bind fun _ => spec_any.bind fun _ =>
          spec_any.bind fun _ => .pure fun _ h => ⟨hother (by simp [*]), h⟩
      next h => exact .pure fun _ h => ⟨hother (by simp [*]), h⟩

/-- The entries that are left are counted as `extractFiles` counts their files. -/
theorem spec_countsEntries {bytes : ℕ} (hcount : Counted maxBytes extractedBytes bytes)
    (hmax : maxBytes.toInt < 2 ^ 62) (entries : List Entry) :
    Spec (fun _ => True) (entries.foldlM (extractEntry lib dir maxBytes) extractedBytes)
      (fun n _ => extractFiles maxBytes extractedBytes (entries.flatMap Entry.sizes) = .ok n ∧ True)
      fun _ => True := by
  induction entries generalizing extractedBytes bytes with
  | nil => exact .pure fun _ h => ⟨rfl, h⟩
  | cons header entries ih =>
    rw [List.foldlM_cons, List.flatMap_cons]
    refine (spec_countsEntry hcount hmax).bind fun n => .assume fun ⟨⟨m, hm⟩, hentry⟩ => ?_
    rw [hentry]
    exact ih hm

end Counting

end Extraction

/-- An extraction that succeeds counts the files of the archive. One that exceeds the limit fails
whatever the archive's other entries, the file system and the calls are. -/
theorem ExtractTarGz_of_run {lib : Extraction.Lib} {archive : Extraction.TarGz}
    {destDir : Filesystem.Path} {maxBytes n : Int64} (hmax : maxBytes.toInt < 2 ^ 62)
    {w : Filesystem.World}
    (hrun : (Extraction.ExtractTarGz lib archive destDir maxBytes w).1 = .ok n) (dirSize : ℕ) :
    ExtractTarGz ⟨archive.entries.flatMap Extraction.Entry.sizes, dirSize⟩ maxBytes = .ok n := by
  have hspec : Action.Spec (fun _ => True) (Extraction.ExtractTarGz lib archive destDir maxBytes)
      (fun n _ => extractFiles maxBytes 0 (archive.entries.flatMap Extraction.Entry.sizes) = .ok n ∧
        True) fun _ => True := by
    refine Extraction.spec_any.bind fun _ => ?_
    split
    next => exact .fail fun _ h => h
    next =>
      have hzero : Extraction.Counted maxBytes 0 0 := fun _ => ⟨rfl, .inl rfl⟩
      refine (Extraction.spec_countsEntries hzero hmax archive.entries).bind fun m => ?_
      refine .assume fun hm => ?_
      split
      next => exact .fail fun _ h => h
      next => exact .pure fun _ h => ⟨hm, h⟩
  exact ((hspec w trivial).1 n hrun).1

def alignToSector (size : Int64) : Int64 :=
  if size % 4096 = 0 then size else (size / 4096 + 1) * 4096

/-- `convertToExt4`: the size of the disk for a directory of the given size, which `mkfs.ext4`
leaves as it is. -/
def convertToExt4 (sizeBytes : Int64) : Int64 :=
  let diskSizeBytes := sizeBytes + sizeBytes / 2
  alignToSector (if diskSizeBytes < 10 * 1024 * 1024 then 10 * 1024 * 1024 else diskSizeBytes)

/-- The size recorded for a volume with this disk, rounded up. -/
def actualSizeGb (diskSize : Int64) : Int64 :=
  let sizeGb := (diskSize + 1024 * 1024 * 1024 - 1) / (1024 * 1024 * 1024)
  if sizeGb < 1 then 1 else sizeGb

def Storage.CreateVolumeFromArchive (maxTotalVolumeStorage : Int64) (s : Storage) (id : String)
    (sizeGb : Int64) (archive : Archive) (fails : Option String) :
    Except StorageError Unit × Storage :=
  match s.sizes.lookup id with
  | some _ => (.error .alreadyExists, s)
  | none =>
    match checkLimit maxTotalVolumeStorage s (sizeBytes sizeGb) with
    | (.error err, s) => (.error err, s)
    | (.ok _, s) =>
      match ExtractTarGz archive (sizeBytes sizeGb) with
      | .error err => (.error err, s)
      | .ok _ =>
        match fails with
        | some err => (.error (.failed err), s.deleteVolumeData id)
        | none => (.ok (), s.record id (actualSizeGb (convertToExt4 (Int64.ofNat archive.dirSize))))

inductive StorageEvent
  | create (id : String) (sizeGb : Int64) (fails : Option String)
  | createFromArchive (id : String) (sizeGb : Int64) (archive : Archive) (fails : Option String)
  | delete (id : String) (fails : Option String)
deriving DecidableEq, Repr

/-- One call after another, from a manager without volumes; sizes are positive. A call that fails
is a step as well. -/
def storage (maxTotalVolumeStorage : Int64) : System Storage StorageEvent where
  init := { sizes := ∅, totalVolumeBytes := 0, totalVolumeBytesReady := false }
  step s
    | .create id sizeGb fails =>
      if 0 < sizeGb then some (s.CreateVolume maxTotalVolumeStorage id sizeGb fails).2 else none
    | .createFromArchive id sizeGb archive fails =>
      if 0 < sizeGb then
        some (s.CreateVolumeFromArchive maxTotalVolumeStorage id sizeGb archive fails).2
      else none
    | .delete id fails => some (s.DeleteVolume id fails).2

/-! ## The sum of the sizes -/

def volumeBytes (sizes : Table String Int64) : ℤ :=
  (Table.mapValues (fun sizeGb => sizeGb.toInt * 1073741824) sizes).total

theorem sizeBytes_eq (sizeGb : Int64) :
    sizeBytes sizeGb = Int64.ofInt (sizeGb.toInt * 1073741824) := by
  rw [Int64.ofInt_mul, Int64.ofInt_toInt, sizeBytes, Int64.mul_assoc, Int64.mul_assoc]
  rfl

section Sizes

variable {sizes : Table String Int64} {id : String} {sizeGb : Int64}

theorem volumeBytes_insert (h : sizes.lookup id = none) :
    volumeBytes (sizes.insert id sizeGb) = volumeBytes sizes + sizeGb.toInt * 1073741824 := by
  rw [volumeBytes, Table.total_mapValues_insert, h, Option.map_none, Option.getD_none, sub_zero]
  rfl

theorem volumeBytes_erase (h : sizes.lookup id = some sizeGb) :
    volumeBytes (sizes.erase id) = volumeBytes sizes - sizeGb.toInt * 1073741824 := by
  rw [volumeBytes, Table.total_mapValues_erase, h, Option.map_some, Option.getD_some]
  rfl

theorem volumeBytes_erase_of_none (h : sizes.lookup id = none) :
    volumeBytes (sizes.erase id) = volumeBytes sizes := by
  rw [volumeBytes, Table.total_mapValues_erase, h, Option.map_none, Option.getD_none, sub_zero]
  rfl

theorem volumeBytes_nonneg (h : ∀ id sizeGb, sizes.lookup id = some sizeGb → 0 < sizeGb.toInt) :
    0 ≤ volumeBytes sizes := by
  refine Table.total_nonneg fun id bytes hbytes => ?_
  rw [Table.lookup_mapValues, Option.map_eq_some_iff] at hbytes
  obtain ⟨sizeGb, hlookup, rfl⟩ := hbytes
  have := h id sizeGb hlookup
  omega

/-- Adding up sizes in words gives the word of the sum. -/
theorem foldl_sizeBytes (l : List (Σ _ : String, Int64)) (n : ℤ) :
    l.foldl (fun totalBytes e => totalBytes + sizeBytes e.2) (Int64.ofInt n) =
      Int64.ofInt (n + (l.map fun e => e.2.toInt * 1073741824).sum) := by
  induction l generalizing n with
  | nil => rw [List.foldl_nil, List.map_nil, List.sum_nil, add_zero]
  | cons e l ih =>
    rw [List.foldl_cons, sizeBytes_eq, ← Int64.ofInt_add, ih, List.map_cons, List.sum_cons,
      add_assoc]

theorem calculateTotalVolumeStorage_eq :
    Storage.calculateTotalVolumeStorage sizes = Int64.ofInt (volumeBytes sizes) := by
  have h := foldl_sizeBytes sizes.entries 0
  rw [zero_add] at h
  rw [volumeBytes, Table.total, Table.entries_mapValues, List.map_map]
  exact h

end Sizes

/-! ## The size of an archive's disk -/

theorem alignToSector_le {size : Int64} {n : ℤ} (hsize : 0 ≤ size.toInt)
    (hle : size.toInt ≤ n * 4096) (hn : n * 4096 < 9223372036854775808) :
    0 ≤ (alignToSector size).toInt ∧ (alignToSector size).toInt ≤ n * 4096 := by
  unfold alignToSector
  split
  · exact ⟨hsize, hle⟩
  next hmod =>
  have hdiv : (size / 4096).toInt = size.toInt / 4096 := toInt_div_of_nonneg 4096 hsize
  have hne : size.toInt % 4096 ≠ 0 := by
    intro hzero
    refine hmod (Int64.toInt_inj.mp ?_)
    rw [toInt_mod_of_nonneg 4096 hsize]
    exact hzero
  have hone : (1 : Int64).toInt = 1 := rfl
  have hsector : (4096 : Int64).toInt = 4096 := rfl
  have hadd : (size / 4096 + 1).toInt = size.toInt / 4096 + 1 := by
    rw [toInt_add_of_lt] <;> omega
  have hmul : ((size / 4096 + 1) * 4096).toInt = (size.toInt / 4096 + 1) * 4096 := by
    rw [toInt_mul_of_lt, hadd, hsector] <;> rw [hadd, hsector] <;> omega
  rw [hmul]
  omega

/-- The disk of a directory is no larger than the size that was asked for, if the directory with
half its size on top is not. -/
theorem convertToExt4_le {dirSize : ℕ} {sizeGb : ℤ} (hpos : 0 < sizeGb)
    (hlt : sizeGb * 1073741824 < 9223372036854775808)
    (hle : (dirSize + dirSize / 2 : ℕ) ≤ sizeGb * 1073741824) :
    0 ≤ (convertToExt4 (Int64.ofNat dirSize)).toInt ∧
      (convertToExt4 (Int64.ofNat dirSize)).toInt ≤ sizeGb * 1073741824 := by
  have hdir : (Int64.ofNat dirSize).toInt = dirSize := Int64.toInt_ofNat_of_lt (by omega)
  have htwo : (2 : Int64).toInt = 2 := rfl
  have hhalf : (Int64.ofNat dirSize / 2).toInt = (dirSize / 2 : ℕ) := by
    rw [toInt_div_of_nonneg _ (by omega), hdir, htwo]
    omega
  have hsum : (Int64.ofNat dirSize + Int64.ofNat dirSize / 2).toInt =
      (dirSize + dirSize / 2 : ℕ) := by
    rw [toInt_add_of_lt] <;> omega
  have hmin : (10 * 1024 * 1024 : Int64).toInt = 10485760 := by decide
  have hsectors : sizeGb * 1073741824 = sizeGb * 262144 * 4096 := by omega
  rw [hsectors]
  unfold convertToExt4
  refine alignToSector_le ?_ ?_ (by omega) <;> split <;> omega

/-- The recorded size is then no larger either. -/
theorem actualSizeGb_le {diskSize : Int64} {sizeGb : ℤ} (hpos : 0 < sizeGb)
    (hlt : sizeGb * 1073741824 < 9223372036854775808) (hdisk : 0 ≤ diskSize.toInt)
    (hle : diskSize.toInt ≤ sizeGb * 1073741824) :
    0 < (actualSizeGb diskSize).toInt ∧ (actualSizeGb diskSize).toInt ≤ sizeGb := by
  have hgb : (1024 * 1024 * 1024 : Int64).toInt = 1073741824 := by decide
  have hround : diskSize + 1024 * 1024 * 1024 - 1 = diskSize + 1073741823 := by
    rw [Int64.sub_eq_add_neg, Int64.add_assoc]
    rfl
  have hless : (1073741823 : Int64).toInt = 1073741823 := rfl
  have hsum : (diskSize + 1073741823).toInt = diskSize.toInt + 1073741823 := by
    rw [toInt_add_of_lt] <;> omega
  have hdiv : ((diskSize + 1073741823) / (1024 * 1024 * 1024)).toInt =
      (diskSize.toInt + 1073741823) / 1073741824 := by
    rw [toInt_div_of_nonneg _ (by omega), hsum, hgb]
  have hone : (1 : Int64).toInt = 1 := rfl
  unfold actualSizeGb
  rw [hround]
  dsimp only
  split
  · rw [hone]
    omega
  next hge =>
  rw [Int64.lt_iff_toInt_lt, hdiv, hone] at hge
  rw [hdiv]
  omega

/-! ## The running total and the limit -/

namespace Storage

variable {s : Storage} {id : String} {sizeGb limit : Int64}

def Counted (s : Storage) : Prop :=
  s.totalVolumeBytesReady = true → s.totalVolumeBytes = Int64.ofInt (volumeBytes s.sizes)

theorem getTotalVolumeBytes_spec (h : s.Counted) :
    s.getTotalVolumeBytes.1 = Int64.ofInt (volumeBytes s.sizes) ∧
      s.getTotalVolumeBytes.2.sizes = s.sizes ∧ s.getTotalVolumeBytes.2.Counted := by
  unfold getTotalVolumeBytes
  split
  next hready => exact ⟨h hready, rfl, h⟩
  · exact ⟨calculateTotalVolumeStorage_eq, rfl, fun _ => calculateTotalVolumeStorage_eq⟩

/-- The check leaves the volumes alone, and when it passes the sum of the words is within the
limit. -/
theorem checkLimit_spec (h : s.Counted) (hlimit : 0 < limit) (bytes : Int64) :
    (checkLimit limit s bytes).2.sizes = s.sizes ∧ (checkLimit limit s bytes).2.Counted ∧
      ((checkLimit limit s bytes).1 = .ok () →
        Int64.ofInt (volumeBytes s.sizes) + bytes ≤ limit) := by
  obtain ⟨htotal, hsizes, hcounted⟩ := getTotalVolumeBytes_spec h
  unfold checkLimit
  rw [if_pos hlimit]
  dsimp only
  rw [htotal]
  split
  · exact ⟨hsizes, hcounted, nofun⟩
  next hle => exact ⟨hsizes, hcounted, fun _ => Int64.not_lt.mp hle⟩

@[simp] theorem addVolumeBytes_sizes (bytes : Int64) :
    (s.addVolumeBytes bytes).sizes = s.sizes := by
  unfold addVolumeBytes
  split <;> rfl

@[simp] theorem addVolumeBytes_ready (bytes : Int64) :
    (s.addVolumeBytes bytes).totalVolumeBytesReady = s.totalVolumeBytesReady := by
  unfold addVolumeBytes
  split <;> rfl

theorem addVolumeBytes_total (hready : s.totalVolumeBytesReady = true) (bytes : Int64) :
    (s.addVolumeBytes bytes).totalVolumeBytes = s.totalVolumeBytes + bytes := by
  rw [addVolumeBytes, if_pos hready]

@[simp] theorem subtractVolumeBytes_sizes (bytes : Int64) :
    (s.subtractVolumeBytes bytes).sizes = s.sizes := by
  unfold subtractVolumeBytes
  split <;> rfl

@[simp] theorem subtractVolumeBytes_ready (bytes : Int64) :
    (s.subtractVolumeBytes bytes).totalVolumeBytesReady = s.totalVolumeBytesReady := by
  unfold subtractVolumeBytes
  split <;> rfl

theorem subtractVolumeBytes_total (hready : s.totalVolumeBytesReady = true) (bytes : Int64) :
    (s.subtractVolumeBytes bytes).totalVolumeBytes = s.totalVolumeBytes - bytes := by
  rw [subtractVolumeBytes, if_pos hready]

theorem record_sizes : (s.record id sizeGb).sizes = s.sizes.insert id sizeGb :=
  addVolumeBytes_sizes _

theorem Counted.record (h : s.Counted) (hnone : s.sizes.lookup id = none) :
    (s.record id sizeGb).Counted := by
  intro hready
  rw [Storage.record, addVolumeBytes_ready] at hready
  rw [record_sizes, volumeBytes_insert hnone, Int64.ofInt_add, ← sizeBytes_eq, ← h hready]
  exact addVolumeBytes_total hready _

theorem Counted.delete (h : s.Counted) (hsome : s.sizes.lookup id = some sizeGb) :
    ((s.deleteVolumeData id).subtractVolumeBytes (sizeBytes sizeGb)).Counted := by
  intro hready
  rw [subtractVolumeBytes_ready] at hready
  rw [subtractVolumeBytes_total hready, subtractVolumeBytes_sizes]
  change s.totalVolumeBytes - _ = Int64.ofInt (volumeBytes (s.sizes.erase id))
  rw [volumeBytes_erase hsome, Int64.ofInt_sub, ← sizeBytes_eq, ← h hready]

/-- The running total is right, and the sizes are positive and within the limit. -/
structure Limited (limit : Int64) (s : Storage) : Prop where
  counted : s.Counted
  positive : ∀ id sizeGb, s.sizes.lookup id = some sizeGb → 0 < sizeGb.toInt
  limited : volumeBytes s.sizes ≤ limit.toInt

namespace Limited

/-- Only the total changes. -/
theorem of_sizes_eq (h : Limited limit s) {s' : Storage} (hsizes : s'.sizes = s.sizes)
    (hcounted : s'.Counted) : Limited limit s' :=
  ⟨hcounted, hsizes ▸ h.positive, hsizes ▸ h.limited⟩

theorem record (h : Limited limit s) (hnone : s.sizes.lookup id = none)
    (hpos : 0 < sizeGb.toInt)
    (hfits : volumeBytes s.sizes + sizeGb.toInt * 1073741824 ≤ limit.toInt) :
    Limited limit (s.record id sizeGb) where
  counted := h.counted.record hnone
  positive := by
    rw [record_sizes]
    refine (Table.Sets.insert id sizeGb s.sizes).all h.positive ?_
    rintro _ ⟨⟩
    exact hpos
  limited := by
    rw [record_sizes, volumeBytes_insert hnone]
    exact hfits

theorem delete (h : Limited limit s) (hsome : s.sizes.lookup id = some sizeGb) :
    Limited limit ((s.deleteVolumeData id).subtractVolumeBytes (sizeBytes sizeGb)) where
  counted := h.counted.delete hsome
  positive := by
    rw [subtractVolumeBytes_sizes]
    exact Table.Sets.all_erase h.positive id
  limited := by
    have hpos := h.positive id sizeGb hsome
    have hle := h.limited
    rw [subtractVolumeBytes_sizes, deleteVolumeData, volumeBytes_erase hsome]
    omega

/-- Cleaning up after a creation that failed removes nothing. -/
theorem cleanup (h : Limited limit s) (hnone : s.sizes.lookup id = none) :
    Limited limit (s.deleteVolumeData id) where
  counted hready := (h.counted hready).trans
    (congrArg Int64.ofInt (volumeBytes_erase_of_none hnone).symm)
  positive := Table.Sets.all_erase h.positive id
  limited := (volumeBytes_erase_of_none hnone).trans_le h.limited

/-- What has passed the check fits under the limit, when nothing overflows. -/
theorem fits (h : Limited limit s) (hpos : 0 < sizeGb.toInt)
    (hsmall : sizeGb.toInt * 1073741824 + limit.toInt < 9223372036854775808)
    (hle : Int64.ofInt (volumeBytes s.sizes) + sizeBytes sizeGb ≤ limit) :
    volumeBytes s.sizes + sizeGb.toInt * 1073741824 ≤ limit.toInt := by
  have hnonneg := volumeBytes_nonneg h.positive
  have hlimited := h.limited
  rw [sizeBytes_eq, ← Int64.ofInt_add, Int64.le_iff_toInt_le, Int64.toInt_ofInt_of_le] at hle
  · exact hle
  · change -9223372036854775808 ≤ _
    omega
  · change _ < 9223372036854775808
    omega

end Limited

end Storage

/-- The size that is asked for does not overflow together with the limit, and the files of an
archive, with half their size on top, are within it. -/
def Fitting (limit : Int64) (_ : Storage) : StorageEvent → Prop
  | .create _ sizeGb _ => sizeGb.toInt * 1073741824 + limit.toInt < 9223372036854775808
  | .createFromArchive _ sizeGb archive _ =>
    sizeGb.toInt * 1073741824 + limit.toInt < 9223372036854775808 ∧
      (archive.dirSize + archive.dirSize / 2 : ℕ) ≤ sizeGb.toInt * 1073741824
  | .delete _ _ => True

instance (limit : Int64) (s : Storage) : DecidablePred (Fitting limit s)
  | .create _ sizeGb _ => inferInstanceAs (Decidable
    (sizeGb.toInt * 1073741824 + limit.toInt < 9223372036854775808))
  | .createFromArchive _ sizeGb archive _ => inferInstanceAs (Decidable
    (sizeGb.toInt * 1073741824 + limit.toInt < 9223372036854775808 ∧
      ((archive.dirSize + archive.dirSize / 2 : ℕ) : ℤ) ≤ sizeGb.toInt * 1073741824))
  | .delete _ _ => inferInstanceAs (Decidable True)

namespace Storage.Limited

variable {s : Storage} {id : String} {sizeGb limit : Int64} {fails : Option String}

/-- The common part of the two creations: after the check, the size that is recorded is at most the
one that was checked. -/
theorem checked (h : Limited limit s) (hlimit : 0 < limit) (hnone : s.sizes.lookup id = none)
    (hpos : 0 < sizeGb.toInt)
    (hsmall : sizeGb.toInt * 1073741824 + limit.toInt < 9223372036854775808)
    {recorded : Int64} (hrecorded : 0 < recorded.toInt) (hle : recorded.toInt ≤ sizeGb.toInt) :
    Limited limit (checkLimit limit s (sizeBytes sizeGb)).2 ∧
      Limited limit ((checkLimit limit s (sizeBytes sizeGb)).2.deleteVolumeData id) ∧
      ((checkLimit limit s (sizeBytes sizeGb)).1 = .ok () →
        Limited limit ((checkLimit limit s (sizeBytes sizeGb)).2.record id recorded)) := by
  obtain ⟨hsizes, hcounted, hok⟩ := checkLimit_spec h.counted hlimit (sizeBytes sizeGb)
  have hchecked := h.of_sizes_eq hsizes hcounted
  rw [← hsizes] at hnone
  refine ⟨hchecked, hchecked.cleanup hnone, fun hpass => hchecked.record hnone hrecorded ?_⟩
  have hfits := h.fits hpos hsmall (hok hpass)
  rw [hsizes]
  omega

theorem create (h : Limited limit s) (hlimit : 0 < limit) (hpos : 0 < sizeGb.toInt)
    (hsmall : sizeGb.toInt * 1073741824 + limit.toInt < 9223372036854775808) :
    Limited limit (s.CreateVolume limit id sizeGb fails).2 := by
  unfold CreateVolume
  split
  · exact h
  next hnone =>
  obtain ⟨hsame, hcleanup, hrecord⟩ := h.checked hlimit hnone hpos hsmall hpos (Int.le_refl _)
  split
  next hcheck =>
    rw [hcheck] at hsame
    exact hsame
  next hcheck =>
    rw [hcheck] at hcleanup hrecord
    split
    · exact hcleanup
    · exact hrecord rfl

theorem createFromArchive (h : Limited limit s) (hlimit : 0 < limit) (hpos : 0 < sizeGb.toInt)
    (hsmall : sizeGb.toInt * 1073741824 + limit.toInt < 9223372036854775808) {archive : Archive}
    (hdir : (archive.dirSize + archive.dirSize / 2 : ℕ) ≤ sizeGb.toInt * 1073741824) :
    Limited limit (s.CreateVolumeFromArchive limit id sizeGb archive fails).2 := by
  have hlimit' : 0 < limit.toInt := Int64.lt_iff_toInt_lt.mp hlimit
  obtain ⟨hdisk, hdiskle⟩ := convertToExt4_le hpos (by omega) hdir
  obtain ⟨hactual, hactualle⟩ := actualSizeGb_le hpos (by omega) hdisk hdiskle
  unfold CreateVolumeFromArchive
  split
  · exact h
  next hnone =>
  obtain ⟨hsame, hcleanup, hrecord⟩ := h.checked hlimit hnone hpos hsmall hactual hactualle
  split
  next hcheck =>
    rw [hcheck] at hsame
    exact hsame
  next hcheck =>
    rw [hcheck] at hsame hcleanup hrecord
    split
    · exact hsame
    split
    · exact hcleanup
    · exact hrecord rfl

theorem deleteVolume (h : Limited limit s) : Limited limit (s.DeleteVolume id fails).2 := by
  unfold DeleteVolume
  split
  · exact h
  next hsome =>
  split
  · exact h
  · exact h.delete hsome

/-- Every call keeps the limit. -/
theorem step (h : Limited limit s) (hlimit : 0 < limit) {e : StorageEvent} {s' : Storage}
    (hok : Fitting limit s e) (hstep : (storage limit).step s e = some s') : Limited limit s' := by
  cases e with
  | create id sizeGb fails =>
    obtain ⟨hpos, ⟨⟩⟩ := Option.ite_none_right_eq_some.mp hstep
    exact h.create hlimit (Int64.lt_iff_toInt_lt.mp hpos) hok
  | createFromArchive id sizeGb archive fails =>
    obtain ⟨hpos, ⟨⟩⟩ := Option.ite_none_right_eq_some.mp hstep
    exact h.createFromArchive hlimit (Int64.lt_iff_toInt_lt.mp hpos) hok.1 hok.2
  | delete id fails =>
    cases hstep
    exact h.deleteVolume

end Storage.Limited

/-- **The storage limit.** Over every history of calls, the sum of the sizes of the volumes stays
within the limit, provided that what is asked for does not overflow together with the limit and
that the files of an archive, with half their size on top, are within the size asked for. -/
theorem storage_limited {limit : Int64} (hlimit : 0 < limit) {s : Storage}
    (h : (storage limit).Reachable (Fitting limit) s) : volumeBytes s.sizes ≤ limit.toInt := by
  have hinv : Storage.Limited limit s := by
    refine System.Reachable.invariant (I := Storage.Limited limit) ?_ ?_ h
    · exact ⟨nofun, nofun, Int.le_of_lt (Int64.lt_iff_toInt_lt.mp hlimit)⟩
    · intro s e s' hs hok hstep
      exact hs.step hlimit hok hstep
  exact hinv.limited

/-- A limit of three gibibytes: an archive of half a gibibyte, an empty volume of two, and a
deletion. -/
theorem storage_limited_archive : ∃ s, (storage 3221225472).Reachable (Fitting 3221225472) s ∧
    volumeBytes s.sizes = 1073741824 ∧ volumeBytes s.sizes ≤ (3221225472 : Int64).toInt := by
  obtain ⟨s, hs, hbytes⟩ := System.exists_reachable_of_replay (storage 3221225472)
    (Fitting 3221225472) (fun s => volumeBytes s.sizes = 1073741824)
    [.createFromArchive "site" 1 ⟨[536870912], 536870912⟩ none, .create "data" 2 none,
      .create "more" 1 none, .delete "data" none] (by decide +kernel)
  exact ⟨s, hs, hbytes, storage_limited (by decide) hs⟩

/-- With a limit of one gibibyte, an archive of 900 MiB that asks for one gibibyte passes the check
and the extraction; its disk takes half as much again, so two gibibytes are recorded. -/
theorem archive_exceeds : ∃ s, (storage 1073741824).Reachable System.Always s ∧
    volumeBytes s.sizes = 2147483648 ∧ ¬ volumeBytes s.sizes ≤ (1073741824 : Int64).toInt := by
  obtain ⟨s, hs, hbytes⟩ := System.exists_reachable_of_replay (storage 1073741824) System.Always
    (fun s => volumeBytes s.sizes = 2147483648 ∧
      ¬ volumeBytes s.sizes ≤ (1073741824 : Int64).toInt)
    [.createFromArchive "site" 1 ⟨[943718400], 943718400⟩ none] (by decide +kernel)
  exact ⟨s, hs, hbytes⟩

end Hypeman.Volumes
