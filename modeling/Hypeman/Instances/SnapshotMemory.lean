import Hypeman.Foundations.System
import Mathlib.Logic.Function.Basic

/-!
# The memory file of a snapshot

Compressing and restoring the memory file of a snapshot (`lib/instances/snapshot_compression.go`),
one file operation at a time. A job compresses the raw file to a temporary file, renames it to its
final name and then removes the raw file; `decompressSnapshotMemoryFile` goes the other way. A
directory has one job key, so one job at a time, and one call that needs the raw file holds the lock
of the directory; but a job may be started while a call is at work. A crash may come after every
operation, and what a codec has written before it is finished is arbitrary.

* `Path.Holds`: what may be found under each name; of the temporary files nothing is known.
* `Sound`: everything under a final name is the original or decodes to it, and something is there.
* `Orderly`: no job compresses beside a call, and a call can look at what it needs.
* `memory_recoverable`: then the original can be recovered at every point, and the raw file is there
  when `ensureSnapshotMemoryReadyWithLock` returns without an error.
* `memory_lost`: what happens otherwise.
-/

namespace Hypeman.Instances.SnapshotMemory

open Foundations

/-! ## Files -/

/-- Where the memory file of a snapshot may be, below the directory of the snapshot. -/
inductive Candidate
  | memoryRanges
  | memory
  | latestMemoryRanges
  | latestMemory
deriving DecidableEq, Repr

def snapshotMemoryFileCandidates : List Candidate :=
  [.memoryRanges, .memory, .latestMemoryRanges, .latestMemory]

/-- `SnapshotCompressionAlgorithm`. -/
inductive Algorithm
  | zstd
  | lz4
deriving DecidableEq, Repr

/-- What is appended to the path of a candidate. -/
inductive Extension
  | raw
  | tmp
  | compressed (algorithm : Algorithm)
  | compressedTmp (algorithm : Algorithm)
deriving DecidableEq, Repr

structure Path where
  candidate : Candidate
  extension : Extension
deriving DecidableEq, Repr

/-- The files of the snapshot directory with their contents. -/
abbrev Files (β : Type*) := Path → Option β

/-- The codecs, with the level of a policy: what they compress they can decompress. -/
structure Codec (β : Type*) where
  compress : Algorithm → Option Int → β → β
  decompress : Algorithm → β → Option β
  decompress_compress : ∀ algorithm level b,
    decompress algorithm (compress algorithm level b) = some b

/-- The policy of a compression job. -/
structure Config where
  algorithm : Algorithm
  level : Option Int
deriving DecidableEq, Repr

variable {β : Type*}

/-- `os.Stat` finds a regular file; a failure is taken for the absence of the file. -/
def stat (files : Files β) (fails : Path → Bool) (path : Path) : Bool :=
  (files path).isSome && !fails path

def findRawSnapshotMemoryFile (files : Files β) (fails : Path → Bool) : Option Candidate :=
  snapshotMemoryFileCandidates.find? fun raw => stat files fails ⟨raw, .raw⟩

def findCompressedSnapshotMemoryFile (files : Files β) (fails : Path → Bool) :
    Option (Candidate × Algorithm) :=
  snapshotMemoryFileCandidates.findSome? fun raw =>
    if stat files fails ⟨raw, .compressed .zstd⟩ then some (raw, .zstd)
    else if stat files fails ⟨raw, .compressed .lz4⟩ then some (raw, .lz4)
    else none

/-- The files that `removeCompressedSnapshotArtifacts` removes, one after another. -/
def compressedSnapshotArtifacts (raw : Candidate) : List Path :=
  [⟨raw, .compressed .zstd⟩, ⟨raw, .compressedTmp .zstd⟩, ⟨raw, .compressed .lz4⟩,
    ⟨raw, .compressedTmp .lz4⟩]

/-- `os.Remove`, which may fail and leave the file. -/
def remove (files : Files β) (path : Path) (ok : Bool) : Files β :=
  if ok then Function.update files path none else files

/-- `os.Rename`. -/
def rename (files : Files β) (source target : Path) : Files β :=
  Function.update (Function.update files target (files source)) source none

/-! ## The processes -/

/-- Where `compressSnapshotMemoryFile` is. -/
inductive CompressPhase
  /-- The raw file is about to be looked at. -/
  | stat
  /-- These old artifacts are still to be removed. -/
  | clear (rest : List Path)
  /-- The codec writes the temporary file. -/
  | write
  | written
  /-- The temporary file has its final name. -/
  | renamed
  /-- The final file is about to be looked at. -/
  | confirm
  /-- The raw file is about to be removed. -/
  | removeRaw
  /-- The job has failed and cleans up. -/
  | discard (path : Path)
deriving DecidableEq, Repr

/-- Where `decompressSnapshotMemoryFile` is. -/
inductive DecompressPhase
  /-- An old temporary file is about to be removed. -/
  | removeTmp
  /-- The codec writes the temporary file. -/
  | write
  | written
  /-- The call has failed and cleans up. -/
  | discard
deriving DecidableEq, Repr

/-- A compression job. -/
inductive Job
  /-- It waits for its delay. -/
  | delayed (cfg : Config)
  | compress (raw : Candidate) (cfg : Config) (phase : CompressPhase)
deriving DecidableEq, Repr

/-- A call that needs the raw file. -/
inductive Call
  | decompress (raw : Candidate) (algorithm : Algorithm) (phase : DecompressPhase)
  /-- The raw file is there, these artifacts are still to be removed. -/
  | clear (rest : List Path)
  | ready
deriving DecidableEq, Repr

/-- The directory, the job under its key, whether that is cancelled, and the call at work. -/
structure Snapshot (β : Type*) where
  files : Files β
  job : Option Job
  cancelled : Bool
  call : Option Call

/-- The steps; `ok` tells whether the next operation succeeds. -/
inductive Event (β : Type*)
  | startCompressionJob (cfg : Config)
  /-- The first part of `cancelAndWaitCompressionJob`. -/
  | cancel
  /-- `ensureSnapshotMemoryReadyWithLock` looks at the files, if it was given a key after the job it
  found was done. `os.Stat` fails where `fails` says so. -/
  | ensureSnapshotMemoryReady (fails : Path → Bool)
  | decompressSnapshotMemoryFile (raw : Candidate) (algorithm : Algorithm)
  /-- The next operation of the job. -/
  | runJob (ok : Bool)
  /-- The next operation of the call. -/
  | runCall (ok : Bool)
  /-- The codec of the job has written this so far. -/
  | outputJob (b : β)
  /-- The codec of the call has written this so far. -/
  | outputCall (b : β)
  | crash

variable (codec : Codec β)

/-- The next operation of a job that compresses; with none left, the job is done. -/
def CompressPhase.run (files : Files β) (cancelled : Bool) (raw : Candidate) (cfg : Config) :
    CompressPhase → Bool → Files β × Option Job
  | .stat, ok =>
    if ok ∧ (files ⟨raw, .raw⟩).isSome then
      (files, some (.compress raw cfg (.clear
        (compressedSnapshotArtifacts raw ++ [⟨raw, .compressedTmp cfg.algorithm⟩]))))
    else (files, none)
  | .clear (path :: rest), ok => (remove files path ok, some (.compress raw cfg (.clear rest)))
  | .clear [], _ => (files, some (.compress raw cfg .write))
  | .write, ok =>
    match ok, files ⟨raw, .raw⟩ with
    | true, some b =>
      (Function.update files ⟨raw, .compressedTmp cfg.algorithm⟩
        (some (codec.compress cfg.algorithm cfg.level b)), some (.compress raw cfg .written))
    | _, _ => (files, some (.compress raw cfg (.discard ⟨raw, .compressedTmp cfg.algorithm⟩)))
  | .written, ok =>
    if cancelled ∨ ok = false then
      (files, some (.compress raw cfg (.discard ⟨raw, .compressedTmp cfg.algorithm⟩)))
    else (rename files ⟨raw, .compressedTmp cfg.algorithm⟩ ⟨raw, .compressed cfg.algorithm⟩,
      some (.compress raw cfg .renamed))
  | .renamed, _ =>
    if cancelled then
      (files, some (.compress raw cfg (.discard ⟨raw, .compressed cfg.algorithm⟩)))
    else (files, some (.compress raw cfg .confirm))
  | .confirm, ok =>
    if ok ∧ (files ⟨raw, .compressed cfg.algorithm⟩).isSome then
      (files, some (.compress raw cfg .removeRaw))
    else (files, none)
  | .removeRaw, ok => (remove files ⟨raw, .raw⟩ ok, none)
  | .discard path, ok => (remove files path ok, none)

/-- The next operation of a decompression; with none left, the call has failed. -/
def DecompressPhase.run (files : Files β) (raw : Candidate) (algorithm : Algorithm) :
    DecompressPhase → Bool → Files β × Option Call
  | .removeTmp, ok => (remove files ⟨raw, .tmp⟩ ok, some (.decompress raw algorithm .write))
  | .write, ok =>
    match ok, (files ⟨raw, .compressed algorithm⟩).bind (codec.decompress algorithm) with
    | true, some b =>
      (Function.update files ⟨raw, .tmp⟩ (some b), some (.decompress raw algorithm .written))
    | _, _ => (files, some (.decompress raw algorithm .discard))
  | .written, ok =>
    if ok then
      (rename files ⟨raw, .tmp⟩ ⟨raw, .raw⟩, some (.clear (compressedSnapshotArtifacts raw)))
    else (files, some (.decompress raw algorithm .discard))
  | .discard, ok => (remove files ⟨raw, .tmp⟩ ok, none)

/-- The next operation of a job. -/
def Job.run (files : Files β) (cancelled : Bool) : Job → Bool → Files β × Option Job
  | .delayed cfg, ok =>
    -- a cancelled job may still see its timer first
    match ok, findRawSnapshotMemoryFile files (fun _ => false) with
    | true, some raw => (files, some (.compress raw cfg .stat))
    | _, _ => (files, none)
  | .compress raw cfg phase, ok => phase.run codec files cancelled raw cfg ok

/-- The next operation of a call; it returns without an error from `ready`. -/
def Call.run (files : Files β) : Call → Bool → Files β × Option Call
  | .decompress raw algorithm phase, ok => phase.run codec files raw algorithm ok
  | .clear (path :: rest), ok => (remove files path ok, some (.clear rest))
  | .clear [], _ => (files, some .ready)
  | .ready, _ => (files, none)

/-- The file that the codec of a job writes. -/
def Job.writes : Job → Option Path
  | .compress raw cfg .write => some ⟨raw, .compressedTmp cfg.algorithm⟩
  | _ => none

/-- The file that the codec of a call writes. -/
def Call.writes : Call → Option Path
  | .decompress raw _ .write => some ⟨raw, .tmp⟩
  | _ => none

/-- How `ensureSnapshotMemoryReadyWithLock` goes on. -/
def ensureSnapshotMemoryReady (files : Files β) (fails : Path → Bool) : Call :=
  match findRawSnapshotMemoryFile files fails with
  | some raw => .clear (compressedSnapshotArtifacts raw)
  | none =>
    match findCompressedSnapshotMemoryFile files fails with
    | some (raw, algorithm) => .decompress raw algorithm .removeTmp
    | none => .ready

/-- The snapshot directory whose raw file holds the original, and all that is done to it. -/
def snapshot (raw : Candidate) (original : β) : System (Snapshot β) (Event β) where
  init := {
    files := Function.update (fun _ => none) ⟨raw, .raw⟩ (some original)
    job := none
    cancelled := false
    call := none }
  step x
    | .startCompressionJob cfg =>
      match x.job with
      | none => some { x with job := some (.delayed cfg), cancelled := false }
      | some _ => none
    | .cancel => some { x with cancelled := true }
    | .ensureSnapshotMemoryReady fails =>
      match x.call with
      | none => some { x with call := some (ensureSnapshotMemoryReady x.files fails) }
      | some _ => none
    | .decompressSnapshotMemoryFile raw algorithm =>
      match x.call with
      | none => some { x with call := some (.decompress raw algorithm .removeTmp) }
      | some _ => none
    | .runJob ok =>
      x.job.map fun job => { x with
        files := (job.run codec x.files x.cancelled ok).1
        job := (job.run codec x.files x.cancelled ok).2 }
    | .runCall ok =>
      x.call.map fun call => { x with
        files := (call.run codec x.files ok).1
        call := (call.run codec x.files ok).2 }
    | .outputJob b =>
      (x.job.bind Job.writes).map fun path =>
        { x with files := Function.update x.files path (some b) }
    | .outputCall b =>
      (x.call.bind Call.writes).map fun path =>
        { x with files := Function.update x.files path (some b) }
    | .crash => some { x with job := none, cancelled := false, call := none }

/-- The job, if there is one, is in its delay. -/
def Snapshot.JobWaits (x : Snapshot β) : Prop :=
  match x.job with
  | some (.compress _ _ _) => False
  | some (.delayed _) | none => True

instance (x : Snapshot β) : Decidable x.JobWaits := by
  unfold Snapshot.JobWaits
  split <;> infer_instance

/-- No job compresses while a call is at work: a call does not begin beside one that does, and none
comes to the raw file during a call. And a call that finds no raw file can look at a compressed
one. -/
def Orderly (raw : Candidate) (x : Snapshot β) : Event β → Prop
  | .ensureSnapshotMemoryReady fails =>
    x.JobWaits ∧ ((x.files ⟨raw, .raw⟩).isSome ∨ stat x.files fails ⟨raw, .compressed .zstd⟩ ∨
      stat x.files fails ⟨raw, .compressed .lz4⟩)
  | .decompressSnapshotMemoryFile _ _ => x.JobWaits
  | .runJob true => x.call = none ∨ (x.files ⟨raw, .raw⟩).isNone
  | _ => True

instance (raw : Candidate) (x : Snapshot β) (e : Event β) : Decidable (Orderly raw x e) := by
  unfold Orderly
  split <;> infer_instance

/-! ## What is found under the final names -/

section Sound

variable {codec} {raw : Candidate} {original : β} {files : Files β} {path : Path} {new : Option β}

variable (codec raw original) in
/-- The raw file holds the original and a compressed file decodes to it, of the one candidate; of
the temporary files nothing is known. -/
def Path.Holds (path : Path) (b : β) : Prop :=
  match path.extension with
  | .raw => path.candidate = raw ∧ b = original
  | .compressed algorithm => path.candidate = raw ∧ codec.decompress algorithm b = some original
  | .tmp | .compressedTmp _ => True

variable (codec raw original) in
/-- The original is there, in one form or the other, and nothing else is. -/
structure Sound (files : Files β) : Prop where
  holds : ∀ path b, files path = some b → path.Holds codec raw original b
  kept : files ⟨raw, .raw⟩ ≠ none ∨ ∃ algorithm, files ⟨raw, .compressed algorithm⟩ ≠ none

/-- The names of temporary files. -/
def Extension.Temporary : Extension → Prop
  | .tmp | .compressedTmp _ => True
  | .raw | .compressed _ => False

theorem update_raw (hpath : path.extension ≠ .raw) :
    Function.update files path new ⟨raw, .raw⟩ = files ⟨raw, .raw⟩ := by
  refine Function.update_of_ne ?_ _ _
  rintro rfl
  exact hpath rfl

namespace Sound

theorem update_holds (h : Sound codec raw original files)
    (hnew : ∀ b ∈ new, path.Holds codec raw original b) (path' : Path) (b : β)
    (hb : Function.update files path new path' = some b) : path'.Holds codec raw original b := by
  rw [Function.update_apply] at hb
  split at hb
  next heq =>
    rw [heq]
    exact hnew b hb
  next => exact h.holds path' b hb

/-- While the raw file is there, everything else may change. -/
theorem update_of_raw (h : Sound codec raw original files) (hraw : files ⟨raw, .raw⟩ ≠ none)
    (hpath : path.extension ≠ .raw) (hnew : ∀ b ∈ new, path.Holds codec raw original b) :
    Sound codec raw original (Function.update files path new) := by
  refine ⟨h.update_holds hnew, .inl ?_⟩
  rw [update_raw hpath]
  exact hraw

/-- Temporary files may always change. -/
theorem update_temporary (h : Sound codec raw original files) (hpath : path.extension.Temporary) :
    Sound codec raw original (Function.update files path new) := by
  obtain ⟨candidate, extension⟩ := path
  have hsame : ∀ final, ¬ final.Temporary →
      Function.update files ⟨candidate, extension⟩ new ⟨raw, final⟩ = files ⟨raw, final⟩ := by
    intro final hfinal
    refine Function.update_of_ne ?_ _ _
    rintro ⟨⟩
    exact hfinal hpath
  refine ⟨h.update_holds fun b _ => ?_, ?_⟩
  · cases extension with
    | tmp => exact trivial
    | compressedTmp algorithm => exact trivial
    | raw => exact hpath.elim
    | compressed algorithm => exact hpath.elim
  · rw [hsame .raw id]
    refine h.kept.imp_right ?_
    rintro ⟨algorithm, hfinal⟩
    refine ⟨algorithm, ?_⟩
    rw [hsame (.compressed algorithm) id]
    exact hfinal

theorem remove_of_raw (h : Sound codec raw original files) (hraw : files ⟨raw, .raw⟩ ≠ none)
    (hpath : path.extension ≠ .raw) (ok : Bool) :
    Sound codec raw original (remove files path ok) ∧ remove files path ok ⟨raw, .raw⟩ ≠ none := by
  cases ok with
  | false => exact ⟨h, hraw⟩
  | true => exact ⟨h.update_of_raw hraw hpath nofun, (update_raw hpath).trans_ne hraw⟩

theorem remove_temporary (h : Sound codec raw original files) (hpath : path.extension.Temporary)
    (ok : Bool) : Sound codec raw original (remove files path ok) := by
  cases ok with
  | false => exact h
  | true => exact h.update_temporary hpath

/-- The raw file may go once a compressed file is there. -/
theorem remove_raw (h : Sound codec raw original files) {algorithm : Algorithm}
    (hfinal : files ⟨raw, .compressed algorithm⟩ ≠ none) (ok : Bool) :
    Sound codec raw original (remove files ⟨raw, .raw⟩ ok) := by
  cases ok with
  | false => exact h
  | true =>
    refine ⟨h.update_holds nofun, .inr ⟨algorithm, ?_⟩⟩
    refine (Function.update_of_ne ?_ _ _).trans_ne hfinal
    rintro ⟨⟩

/-- A temporary file whose content is right gets its final name. -/
theorem rename (h : Sound codec raw original files) {source target : Path} {b : β}
    (hsource : source.extension.Temporary) (hb : files source = some b)
    (htarget : target.Holds codec raw original b)
    (hfinal : target = ⟨raw, .raw⟩ ∨ files ⟨raw, .raw⟩ ≠ none ∧ target.extension ≠ .raw) :
    Sound codec raw original (rename files source target) := by
  have hnew : ∀ c ∈ files source, target.Holds codec raw original c := by
    rw [hb]
    rintro _ ⟨⟩
    exact htarget
  refine Sound.update_temporary ?_ hsource
  rcases hfinal with rfl | ⟨hraw, htarget⟩
  · refine ⟨h.update_holds hnew, .inl ?_⟩
    rw [Function.update_self, hb]
    exact Option.some_ne_none b
  · exact h.update_of_raw hraw htarget hnew

/-- The raw file holds the original. -/
theorem raw_eq (h : Sound codec raw original files) (hraw : files ⟨raw, .raw⟩ ≠ none) :
    files ⟨raw, .raw⟩ = some original := by
  obtain ⟨b, hb⟩ := Option.ne_none_iff_exists'.mp hraw
  rw [hb, (h.holds _ b hb).2]

theorem findRaw (h : Sound codec raw original files) {fails : Path → Bool} {c : Candidate}
    (hc : findRawSnapshotMemoryFile files fails = some c) :
    c = raw ∧ files ⟨raw, .raw⟩ ≠ none := by
  have hstat := List.find?_some hc
  obtain ⟨hsome, -⟩ := (Bool.and_eq_true _ _).mp hstat
  obtain ⟨b, hb⟩ := Option.isSome_iff_exists.mp hsome
  obtain ⟨hraw, -⟩ := h.holds _ b hb
  cases hraw
  exact ⟨rfl, Option.ne_none_iff_exists'.mpr ⟨b, hb⟩⟩

end Sound

theorem mem_snapshotMemoryFileCandidates (raw : Candidate) :
    raw ∈ snapshotMemoryFileCandidates := by
  cases raw <;> decide

/-- A compressed file that can be looked at is found. -/
theorem findCompressed_ne_none {fails : Path → Bool}
    (h : stat files fails ⟨raw, .compressed .zstd⟩ ∨ stat files fails ⟨raw, .compressed .lz4⟩) :
    findCompressedSnapshotMemoryFile files fails ≠ none := by
  intro hnone
  have hraw := List.findSome?_eq_none_iff.mp hnone raw (mem_snapshotMemoryFileCandidates raw)
  rcases h with hstat | hstat
  · rw [if_pos hstat] at hraw
    cases hraw
  · rw [if_pos hstat] at hraw
    split at hraw <;> cases hraw

/-! ## What the processes know -/

variable (codec raw original) in
/-- What holds of the files while a job compresses, beside the raw file being there. -/
def CompressPhase.Knows (cfg : Config) (files : Files β) : CompressPhase → Prop
  | .clear rest => ∀ path ∈ rest, path.extension ≠ .raw
  | .written => ∃ b, files ⟨raw, .compressedTmp cfg.algorithm⟩ = some b ∧
      codec.decompress cfg.algorithm b = some original
  | .removeRaw => files ⟨raw, .compressed cfg.algorithm⟩ ≠ none
  | .discard path => path.extension ≠ .raw
  | .stat | .write | .renamed | .confirm => True

variable (codec raw original) in
def Job.Knows (files : Files β) : Job → Prop
  | .delayed _ => True
  | .compress c cfg phase =>
    c = raw ∧ files ⟨raw, .raw⟩ ≠ none ∧ phase.Knows codec raw original cfg files

variable (raw original) in
/-- What holds of the files while a call is at each point. -/
def Call.Knows (files : Files β) : Call → Prop
  | .decompress c _ .written => c = raw ∧ files ⟨raw, .tmp⟩ = some original
  | .decompress _ _ _ => True
  | .clear rest => files ⟨raw, .raw⟩ ≠ none ∧ ∀ path ∈ rest, path.extension ≠ .raw
  | .ready => files ⟨raw, .raw⟩ ≠ none

variable (codec raw original) in
/-- The files after an operation, with what comes next knowing what it has to. -/
def Fine {τ : Type*} (knows : Files β → τ → Prop) (x : Files β × Option τ) : Prop :=
  Sound codec raw original x.1 ∧ ∀ task ∈ x.2, knows x.1 task

section Fine

variable {τ : Type*} {knows : Files β → τ → Prop}

theorem fine_some {task : τ} (hfiles : Sound codec raw original files) (htask : knows files task) :
    Fine codec raw original knows (files, some task) := by
  refine ⟨hfiles, ?_⟩
  rintro _ ⟨⟩
  exact htask

theorem fine_none (hfiles : Sound codec raw original files) :
    Fine codec raw original knows (files, none) :=
  ⟨hfiles, fun task htask => absurd htask (Option.not_mem_none task)⟩

end Fine

theorem compressedSnapshotArtifacts_ne_raw (raw : Candidate) :
    ∀ path ∈ compressedSnapshotArtifacts raw, path.extension ≠ .raw := by
  simp [compressedSnapshotArtifacts]

/-- Every operation of a job keeps the original. -/
theorem CompressPhase.run_fine {cfg : Config} {phase : CompressPhase}
    (hfiles : Sound codec raw original files) (hraw : files ⟨raw, .raw⟩ ≠ none)
    (hphase : phase.Knows codec raw original cfg files) (cancelled ok : Bool) :
    Fine codec raw original (Job.Knows codec raw original)
      (phase.run codec files cancelled raw cfg ok) := by
  have hdiscard : Fine codec raw original (Job.Knows codec raw original)
      (files, some (.compress raw cfg (.discard ⟨raw, .compressedTmp cfg.algorithm⟩))) :=
    fine_some hfiles ⟨rfl, hraw, nofun⟩
  cases phase with
  | stat =>
    simp only [CompressPhase.run]
    split
    · refine fine_some hfiles ⟨rfl, hraw, ?_⟩
      simp [CompressPhase.Knows, compressedSnapshotArtifacts]
    · exact fine_none hfiles
  | clear rest =>
    cases rest with
    | nil => exact fine_some hfiles ⟨rfl, hraw, trivial⟩
    | cons path rest =>
      obtain ⟨hpath, hrest⟩ := List.forall_mem_cons.mp hphase
      obtain ⟨hfiles', hraw'⟩ := hfiles.remove_of_raw hraw hpath ok
      exact fine_some hfiles' ⟨rfl, hraw', hrest⟩
  | write =>
    simp only [CompressPhase.run]
    split
    next b hb =>
      have hne : (⟨raw, .compressedTmp cfg.algorithm⟩ : Path).extension ≠ .raw := nofun
      refine fine_some (hfiles.update_temporary ?_)
        ⟨rfl, ?_, _, Function.update_self .., ?_⟩
      · exact trivial
      · rw [update_raw hne]
        exact hraw
      · rw [codec.decompress_compress, (hfiles.holds _ b hb).2]
    · exact hdiscard
  | written =>
    simp only [CompressPhase.run]
    split
    · exact hdiscard
    · obtain ⟨b, hb, hdecode⟩ := hphase
      refine fine_some (hfiles.rename ?_ hb ?_ (.inr ⟨hraw, ?_⟩)) ⟨rfl, ?_, trivial⟩
      · exact trivial
      · exact ⟨rfl, hdecode⟩
      · nofun
      · refine (update_raw ?_).trans_ne ((update_raw ?_).trans_ne hraw)
        · nofun
        · nofun
  | renamed =>
    simp only [CompressPhase.run]
    split
    · exact fine_some hfiles ⟨rfl, hraw, nofun⟩
    · exact fine_some hfiles ⟨rfl, hraw, trivial⟩
  | confirm =>
    simp only [CompressPhase.run]
    split
    next hfinal =>
      exact fine_some hfiles ⟨rfl, hraw, Option.isSome_iff_ne_none.mp hfinal.2⟩
    · exact fine_none hfiles
  | removeRaw => exact fine_none (hfiles.remove_raw hphase ok)
  | discard path => exact fine_none (hfiles.remove_of_raw hraw hphase ok).1

/-- Every operation of a decompression keeps the original. -/
theorem DecompressPhase.run_fine {c : Candidate} {algorithm : Algorithm} {phase : DecompressPhase}
    (hfiles : Sound codec raw original files)
    (hphase : (Call.decompress c algorithm phase).Knows raw original files) (ok : Bool) :
    Fine codec raw original (Call.Knows raw original) (phase.run codec files c algorithm ok) := by
  cases phase with
  | removeTmp =>
    refine fine_some (hfiles.remove_temporary ?_ ok) trivial
    exact trivial
  | write =>
    simp only [DecompressPhase.run]
    split
    next b hb =>
      obtain ⟨content, hcontent, hdecode⟩ := Option.bind_eq_some_iff.mp hb
      obtain ⟨hraw, horiginal⟩ := hfiles.holds _ content hcontent
      cases hraw
      cases hdecode.symm.trans horiginal
      refine fine_some (hfiles.update_temporary ?_) ⟨rfl, Function.update_self ..⟩
      exact trivial
    · exact fine_some hfiles trivial
  | written =>
    obtain ⟨rfl, htmp⟩ := hphase
    simp only [DecompressPhase.run]
    split
    · refine fine_some (hfiles.rename ?_ htmp ?_ (.inl rfl))
        ⟨?_, compressedSnapshotArtifacts_ne_raw _⟩
      · exact trivial
      · exact ⟨rfl, rfl⟩
      · refine (update_raw ?_).trans_ne ?_
        · nofun
        · rw [Function.update_self, htmp]
          exact Option.some_ne_none original
    · exact fine_some hfiles trivial
  | discard =>
    refine fine_none (hfiles.remove_temporary ?_ ok)
    exact trivial

theorem Job.run_fine {job : Job} (hfiles : Sound codec raw original files)
    (hjob : job.Knows codec raw original files) (cancelled ok : Bool) :
    Fine codec raw original (Job.Knows codec raw original) (job.run codec files cancelled ok) := by
  cases job with
  | delayed cfg =>
    simp only [Job.run]
    split
    next c hc =>
      obtain ⟨rfl, hraw⟩ := hfiles.findRaw hc
      exact fine_some hfiles ⟨rfl, hraw, trivial⟩
    · exact fine_none hfiles
  | compress c cfg phase =>
    obtain ⟨rfl, hraw, hphase⟩ := hjob
    exact CompressPhase.run_fine hfiles hraw hphase cancelled ok

theorem Call.run_fine {call : Call} (hfiles : Sound codec raw original files)
    (hcall : call.Knows raw original files) (ok : Bool) :
    Fine codec raw original (Call.Knows raw original) (call.run codec files ok) := by
  cases call with
  | decompress c algorithm phase => exact DecompressPhase.run_fine hfiles hcall ok
  | clear rest =>
    obtain ⟨hraw, hrest⟩ := hcall
    cases rest with
    | nil => exact fine_some hfiles hraw
    | cons path rest =>
      obtain ⟨hpath, hrest⟩ := List.forall_mem_cons.mp hrest
      obtain ⟨hfiles', hraw'⟩ := hfiles.remove_of_raw hraw hpath ok
      exact fine_some hfiles' ⟨hraw', hrest⟩
  | ready => exact fine_none hfiles

/-- A call that finds no raw file decompresses, if it can look at a compressed one. -/
theorem ensureSnapshotMemoryReady_knows (hfiles : Sound codec raw original files)
    {fails : Path → Bool}
    (hstat : (files ⟨raw, .raw⟩).isSome ∨ stat files fails ⟨raw, .compressed .zstd⟩ ∨
      stat files fails ⟨raw, .compressed .lz4⟩) :
    (ensureSnapshotMemoryReady files fails).Knows raw original files := by
  unfold ensureSnapshotMemoryReady
  split
  next c hc =>
    exact ⟨(hfiles.findRaw hc).2, compressedSnapshotArtifacts_ne_raw c⟩
  next =>
    split
    · exact trivial
    next hnone =>
      rcases hstat with hraw | hstat
      · exact Option.isSome_iff_ne_none.mp hraw
      · exact absurd hnone (findCompressed_ne_none hstat)

/-- The output of a codec goes to a temporary file. -/
theorem Job.writes_fine {job : Job} (hfiles : Sound codec raw original files)
    (hjob : job.Knows codec raw original files) (hpath : job.writes = some path) :
    Fine codec raw original (Job.Knows codec raw original)
      (Function.update files path new, some job) := by
  unfold Job.writes at hpath
  split at hpath
  next c cfg =>
    cases hpath
    refine fine_some (hfiles.update_temporary ?_) ⟨hjob.1, ?_, trivial⟩
    · exact trivial
    · refine (update_raw ?_).trans_ne hjob.2.1
      nofun
  · cases hpath

theorem Call.writes_fine {call : Call} (hfiles : Sound codec raw original files)
    (hpath : call.writes = some path) :
    Fine codec raw original (Call.Knows raw original)
      (Function.update files path new, some call) := by
  unfold Call.writes at hpath
  split at hpath
  next c algorithm =>
    cases hpath
    refine fine_some (hfiles.update_temporary ?_) trivial
    exact trivial
  · cases hpath

end Sound

/-! ## The original over every run -/

section Run

variable {codec} {raw : Candidate} {original : β} {x : Snapshot β}

variable (codec raw original) in
/-- What every orderly run keeps: while a call is at work the job, if there is one, waits. -/
structure Snapshot.Kept (x : Snapshot β) : Prop where
  files : Sound codec raw original x.files
  job : ∀ job ∈ x.job, job.Knows codec raw original x.files
  call : ∀ call ∈ x.call, call.Knows raw original x.files
  apart : x.call = none ∨ x.JobWaits

theorem kept_init : (snapshot codec raw original).init.Kept codec raw original := by
  refine ⟨⟨fun path b hb => ?_, .inl ?_⟩, nofun, nofun, .inl rfl⟩
  · simp only [snapshot, Function.update_apply] at hb
    split at hb
    next heq =>
      cases heq
      cases hb
      exact ⟨rfl, rfl⟩
    next => cases hb
  · simp [snapshot]

/-- A job that waits knows nothing of the files. -/
theorem Snapshot.JobWaits.knows (h : x.JobWaits) (files : Files β) :
    ∀ job ∈ x.job, job.Knows codec raw original files := by
  intro job hjob
  rw [Snapshot.JobWaits, Option.mem_def.mp hjob] at h
  cases job with
  | delayed cfg => exact trivial
  | compress c cfg phase => exact h.elim

/-- The call goes on while the job waits. -/
theorem Snapshot.Kept.of_call (hwaits : x.JobWaits) {files : Files β} {call : Option Call}
    (h : Fine codec raw original (Call.Knows raw original) (files, call)) :
    ({ x with files := files, call := call } : Snapshot β).Kept codec raw original :=
  ⟨h.1, hwaits.knows files, h.2, .inr hwaits⟩

/-- The job goes on while no call is at work. -/
theorem Snapshot.Kept.of_job (hcall : x.call = none) {files : Files β} {job : Option Job}
    (h : Fine codec raw original (Job.Knows codec raw original) (files, job)) :
    ({ x with files := files, job := job } : Snapshot β).Kept codec raw original := by
  refine ⟨h.1, h.2, ?_, .inl hcall⟩
  rw [hcall]
  nofun

/-- A job that waits while a call is at work may only end. -/
theorem Snapshot.Kept.runJob (h : x.Kept codec raw original) {ok : Bool}
    (hok : Orderly raw x (.runJob ok)) {job : Job} (hjob : x.job = some job) :
    ({ x with
      files := (job.run codec x.files x.cancelled ok).1
      job := (job.run codec x.files x.cancelled ok).2 } : Snapshot β).Kept codec raw original := by
  rcases h.apart with hcall | hwaits
  · exact .of_job hcall (Job.run_fine h.files (h.job job hjob) x.cancelled ok)
  · rw [Snapshot.JobWaits, hjob] at hwaits
    cases job with
    | compress c cfg phase => exact hwaits.elim
    | delayed cfg =>
      simp only [Job.run]
      split
      next c hc =>
        obtain ⟨rfl, hraw⟩ := h.files.findRaw hc
        rcases hok with hcall | hnone
        · exact .of_job hcall (fine_some h.files ⟨rfl, hraw, trivial⟩)
        · exact absurd (Option.isNone_iff_eq_none.mp hnone) hraw
      · exact ⟨h.files, nofun, h.call, .inr trivial⟩

theorem kept_step (h : x.Kept codec raw original) {e : Event β} (hok : Orderly raw x e)
    {y : Snapshot β} (hstep : (snapshot codec raw original).step x e = some y) :
    y.Kept codec raw original := by
  cases e with
  | startCompressionJob cfg =>
    simp only [snapshot] at hstep
    split at hstep
    next =>
      cases hstep
      refine ⟨h.files, ?_, h.call, .inr trivial⟩
      rintro _ ⟨⟩
      exact trivial
    next => cases hstep
  | cancel =>
    cases hstep
    exact ⟨h.files, h.job, h.call, h.apart⟩
  | ensureSnapshotMemoryReady fails =>
    simp only [snapshot] at hstep
    split at hstep
    next =>
      cases hstep
      exact .of_call hok.1 (fine_some h.files (ensureSnapshotMemoryReady_knows h.files hok.2))
    next => cases hstep
  | decompressSnapshotMemoryFile c algorithm =>
    simp only [snapshot] at hstep
    split at hstep
    next =>
      cases hstep
      exact .of_call hok (fine_some h.files trivial)
    next => cases hstep
  | runJob ok =>
    obtain ⟨job, hjob, rfl⟩ := Option.map_eq_some_iff.mp hstep
    exact h.runJob hok hjob
  | runCall ok =>
    obtain ⟨call, hcall, rfl⟩ := Option.map_eq_some_iff.mp hstep
    exact .of_call (h.apart.resolve_left (by simp [hcall]))
      (Call.run_fine h.files (h.call call hcall) ok)
  | outputJob b =>
    obtain ⟨path, hpath, rfl⟩ := Option.map_eq_some_iff.mp hstep
    obtain ⟨job, hjob, hwrites⟩ := Option.bind_eq_some_iff.mp hpath
    rcases h.apart with hcall | hwaits
    · have hfine : Fine codec raw original (Job.Knows codec raw original)
          (Function.update x.files path (some b), some job) :=
        Job.writes_fine h.files (h.job job hjob) hwrites
      rw [← hjob] at hfine
      exact .of_job hcall hfine
    · rw [Snapshot.JobWaits, hjob] at hwaits
      cases job with
      | delayed cfg => cases hwrites
      | compress c cfg phase => exact hwaits.elim
  | outputCall b =>
    obtain ⟨path, hpath, rfl⟩ := Option.map_eq_some_iff.mp hstep
    obtain ⟨call, hcall, hwrites⟩ := Option.bind_eq_some_iff.mp hpath
    have hfine : Fine codec raw original (Call.Knows raw original)
        (Function.update x.files path (some b), some call) := Call.writes_fine h.files hwrites
    rw [← hcall] at hfine
    exact .of_call (h.apart.resolve_left (by simp [hcall])) hfine
  | crash =>
    cases hstep
    exact ⟨h.files, nofun, nofun, .inl rfl⟩

/-- **The memory image survives orderly runs.** After every single operation of jobs, cancellations,
decompressions and preparations, with a crash at any point, the raw file holds the original or a
compressed file under its final name decodes to it; and whenever a preparation returns without an
error the raw file holds the original. -/
theorem memory_recoverable (codec : Codec β) (raw : Candidate) (original : β)
    (h : (snapshot codec raw original).Reachable (Orderly raw) x) :
    (x.files ⟨raw, .raw⟩ = some original ∨ ∃ algorithm b,
      x.files ⟨raw, .compressed algorithm⟩ = some b ∧
        codec.decompress algorithm b = some original) ∧
      (x.call = some .ready → x.files ⟨raw, .raw⟩ = some original) := by
  have hkept : x.Kept codec raw original :=
    System.Reachable.invariant kept_init (fun _ _ _ hx hok hstep => kept_step hx hok hstep) h
  constructor
  · rcases hkept.files.kept with hraw | ⟨algorithm, hfinal⟩
    · exact .inl (hkept.files.raw_eq hraw)
    · obtain ⟨b, hb⟩ := Option.ne_none_iff_exists'.mp hfinal
      exact .inr ⟨algorithm, b, hb, (hkept.files.holds _ b hb).2⟩
  · intro hready
    exact hkept.files.raw_eq (hkept.call .ready hready)

end Run

/-- Codecs that put a number in front. -/
def tagging : Codec (List Nat) where
  compress
    | .zstd, _, b => 0 :: b
    | .lz4, _, b => 1 :: b
  decompress
    | .zstd, 0 :: b => some b
    | .lz4, 1 :: b => some b
    | _, _ => none
  decompress_compress := by
    intro algorithm level b
    cases algorithm <;> rfl

/-- A job is started, delayed, and its next operations are made. -/
def jobRun (n : Nat) : List (Event (List Nat)) :=
  .startCompressionJob ⟨.zstd, some 1⟩ :: List.replicate n (.runJob true)

/-- A job replaces the raw file; a crash interrupts the first preparation while the codec writes,
and the second one restores the file. -/
theorem memory_recoverable_afterCrash :
    ∃ x, (snapshot tagging .memory [4, 2]).Reachable (Orderly .memory) x ∧
      x.call = some .ready ∧ x.files ⟨.memory, .raw⟩ = some [4, 2] := by
  obtain ⟨x, hx, hready⟩ := System.exists_reachable_of_replay (snapshot tagging .memory [4, 2])
    (Orderly .memory) (fun x => x.call = some .ready)
    (List.flatten [jobRun 8, [.outputJob [9]], List.replicate 5 (.runJob true),
      [.ensureSnapshotMemoryReady fun _ => false, .runCall true, .outputCall [7], .crash,
        .ensureSnapshotMemoryReady fun _ => false], List.replicate 8 (.runCall true)])
    (by decide +kernel)
  exact ⟨x, hx, hready, (memory_recoverable tagging .memory [4, 2] hx).2 hready⟩

/-- A preparation that has found the raw file removes the compressed file of a job that was started
since, just before the job removes the raw file: neither is left. And a preparation that cannot look
at the compressed file returns without an error and without the raw file. -/
theorem memory_lost :
    (∃ x, (snapshot tagging .memory [4, 2]).Reachable System.Always x ∧
      x.files ⟨.memory, .raw⟩ = none ∧
        ∀ algorithm, x.files ⟨.memory, .compressed algorithm⟩ = none) ∧
    ∃ x, (snapshot tagging .memory [4, 2]).Reachable System.Always x ∧
      x.call = some .ready ∧ x.files ⟨.memory, .raw⟩ = none := by
  constructor
  · obtain ⟨x, hx, hraw, hzstd, hlz4⟩ := System.exists_reachable_of_replay
      (snapshot tagging .memory [4, 2]) System.Always
      (fun x => x.files ⟨.memory, .raw⟩ = none ∧ x.files ⟨.memory, .compressed .zstd⟩ = none ∧
        x.files ⟨.memory, .compressed .lz4⟩ = none)
      (List.flatten [[.ensureSnapshotMemoryReady fun _ => false], jobRun 12,
        [.runCall true, .runJob true]])
      (by decide +kernel)
    refine ⟨x, hx, hraw, fun algorithm => ?_⟩
    cases algorithm with
    | zstd => exact hzstd
    | lz4 => exact hlz4
  · exact System.exists_reachable_of_replay (snapshot tagging .memory [4, 2]) System.Always
      (fun x => x.call = some .ready ∧ x.files ⟨.memory, .raw⟩ = none)
      (jobRun 13 ++ [.ensureSnapshotMemoryReady fun _ => true])
      (by decide +kernel)

end Hypeman.Instances.SnapshotMemory
