import Hypeman.Foundations.OsCalls
import Hypeman.Foundations.SecureJoin
import Hypeman.Foundations.Words

/-!
# Extracting an archive into a directory

`ExtractTarGz` (`lib/volumes/archive.go`) makes the directories, files and links of an archive in a
directory. The archive may be hostile: its entries may go through links that earlier entries have
made, and its headers may claim any size. Every path is therefore joined to the directory by
`securejoin`, which resolves symbolic links within it, and what is copied is limited.

* `ExtractTarGz`: the program, over a file system and calls that may fail.
* `extraction_confined`: it changes only what is in the directory, writes at most one byte more than
  it may, and returns the number of bytes it has written.
-/

namespace Hypeman.Volumes.Extraction

open Foundations Foundations.Action Foundations.Filesystem

/-! ## The program -/

/-- The functions of other packages: the verb `%q`, and `securejoin.SecureJoin`, which returns a
path inside its root on which there is no symbolic link below the root. -/
structure Lib where
  quote : String → String
  secureJoin : FileSystem → Path → Text → Except String Path
  secureJoin_inside : ∀ {fs root t p}, secureJoin fs root t = .ok p →
    ∃ rest, p = root ++ rest ∧ FreeBelow fs root rest

inductive Typeflag
  | dir
  | reg
  | symlink
  | link
  | other
deriving DecidableEq

/-- A header of the archive, and what can be read after it. -/
structure Entry where
  name : Text
  linkname : Text
  typeflag : Typeflag
  size : Int64
  content : Reader

/-- An archive: the error of the decompressor, the entries that can be read, and the error after the
last of them. -/
structure TarGz where
  gzip : Option String
  entries : List Entry
  ending : Option String

/-- `validateArchivePath`. A cleaned path begins with `..` or has `..` after a slash where a
component of it begins with `..`. -/
def validateArchivePath (lib : Lib) (name : Text) : Option String :=
  let cleaned := Clean name
  if IsAbs cleaned || IsAbs name then
    some s!"invalid archive path: absolute path {lib.quote name.text}"
  else if cleaned.any fun c => ['.', '.'].isPrefixOf c.toList then
    some s!"invalid archive path: path traversal in {lib.quote name.text}"
  else none

/-- `securejoin.SecureJoin`, which looks at the file system and may fail in doing so. -/
def SecureJoin (lib : Lib) (root : Path) (t : Text) : Action String World Path :=
  (syscall fun fs =>
    match lib.secureJoin fs root t with
    | .error err => .error (.other err)
    | .ok p => .ok (p, fs, [])).orFail Errno.text

/-- The results of `ExtractTarGz`: an error comes with the bytes extracted before it. -/
abbrev Extract := Action (Int64 × String) World

section Entries

variable (lib : Lib) (destDir : Path) (maxBytes extractedBytes : Int64) (header : Entry)
  (targetPath : Path)

/-- The case `tar.TypeDir`. -/
def extractDir : Extract Int64 := do
  (MkdirAll targetPath).orFail fun err =>
    (extractedBytes, s!"create dir {header.name.text}: {err}")
  return extractedBytes

/-- The case `tar.TypeReg`. -/
def extractReg : Extract Int64 := do
  (MkdirAll targetPath.dropLast).orFail fun err => (extractedBytes, s!"create parent dir: {err}")
  let f ← (OpenFile targetPath).orFail fun err =>
    (extractedBytes, s!"create file {header.name.text}: {err}")
  let remaining := maxBytes - extractedBytes
  let n ← (copy f (header.content.limit (remaining + 1).toInt)).orFail fun err =>
    (extractedBytes, s!"write file {header.name.text}: {err}")
  let extractedBytes := extractedBytes + Int64.ofNat n
  if extractedBytes > maxBytes then
    fail (extractedBytes, s!"archive content exceeds size limit: exceeded {maxBytes} bytes")
  else return extractedBytes

/-- The test that a path is `destDir` or begins with it and a slash. -/
def withinDest (resolvedTarget : Path) : Bool :=
  (destDir ≠ [] && destDir.isPrefixOf resolvedTarget) || resolvedTarget = destDir

/-- The case `tar.TypeSymlink`. -/
def extractSymlink : Extract Int64 :=
  if IsAbs header.linkname then
    fail (extractedBytes,
      s!"invalid archive path: absolute symlink target {lib.quote header.linkname.text}")
  else if (Clean header.linkname).head? = some ".." then
    fail (extractedBytes,
      s!"invalid archive path: symlink {lib.quote header.linkname.text} escapes destination")
  else do
    let resolvedTarget ← (SecureJoin lib targetPath.dropLast header.linkname).orFail fun err =>
      (extractedBytes, s!"invalid archive path: symlink target unsafe: {err}")
    if !withinDest destDir resolvedTarget then
      fail (extractedBytes,
        s!"invalid archive path: symlink {lib.quote header.linkname.text} escapes destination")
    else do
      (MkdirAll targetPath.dropLast).orFail fun err =>
        (extractedBytes, s!"create parent dir for symlink: {err}")
      (Symlink header.linkname targetPath).orFail fun err =>
        (extractedBytes, s!"create symlink {header.name.text}: {err}")
      return extractedBytes

/-- The case `tar.TypeLink`. -/
def extractLink : Extract Int64 := do
  let linkTarget ← (SecureJoin lib destDir header.linkname).orFail fun err =>
    (extractedBytes, s!"invalid archive path: hardlink target unsafe: {err}")
  (MkdirAll targetPath.dropLast).orFail fun err =>
    (extractedBytes, s!"create parent dir for hardlink: {err}")
  (Link linkTarget targetPath).orFail fun err =>
    (extractedBytes, s!"create hardlink {header.name.text}: {err}")
  return extractedBytes

/-- The body of the loop of `ExtractTarGz`. -/
def extractEntry : Extract Int64 :=
  match validateArchivePath lib header.name with
  | some err => fail (extractedBytes, err)
  | none => do
    let targetPath ← (SecureJoin lib destDir header.name).orFail fun err =>
      (extractedBytes, s!"invalid archive path: {err}")
    if extractedBytes + header.size > maxBytes then
      fail (extractedBytes, s!"archive content exceeds size limit: would exceed {maxBytes} bytes")
    else
      match header.typeflag with
      | .dir => extractDir extractedBytes header targetPath
      | .reg => extractReg maxBytes extractedBytes header targetPath
      | .symlink => extractSymlink lib destDir extractedBytes header targetPath
      | .link => extractLink lib destDir extractedBytes header targetPath
      | .other => return extractedBytes

end Entries

def ExtractTarGz (lib : Lib) (archive : TarGz) (destDir : Path) (maxBytes : Int64) :
    Extract Int64 := do
  (MkdirAll destDir).orFail fun err => (0, s!"create dest dir: {err}")
  match archive.gzip with
  | some err => fail (0, s!"gzip reader: {err}")
  | none => do
    let extractedBytes ← archive.entries.foldlM (extractEntry lib destDir maxBytes) 0
    match archive.ending with
    | some err => fail (extractedBytes, s!"read tar header: {err}")
    | none => return extractedBytes

/-! ## What an entry may do -/

/-- A link target that is relative and does not begin with `..` in its shortest form. -/
def Downward (t : Text) : Prop := IsAbs t = false ∧ (Clean t).head? ≠ some ".."

/-- The directory exists and there is nothing in it. -/
structure EmptyDir (fs : FileSystem) (dir : Path) : Prop where
  root : fs.node dir = some .dir
  empty : ∀ p, dir <+: p → p ≠ dir → fs.node p = none

/-- So many bytes may have been written: at most `maxBytes + 1`, for limits at which the count does
not overflow. -/
def Within (maxBytes : Int64) (bytes : Nat) : Prop :=
  maxBytes.toInt < 2 ^ 62 → (bytes : Int) ≤ max 0 (maxBytes.toInt + 1)

/-- Between two entries the count is the number of bytes written, and within the limit. -/
def Counted (maxBytes extractedBytes : Int64) (bytes : Nat) : Prop :=
  maxBytes.toInt < 2 ^ 62 →
    extractedBytes.toInt = bytes ∧ (bytes = 0 ∨ (bytes : Int) ≤ maxBytes.toInt)

/-- Between two entries. -/
def Extracting (dir : Path) (fs₀ : FileSystem) (maxBytes extractedBytes : Int64) (w : World) :
    Prop :=
  ∃ bytes, Counted maxBytes extractedBytes bytes ∧ Ready dir Downward fs₀ [] bytes w

/-- After a failure. -/
def Stopped (dir : Path) (fs₀ : FileSystem) (maxBytes : Int64) (w : World) : Prop :=
  ∃ paths bytes, Within maxBytes bytes ∧ Ready dir Downward fs₀ paths bytes w

section Specs

variable {lib : Lib} {dir : Path} {fs₀ : FileSystem} {maxBytes extractedBytes : Int64}
  {paths : List Path} {bytes : Nat} {header : Entry} {p : Path}

/-- A program that keeps the world ready stops where it fails. -/
theorem spec_orStop {α : Type} {ε : Type} {f : Action ε World α} {wrap : ε → Int64 × String}
    {Q : α → World → Prop} (hbytes : Within maxBytes bytes)
    (h : Spec (Ready dir Downward fs₀ paths bytes) f Q (Ready dir Downward fs₀ paths bytes)) :
    Spec (Ready dir Downward fs₀ paths bytes) (f.orFail wrap) Q (Stopped dir fs₀ maxBytes) :=
  h.orFail.weaken (fun _ h => h) (fun _ _ h => h) fun _ h => ⟨paths, bytes, hbytes, h⟩

theorem spec_fail {α : Type} {err : Int64 × String} {Q : α → World → Prop}
    (hbytes : Within maxBytes bytes) :
    Spec (Ready dir Downward fs₀ paths bytes) (fail err) Q (Stopped dir fs₀ maxBytes) :=
  .fail fun _ h => ⟨paths, bytes, hbytes, h⟩

theorem keeps_SecureJoin {root : Path} {t : Text} :
    Keeps (Ready dir Downward fs₀ paths bytes) (SecureJoin lib root t) := by
  refine .orFail (spec_look ?_)
  intro fs a fs' effects h
  split at h
  next => cases h
  next =>
    cases h
    exact ⟨rfl, rfl⟩

/-- A path joined to the directory is in it, and there is no symbolic link on it. -/
theorem spec_SecureJoin {t : Text} :
    Spec (Ready dir Downward fs₀ paths bytes) (SecureJoin lib dir t)
      (fun p w => (dir <+: p ∧ Plain p) ∧ Ready dir Downward fs₀ (p :: paths) bytes w)
      (Ready dir Downward fs₀ paths bytes) := by
  refine .orFail (spec_syscall (fun w faults h => h.withFaults faults) ?_)
  intro w p fs effects faults h heq
  split at heq
  next => cases heq
  next q hjoin =>
    cases heq
    obtain ⟨rest, rfl, hbelow⟩ := lib.secureJoin_inside hjoin
    have hroot := w.fs.node_plain h.confined.root
    refine ⟨⟨List.prefix_append dir rest, ?_⟩, ?_⟩
    · exact fun c hc => (List.mem_append.mp hc).elim (hroot c) (hbelow.plain c)
    · rw [List.append_nil]
      refine ⟨(h.withFaults faults).confined, ?_, h.written⟩
      refine List.forall_mem_cons.mpr ⟨?_, h.free⟩
      intro q hq target
      rcases List.prefix_or_prefix_of_prefix hq (List.prefix_append dir rest) with hle | ⟨q', rfl⟩
      · exact h.confined.free_root q hle target
      · by_cases hnil : q' = []
        · rw [hnil, List.append_nil]
          exact h.confined.free_root dir (List.prefix_refl dir) target
        · exact hbelow.free q' hnil ((List.prefix_append_right_inj dir).mp hq) target

/-- The directory of the target is made; the target is in the directory. -/
theorem spec_parents {wrap : String → Int64 × String} (hbytes : Within maxBytes bytes)
    (hp : p ∈ paths) (hdir : dir <+: p) (hplain : Plain p) :
    Spec (Ready dir Downward fs₀ paths bytes) ((MkdirAll p.dropLast).orFail wrap)
      (fun _ => Ready dir Downward fs₀ paths bytes) (Stopped dir fs₀ maxBytes) :=
  spec_orStop hbytes (spec_MkdirAll hp hdir hplain p.dropLast_prefix)

namespace Counted

theorem within (h : Counted maxBytes extractedBytes bytes) : Within maxBytes bytes := by
  intro hmax
  obtain ⟨-, hle⟩ := h hmax
  omega

/-- What may be copied after the bytes that are counted stays within one more than the limit. -/
theorem toInt_remaining (h : Counted maxBytes extractedBytes bytes)
    (hmax : maxBytes.toInt < 2 ^ 62) :
    (maxBytes - extractedBytes + 1).toInt = maxBytes.toInt - bytes + 1 := by
  obtain ⟨hcount, hle⟩ := h hmax
  have hlow := maxBytes.le_toInt
  have hsub : (maxBytes - extractedBytes).toInt = maxBytes.toInt - bytes := by
    rw [toInt_sub_of_lt, hcount] <;> omega
  have hone : (1 : Int64).toInt = 1 := rfl
  rw [toInt_add_of_lt, hsub, hone] <;> rw [hsub, hone] <;> omega

/-- What is copied is counted without overflow. -/
theorem toInt_add (h : Counted maxBytes extractedBytes bytes) (hmax : maxBytes.toInt < 2 ^ 62)
    {n : Nat} (hn : (n : Int) ≤ max 0 (maxBytes.toInt - bytes + 1)) :
    (extractedBytes + Int64.ofNat n).toInt = (bytes + n : Nat) := by
  obtain ⟨hcount, hle⟩ := h hmax
  have hofNat : (Int64.ofNat n).toInt = n := Int64.toInt_ofNat_of_lt (by omega)
  rw [toInt_add_of_lt, hofNat, hcount, Int.natCast_add] <;> rw [hofNat, hcount] <;> omega

end Counted

theorem spec_extractReg (hcount : Counted maxBytes extractedBytes bytes) (hdir : dir <+: p)
    (hplain : Plain p) :
    Spec (Ready dir Downward fs₀ [p] bytes) (extractReg maxBytes extractedBytes header p)
      (Extracting dir fs₀ maxBytes) (Stopped dir fs₀ maxBytes) := by
  have hbytes := hcount.within
  have hlimit (hmax : maxBytes.toInt < 2 ^ 62) :
      ((header.content.limit (maxBytes - extractedBytes + 1).toInt).data.length : Int) ≤
        max 0 (maxBytes.toInt - bytes + 1) := by
    rw [← hcount.toInt_remaining hmax]
    exact header.content.length_limit _
  refine (spec_parents hbytes List.mem_cons_self hdir hplain).bind fun _ => ?_
  refine (spec_orStop hbytes (spec_OpenFile List.mem_cons_self hdir hplain)).bind fun f => ?_
  refine .assume fun hf => ?_
  refine ((spec_copy hf.1 hf.2).orFail.weaken (fun _ h => h) (fun _ _ h => h) ?_).bind fun n => ?_
  · -- the copy fails after some of the bytes
    rintro w ⟨n, hn, hw⟩
    refine ⟨[p], bytes + n, fun hmax => ?_, hw⟩
    have hle := hlimit hmax
    have hcounted := (hcount hmax).2
    omega
  · refine .assume fun hn => ?_
    subst hn
    dsimp only
    split
    next hover =>
      refine spec_fail fun hmax => ?_
      have hle := hlimit hmax
      have hcounted := (hcount hmax).2
      omega
    next hover =>
      refine .pure fun w hw => ⟨_, fun hmax => ?_, hw.mono (List.nil_subset _)⟩
      have hsum := hcount.toInt_add hmax (hlimit hmax)
      refine ⟨hsum, .inr ?_⟩
      rw [← hsum]
      exact Int64.le_iff_toInt_le.mp (Int64.not_lt.mp hover)

theorem spec_extractDir (hcount : Counted maxBytes extractedBytes bytes) (hdir : dir <+: p)
    (hplain : Plain p) :
    Spec (Ready dir Downward fs₀ [p] bytes)
      (extractDir extractedBytes header p) (Extracting dir fs₀ maxBytes)
      (Stopped dir fs₀ maxBytes) := by
  have hmake : Keeps (Ready dir Downward fs₀ [p] bytes) (MkdirAll p) :=
    spec_MkdirAll List.mem_cons_self hdir hplain (List.prefix_refl p)
  exact (spec_orStop hcount.within hmake).bind fun _ =>
    .pure fun w hw => ⟨bytes, hcount, hw.mono (List.nil_subset _)⟩

theorem spec_extractSymlink (hcount : Counted maxBytes extractedBytes bytes) (hdir : dir <+: p)
    (hplain : Plain p) :
    Spec (Ready dir Downward fs₀ [p] bytes)
      (extractSymlink lib dir extractedBytes header p) (Extracting dir fs₀ maxBytes)
      (Stopped dir fs₀ maxBytes) := by
  have hbytes := hcount.within
  unfold extractSymlink
  split
  next => exact spec_fail hbytes
  next habs =>
    split
    next => exact spec_fail hbytes
    next hup =>
      have hdown : Downward header.linkname := ⟨by simpa using habs, hup⟩
      refine (spec_orStop hbytes keeps_SecureJoin).bind fun resolvedTarget => ?_
      split
      next => exact spec_fail hbytes
      next =>
        refine (spec_parents hbytes List.mem_cons_self hdir hplain).bind fun _ => ?_
        refine (spec_orStop hbytes (spec_Symlink List.mem_cons_self hdir hplain hdown)).bind
          fun _ => ?_
        exact .pure fun w hw => ⟨bytes, hcount, hw⟩

theorem spec_extractLink (hcount : Counted maxBytes extractedBytes bytes) (hdir : dir <+: p)
    (hplain : Plain p) :
    Spec (Ready dir Downward fs₀ [p] bytes)
      (extractLink lib dir extractedBytes header p) (Extracting dir fs₀ maxBytes)
      (Stopped dir fs₀ maxBytes) := by
  have hbytes := hcount.within
  refine (spec_orStop hbytes spec_SecureJoin).bind fun old => ?_
  refine .assume fun hold => ?_
  have hp : p ∈ [old, p] := List.mem_cons_of_mem old List.mem_cons_self
  refine (spec_parents hbytes hp hdir hplain).bind fun _ => ?_
  have hlink : Keeps (Ready dir Downward fs₀ [old, p] bytes) (Link old p) :=
    spec_Link List.mem_cons_self hp hold.1 hdir hold.2 hplain
  exact (spec_orStop hbytes hlink).bind fun _ =>
    .pure fun w hw => ⟨bytes, hcount, hw.mono (List.nil_subset _)⟩

/-- What an entry does. -/
theorem spec_extractEntry (extractedBytes : Int64) (header : Entry) :
    Spec (Extracting dir fs₀ maxBytes extractedBytes)
      (extractEntry lib dir maxBytes extractedBytes header) (Extracting dir fs₀ maxBytes)
      (Stopped dir fs₀ maxBytes) := by
  refine .ofExists fun bytes => .assume fun hcount => ?_
  have hbytes := hcount.within
  unfold extractEntry
  split
  next err _ => exact spec_fail hbytes
  next =>
    refine (spec_orStop hbytes spec_SecureJoin).bind fun p => ?_
    refine .assume fun hp => ?_
    split
    next => exact spec_fail hbytes
    next =>
      split
      next => exact spec_extractDir hcount hp.1 hp.2
      next => exact spec_extractReg hcount hp.1 hp.2
      next => exact spec_extractSymlink hcount hp.1 hp.2
      next => exact spec_extractLink hcount hp.1 hp.2
      next => exact .pure fun w hw => ⟨bytes, hcount, hw.mono (List.nil_subset _)⟩

/-- Before the first entry. -/
theorem extracting_start (hempty : EmptyDir fs₀ dir) (faults : List (Option Fault)) :
    Ready dir Downward fs₀ [dir] 0 ⟨fs₀, [], faults⟩ := by
  have hnode {q : Path} {n : Node} (hq : dir <+: q) (h : fs₀.node q = some n) : n = .dir := by
    by_cases heq : q = dir
    · rw [heq, hempty.root] at h
      exact (Option.some.inj h).symm
    · rw [hempty.empty q hq heq] at h
      cases h
  have hconfined : Confined dir Downward fs₀ ⟨fs₀, [], faults⟩ :=
    { effects := fun _ he => absurd he List.not_mem_nil
      root := hempty.root
      outside := fun _ _ => rfl
      files := fun q inode hq h => nomatch hnode hq h
      next := Nat.le_refl _
      contents := fun _ _ => rfl
      links := fun q target hq h => nomatch hnode hq h }
  exact ⟨hconfined, List.forall_mem_singleton.mpr hconfined.free_root, rfl⟩

/-- Every run of the program keeps to the directory and to the limit. -/
theorem spec_ExtractTarGz (lib : Lib) (archive : TarGz)
    (hplain : Plain dir) :
    Spec (Ready dir Downward fs₀ [dir] 0) (ExtractTarGz lib archive dir maxBytes)
      (Extracting dir fs₀ maxBytes) (Stopped dir fs₀ maxBytes) := by
  have hzero : Counted maxBytes 0 0 := fun _ => ⟨rfl, .inl rfl⟩
  have hbytes := hzero.within
  have hmake : Keeps (Ready dir Downward fs₀ [dir] 0) (MkdirAll dir) :=
    spec_MkdirAll List.mem_cons_self (List.prefix_refl dir) hplain (List.prefix_refl dir)
  refine (spec_orStop hbytes hmake).bind fun _ => ?_
  split
  next => exact spec_fail hbytes
  next =>
    have hloop : Spec (Extracting dir fs₀ maxBytes 0)
        (archive.entries.foldlM (extractEntry lib dir maxBytes) 0) (Extracting dir fs₀ maxBytes)
        (Stopped dir fs₀ maxBytes) :=
      .foldlM spec_extractEntry archive.entries 0
    have hstart (w : World) (hw : Ready dir Downward fs₀ [dir] 0 w) :
        Extracting dir fs₀ maxBytes 0 w := ⟨0, hzero, hw.mono (List.nil_subset _)⟩
    refine (hloop.weaken hstart (fun _ _ h => h) fun _ h => h).bind fun extractedBytes => ?_
    split
    next => exact .ofExists fun bytes => .assume fun hcount => spec_fail hcount.within
    next => exact .pure fun _ h => h

end Specs

/-- What is known after a run. -/
theorem run_confined {lib : Lib} {archive : TarGz} {fs₀ : FileSystem} {destDir : Path}
    (hempty : EmptyDir fs₀ destDir) {maxBytes : Int64} {faults : List (Option Fault)}
    {result : Except (Int64 × String) Int64} {w : World}
    (hrun : ExtractTarGz lib archive destDir maxBytes ⟨fs₀, [], faults⟩ = (result, w)) :
    Confined destDir Downward fs₀ w ∧ Within maxBytes (written w.effects) ∧
      ∀ n, result = .ok n → Counted maxBytes n (written w.effects) := by
  have hplain := fs₀.node_plain hempty.root
  obtain ⟨hok, herr⟩ := spec_ExtractTarGz lib archive hplain _ (extracting_start hempty faults)
  rw [hrun] at hok herr
  cases result with
  | ok n =>
    obtain ⟨bytes, hcount, hready⟩ := hok n rfl
    rw [hready.written]
    refine ⟨hready.confined, hcount.within, fun m hm => ?_⟩
    obtain rfl := Except.ok.inj hm
    exact hcount
  | error err =>
    obtain ⟨paths, bytes, hbytes, hready⟩ := herr err rfl
    rw [hready.written]
    exact ⟨hready.confined, hbytes, fun _ h => nomatch h⟩

/-- Extracting an archive into an empty directory changes only what is in the directory, writes at
most `maxBytes + 1` bytes of file content (none if that is negative), and returns the number of
bytes it has written. -/
theorem extraction_confined (lib : Lib) (archive : TarGz) {fs₀ : FileSystem} {destDir : Path}
    (hempty : EmptyDir fs₀ destDir) {maxBytes : Int64} (hmax : maxBytes.toInt < 2 ^ 62)
    {faults : List (Option Fault)} {result : Except (Int64 × String) Int64} {w : World}
    (hrun : ExtractTarGz lib archive destDir maxBytes ⟨fs₀, [], faults⟩ = (result, w)) :
    (∀ e ∈ w.effects, ∀ p ∈ e.paths, destDir <+: p) ∧
      (∀ p, ¬ destDir <+: p → w.fs.node p = fs₀.node p) ∧
      (∀ inode < fs₀.next, w.fs.contents.lookup inode = fs₀.contents.lookup inode) ∧
      (written w.effects : Int) ≤ max 0 (maxBytes.toInt + 1) ∧
      ∀ n, result = .ok n → n.toInt = written w.effects := by
  obtain ⟨hconfined, hbytes, hcount⟩ := run_confined hempty hrun
  exact ⟨hconfined.effects, hconfined.outside, hconfined.contents, hbytes hmax,
    fun n hn => (hcount n hn hmax).1⟩

/-! ## A run -/

/-- The functions of the other packages; texts are quoted as those without special characters
are. -/
def goLib : Lib where
  quote text := s!"\"{text}\""
  secureJoin := secureJoin
  secureJoin_inside := secureJoin_inside

/-- A file system with the directories given, each after the one it is in. -/
def withDirs (dirs : List Path) : FileSystem :=
  dirs.foldl (fun fs p => (create fs p .dir).toOption.getD fs)
    { nodes := ∅
      contents := ∅
      next := 0
      plain := fun _ _ h => nomatch h
      parents := fun _ _ h => nomatch h
      inodes := fun _ _ h => nomatch h }

theorem EmptyDir.of_entries {fs : FileSystem} {dir : Path} (hroot : fs.node dir = some .dir)
    (hentries : ∀ e ∈ fs.nodes.entries, dir <+: e.1 → e.1 = dir) : EmptyDir fs dir where
  root := hroot
  empty p hp hne := by
    refine Option.eq_none_iff_forall_ne_some.mpr fun n hn => hne ?_
    rcases fs.node_cases hn with ⟨rfl, -⟩ | hlookup
    · exact (List.prefix_nil.mp hp).symm
    · exact hentries _ (AList.mem_lookup_iff.mp hlookup) hp

/-- A host with a directory for the archive. -/
def host : FileSystem := withDirs [["etc"], ["tmp"], ["tmp", "vol"]]

theorem host_empty : EmptyDir host ["tmp", "vol"] := .of_entries rfl (by decide +kernel)

/-- A file that is made through a symbolic link, gets another name, and is written again. -/
def linkedFile : TarGz where
  gzip := none
  entries :=
    [⟨["d", ""], [""], .dir, 0, ⟨[], none⟩⟩,
      ⟨["d", "self"], ["."], .symlink, 0, ⟨[], none⟩⟩,
      ⟨["d", "self", "a"], [""], .reg, 3, ⟨[1, 2, 3], none⟩⟩,
      ⟨["b"], ["d", "self", "self", "a"], .link, 0, ⟨[], none⟩⟩,
      ⟨["b"], [""], .reg, 2, ⟨[4, 5], none⟩⟩]
  ending := none

/-- The run on that archive. -/
def linkedRun : Except (Int64 × String) Int64 × World :=
  ExtractTarGz goLib linkedFile ["tmp", "vol"] 100 ⟨host, [], []⟩

theorem extraction_confined_linkedFile :
    linkedRun.1 = .ok 5 ∧ (∀ e ∈ linkedRun.2.effects, ∀ p ∈ e.paths, ["tmp", "vol"] <+: p) ∧
      (written linkedRun.2.effects : Int) ≤ 101 := by
  have hrun : ExtractTarGz goLib linkedFile ["tmp", "vol"] 100 ⟨host, [], []⟩ =
      (linkedRun.1, linkedRun.2) := (Prod.eta linkedRun).symm
  obtain ⟨hpaths, -, -, hbytes, -⟩ :=
    extraction_confined goLib linkedFile host_empty (by decide) hrun
  exact ⟨by decide +kernel, hpaths, hbytes⟩

end Hypeman.Volumes.Extraction
