import Hypeman.Foundations.Actions
import Hypeman.Foundations.Filesystem
import Hypeman.Foundations.Results

/-!
# Programs over a file system

The functions of Go's `os` package as actions over a file system. A call may also fail for reasons
that the file system does not tell, such as a full disk: the world holds which of the coming calls
will. It keeps a record of everything that was changed.

* `Confined dir L fs₀ w`: since the file system was `fs₀`, only what is in the directory `dir` has
  changed, and the symbolic links in it have targets with `L`.
* `Ready`: a confined world, the paths on which there is no symbolic link, and the bytes written so
  far. The rules for the functions (`spec_MkdirAll`, `spec_OpenFile`, …) say that they keep it when
  they are called with such paths in `dir`.
-/

namespace Hypeman.Foundations.Filesystem

open Foundations.Action

/-! ## The world -/

/-- A call that fails; a write does after some bytes. -/
structure Fault where
  err : Errno
  after : Nat

/-- The file system, what was changed, and which of the coming calls fail. -/
structure World where
  fs : FileSystem
  effects : List Effect
  faults : List (Option Fault)

def written : List Effect → Nat
  | [] => 0
  | e :: effects => e.bytes + written effects

def syscall {α : Type} (call : Call α) : Action Errno World α := fun w =>
  match w.faults with
  | some fault :: faults => (.error fault.err, { w with faults })
  | faults =>
    match call w.fs with
    | .error err => (.error err, { w with faults := faults.tail })
    | .ok (a, fs, effects) => (.ok a, ⟨fs, w.effects ++ effects, faults.tail⟩)

/-- `os.Mkdir`, and the check of `os.MkdirAll` where it fails. -/
def makeDir (path : Path) : Action String World Unit := do
  match ← (syscall (mkdir path)).result with
  | .ok _ => pure ()
  | .error err =>
    match ← (syscall (lstat path)).result with
    | .ok .dir => pure ()
    | _ => fail s!"mkdir {Path.text path}: {err.text}"

/-- Return if the path leads to a directory, and go on with `slow` if it leads nowhere. -/
def unlessDir (path : Path) (slow : Action String World Unit) : Action String World Unit := do
  match ← (syscall (stat path)).result with
  | .ok .dir => pure ()
  | .ok _ => fail s!"mkdir {Path.text path}: {Errno.enotdir.text}"
  | .error _ => slow

/-- `os.MkdirAll`, on the components from the last to the first. -/
def mkdirAll : List String → Action String World Unit
  | [] => unlessDir [] (makeDir [])
  | c :: parent => unlessDir (c :: parent).reverse do
    mkdirAll parent
    makeDir (c :: parent).reverse

def MkdirAll (path : Path) : Action String World Unit := mkdirAll path.reverse

/-- `os.OpenFile` with `O_CREATE|O_WRONLY|O_TRUNC|O_NOFOLLOW`. -/
def OpenFile (path : Path) : Action String World File :=
  (syscall (openFile path)).orFail fun err => s!"open {Path.text path}: {err.text}"

def Symlink (target : Text) (path : Path) : Action String World Unit :=
  (syscall (symlink target path)).orFail fun err =>
    s!"symlink {Text.text target} {Path.text path}: {err.text}"

def Link (old new : Path) : Action String World Unit :=
  (syscall (link old new)).orFail fun err =>
    s!"link {Path.text old} {Path.text new}: {err.text}"

/-- A reader: the bytes that are left, and the error after them if it is not the end. -/
structure Reader where
  data : List UInt8
  err : Option String

/-- `io.LimitReader`. -/
def Reader.limit (r : Reader) (n : Int) : Reader :=
  if n ≤ r.data.length then ⟨r.data.take n.toNat, none⟩ else r

theorem Reader.length_limit (r : Reader) (n : Int) :
    ((r.limit n).data.length : Int) ≤ max 0 n := by
  unfold Reader.limit
  split
  next =>
    rw [List.length_take]
    omega
  next => omega

/-- `io.Copy` to an open file. -/
def copy (file : File) (r : Reader) : Action String World Nat := fun w =>
  match w.faults with
  | some fault :: faults =>
    let data := r.data.take fault.after
    (.error s!"write {Path.text file.path}: {fault.err.text}",
      ⟨append file data w.fs, w.effects ++ [.write file.path data.length], faults⟩)
  | faults =>
    let w := ⟨append file r.data w.fs, w.effects ++ [.write file.path r.data.length], faults.tail⟩
    match r.err with
    | some err => (.error err, w)
    | none => (.ok r.data.length, w)

/-! ## Changes in one directory -/

/-- Since the file system was `fs₀`, only what is in `dir` has changed. The files in it are new, and
the targets of the symbolic links in it have the property `L`. -/
structure Confined (dir : Path) (L : Text → Prop) (fs₀ : FileSystem) (w : World) : Prop where
  effects : ∀ e ∈ w.effects, ∀ p ∈ e.paths, dir <+: p
  root : w.fs.node dir = some .dir
  outside : ∀ p, ¬ dir <+: p → w.fs.node p = fs₀.node p
  files : ∀ p inode, dir <+: p → w.fs.node p = some (.file inode) → fs₀.next ≤ inode
  next : fs₀.next ≤ w.fs.next
  contents : ∀ inode < fs₀.next, w.fs.contents.lookup inode = fs₀.contents.lookup inode
  links : ∀ p target, dir <+: p → w.fs.node p = some (.link target) → L target

/-- A confined world in which there are no symbolic links on the paths given, after so many bytes of
file content have been written. -/
structure Ready (dir : Path) (L : Text → Prop) (fs₀ : FileSystem) (paths : List Path) (bytes : Nat)
    (w : World) : Prop where
  confined : Confined dir L fs₀ w
  free : ∀ p ∈ paths, SymlinkFree w.fs p
  written : written w.effects = bytes

section Rules

variable {dir : Path} {L : Text → Prop} {fs₀ : FileSystem} {paths : List Path} {bytes : Nat}
  {w : World}

/-- There is no symbolic link on the path of the directory. -/
theorem Confined.free_root (h : Confined dir L fs₀ w) : SymlinkFree w.fs dir := by
  rintro q ⟨rest, hrest⟩ target hlink
  by_cases hnil : rest = []
  · rw [hnil, List.append_nil] at hrest
    rw [hrest, h.root] at hlink
    cases hlink
  · rw [w.fs.node_above (hrest ▸ h.root) hnil] at hlink
    cases hlink

/-- The directory and everything above it exists. -/
theorem Confined.inside_of_none (h : Confined dir L fs₀ w) {p q : Path} (hp : dir <+: p)
    (hq : q <+: p) (hnone : w.fs.node q = none) : dir <+: q := by
  rcases List.prefix_or_prefix_of_prefix hp hq with hle | ⟨rest, hrest⟩
  · exact hle
  · by_cases hnil : rest = []
    · rw [hnil, List.append_nil] at hrest
      exact hrest ▸ List.prefix_refl dir
    · have hdir := w.fs.node_above (hrest ▸ h.root) hnil
      exact absurd (hdir.symm.trans hnone) (Option.some_ne_none _)

/-- The nodes that may be added in the directory. -/
def Allowed (L : Text → Prop) (fs₀ : FileSystem) : Node → Prop
  | .dir => True
  | .file inode => fs₀.next ≤ inode
  | .link target => L target

/-- A new entry in the directory. -/
theorem Confined.add (h : Confined dir L fs₀ w) {fs : FileSystem} {effects : List Effect}
    (faults : List (Option Fault)) {p : Path} {n : Node} (hp : dir <+: p)
    (hnone : w.fs.node p = none) (hn : Allowed L fs₀ n)
    (hnode : ∀ q, fs.node q = if q = p then some n else w.fs.node q) (hnext : w.fs.next ≤ fs.next)
    (hcontents : ∀ inode < fs₀.next, fs.contents.lookup inode = w.fs.contents.lookup inode)
    (heffects : ∀ e ∈ effects, ∀ q ∈ e.paths, dir <+: q) :
    Confined dir L fs₀ ⟨fs, w.effects ++ effects, faults⟩ where
  effects e he := (List.mem_append.mp he).elim (h.effects e) (heffects e)
  root := by
    rw [hnode, if_neg, h.root]
    rintro rfl
    exact absurd (hnone.symm.trans h.root) (Option.some_ne_none _).symm
  outside q hq := by
    have hne : q ≠ p := by
      rintro rfl
      exact hq hp
    rw [hnode, if_neg hne, h.outside q hq]
  files q inode hq hfile := by
    rw [hnode] at hfile
    split at hfile
    · obtain rfl := Option.some.inj hfile
      exact hn
    · exact h.files q inode hq hfile
  next := Nat.le_trans h.next hnext
  contents inode hlt := (hcontents inode hlt).trans (h.contents inode hlt)
  links q target hq hlink := by
    rw [hnode] at hlink
    split at hlink
    · obtain rfl := Option.some.inj hlink
      exact hn
    · exact h.links q target hq hlink

/-- Another content of a new file. -/
theorem Confined.setContents (h : Confined dir L fs₀ w) {inode : Nat} (hinode : fs₀.next ≤ inode)
    (data : List UInt8) {effects : List Effect} (faults : List (Option Fault))
    (heffects : ∀ e ∈ effects, ∀ q ∈ e.paths, dir <+: q) :
    Confined dir L fs₀ ⟨w.fs.setContents inode data, w.effects ++ effects, faults⟩ where
  effects e he := (List.mem_append.mp he).elim (h.effects e) (heffects e)
  root := h.root
  outside := h.outside
  files := h.files
  next := h.next
  contents i hi := by
    have hne : i ≠ inode := by omega
    change (w.fs.contents.insert inode data).lookup i = _
    rw [Table.lookup_insert, if_neg hne, h.contents i hi]
  links := h.links

theorem Confined.withFaults (h : Confined dir L fs₀ w) (faults : List (Option Fault)) :
    Confined dir L fs₀ { w with faults } :=
  ⟨h.effects, h.root, h.outside, h.files, h.next, h.contents, h.links⟩

theorem written_append (effects : List Effect) {more : List Effect} {n : Nat}
    (h : written more = n) : written (effects ++ more) = written effects + n := by
  induction effects with
  | nil => rw [List.nil_append, h, written, Nat.zero_add]
  | cons e effects ih => rw [List.cons_append, written, ih, written, Nat.add_assoc]

namespace Ready

theorem withFaults (h : Ready dir L fs₀ paths bytes w) (faults : List (Option Fault)) :
    Ready dir L fs₀ paths bytes { w with faults } :=
  ⟨h.confined.withFaults faults, h.free, h.written⟩

/-- Some of the paths are no longer looked at. -/
theorem mono (h : Ready dir L fs₀ paths bytes w) {fewer : List Path} (hsub : fewer ⊆ paths) :
    Ready dir L fs₀ fewer bytes w :=
  ⟨h.confined, fun p hp => h.free p (hsub hp), h.written⟩

/-- A new directory or file in the directory, at which no path is lost. -/
theorem add (h : Ready dir L fs₀ paths bytes w) {fs : FileSystem} {effects : List Effect}
    (faults : List (Option Fault)) {p : Path} {n : Node} (hp : dir <+: p)
    (hnone : w.fs.node p = none) (hn : Allowed L fs₀ n) (hlink : ∀ target, n ≠ .link target)
    (hnode : ∀ q, fs.node q = if q = p then some n else w.fs.node q) (hnext : w.fs.next ≤ fs.next)
    (hcontents : ∀ inode < fs₀.next, fs.contents.lookup inode = w.fs.contents.lookup inode)
    (heffects : ∀ e ∈ effects, ∀ q ∈ e.paths, dir <+: q) (hbytes : Filesystem.written effects = 0) :
    Ready dir L fs₀ paths bytes ⟨fs, w.effects ++ effects, faults⟩ where
  confined := h.confined.add faults hp hnone hn hnode hnext hcontents heffects
  free q hq r hr target := by
    rw [hnode]
    split
    · exact fun heq => hlink target (Option.some.inj heq)
    · exact h.free q hq r hr target
  written := (written_append w.effects hbytes).trans h.written

end Ready

/-! ## Rules for the calls -/

theorem spec_syscall {α : Type} {call : Call α} {P E : World → Prop} {Q : α → World → Prop}
    (hfault : ∀ w faults, P w → E { w with faults })
    (hcall : ∀ w a fs effects faults, P w → call w.fs = .ok (a, fs, effects) →
      Q a ⟨fs, w.effects ++ effects, faults⟩) :
    Spec P (syscall call) Q E := by
  intro w hw
  unfold syscall
  split
  next => exact ⟨fun _ ha => (nomatch ha), fun _ _ => hfault w _ hw⟩
  next =>
    split
    next => exact ⟨fun _ ha => (nomatch ha), fun _ _ => hfault w _ hw⟩
    next a fs effects heq =>
      refine ⟨fun b hb => ?_, fun _ herr => (nomatch herr)⟩
      obtain rfl : a = b := Except.ok.inj hb
      exact hcall w a fs effects _ hw heq

/-- A call that only looks. -/
theorem spec_look {α : Type} {call : Call α}
    (hcall : ∀ fs a fs' effects, call fs = .ok (a, fs', effects) → fs' = fs ∧ effects = []) :
    Keeps (Ready dir L fs₀ paths bytes) (syscall call) := by
  refine spec_syscall (fun w faults h => h.withFaults faults) ?_
  intro w a fs effects faults h heq
  obtain ⟨rfl, rfl⟩ := hcall w.fs a fs effects heq
  rw [List.append_nil]
  exact h.withFaults faults

theorem spec_entryAt {found : FileSystem → Except Errno Path} :
    Keeps (Ready dir L fs₀ paths bytes) (syscall (entryAt found)) := by
  refine spec_look fun fs n fs' effects h => ?_
  unfold entryAt at h
  split at h
  next => cases h
  next =>
    split at h
    next => cases h
    next =>
      cases h
      exact ⟨rfl, rfl⟩

/-- A directory is made in the directory only, on a path that leads into it. -/
theorem spec_mkdir {p q : Path} (hp : p ∈ paths) (hdir : dir <+: p) (hplain : Plain p)
    (hq : q <+: p) :
    Keeps (Ready dir L fs₀ paths bytes) (syscall (mkdir q)) := by
  refine spec_syscall (fun w faults h => h.withFaults faults) ?_
  intro w a fs effects faults h heq
  unfold mkdir at heq
  split at heq
  next => cases heq
  next r hlocate =>
    obtain rfl := locate_eq (fun c hc => hplain c (hq.subset hc)) ((h.free p hp).above hq)
      hlocate
    obtain ⟨fs', hcreate, heq⟩ := map_eq_ok.mp heq
    cases heq
    obtain ⟨hnone, hnode, hcontents, hnext⟩ := create_eq hcreate
    have hin := h.confined.inside_of_none hdir hq hnone
    refine h.add (n := .dir) faults hin hnone True.intro (fun _ => nofun) hnode
      (Nat.le_of_eq hnext.symm) ?_ ?_ rfl
    · rw [hcontents]
      exact fun _ _ => rfl
    · simpa [Effect.paths] using hin

theorem spec_makeDir {p q : Path} (hp : p ∈ paths) (hdir : dir <+: p) (hplain : Plain p)
    (hq : q <+: p) :
    Keeps (Ready dir L fs₀ paths bytes) (makeDir q) := by
  refine (spec_mkdir hp hdir hplain hq).result.bind ?_
  rintro (err | _)
  · refine spec_entryAt.result.bind ?_
    rintro (_ | (_ | _ | _))
    · exact .fail fun _ h => h
    · exact .pure fun _ h => h
    · exact .fail fun _ h => h
    · exact .fail fun _ h => h
  · exact .pure fun _ h => h

theorem spec_unlessDir {path : Path} {slow : Action String World Unit}
    (hslow : Keeps (Ready dir L fs₀ paths bytes) slow) :
    Keeps (Ready dir L fs₀ paths bytes) (unlessDir path slow) := by
  refine spec_entryAt.result.bind ?_
  rintro (_ | (_ | _ | _))
  · exact hslow
  · exact .pure fun _ h => h
  · exact .fail fun _ h => h
  · exact .fail fun _ h => h

/-- The directories above a path in the directory are made in the directory. -/
theorem spec_MkdirAll {p q : Path} (hp : p ∈ paths) (hdir : dir <+: p) (hplain : Plain p)
    (hq : q <+: p) :
    Keeps (Ready dir L fs₀ paths bytes) (MkdirAll q) := by
  have hall (rev : List String) (hrev : rev.reverse <+: p) :
      Keeps (Ready dir L fs₀ paths bytes) (mkdirAll rev) := by
    induction rev with
    | nil => exact spec_unlessDir (spec_makeDir hp hdir hplain hrev)
    | cons c parent ih =>
      have hparent : parent.reverse <+: p := by
        rw [List.reverse_cons] at hrev
        exact (List.prefix_append _ _).trans hrev
      exact spec_unlessDir ((ih hparent).bind fun _ => spec_makeDir hp hdir hplain hrev)
  exact hall q.reverse (by rwa [List.reverse_reverse])

/-- A file is opened in the directory only, and it is a new one. -/
theorem spec_OpenFile {p : Path} (hp : p ∈ paths) (hdir : dir <+: p) (hplain : Plain p) :
    Spec (Ready dir L fs₀ paths bytes) (OpenFile p)
      (fun file w => (dir <+: file.path ∧ fs₀.next ≤ file.inode) ∧ Ready dir L fs₀ paths bytes w)
      (Ready dir L fs₀ paths bytes) := by
  refine .orFail (spec_syscall (fun w faults h => h.withFaults faults) ?_)
  intro w file fs effects faults h heq
  unfold openFile at heq
  split at heq
  next => cases heq
  next r hlocate =>
    obtain rfl := locate_eq hplain (h.free p hp) hlocate
    split at heq
    next => cases heq
    next => cases heq
    next inode hfile =>
      cases heq
      have hinode := h.confined.files r inode hdir hfile
      refine ⟨⟨hdir, hinode⟩, h.confined.setContents hinode [] faults ?_, h.free, ?_⟩
      · simpa [Effect.paths] using hdir
      · exact (written_append w.effects rfl).trans h.written
    next hnone =>
      obtain ⟨fs', hcreate, heq⟩ := map_eq_ok.mp heq
      cases heq
      obtain ⟨-, hnode, hcontents, hnext⟩ := create_eq hcreate
      refine ⟨⟨hdir, h.confined.next⟩, h.add (n := .file w.fs.next) faults hdir hnone
        h.confined.next (fun _ => nofun) hnode ?_ ?_ ?_ rfl⟩
      · rw [hnext]
        exact Nat.le_succ _
      · intro inode hlt
        have hne : inode ≠ w.fs.next := by
          have := h.confined.next
          omega
        rw [hcontents]
        change (w.fs.contents.insert w.fs.next []).lookup inode = _
        rw [Table.lookup_insert, if_neg hne]
      · simpa [Effect.paths] using hdir

/-- Bytes are written to a new file in the directory, all of them unless the copy fails. -/
theorem spec_copy {file : File} {r : Reader} (hdir : dir <+: file.path)
    (hinode : fs₀.next ≤ file.inode) :
    Spec (Ready dir L fs₀ paths bytes) (copy file r)
      (fun n w => n = r.data.length ∧ Ready dir L fs₀ paths (bytes + n) w)
      (fun w => ∃ n ≤ r.data.length, Ready dir L fs₀ paths (bytes + n) w) := by
  have hwrite {w : World} (h : Ready dir L fs₀ paths bytes w) (data : List UInt8)
      (faults : List (Option Fault)) : Ready dir L fs₀ paths (bytes + data.length)
        ⟨append file data w.fs, w.effects ++ [.write file.path data.length], faults⟩ := by
    refine ⟨h.confined.setContents hinode _ faults ?_, h.free, ?_⟩
    · simpa [Effect.paths] using hdir
    · rw [written_append w.effects rfl, h.written]
      rfl
  intro w h
  unfold copy
  split
  next fault faults hfaults =>
    exact ⟨fun _ ha => (nomatch ha),
      fun _ _ => ⟨_, List.length_take_le' fault.after _, hwrite h _ _⟩⟩
  next =>
    split
    next => exact ⟨fun _ ha => (nomatch ha), fun _ _ => ⟨_, Nat.le_refl _, hwrite h _ _⟩⟩
    next =>
      refine ⟨fun n hn => ?_, fun _ herr => (nomatch herr)⟩
      obtain rfl := Except.ok.inj hn
      exact ⟨rfl, hwrite h _ _⟩

/-- A symbolic link is made in the directory only. -/
theorem spec_Symlink {p : Path} (hp : p ∈ paths) (hdir : dir <+: p) (hplain : Plain p)
    {target : Text} (htarget : L target) :
    Spec (Ready dir L fs₀ paths bytes) (Symlink target p) (fun _ => Ready dir L fs₀ [] bytes)
      (Ready dir L fs₀ paths bytes) := by
  refine .orFail (spec_syscall (fun w faults h => h.withFaults faults) ?_)
  intro w a fs effects faults h heq
  unfold symlink at heq
  split at heq
  next => cases heq
  next =>
    split at heq
    next => cases heq
    next r hlocate =>
      obtain rfl := locate_eq hplain (h.free p hp) hlocate
      obtain ⟨fs', hcreate, heq⟩ := map_eq_ok.mp heq
      cases heq
      obtain ⟨hnone, hnode, hcontents, hnext⟩ := create_eq hcreate
      refine ⟨h.confined.add (n := .link target) faults hdir hnone htarget hnode
        (Nat.le_of_eq hnext.symm) ?_ ?_, ?_, ?_⟩
      · rw [hcontents]
        exact fun _ _ => rfl
      · simpa [Effect.paths] using hdir
      · exact fun q hq => absurd hq List.not_mem_nil
      · exact (written_append w.effects rfl).trans h.written

/-- A file in the directory gets another name in it. -/
theorem spec_Link {p q : Path} (hp : p ∈ paths) (hq : q ∈ paths) (hpdir : dir <+: p)
    (hqdir : dir <+: q) (hpplain : Plain p) (hqplain : Plain q) :
    Keeps (Ready dir L fs₀ paths bytes) (Link p q) := by
  refine .orFail (spec_syscall (fun w faults h => h.withFaults faults) ?_)
  intro w a fs effects faults h heq
  unfold link at heq
  split at heq
  next p' q' hlocp hlocq =>
    obtain rfl := locate_eq hpplain (h.free p hp) hlocp
    obtain rfl := locate_eq hqplain (h.free q hq) hlocq
    split at heq
    next => cases heq
    next => cases heq
    next n hdirectory hold =>
      obtain ⟨fs', hcreate, heq⟩ := map_eq_ok.mp heq
      cases heq
      obtain ⟨hnone, hnode, hcontents, hnext⟩ := create_eq hcreate
      have hlink (target : Text) : n ≠ .link target := by
        rintro rfl
        exact h.free p' hp p' (List.prefix_refl p') target hold
      have hallowed : Allowed L fs₀ n := by
        cases n with
        | dir => exact True.intro
        | file inode => exact h.confined.files p' inode hpdir hold
        | link target => exact absurd rfl (hlink target)
      refine h.add faults hqdir hnone hallowed hlink hnode (Nat.le_of_eq hnext.symm) ?_ ?_ rfl
      · rw [hcontents]
        exact fun _ _ => rfl
      · simp [Effect.paths, hpdir, hqdir]
  next => cases heq
  next => cases heq

end Rules

end Hypeman.Foundations.Filesystem
