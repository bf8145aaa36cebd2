import Mathlib.Data.List.Induction
import Hypeman.Foundations.Table

/-!
# A file system with links

Directories, files with their inodes and symbolic links at absolute paths, and the calls by which a
program changes them. A path text is given by the texts between its slashes. The kernel follows it
component by component: a symbolic link on the way is replaced by its target, and `..` leads to the
parent of the directory that has been reached, not of the text before it.

* `walk`, `locate`: where a path text leads.
* `locate_eq`: a path of names on which there is no symbolic link leads to itself.
* `mkdir`, `openFile`, `symlink`, `link`, …: the calls, each with the paths it changes.
-/

namespace Hypeman.Foundations.Filesystem

/-! ## Path texts -/

/-- The texts between the slashes of a path. -/
abbrev Text := List String

def IsAbs : Text → Bool
  | "" :: _ :: _ => true
  | _ => false

def Text.text (t : Text) : String := "/".intercalate t

/-- One component of a path that is brought into its shortest form. -/
def cleanStep (rooted : Bool) (done : List String) (c : String) : List String :=
  if c = "" ∨ c = "." then done
  else if c = ".." then
    if done = [] ∨ done.getLast? = some ".." then
      if rooted then done else done ++ [".."]
    else done.dropLast
  else done ++ [c]

def Clean (t : Text) : Text :=
  match IsAbs t, t.foldl (cleanStep (IsAbs t)) [] with
  | true, [] => ["", ""]
  | true, done => "" :: done
  | false, [] => ["."]
  | false, done => done

/-- A component that names an entry of a directory. -/
def Name (c : String) : Prop := c ≠ "" ∧ c ≠ "." ∧ c ≠ ".."

instance (c : String) : Decidable (Name c) :=
  inferInstanceAs (Decidable (c ≠ "" ∧ c ≠ "." ∧ c ≠ ".."))

/-- The names that lead from the root directory to an entry. -/
abbrev Path := List String

def Plain (p : Path) : Prop := ∀ c ∈ p, Name c

instance (p : Path) : Decidable (Plain p) := inferInstanceAs (Decidable (∀ c ∈ p, Name c))

def Path.text (p : Path) : String := "/" ++ "/".intercalate p

/-! ## The file system -/

/-- What stands at a path. -/
inductive Node
  | dir
  | file (inode : Nat)
  | link (target : Text)
deriving DecidableEq

def Node.Below (bound : Nat) : Node → Prop
  | .file inode => inode < bound
  | _ => True

instance (bound : Nat) : (n : Node) → Decidable (n.Below bound)
  | .file inode => inferInstanceAs (Decidable (inode < bound))
  | .dir => inferInstanceAs (Decidable True)
  | .link _ => inferInstanceAs (Decidable True)

/-- A file system. The root directory is not in the table. Every entry is in a directory. -/
structure FileSystem where
  nodes : Table Path Node
  contents : Table Nat (List UInt8)
  next : Nat
  plain : ∀ p n, nodes.lookup p = some n → Plain p
  parents : ∀ p n, nodes.lookup p = some n →
    p ≠ [] ∧ (p.dropLast = [] ∨ nodes.lookup p.dropLast = some .dir)
  inodes : ∀ p n, nodes.lookup p = some n → n.Below next

namespace FileSystem

variable (fs : FileSystem)

def node (p : Path) : Option Node := if p = [] then some .dir else fs.nodes.lookup p

theorem node_cases {p : Path} {n : Node} (h : fs.node p = some n) :
    (p = [] ∧ n = .dir) ∨ fs.nodes.lookup p = some n := by
  unfold node at h
  split at h
  next hp => exact .inl ⟨hp, (Option.some.inj h).symm⟩
  next => exact .inr h

theorem node_parent {p : Path} {n : Node} (h : fs.node p = some n) :
    fs.node p.dropLast = some .dir := by
  rcases fs.node_cases h with ⟨rfl, -⟩ | hlookup
  · rfl
  · unfold node
    split
    next => rfl
    next hne => exact (fs.parents p n hlookup).2.resolve_left hne

theorem node_plain {p : Path} {n : Node} (h : fs.node p = some n) : Plain p := by
  rcases fs.node_cases h with ⟨rfl, -⟩ | hlookup
  · exact fun c hc => absurd hc List.not_mem_nil
  · exact fs.plain p n hlookup

/-- Everything above an entry is a directory. -/
theorem node_above {p q : Path} {n : Node} (h : fs.node (p ++ q) = some n) (hq : q ≠ []) :
    fs.node p = some .dir := by
  induction q using List.reverseRecOn generalizing n with
  | nil => exact absurd rfl hq
  | append_singleton q c ih =>
    have hparent := fs.node_parent h
    rw [← List.append_assoc, List.dropLast_concat] at hparent
    by_cases hnil : q = []
    · rwa [hnil, List.append_nil] at hparent
    · exact ih hparent hnil

/-- The file system with a new entry. -/
def add (p : Path) (n : Node) (hnone : fs.node p = none) (hparent : fs.node p.dropLast = some .dir)
    (hplain : Plain p) (hbelow : n.Below fs.next) : FileSystem where
  nodes := fs.nodes.insert p n
  contents := fs.contents
  next := fs.next
  plain q m hq := by
    rcases (Table.Sets.insert p n fs.nodes).eq_some hq with ⟨rfl, -⟩ | ⟨-, hold⟩
    · exact hplain
    · exact fs.plain q m hold
  parents q m hq := by
    have hp : p ≠ [] := by
      rintro rfl
      exact absurd hnone (Option.some_ne_none _)
    have hold {r : Path} (h : fs.node r = some .dir) :
        r = [] ∨ (fs.nodes.insert p n).lookup r = some .dir := by
      rcases fs.node_cases h with ⟨hr, -⟩ | hlookup
      · exact .inl hr
      · have hne : r ≠ p := by
          rintro rfl
          rw [hnone] at h
          exact absurd h.symm (Option.some_ne_none _)
        exact .inr (by rw [Table.lookup_insert, if_neg hne, hlookup])
    rcases (Table.Sets.insert p n fs.nodes).eq_some hq with ⟨rfl, -⟩ | ⟨-, hlookup⟩
    · exact ⟨hp, hold hparent⟩
    · have hq' := (fs.parents q m hlookup).1
      refine ⟨hq', hold (fs.node_parent (n := m) ?_)⟩
      rw [node, if_neg hq', hlookup]
  inodes q m hq := by
    rcases (Table.Sets.insert p n fs.nodes).eq_some hq with ⟨-, hm⟩ | ⟨-, hold⟩
    · exact Option.some.inj hm ▸ hbelow
    · exact fs.inodes q m hold

theorem node_add {p : Path} {n : Node} (hnone : fs.node p = none)
    (hparent : fs.node p.dropLast = some .dir) (hplain : Plain p) (hbelow : n.Below fs.next)
    (q : Path) :
    (fs.add p n hnone hparent hplain hbelow).node q = if q = p then some n else fs.node q := by
  have hp : p ≠ [] := by
    rintro rfl
    exact absurd hnone (Option.some_ne_none _)
  simp only [node, add, Table.lookup_insert]
  split
  next hq => rw [if_neg (by rintro rfl; exact hp hq)]
  next => rfl

def setContents (inode : Nat) (data : List UInt8) : FileSystem :=
  { fs with contents := fs.contents.insert inode data }

/-- The file system with an inode for a new, empty file. -/
def newInode : FileSystem where
  nodes := fs.nodes
  contents := fs.contents.insert fs.next []
  next := fs.next + 1
  plain := fs.plain
  parents := fs.parents
  inodes p n h := by
    have hbelow := fs.inodes p n h
    cases n with
    | file inode => exact Nat.lt_succ_of_lt hbelow
    | dir => exact True.intro
    | link => exact True.intro

end FileSystem

/-! ## Errors -/

inductive Errno
  | enoent
  | enotdir
  | eexist
  | eisdir
  | eloop
  | eperm
  | other (text : String)
deriving DecidableEq

def Errno.text : Errno → String
  | .enoent => "no such file or directory"
  | .enotdir => "not a directory"
  | .eexist => "file exists"
  | .eisdir => "is a directory"
  | .eloop => "too many levels of symbolic links"
  | .eperm => "operation not permitted"
  | .other text => text

/-! ## Where a path leads -/

/-- The components followed from the directory `cur`; `follow` continues at a symbolic link. -/
def walkWith (fs : FileSystem) (follow : Path → List String → Except Errno Path) (cur : Path) :
    List String → Except Errno Path
  | [] => .ok cur
  | c :: rest =>
    if c = "" ∨ c = "." then walkWith fs follow cur rest
    else if c = ".." then walkWith fs follow cur.dropLast rest
    else
      match fs.node (cur ++ [c]) with
      | none => .error .enoent
      | some .dir => walkWith fs follow (cur ++ [c]) rest
      | some (.file _) => if rest = [] then .ok (cur ++ [c]) else .error .enotdir
      | some (.link target) => follow (if IsAbs target then [] else cur) (target ++ rest)

/-- The components followed from the directory `cur`, through at most `n` symbolic links. -/
def walk (fs : FileSystem) : Nat → Path → List String → Except Errno Path
  | 0 => walkWith fs fun _ _ => .error .eloop
  | n + 1 => walkWith fs (walk fs n)

/-- The number of symbolic links that the kernel follows. -/
def maxLinks : Nat := 40

/-- The entry that a path names, which need not exist: the last component is not followed. -/
def locate (fs : FileSystem) (path : Path) : Except Errno Path :=
  match path.getLast? with
  | none => .ok []
  | some c =>
    match walk fs maxLinks [] path.dropLast with
    | .error err => .error err
    | .ok dir =>
      if fs.node dir ≠ some .dir then .error .enotdir
      else if c = "" ∨ c = "." then .ok dir
      else if c = ".." then .ok dir.dropLast
      else .ok (dir ++ [c])

def SymlinkFree (fs : FileSystem) (p : Path) : Prop :=
  ∀ q, q <+: p → ∀ target, fs.node q ≠ some (.link target)

theorem SymlinkFree.above {fs : FileSystem} {p q : Path} (h : SymlinkFree fs p) (hq : q <+: p) :
    SymlinkFree fs q :=
  fun r hr => h r (hr.trans hq)

/-- A path of names without symbolic links leads to itself. -/
theorem walkWith_eq {fs : FileSystem} {follow : Path → List String → Except Errno Path}
    {comps : List String} (hplain : Plain comps) {cur : Path}
    (hfree : SymlinkFree fs (cur ++ comps)) {p : Path}
    (h : walkWith fs follow cur comps = .ok p) : p = cur ++ comps := by
  induction comps generalizing cur with
  | nil =>
    rw [List.append_nil]
    exact (Except.ok.inj h).symm
  | cons c rest ih =>
    obtain ⟨hempty, hdot, hup⟩ := hplain c List.mem_cons_self
    rw [walkWith, if_neg (not_or.mpr ⟨hempty, hdot⟩), if_neg hup] at h
    rw [List.append_cons] at hfree ⊢
    cases hnode : fs.node (cur ++ [c]) with
    | none => rw [hnode] at h; cases h
    | some n =>
      rw [hnode] at h
      cases n with
      | dir => exact ih (fun d hd => hplain d (List.mem_cons_of_mem c hd)) hfree h
      | file inode =>
        simp only at h
        split at h
        next hrest => rw [hrest, List.append_nil]; exact (Except.ok.inj h).symm
        next => cases h
      | link target => exact absurd hnode (hfree _ (List.prefix_append _ _) target)

theorem walk_eq {fs : FileSystem} {n : Nat} {comps : List String} (hplain : Plain comps)
    {cur : Path} (hfree : SymlinkFree fs (cur ++ comps)) {p : Path}
    (h : walk fs n cur comps = .ok p) : p = cur ++ comps := by
  cases n <;> exact walkWith_eq hplain hfree h

/-- The entry that a path of names without symbolic links above it names is at the path. -/
theorem locate_eq {fs : FileSystem} {path p : Path} (hplain : Plain path)
    (hfree : SymlinkFree fs path) (h : locate fs path = .ok p) : p = path := by
  unfold locate at h
  cases path using List.reverseRecOn with
  | nil => exact (Except.ok.inj h).symm
  | append_singleton dir c =>
    obtain ⟨hempty, hdot, hup⟩ := hplain c (List.mem_append_right dir List.mem_cons_self)
    rw [List.getLast?_concat, List.dropLast_concat] at h
    cases hwalk : walk fs maxLinks [] dir with
    | error err => rw [hwalk] at h; cases h
    | ok q =>
      have hdir : SymlinkFree fs ([] ++ dir) := hfree.above (List.prefix_append dir [c])
      have hq : q = dir := walk_eq (fun d hd => hplain d (List.mem_append_left _ hd)) hdir hwalk
      simp only [hwalk, hq, if_neg (not_or.mpr ⟨hempty, hdot⟩), if_neg hup] at h
      split at h
      next => cases h
      next => exact (Except.ok.inj h).symm

/-! ## Calls -/

/-- What a call changes, at the paths of the entries. -/
inductive Effect
  | mkdir (p : Path)
  | create (p : Path)
  | truncate (p : Path)
  | write (p : Path) (bytes : Nat)
  | symlink (p : Path)
  | link (old new : Path)
deriving DecidableEq

def Effect.paths : Effect → List Path
  | .mkdir p | .create p | .truncate p | .write p _ | .symlink p => [p]
  | .link old new => [old, new]

def Effect.bytes : Effect → Nat
  | .write _ bytes => bytes
  | _ => 0

/-- A call returns a result, the changed file system and what it changed, or fails. -/
abbrev Call (α : Type) := FileSystem → Except Errno (α × FileSystem × List Effect)

/-- A new entry in a directory that exists. -/
def create (fs : FileSystem) (p : Path) (n : Node) : Except Errno FileSystem :=
  if h : fs.node p = none then
    if h' : fs.node p.dropLast = some .dir ∧ Plain p ∧ n.Below fs.next then
      .ok (fs.add p n h h'.1 h'.2.1 h'.2.2)
    else .error .enotdir
  else .error .eexist

def mkdir (path : Path) : Call Unit := fun fs =>
  match locate fs path with
  | .error err => .error err
  | .ok p => (create fs p .dir).map fun fs => ((), fs, [.mkdir p])

structure File where
  path : Path
  inode : Nat

/-- `open` with `O_CREAT|O_WRONLY|O_TRUNC|O_NOFOLLOW`. -/
def openFile (path : Path) : Call File := fun fs =>
  match locate fs path with
  | .error err => .error err
  | .ok p =>
    match fs.node p with
    | some .dir => .error .eisdir
    | some (.link _) => .error .eloop
    | some (.file inode) => .ok (⟨p, inode⟩, fs.setContents inode [], [.truncate p])
    | none =>
      (create fs.newInode p (.file fs.next)).map fun fs' => (⟨p, fs.next⟩, fs', [.create p])

/-- `write` at the end of an open file. -/
def append (file : File) (data : List UInt8) (fs : FileSystem) : FileSystem :=
  fs.setContents file.inode ((fs.contents.lookup file.inode).getD [] ++ data)

def symlink (target : Text) (path : Path) : Call Unit := fun fs =>
  if target.text = "" then .error .enoent
  else
    match locate fs path with
    | .error err => .error err
    | .ok p => (create fs p (.link target)).map fun fs => ((), fs, [.symlink p])

/-- `link`, which does not follow a symbolic link at the old path. -/
def link (old new : Path) : Call Unit := fun fs =>
  match locate fs old, locate fs new with
  | .ok p, .ok q =>
    match fs.node p with
    | none => .error .enoent
    | some .dir => .error .eperm
    | some n => (create fs q n).map fun fs => ((), fs, [.link p q])
  | .error err, _ => .error err
  | _, .error err => .error err

/-- The entry where `found` leads. -/
def entryAt (found : FileSystem → Except Errno Path) : Call Node := fun fs =>
  match found fs with
  | .error err => .error err
  | .ok p =>
    match fs.node p with
    | none => .error .enoent
    | some n => .ok (n, fs, [])

/-- `stat`: what a path leads to. -/
def stat (path : Path) : Call Node := entryAt fun fs => walk fs maxLinks [] path

/-- `lstat`: the entry at a path. -/
def lstat (path : Path) : Call Node := entryAt fun fs => locate fs path

/-- A new entry is the only change. -/
theorem create_eq {fs fs' : FileSystem} {p : Path} {n : Node} (h : create fs p n = .ok fs') :
    fs.node p = none ∧ (∀ q, fs'.node q = if q = p then some n else fs.node q) ∧
      fs'.contents = fs.contents ∧ fs'.next = fs.next := by
  unfold create at h
  split at h
  next hnone =>
    split at h
    next hok =>
      obtain rfl := Except.ok.inj h
      exact ⟨hnone, fs.node_add hnone hok.1 hok.2.1 hok.2.2, rfl, rfl⟩
    next => cases h
  next => cases h

end Hypeman.Foundations.Filesystem
