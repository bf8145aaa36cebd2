import Hypeman.Foundations.Filesystem

/-!
# Joining a path to a root

The algorithm of `securejoin.SecureJoin`: an untrusted path is followed component by component
within a root. A symbolic link is replaced by its target, `..` at the root stays there, and
components that do not exist are kept. The root is taken to be a path without symbolic links, so
that looking at a path below it is looking at the entry there.

* `secureJoin_inside`: the path returned is inside the root, and there is no symbolic link on it
  below the root.
-/

namespace Hypeman.Foundations.Filesystem

/-- One component, if `..` cancels the one before. -/
def lexicalStep (cur : Path) (c : String) : Path :=
  if c = "" ∨ c = "." then cur else if c = ".." then cur.dropLast else cur ++ [c]

/-- The components followed from `current` below the root; `follow` continues at a symbolic link. -/
def joinWith (fs : FileSystem) (root : Path) (follow : Path → List String → Except String Path)
    (current : Path) : List String → Except String Path
  | [] => .ok (root ++ current)
  | part :: rest =>
    if lexicalStep current part = [] then joinWith fs root follow [] rest
    else
      match fs.node (root ++ lexicalStep current part) with
      | some (.link target) => follow (if IsAbs target then [] else current) (target ++ rest)
      | _ => joinWith fs root follow (lexicalStep current part) rest

/-- The components followed through at most `n` symbolic links. -/
def joinLinks (fs : FileSystem) (root : Path) : Nat → Path → List String → Except String Path
  | 0 => joinWith fs root fun _ _ => .error Errno.eloop.text
  | n + 1 => joinWith fs root (joinLinks fs root n)

def maxSymlinkLimit : Nat := 255

/-- `securejoin.SecureJoin`. -/
def secureJoin (fs : FileSystem) (root : Path) (unsafePath : Text) : Except String Path :=
  joinLinks fs root maxSymlinkLimit [] unsafePath

/-- A path below the root on which there is no symbolic link. -/
structure FreeBelow (fs : FileSystem) (root current : Path) : Prop where
  plain : Plain current
  free : ∀ q, q ≠ [] → q <+: current → ∀ target, fs.node (root ++ q) ≠ some (.link target)

variable {fs : FileSystem} {root current : Path}

theorem FreeBelow.nil : FreeBelow fs root [] where
  plain _ hc := absurd hc List.not_mem_nil
  free _ hne hq := absurd (List.prefix_nil.mp hq) hne

theorem FreeBelow.step (h : FreeBelow fs root current) {part : String}
    (hnode : ∀ target, fs.node (root ++ lexicalStep current part) ≠ some (.link target)) :
    FreeBelow fs root (lexicalStep current part) := by
  unfold lexicalStep at hnode ⊢
  split_ifs at hnode ⊢ with hskip hup
  · exact h
  · have hinit := List.dropLast_prefix current
    exact ⟨fun c hc => h.plain c (hinit.subset hc),
      fun q hne hq => h.free q hne (hq.trans hinit)⟩
  · refine ⟨?_, fun q hne hq => ?_⟩
    · have hname : Name part := ⟨fun he => hskip (.inl he), fun he => hskip (.inr he), hup⟩
      simpa [Plain, or_imp, forall_and, hname] using h.plain
    · rcases List.prefix_concat_iff.mp hq with rfl | hle
      · exact hnode
      · exact h.free q hne hle

theorem joinWith_inside {follow : Path → List String → Except String Path}
    (hfollow : ∀ current comps p, FreeBelow fs root current → follow current comps = .ok p →
      ∃ rest, p = root ++ rest ∧ FreeBelow fs root rest)
    {comps : List String} {p : Path} (h : FreeBelow fs root current)
    (hjoin : joinWith fs root follow current comps = .ok p) :
    ∃ rest, p = root ++ rest ∧ FreeBelow fs root rest := by
  induction comps generalizing current with
  | nil => exact ⟨current, (Except.ok.inj hjoin).symm, h⟩
  | cons part rest ih =>
    unfold joinWith at hjoin
    split at hjoin
    next => exact ih .nil hjoin
    next =>
      split at hjoin
      next target hnode =>
        refine hfollow _ _ p ?_ hjoin
        split
        · exact .nil
        · exact h
      next hnode => exact ih (h.step fun target heq => hnode target heq) hjoin

/-- The path returned is inside the root and free of symbolic links below it. -/
theorem secureJoin_inside {t : Text} {p : Path} (h : secureJoin fs root t = .ok p) :
    ∃ rest, p = root ++ rest ∧ FreeBelow fs root rest := by
  have hall (n : Nat) : ∀ current comps p, FreeBelow fs root current →
      joinLinks fs root n current comps = .ok p →
      ∃ rest, p = root ++ rest ∧ FreeBelow fs root rest := by
    induction n with
    | zero =>
      intro current comps p hfree hjoin
      refine joinWith_inside (fun _ _ _ _ hloop => ?_) hfree hjoin
      cases hloop
    | succ n ih => exact fun current comps p hfree hjoin => joinWith_inside ih hfree hjoin
  exact hall maxSymlinkLimit [] t p .nil h

end Hypeman.Foundations.Filesystem
