import Hypeman.Foundations.System
import Hypeman.Foundations.Table

/-!
# The process of a hypervisor

Model of `lib/instances/process_identity.go`: the stored identity of the hypervisor of an instance,
and how `resolveLiveHypervisorPID` finds the live one from it. Processes come and go, numbers are
used again and the host reboots; a process is told from all others by the boot, its number and its
start time. What a scan of the sockets says is given, and assumed to be true (`Resolution.Sound`).

* `Host.step`: what happens to processes and to the stored identity.
* `resolve_cases`: the answer is the stored process with the recorded identity, or what the scan
  says.
* `resolve_live`: the answer is the recorded hypervisor or a listener of the socket, and there is
  none only if no hypervisor is alive.
-/

namespace Hypeman.Instances

open Foundations

structure HypervisorProcessIdentity where
  hypervisorPID : Option Int := none
  hypervisorStartTime : UInt64 := 0
  hypervisorBootID : String := ""
deriving DecidableEq, Repr

/-- A process. The number tells it from all other processes, also those that are gone. -/
structure HostProcess where
  number : Nat
  start : UInt64
  /-- It is a hypervisor of the instance. -/
  hypervisor : Bool
  /-- It listens on the control socket of the instance. -/
  listening : Bool
  /-- It has exited with all its tasks, and nobody has waited for it. -/
  zombie : Bool := false
deriving DecidableEq, Repr

/-- The host, with the identities of all processes that there were and the stored identity of the
instance. -/
structure Host where
  bootID : String
  processes : Table Int HostProcess := ∅
  born : List (String × Int × UInt64) := []
  stored : HypervisorProcessIdentity := {}
  /-- The process that the stored identity was taken from. -/
  recorded : Option Nat := none

namespace Host

variable (h : Host)

def ProcessExists (pid : Int) : Bool :=
  !(pid ≤ 0) && (h.processes.lookup pid).any fun p => !p.zombie

def processStartTime (pid : Int) : UInt64 :=
  if pid ≤ 0 then 0 else ((h.processes.lookup pid).map HostProcess.start).getD 0

/-- `hostBootID`, which is empty if it cannot be read. -/
def hostBootID (readable : Bool) : String := if readable then h.bootID else ""

def Set (pid : Int) (bootReadable : Bool) : HypervisorProcessIdentity :=
  ⟨some pid, h.processStartTime pid, h.hostBootID bootReadable⟩

end Host

def SetUnconfirmed (pid : Int) : HypervisorProcessIdentity := ⟨some pid, 0, ""⟩

/-- What a scan for the process that listens on the socket says; `noOwner` is
`ErrNoOwningProcess`. -/
inductive Resolution
  | owner (pid : Int)
  | noOwner
  | failed (err : String)
deriving DecidableEq, Repr

/-- `hypervisor.ResolveProcessPID` and `hypervisor.ResolveProcessPIDForOwner`. -/
structure SocketScan where
  ResolveProcessPID : String → Resolution
  ResolveProcessPIDForOwner : String → Int → Resolution

section Resolve

variable (h : Host) (bootReadable : Bool) (scan : SocketScan) (id : HypervisorProcessIdentity)
  (socketPath : String)

def classifyResolvedHypervisorOwner (stored : Int) : Resolution → Except String Int
  | .owner resolved => if h.ProcessExists resolved then .ok resolved else .ok 0
  | .noOwner => .ok 0
  | .failed err =>
    if stored ≠ 0 then
      .error (s!"cannot confirm ownership of socket {socketPath} for stored hypervisor " ++
        s!"PID {stored}: {err}")
    else .error s!"cannot confirm ownership of socket {socketPath}: {err}"

/-- The stored number if a process has it, and 0 otherwise or after a reboot. -/
def storedPID (bootID : String) : Int :=
  match id.hypervisorPID with
  | none => 0
  | some pid =>
    if !h.ProcessExists pid then 0
    else if id.hypervisorBootID ≠ "" ∧ bootID ≠ "" ∧ id.hypervisorBootID ≠ bootID then 0
    else pid

/-- `resolveLiveHypervisorPID` on Linux. -/
def resolveLiveHypervisorPID : Except String Int :=
  let bootID := h.hostBootID bootReadable
  let stored := storedPID h id bootID
  let identified : Bool := stored ≠ 0 ∧ id.hypervisorStartTime ≠ 0 ∧ id.hypervisorBootID ≠ "" ∧
    bootID ≠ "" ∧ id.hypervisorBootID = bootID
  if identified ∧ h.processStartTime stored = id.hypervisorStartTime then .ok stored
  else
    let stored := if identified then 0 else stored
    if socketPath = "" then
      if stored ≠ 0 then
        .error s!"cannot confirm stored hypervisor PID {stored} without a socket path"
      else .ok 0
    else
      classifyResolvedHypervisorOwner h socketPath stored
        (if stored ≠ 0 ∧ id.hypervisorStartTime = 0 then
          scan.ResolveProcessPIDForOwner socketPath stored
        else scan.ResolveProcessPID socketPath)

end Resolve

/-! ## The history of the host -/

/-- What happens to processes and to the stored identity. -/
inductive ProcessEvent
  | spawn (pid : Int) (start : UInt64) (hypervisor listening : Bool)
  /-- All tasks of the process exit. -/
  | exit (pid : Int)
  /-- Somebody waits for it, and the number is free. -/
  | reap (pid : Int)
  | listen (pid : Int) (listening : Bool)
  | reboot (bootID : String)
  /-- `Set`, for a number that is not that of another process than a hypervisor. -/
  | set (pid : Int) (bootReadable : Bool)
  | setUnconfirmed (pid : Int)
  | clear
deriving DecidableEq, Repr

/-- The effect of one event. A new process has an identity that none had before it, and a hypervisor
listens while it is alive. -/
def Host.step (h : Host) : ProcessEvent → Option Host
  | .spawn pid start hypervisor listening =>
    if 0 < pid ∧ h.processes.lookup pid = none ∧ (h.bootID, pid, start) ∉ h.born ∧
        (hypervisor = true → listening = true) then
      some { h with
        processes := h.processes.insert pid ⟨h.born.length, start, hypervisor, listening, false⟩
        born := h.born ++ [(h.bootID, pid, start)] }
    else none
  | .exit pid =>
    (h.processes.lookup pid).map fun p =>
      { h with processes := h.processes.insert pid { p with listening := false, zombie := true } }
  | .reap pid =>
    if (h.processes.lookup pid).any HostProcess.zombie then
      some { h with processes := h.processes.erase pid }
    else none
  | .listen pid listening =>
    match h.processes.lookup pid with
    | some p =>
      if p.hypervisor = true ∨ p.zombie = true then none
      else some { h with processes := h.processes.insert pid { p with listening := listening } }
    | none => none
  | .reboot bootID => some { h with bootID := bootID, processes := ∅ }
  | .set pid bootReadable =>
    if (h.processes.lookup pid).all HostProcess.hypervisor then
      some { h with
        stored := h.Set pid bootReadable
        recorded := (h.processes.lookup pid).map HostProcess.number }
    else none
  | .setUnconfirmed pid => some { h with stored := SetUnconfirmed pid, recorded := none }
  | .clear => some { h with stored := {}, recorded := none }

def hostSystem (bootID : String) : System Host ProcessEvent where
  init := { bootID := bootID }
  step := Host.step

/-- What the scan says is true: the process listens, or there is none that does. -/
def Resolution.Sound (h : Host) : Resolution → Prop
  | .owner pid => ∃ p, h.processes.lookup pid = some p ∧ p.zombie = false ∧ p.listening = true
  | .noOwner => ∀ pid p, h.processes.lookup pid = some p → p.zombie = false → p.listening = false
  | .failed _ => True

/-- Both scans are true. -/
structure SocketScan.Sound (h : Host) (socketPath : String) (scan : SocketScan) : Prop where
  any : (scan.ResolveProcessPID socketPath).Sound h
  ofOwner : ∀ pid, (scan.ResolveProcessPIDForOwner socketPath pid).Sound h

/-! ## What is stored -/

structure HostProcess.Sound (bootID : String) (born : List (String × Int × UInt64)) (pid : Int)
    (p : HostProcess) : Prop where
  pos : 0 < pid
  identity : born[p.number]? = some (bootID, pid, p.start)
  listens : p.hypervisor = true → p.zombie = false → p.listening = true

/-- A stored identity with a start time and a boot is that of the recorded process. -/
def HypervisorProcessIdentity.Records (born : List (String × Int × UInt64))
    (recorded : Option Nat) (id : HypervisorProcessIdentity) : Prop :=
  ∀ pid ∈ id.hypervisorPID, id.hypervisorStartTime ≠ 0 → id.hypervisorBootID ≠ "" →
    ∃ n ∈ recorded, born[n]? = some (id.hypervisorBootID, pid, id.hypervisorStartTime)

/-- No two processes have the same identity, and the stored one is that of the recorded process. -/
structure Host.Sound (h : Host) : Prop where
  born : h.born.Nodup
  processes : ∀ pid p, h.processes.lookup pid = some p → p.Sound h.bootID h.born pid
  stored : h.stored.Records h.born h.recorded

section Steps

variable {h h' : Host}

theorem getElem?_of_append {α : Type} {xs ys : List α} {n : Nat} {x : α} (hx : xs[n]? = some x) :
    (xs ++ ys)[n]? = some x := by
  rw [List.getElem?_append_left (List.getElem?_eq_some_iff.mp hx).1, hx]

/-- A process with the same identity takes the place of another. -/
theorem Host.Sound.update (hs : h.Sound) {pid : Int} {p q : HostProcess}
    (hp : h.processes.lookup pid = some p) (hnumber : q.number = p.number)
    (hstart : q.start = p.start)
    (hlistens : q.hypervisor = true → q.zombie = false → q.listening = true) :
    Host.Sound { h with processes := h.processes.insert pid q } where
  born := hs.born
  processes := by
    refine (Table.Sets.insert pid q h.processes).all hs.processes ?_
    rintro _ ⟨⟩
    have hold := hs.processes pid p hp
    exact ⟨hold.pos, by rw [hnumber, hstart]; exact hold.identity, hlistens⟩
  stored := hs.stored

/-- A new process. -/
theorem Host.Sound.spawn (hs : h.Sound) {pid : Int} {start : UInt64} {hypervisor listening : Bool}
    (hpos : 0 < pid) (hfresh : (h.bootID, pid, start) ∉ h.born)
    (hlistens : hypervisor = true → listening = true) :
    Host.Sound { h with
      processes := h.processes.insert pid ⟨h.born.length, start, hypervisor, listening, false⟩
      born := h.born ++ [(h.bootID, pid, start)] } where
  born := by
    rw [← List.concat_eq_append]
    exact List.Nodup.concat hfresh hs.born
  processes := by
    refine (Table.Sets.insert pid _ h.processes).all (fun pid p hp => ?_) ?_
    · have hold := hs.processes pid p hp
      exact ⟨hold.pos, getElem?_of_append hold.identity, hold.listens⟩
    · rintro _ ⟨⟩
      exact ⟨hpos, by simp, fun hyp _ => hlistens hyp⟩
  stored pid hpid hstart hboot := by
    obtain ⟨n, hn, hborn⟩ := hs.stored pid hpid hstart hboot
    exact ⟨n, hn, getElem?_of_append hborn⟩

/-- `Set` takes the identity of the process that has the number. -/
theorem Host.Sound.records_set (hs : h.Sound) (pid : Int) (bootReadable : Bool) :
    (h.Set pid bootReadable).Records h.born
      ((h.processes.lookup pid).map HostProcess.number) := by
  rintro _ ⟨⟩ hstart hboot
  cases hp : h.processes.lookup pid with
  | none =>
    refine absurd ?_ hstart
    simp [Host.Set, Host.processStartTime, hp]
  | some p =>
    have hold := hs.processes pid p hp
    have hstart : h.processStartTime pid = p.start := by
      rw [Host.processStartTime, if_neg (Int.not_le.mpr hold.pos), hp]
      rfl
    have hboot : h.hostBootID bootReadable = h.bootID := by
      cases bootReadable with
      | true => rfl
      | false => exact absurd rfl hboot
    refine ⟨p.number, rfl, ?_⟩
    rw [Host.Set, hstart, hboot]
    exact hold.identity

theorem Host.Sound.step {e : ProcessEvent} (hs : h.Sound) (hstep : h.step e = some h') :
    h'.Sound := by
  cases e with
  | spawn pid start hypervisor listening =>
    obtain ⟨hguard, ⟨⟩⟩ := Option.ite_none_right_eq_some.mp hstep
    exact hs.spawn hguard.1 hguard.2.2.1 hguard.2.2.2
  | exit pid =>
    obtain ⟨p, hp, rfl⟩ := Option.map_eq_some_iff.mp hstep
    exact hs.update hp rfl rfl fun _ hzombie => Bool.noConfusion hzombie
  | reap pid =>
    obtain ⟨-, ⟨⟩⟩ := Option.ite_none_right_eq_some.mp hstep
    exact ⟨hs.born, Table.Sets.all_erase hs.processes pid, hs.stored⟩
  | listen pid listening =>
    rw [Host.step] at hstep
    split at hstep
    · next p hp =>
      split at hstep
      · cases hstep
      · next hguard =>
        cases hstep
        exact hs.update hp rfl rfl fun hyp => absurd (.inl hyp) hguard
    · cases hstep
  | reboot bootID =>
    cases hstep
    exact ⟨hs.born, fun pid p hp => (nomatch hp), hs.stored⟩
  | set pid bootReadable =>
    obtain ⟨-, ⟨⟩⟩ := Option.ite_none_right_eq_some.mp hstep
    exact ⟨hs.born, hs.processes, hs.records_set pid bootReadable⟩
  | setUnconfirmed pid | clear =>
    cases hstep
    exact ⟨hs.born, hs.processes, fun _ _ hstart => absurd rfl hstart⟩

theorem host_sound_of_reachable {bootID : String}
    (hh : (hostSystem bootID).Reachable System.Always h) : h.Sound :=
  hh.invariant ⟨List.nodup_nil, fun _ _ hp => (nomatch hp), fun _ _ hstart => absurd rfl hstart⟩
    fun _ _ _ hs _ hstep => hs.step hstep

end Steps

/-! ## The answer -/

section Answer

variable {h : Host} {bootReadable : Bool} {scan : SocketScan} {id : HypervisorProcessIdentity}
  {socketPath : String}

theorem storedPID_of_ne_zero {bootID : String} (hne : storedPID h id bootID ≠ 0) :
    id.hypervisorPID = some (storedPID h id bootID) ∧
      h.ProcessExists (storedPID h id bootID) = true := by
  unfold storedPID at hne ⊢
  split at hne
  · exact absurd rfl hne
  · next pid hpid =>
    split_ifs at hne ⊢ with hexists hreboot
    · exact absurd rfl hne
    · exact absurd rfl hne
    · exact ⟨hpid, by simpa using hexists⟩

/-- The answer is the stored process, alive and with the stored identity, or what a scan says. -/
theorem resolve_cases (h : Host) (bootReadable : Bool) (scan : SocketScan)
    (id : HypervisorProcessIdentity) (hsocket : socketPath ≠ "") :
    (∃ pid ∈ id.hypervisorPID, h.ProcessExists pid = true ∧ id.hypervisorStartTime ≠ 0 ∧
      id.hypervisorBootID ≠ "" ∧ id.hypervisorBootID = h.bootID ∧
      h.processStartTime pid = id.hypervisorStartTime ∧
      resolveLiveHypervisorPID h bootReadable scan id socketPath = .ok pid) ∨
    ∃ stored resolution, (resolution = scan.ResolveProcessPID socketPath ∨
        ∃ pid, resolution = scan.ResolveProcessPIDForOwner socketPath pid) ∧
      resolveLiveHypervisorPID h bootReadable scan id socketPath =
        classifyResolvedHypervisorOwner h socketPath stored resolution := by
  have hscanned (stored : Int) :
      (if stored ≠ 0 ∧ id.hypervisorStartTime = 0 then
        scan.ResolveProcessPIDForOwner socketPath stored
      else scan.ResolveProcessPID socketPath) = scan.ResolveProcessPID socketPath ∨
      ∃ pid, (if stored ≠ 0 ∧ id.hypervisorStartTime = 0 then
        scan.ResolveProcessPIDForOwner socketPath stored
      else scan.ResolveProcessPID socketPath) = scan.ResolveProcessPIDForOwner socketPath pid := by
    split
    · exact .inr ⟨stored, rfl⟩
    · exact .inl rfl
  unfold resolveLiveHypervisorPID
  dsimp only
  split
  · next hsame =>
    obtain ⟨hidentified, hsame⟩ := hsame
    obtain ⟨hne, hstart, hboot, hreadable, heq⟩ := of_decide_eq_true hidentified
    obtain ⟨hpid, hexists⟩ := storedPID_of_ne_zero hne
    refine .inl ⟨_, hpid, hexists, hstart, hboot, ?_, hsame, rfl⟩
    cases bootReadable with
    | true => exact heq
    | false => exact absurd rfl hreadable
  · exact .inr ⟨_, _, hscanned _, rfl⟩

theorem exists_of_ProcessExists {pid : Int} (hexists : h.ProcessExists pid = true) :
    0 < pid ∧ ∃ p, h.processes.lookup pid = some p ∧ p.zombie = false := by
  obtain ⟨hpos, hlive⟩ := Bool.and_eq_true_iff.mp hexists
  obtain ⟨p, hp, hzombie⟩ := (Option.any_eq_true _ _).mp hlive
  exact ⟨by simpa using hpos, p, hp, by simpa using hzombie⟩

/-- An answer that comes from the scan is a listener, and there is none only if nothing listens. -/
theorem classify_live {resolution : Resolution} (hsound : resolution.Sound h)
    (hpos : ∀ pid p, h.processes.lookup pid = some p → 0 < pid) {stored pid : Int}
    (hanswer : classifyResolvedHypervisorOwner h socketPath stored resolution = .ok pid) :
    (∃ p, h.processes.lookup pid = some p ∧ p.zombie = false ∧ p.listening = true) ∨
      pid = 0 ∧ ∀ pid p, h.processes.lookup pid = some p → p.zombie = false →
        p.listening = false := by
  cases resolution with
  | owner resolved =>
    obtain ⟨p, hp, hzombie, hlistening⟩ := hsound
    have hexists : h.ProcessExists resolved = true := by
      have := hpos resolved p hp
      simp [Host.ProcessExists, hp, hzombie]
      omega
    rw [classifyResolvedHypervisorOwner, if_pos hexists] at hanswer
    cases hanswer
    exact .inl ⟨p, hp, hzombie, hlistening⟩
  | noOwner =>
    cases hanswer
    exact .inr ⟨rfl, hsound⟩
  | failed err =>
    rw [classifyResolvedHypervisorOwner] at hanswer
    split at hanswer <;> cases hanswer

/-- Whatever has happened since the identity was stored: the answer is a live process that is the
recorded hypervisor or listens on the socket, and it is 0 only if no hypervisor of the instance is
alive. -/
theorem resolve_live {bootID : String} (hh : (hostSystem bootID).Reachable System.Always h)
    (hsocket : socketPath ≠ "") (hscan : scan.Sound h socketPath) {pid : Int}
    (hanswer : resolveLiveHypervisorPID h bootReadable scan h.stored socketPath = .ok pid) :
    (pid ≠ 0 → ∃ p, h.processes.lookup pid = some p ∧ p.zombie = false ∧
      (h.recorded = some p.number ∨ p.listening = true)) ∧
    (pid = 0 → ∀ pid p, h.processes.lookup pid = some p → p.zombie = false →
      p.hypervisor = false) := by
  have hs := host_sound_of_reachable hh
  rcases resolve_cases h bootReadable scan h.stored hsocket with
    ⟨stored, hstored, hexists, hstart, hboot, hsame, htime, heq⟩ |
      ⟨stored, resolution, hresolution, heq⟩
  · cases hanswer.symm.trans heq
    obtain ⟨hpos, p, hp, hzombie⟩ := exists_of_ProcessExists hexists
    refine ⟨fun _ => ⟨p, hp, hzombie, .inl ?_⟩, fun hzero => absurd hzero (by omega)⟩
    -- the stored identity and that of the live process are the same, so they are one process
    obtain ⟨n, hn, hborn⟩ := hs.stored pid hstored hstart hboot
    have hlive := (hs.processes pid p hp).identity
    have hread : h.processStartTime pid = p.start := by
      rw [Host.processStartTime, if_neg (Int.not_le.mpr hpos), hp]
      rfl
    rw [hsame, ← htime, hread] at hborn
    have hnumber : n = p.number :=
      (List.getElem?_inj (List.getElem?_eq_some_iff.mp hborn).1 hs.born).mp
        (hborn.trans hlive.symm)
    rw [← hnumber]
    exact hn
  · have hsound : resolution.Sound h := by
      rcases hresolution with rfl | ⟨owner, rfl⟩
      · exact hscan.any
      · exact hscan.ofOwner owner
    rcases classify_live hsound (fun pid p hp => (hs.processes pid p hp).pos)
      (heq.symm.trans hanswer) with ⟨p, hp, hzombie, hlistening⟩ | ⟨rfl, hnone⟩
    · have hpos := (hs.processes pid p hp).pos
      exact ⟨fun _ => ⟨p, hp, hzombie, .inr hlistening⟩, fun hzero => absurd hzero (by omega)⟩
    · refine ⟨fun hne => absurd rfl hne, fun _ pid p hp hzombie => ?_⟩
      by_contra hhypervisor
      have hlistens := (hs.processes pid p hp).listens (by simpa using hhypervisor) hzombie
      rw [hnone pid p hp hzombie] at hlistens
      cases hlistens

end Answer

def noOwnerScan : SocketScan := ⟨fun _ => .noOwner, fun _ _ => .noOwner⟩

/-- The hypervisor exits and another process gets its number; the answer is that there is none. -/
theorem resolve_live_reused :
    ∃ h, (hostSystem "b1").Reachable System.Always h ∧
      resolveLiveHypervisorPID h true noOwnerScan h.stored "/i1/api.sock" = .ok 0 ∧
      ∀ pid p, h.processes.lookup pid = some p → p.zombie = false → p.hypervisor = false := by
  obtain ⟨h, hh, ⟨hprocesses, hanswer⟩⟩ := System.exists_reachable_of_replay (hostSystem "b1")
    System.Always (fun h => h.processes.entries = [⟨100, ⟨1, 20, false, false, false⟩⟩] ∧
      resolveLiveHypervisorPID h true noOwnerScan h.stored "/i1/api.sock" = .ok 0)
    [.spawn 100 10 true true, .set 100 true, .exit 100, .reap 100, .spawn 100 20 false false]
    (by decide +kernel)
  have hnone : (Resolution.noOwner).Sound h := by
    intro pid p hp hzombie
    have hmem := AList.mem_lookup_iff.mp hp
    rw [hprocesses] at hmem
    cases List.mem_singleton.mp hmem
    rfl
  exact ⟨h, hh, hanswer,
    (resolve_live hh (by decide) ⟨hnone, fun _ => hnone⟩ hanswer).2 rfl⟩

end Hypeman.Instances
