import Hypeman.Instances.NetworkIdentity

/-!
# Passthrough devices along histories

Devices are attached to an instance when it is created, and are listed in its metadata from then on.
The attachment is cleared by a server restart when the instance does not run, and by the deletion of
any instance that lists the device; the metadata is copied into forks. Starting and resuming do not
look at the attachments.

* `devices_exclusive`: in a session whose starts find the devices of the instance attached to it,
  and whose deletions find them free or attached to it, a device is used by one running instance at
  most, and a deletion leaves the devices of the others.
* `deletion_takes_device`: a session in which a deletion detaches and unbinds a device that another
  instance uses.
-/

namespace Hypeman.Instances

open Foundations

def VMState.usesDevices : VMState → Bool
  | .created | .running | .paused => true
  | .shutdown | .unreachable => false

theorem deriveState_usesDevices (guest : Guest) :
    (deriveState guest).usesDevices = guest.vmm.any VMState.usesDevices := by
  obtain ⟨stored, vmm, snapshot⟩ := guest
  cases vmm with
  | none => exact usesDevices_of_stopped stored snapshot
  | some vmm =>
    cases vmm with
    | running => exact deriveRunningState_uses stored
    | created => rfl
    | paused => rfl
    | shutdown => rfl
    | unreachable => rfl

/-- The instance runs and lists the device. -/
def UsedBy (w : World) (deviceID id : String) : Prop :=
  ∃ guest, w.guests.lookup id = some guest ∧ (deriveState guest).usesDevices = true ∧
    deviceID ∈ guest.stored.devices

/-- A device is used by one running instance at most. -/
def ExclusiveUse (w : World) : Prop := ∀ d i j, UsedBy w d i → UsedBy w d j → i = j

def Op.deletes : Op → Option String
  | .deleteInstance id _ => some id
  | _ => none

/-- A deletion leaves the devices that are attached to or used by another instance. -/
def LeavesOthers (cfg : Network.Config) (w : World) (op : Op) : Prop :=
  ∀ id ∈ op.deletes, ∀ d j, j ≠ id → Devices.holder w.devices d = some j ∨ UsedBy w d j →
    (perform cfg w op).2.devices.lookup d = w.devices.lookup d

/-- The instance that an operation may bring to use its devices. -/
def Op.starts : Op → Option String
  | .startInstance id _ => some id
  | .restoreInstance id _ => some id
  | .vmmReports id _ => some id
  | _ => none

/-- The VMM that a failed creation leaves behind together with the instance directory. -/
def Op.leavesVMM : Op → Option VMState
  | .createInstance _ _ host => if host.retained then host.leftVMM else none
  | _ => none

/-- A deletion on this host loses the record of the device. -/
def DeleteHost.Loses (host : DeleteHost) (d : String) : Prop :=
  (∃ failure ∈ host.markDetached d, failure.lost = true) ∨ (host.unbind d).loses = true

instance (host : DeleteHost) (d : String) : Decidable (host.Loses d) :=
  inferInstanceAs (Decidable (_ ∨ _))

/-- A deletion that misses or loses the record of a listed device finds no device of another
instance that has the id of a listed one for its name. -/
def SparesNames (w : World) : Op → Prop
  | .deleteInstance id host => ∀ guest ∈ w.guests.lookup id,
    (∃ d ∈ guest.stored.devices, w.devices.lookup d = none ∨ host.Loses d) →
      ∀ e ∈ w.devices.entries, e.2.name ∈ guest.stored.devices → e.2.Yields id
  | _ => True

instance (w : World) (op : Op) : Decidable (SparesNames w op) := by
  unfold SparesNames
  split <;> infer_instance

/-- What starts and deletions find: the devices of an instance that is started are attached to it,
and those of one that is deleted are free or attached to it, also those found by name where records
are lost. No failed creation leaves a running VMM with its directory. -/
def DevicesInOrder (w : World) (op : Op) : Prop :=
  (∀ id ∈ op.starts, ∀ guest ∈ w.guests.lookup id, ∀ d ∈ guest.stored.devices,
      Devices.holder w.devices d = some id) ∧
    (∀ id ∈ op.deletes, ∀ guest ∈ w.guests.lookup id, ∀ d ∈ guest.stored.devices,
      Devices.holder w.devices d = none ∨ Devices.holder w.devices d = some id) ∧
    (∀ vmm ∈ op.leavesVMM, vmm.usesDevices = false) ∧ SparesNames w op

instance (w : World) (op : Op) : Decidable (DevicesInOrder w op) :=
  inferInstanceAs (Decidable ((∀ id ∈ op.starts, ∀ guest ∈ w.guests.lookup id,
      ∀ d ∈ guest.stored.devices, Devices.holder w.devices d = some id) ∧
    (∀ id ∈ op.deletes, ∀ guest ∈ w.guests.lookup id, ∀ d ∈ guest.stored.devices,
      Devices.holder w.devices d = none ∨ Devices.holder w.devices d = some id) ∧
    (∀ vmm ∈ op.leavesVMM, vmm.usesDevices = false) ∧ SparesNames w op))

/-! ## The devices of running instances are attached to them -/

/-- The invariant: the devices a running instance lists are attached to it. -/
structure Held (w : World) : Prop where
  held : ∀ {d i}, UsedBy w d i → Devices.holder w.devices d = some i
  used : ∀ i guest, w.guests.lookup i = some guest → i ∈ w.used

variable {w w' : World} {id : String}

theorem Held.exclusive (h : Held w) : ExclusiveUse w := by
  intro d i j hi hj
  have heq : some i = some j := (h.held hi).symm.trans (h.held hj)
  exact Option.some.inj heq

/-- A change of the guest `id` alone, with the devices held by running instances kept. -/
theorem Held.change (h : Held w) {new : Option Guest}
    (hguests : Table.Sets id new w.guests w'.guests)
    (hheld : ∀ d i, i ≠ id → UsedBy w d i → Devices.holder w.devices d = some i →
      Devices.holder w'.devices d = some i)
    (hused : ∀ i ∈ w.used, i ∈ w'.used)
    (hid : ∀ guest ∈ new, id ∈ w'.used ∧
      ((deriveState guest).usesDevices = true → ∀ d ∈ guest.stored.devices,
        Devices.holder w'.devices d = some id)) : Held w' := by
  constructor
  · rintro d i ⟨guest, hguest, huses, hd⟩
    rcases hguests.eq_some hguest with ⟨rfl, hnew⟩ | ⟨hi, hold⟩
    · exact (hid guest hnew).2 huses d hd
    · have hby : UsedBy w d i := ⟨guest, hold, huses, hd⟩
      exact hheld d i hi hby (h.held hby)
  · exact hguests.all (fun i guest hguest => hused i (h.used i guest hguest))
      fun guest hnew => (hid guest hnew).1

theorem Held.revision (h : Held w) {starts : Bool} (hrev : Revision w id starts w')
    (hstarts : starts = true → ∀ guest ∈ w.guests.lookup id, ∀ d ∈ guest.stored.devices,
      Devices.holder w.devices d = some id) : Held w' := by
  obtain ⟨new, hguests, hnew⟩ := hrev.sets
  refine h.change hguests ?_ ?_ ?_
  · intro d i _ _ hheld
    rw [hrev.devices]
    exact hheld
  · rw [hrev.used]
    exact fun _ hi => hi
  · intro guest' hguest'
    obtain ⟨guest, hguest, hrevised⟩ := hnew guest' hguest'
    rw [hrev.devices, hrev.used]
    refine ⟨h.used id guest hguest, fun huses d hd => ?_⟩
    rw [hrevised.devices] at hd
    rcases hrevised.uses huses with hstart | hold
    · exact hstarts hstart guest hguest d hd
    · exact h.held ⟨guest, hguest, hold, hd⟩

/-- A guest without a VMM is put in, or taken away, and the devices stay. -/
theorem Held.setStopped (h : Held w) {new : Option Guest}
    (hguests : Table.Sets id new w.guests w'.guests) (hdevices : w'.devices = w.devices)
    (hused : ∀ i ∈ w.used, i ∈ w'.used)
    (hid : ∀ guest ∈ new, guest.vmm = none ∧ id ∈ w'.used) : Held w' := by
  refine h.change hguests ?_ hused ?_
  · intro d i _ _ hheld
    rw [hdevices]
    exact hheld
  · intro guest hguest
    obtain ⟨hvmm, hmem⟩ := hid guest hguest
    refine ⟨hmem, fun huses => ?_⟩
    rw [deriveState_usesDevices, hvmm] at huses
    cases huses

theorem holder_isSome {devices : Devices.DeviceTable} {d inst : String}
    (h : Devices.holder devices d = some inst) : (devices.lookup d).isSome := by
  obtain ⟨device, hdevice, -⟩ := Option.bind_eq_some_iff.mp h
  rw [hdevice]
  rfl

theorem holder_congr {devices devices' : Devices.DeviceTable} {d : String}
    (h : devices'.lookup d = devices.lookup d) :
    Devices.holder devices' d = Devices.holder devices d := by
  unfold Devices.holder
  rw [h]

/-- A roll-back leaves the devices of the others. -/
theorem rollback_devices {req : ResourceRequest} (host : CreateHost) {c : Creation}
    (hsound : c.Sound w id req host) {d inst : String} (hne : inst ≠ id)
    (hheld : Devices.holder w.devices d = some inst) :
    Devices.holder (rollback w id host c).devices d = some inst := by
  have hc := hsound.others d inst hheld
  -- an attached device is held by the new instance
  have hd : d ∉ c.attachedDevices := by
    intro hmem
    have heq : some inst = some id := hc.symm.trans (hsound.attached d hmem)
    exact hne (Option.some.inj heq)
  have hkeep := Devices.lookup_detachDevices host.markDetached hsound.distinct
    (fun k hk => holder_isSome (hsound.attached k hk)) hd
  exact (holder_congr hkeep).trans hc

theorem Held.createInstance (h : Held w) (cfg : Network.Config) (id : String)
    (req : ResourceRequest) (host : CreateHost)
    (hok : DevicesInOrder w (.createInstance id req host)) :
    Held (createInstance cfg w id req host).2 := by
  obtain ⟨err, hsame⟩ | ⟨hnew, c, hsound, ⟨err, hroll⟩ | ⟨-, hcommit⟩⟩ :=
    createInstance_spec cfg w id req host
  · rw [hsame]
    exact h
  · rw [hroll]
    obtain ⟨new, hguests, hleft⟩ := rollback_guests w id host c
    refine h.change hguests (fun d i hi _ hheld => rollback_devices host hsound hi hheld)
      (fun _ hi => List.mem_cons_of_mem _ hi) fun guest hguest => ?_
    rcases hleft guest hguest with hold | ⟨hret, stored, hstored, rfl⟩
    · exact absurd (h.used id guest hold) hnew
    refine ⟨List.mem_cons_self, fun huses => ?_⟩
    -- a VMM left behind with the directory does not run
    rw [deriveState_usesDevices] at huses
    have hoff := hok.2.2.1
    simp only [Op.leavesVMM, hret, if_true] at hoff
    cases hvmm : host.leftVMM with
    | none =>
      rw [hvmm] at huses
      cases huses
    | some vmm =>
      rw [hvmm, Option.any_some, hoff vmm hvmm] at huses
      cases huses
  · rw [hcommit]
    refine h.change (.insert id _ _) (fun d i _ _ hheld => hsound.others d i hheld)
      (fun _ hi => List.mem_cons_of_mem _ hi) ?_
    rintro _ ⟨⟩
    have hheld : ∀ d ∈ c.stored.devices, Devices.holder c.devices d = some id := by
      rw [hsound.listed]
      exact hsound.attached
    exact ⟨List.mem_cons_self, fun _ => hheld⟩

/-- The device loop of a deletion leaves the devices of other instances. -/
theorem releaseDevices_spared {host : DeleteHost} {guest : Guest}
    (hok : DevicesInOrder w (.deleteInstance id host))
    (hguest : w.guests.lookup id = some guest) :
    Devices.Spared id (∃ d ∈ guest.stored.devices, host.Loses d) w.devices
      (guest.stored.devices.foldl (releaseDevice host) w.devices) := by
  obtain ⟨-, hids, -, hnames⟩ := hok
  refine List.foldlRecOn (motive := Devices.Spared id _ w.devices) _ _ (.refl id _ w.devices) ?_
  intro devices h d hd
  refine Devices.Spared.unbindFromVfio (h.markDetached ?_ ?_ ?_) fun hl => ⟨d, hd, .inr hl⟩
  · intro before hbefore
    have hyields := hids id rfl guest hguest d hd
    rw [Devices.holder, Option.mem_def.mp hbefore] at hyields
    exact hyields
  · rintro hlost e he rfl
    refine hnames guest hguest ?_ e he hd
    rcases hlost with hnone | ⟨k, hk, hloses⟩
    · exact ⟨e.2.name, hd, .inl hnone⟩
    · exact ⟨k, hk, .inr hloses⟩
  · exact fun failure hfailure hl => ⟨d, hd, .inl ⟨failure, hfailure, hl⟩⟩

theorem Held.deleteInstance (h : Held w) (id : String) (host : DeleteHost)
    (hok : DevicesInOrder w (.deleteInstance id host)) : Held (deleteInstance w id host).2 := by
  obtain hsame | ⟨guest, hguest, hkill | ⟨pending, hdelete⟩⟩ := deleteInstance_cases w id host
  · rw [hsame]
    exact h
  · rw [hkill]
    refine h.setStopped (.insert id _ _) rfl (fun _ hi => hi) ?_
    rintro _ ⟨⟩
    exact ⟨rfl, h.used id guest hguest⟩
  · rw [hdelete]
    refine h.change (sets_retained _ _ _ _) ?_ (fun _ hi => hi) ?_
    · intro d i hi _ hheld
      exact (holder_congr ((releaseDevices_spared hok hguest).others d i hi hheld)).trans hheld
    · intro g hg
      split at hg
      · cases hg
        refine ⟨h.used id guest hguest, fun huses => ?_⟩
        rw [usesDevices_of_stopped] at huses
        cases huses
      · cases hg

theorem Held.copySnapshot (h : Held w) (id snapshotID : String) (kind : SnapshotKind)
    (copyErr : Option String) : Held (copySnapshot w id snapshotID kind copyErr).2 := by
  obtain hsame | ⟨guest, hguest, hcopy⟩ := copySnapshot_cases w id snapshotID kind copyErr
  · rw [hsame]
    exact h
  · rw [hcopy]
    exact ⟨h.held, h.used⟩

theorem Held.replaceInstance (h : Held w) (id snapshotID : String) (outcome : ReplaceOutcome) :
    Held (replaceInstance w id snapshotID outcome).2 := by
  obtain hsame | ⟨record, guest, hrecord, -, hguest, hgone | ⟨-, -, name, hset⟩⟩ :=
    replaceInstance_cases w id snapshotID outcome
  · rw [hsame]
    exact h
  · rw [hgone]
    exact h.setStopped (.erase id _) rfl (fun _ hi => hi) nofun
  · rw [hset]
    refine h.setStopped (.insert id _ _) rfl (fun _ hi => hi) ?_
    rintro _ ⟨⟩
    exact ⟨rfl, h.used id guest hguest⟩

theorem Held.withFork (h : Held w) (source : Guest) (forkID name : String) :
    Held (w.withFork source forkID name) := by
  refine h.setStopped (.insert forkID _ _) rfl (fun _ hi => List.mem_cons_of_mem _ hi) ?_
  rintro _ ⟨⟩
  exact ⟨rfl, List.mem_cons_self⟩

theorem Held.restartServer (h : Held w) (host : Devices.ReconcileHost) :
    Held (restartServer w host) := by
  refine ⟨?_, h.used⟩
  rintro d i ⟨guest, hguest, huses, hd⟩
  have hrunning : w.isInstanceRunning i = true := by
    rw [World.isInstanceRunning, show w.guests.lookup i = some guest from hguest]
    exact huses
  exact Devices.holder_ReconcileDevices _ host w.devices d i hrunning
    (h.held ⟨guest, hguest, huses, hd⟩)

theorem Held.perform (h : Held w) (cfg : Network.Config) (op : Op) (hok : DevicesInOrder w op) :
    Held (perform cfg w op).2 := by
  cases op with
  | createInstance id req host => exact h.createInstance cfg id req host hok
  | startInstance id _ | restoreInstance id _ | vmmReports id _ =>
    exact h.revision (perform_revision cfg w rfl) fun _ => hok.1 id rfl
  | stopInstance _ _ | standbyInstance _ _ | removeSnapshot _ _ | hydrateBootMarkers _ _ _ =>
    exact h.revision (perform_revision cfg w rfl) fun hf => absurd hf Bool.false_ne_true
  | deleteInstance id host => exact h.deleteInstance id host hok
  | copySnapshot id snapshotID kind copyErr => exact h.copySnapshot id snapshotID kind copyErr
  | replaceInstance id snapshotID outcome => exact h.replaceInstance id snapshotID outcome
  | forkInstance id forkID name failed =>
    exact (forkInstance_spec w id forkID name failed).keeps h fun source _ _ =>
      h.withFork source forkID name
  | forkSnapshot snapshotID forkID name failed =>
    exact (forkSnapshot_spec w snapshotID forkID name failed).keeps h fun source _ _ =>
      h.withFork source forkID name
  | restartServer host => exact h.restartServer host
  | deleteSnapshot _ | deleteVolume _ _ => exact ⟨h.held, h.used⟩

theorem Held.leavesOthers (h : Held w) (cfg : Network.Config) {op : Op}
    (hok : DevicesInOrder w op) : LeavesOthers cfg w op := by
  intro id hid d j hne hother
  cases op with
  | deleteInstance id' host =>
    cases hid
    have hheld : Devices.holder w.devices d = some j := hother.elim (fun hh => hh) h.held
    rw [Instances.perform]
    obtain hsame | ⟨guest, hguest, hkill | ⟨pending, hdelete⟩⟩ := deleteInstance_cases w id host
    · rw [hsame]
    · rw [hkill]
      rfl
    · rw [hdelete]
      exact (releaseDevices_spared hok hguest).others d j hne hheld
  | _ => cases hid

variable {cfg : Network.Config} {devices : Devices.DeviceTable} {volumes : Volumes.VolumeTable}

theorem held_emptyHost : Held (emptyHost devices volumes) := by
  refine ⟨?_, fun _ _ h => (nomatch h)⟩
  rintro d i ⟨guest, hguest, -⟩
  cases hguest

/-- **Devices are used exclusively.** In every session whose operations find the devices in order, a
device is used by one running instance at most at every moment, and a deletion leaves the devices
that are attached to or used by another instance. -/
theorem devices_exclusive {s : Session}
    (hs : (sessions cfg (emptyHost devices volumes)).Reachable (Each DevicesInOrder) s) :
    ExclusiveUse s.world ∧
      ∀ e, Each DevicesInOrder s e → ∀ op ∈ s.op e, LeavesOthers cfg s.world op := by
  have hinv : Held s.world :=
    reachable_invariant held_emptyHost (fun _ op hI hok => hI.perform cfg op hok) hs
  exact ⟨hinv.exclusive, fun e hok op hop => hinv.leavesOthers cfg (hok op hop)⟩

/-! ## A session in which a deletion takes a device -/

/-- One registered device, not bound to VFIO. -/
def oneDevice : Devices.DeviceTable := (∅ : Devices.DeviceTable).insert "gpu" ⟨"gpu", false, none⟩

/-- An instance without networking that asks for the device. -/
def deviceRequest (name : String) : ResourceRequest := ⟨name, false, ["gpu"], [], "", true⟩

def createWithDevice (id name : String) : List Event :=
  [.call (.CreateInstance id (deviceRequest name) (quietCreate 0)), .proceed]

def deleteCall (id : String) : List Event := [.call (.DeleteInstance id quietDelete)]

theorem devices_exclusive_handedOver :
    ∃ s, (sessions Network.exampleConfig (emptyHost oneDevice ∅)).Reachable
      (Each DevicesInOrder) s ∧
      UsedBy s.world "gpu" "b" ∧ ExclusiveUse s.world := by
  obtain ⟨s, hs, g, hg, huses, hd⟩ :=
    (sessions Network.exampleConfig (emptyHost oneDevice ∅)).exists_reachable_of_replay
      (Each DevicesInOrder)
      (fun s => ∃ g ∈ s.world.guests.lookup "b", (deriveState g).usesDevices = true ∧
        "gpu" ∈ g.stored.devices)
      (List.flatten [createWithDevice "a" "web", stopFirst, deleteCall "a", [.proceed],
        createWithDevice "b" "db"])
      (by decide +kernel)
  exact ⟨s, hs, ⟨g, hg, huses, hd⟩, (devices_exclusive hs).1⟩

/-- Instance `a` is stopped, and a restart clears its attachment. Instance `b` is created with the
device, and runs. The deletion of `a` then detaches and unbinds the device of `b`. -/
theorem deletion_takes_device :
    ¬ ∀ s, (sessions Network.exampleConfig (emptyHost oneDevice ∅)).Reachable System.Always s →
      ExclusiveUse s.world ∧
        ∀ e, ∀ op ∈ s.op e, LeavesOthers Network.exampleConfig s.world op := by
  obtain ⟨s, hs, hop, hheld, -⟩ :=
    (sessions Network.exampleConfig (emptyHost oneDevice ∅)).exists_reachable_of_replay
      System.Always
      (fun s => (∃ op ∈ s.op .proceed, op.deletes = some "a" ∧
          ((perform Network.exampleConfig s.world op).2.devices.lookup "gpu" =
            some ⟨"gpu", false, none⟩)) ∧
        s.world.devices.lookup "gpu" = some ⟨"gpu", true, some "b"⟩ ∧
        s.world.isInstanceRunning "b" = true)
      (List.flatten [createWithDevice "a" "web", stopFirst,
        [.call (.RestartServer ⟨fun _ => none, fun _ => false, fun _ => false⟩), .proceed],
        createWithDevice "b" "db", deleteCall "a"])
      (by decide +kernel)
  obtain ⟨op, hmem, hdeletes, hafter⟩ := hop
  intro hall
  have hkept := (hall s hs).2 .proceed op hmem "a" hdeletes "gpu" "b" (by decide)
    (.inl (by rw [Devices.holder, hheld]; rfl))
  rw [hafter, hheld] at hkept
  cases hkept

end Hypeman.Instances
