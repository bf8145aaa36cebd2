import Hypeman.Foundations.Results
import Hypeman.Foundations.Table

/-!
# Passthrough devices

The records of passthrough devices and the functions that attach, bind and reconcile them
(`lib/devices/manager.go`). A record names the instance the device is attached to; whether the
device is bound to VFIO is read from the host. Devices are neither registered nor unregistered here,
but a write that fails may lose the record of a device, which is then found by no function.
-/

namespace Hypeman.Devices

open Foundations

/-- The fields of `Device` that attaching and binding use. -/
structure Device where
  name : String
  boundToVfio : Bool
  attachedTo : Option String
deriving DecidableEq, Repr

abbrev DeviceTable := Table String Device

/-- The errors of the device manager; `failed` is a failure of the host or of a write. -/
inductive DeviceError
  | notFound
  | inUse
  | notBound
  | alreadyBound
  | failed (err : String)
deriving DecidableEq, Repr

def DeviceError.text : DeviceError → String
  | .notFound => "device not found"
  | .inUse => "device is in use"
  | .notBound => "device is not bound to VFIO"
  | .alreadyBound => "device is already bound to VFIO"
  | .failed err => err

/-- How a change of a driver binding ends. After `failedAfter` the host has changed the binding, and
only a later step failed, such as the writing of the record. -/
inductive HostOutcome
  | done
  | failedBefore (err : String)
  | failedAfter (failure : WriteFailure)
deriving DecidableEq, Repr

/-- The record of the device is lost. -/
def HostOutcome.loses : HostOutcome → Bool
  | .failedAfter failure => failure.lost
  | .done | .failedBefore _ => false

variable (devices : DeviceTable)

/-- `findByName`; names are unique, so the order of the directory does not matter. -/
def findByName (name : String) : Option (String × Device) :=
  (devices.entries.find? fun e => e.2.name = name).map fun e => (e.1, e.2)

/-- `GetDevice`: by id, then by name. The other functions look devices up in the same way. -/
def GetDevice (idOrName : String) : Option (String × Device) :=
  match devices.lookup idOrName with
  | some device => some (idOrName, device)
  | none => findByName devices idOrName

def rebind (id : String) (device : Device) : HostOutcome → Option DeviceError × DeviceTable
  | .done => (none, devices.insert id device)
  | .failedBefore err => (some (.failed err), devices)
  | .failedAfter failure => (some (.failed failure.err),
      if failure.lost then devices.erase id else devices.insert id device)

def BindToVfio (idOrName : String) (outcome : HostOutcome) : Option DeviceError × DeviceTable :=
  match GetDevice devices idOrName with
  | none => (some .notFound, devices)
  | some (id, device) =>
    if device.boundToVfio then (some .alreadyBound, devices)
    else rebind devices id { device with boundToVfio := true } outcome

def UnbindFromVfio (idOrName : String) (outcome : HostOutcome) : Option DeviceError × DeviceTable :=
  match GetDevice devices idOrName with
  | none => (some .notFound, devices)
  | some (id, device) =>
    if device.attachedTo ≠ none then (some .inUse, devices)
    else if device.boundToVfio = false then (some .notBound, devices)
    else rebind devices id { device with boundToVfio := false } outcome

def saveDevice (id : String) (device : Device) :
    Option WriteFailure → Option DeviceError × DeviceTable
  | none => (none, devices.insert id device)
  | some failure =>
    (some (.failed failure.err), if failure.lost then devices.erase id else devices)

def MarkAttached (deviceID instanceID : String) (fails : Option WriteFailure) :
    Option DeviceError × DeviceTable :=
  match GetDevice devices deviceID with
  | none => (some .notFound, devices)
  | some (id, device) =>
    if device.attachedTo ≠ none then (some .inUse, devices)
    else saveDevice devices id { device with attachedTo := some instanceID } fails

/-- `MarkDetached`; whose attachment it clears is not asked. -/
def MarkDetached (deviceID : String) (fails : Option WriteFailure) :
    Option DeviceError × DeviceTable :=
  match GetDevice devices deviceID with
  | none => (some .notFound, devices)
  | some (id, device) => saveDevice devices id { device with attachedTo := none } fails

/-- What the host does during a reconciliation: the records that cannot be written when their
attachment is cleared, the devices that are bound to VFIO after their reset, and the records that
are lost when that is written. -/
structure ReconcileHost where
  saveFails : String → Option WriteFailure
  stillBound : String → Bool
  resetLoses : String → Bool

/-- `ReconcileDevices` for one device: the attachment to an instance that does not run is cleared
and the device is reset. -/
def reconcileDevice (isInstanceRunning : String → Bool) (host : ReconcileHost)
    (devices : DeviceTable) (id : String) : DeviceTable :=
  match devices.lookup id with
  | none => devices
  | some device =>
    match device.attachedTo with
    | none => devices
    | some holder =>
      if isInstanceRunning holder then devices
      else match saveDevice devices id { device with attachedTo := none } (host.saveFails id) with
        | (some _, devices) => devices
        | (none, devices) =>
          if host.resetLoses id then devices.erase id
          else devices.insert id { device with
            attachedTo := none, boundToVfio := host.stillBound id }

def ReconcileDevices (isInstanceRunning : String → Bool) (host : ReconcileHost) : DeviceTable :=
  devices.keys.foldl (reconcileDevice isInstanceRunning host) devices

variable {devices} {ref id instanceID : String} {device : Device} {fails : Option WriteFailure}
  {devices' : DeviceTable} {new : Option Device}

theorem GetDevice_of_lookup (h : devices.lookup id = some device) :
    GetDevice devices id = some (id, device) := by
  simp only [GetDevice, h]

theorem lookup_of_GetDevice (h : GetDevice devices ref = some (id, device)) :
    devices.lookup id = some device := by
  unfold GetDevice at h
  split at h
  next d hd =>
    cases h
    exact hd
  next =>
    obtain ⟨e, he, heq⟩ := Option.map_eq_some_iff.mp h
    cases heq
    exact AList.mem_lookup_iff.mpr (List.mem_of_find?_eq_some he)

/-- The instance the device record names, if there is one. -/
def holder (devices : DeviceTable) (id : String) : Option String :=
  (devices.lookup id).bind Device.attachedTo

theorem holder_of_GetDevice (h : GetDevice devices ref = some (id, device)) :
    holder devices id = device.attachedTo := by
  simp only [holder, lookup_of_GetDevice h, Option.bind_some]

theorem holder_of_sets (h : Table.Sets id new devices devices') (k : String) :
    holder devices' k = if k = id then new.bind Device.attachedTo else holder devices k := by
  unfold holder
  rw [h k]
  split
  · rfl
  · rfl

/-- A registered device is found by its id, so every operation that names it changes only it. -/
theorem GetDevice_of_isSome (hid : (devices.lookup id).isSome) :
    ∃ device, devices.lookup id = some device ∧ GetDevice devices id = some (id, device) := by
  obtain ⟨device, hdevice⟩ := Option.isSome_iff_exists.mp hid
  exact ⟨device, hdevice, GetDevice_of_lookup hdevice⟩

/-! ## One device at a time -/

/-- What is left of the record of a device: nothing, or a record with its name, whose attachment may
have been cleared. -/
def Device.Remains (device : Device) (new : Option Device) : Prop :=
  ∀ device' ∈ new, device'.name = device.name ∧
    (device'.attachedTo = device.attachedTo ∨ device'.attachedTo = none)

theorem Device.remains_some {device' : Device} (hname : device'.name = device.name)
    (hattached : device'.attachedTo = device.attachedTo ∨ device'.attachedTo = none) :
    device.Remains (some device') := by
  rintro _ ⟨⟩
  exact ⟨hname, hattached⟩

theorem Device.Remains.trans {device' : Device} (h : device.Remains (some device'))
    (h' : device'.Remains new) : device.Remains new := by
  intro device'' hnew
  obtain ⟨hname, hattached⟩ := h device' rfl
  obtain ⟨hname', hattached'⟩ := h' device'' hnew
  refine ⟨hname'.trans hname, ?_⟩
  rcases hattached' with hsame | hnone
  · exact hattached.imp hsame.trans hsame.trans
  · exact .inr hnone

/-- The record stays as it is. -/
theorem Device.remains_self (h : devices.lookup id = some device) (P : Prop) :
    ∃ new, Table.Sets id new devices devices ∧ device.Remains new ∧ (new = none → P) :=
  ⟨some device, h ▸ .refl id devices, device.remains_some rfl (.inl rfl), nofun⟩

/-- A change of the binding leaves the attachment, unless the record is lost. -/
theorem rebind_sets (h : devices.lookup id = some device) (bound : Bool) (outcome : HostOutcome) :
    ∃ new, Table.Sets id new devices (rebind devices id { device with boundToVfio := bound }
        outcome).2 ∧ device.Remains new ∧ (new = none → outcome.loses = true) := by
  have hset : ∃ new, Table.Sets id new devices
      (devices.insert id { device with boundToVfio := bound }) ∧ device.Remains new ∧
        (new = none → outcome.loses = true) :=
    ⟨_, .insert id _ devices, device.remains_some rfl (.inl rfl), nofun⟩
  cases outcome with
  | done => exact hset
  | failedBefore err => exact Device.remains_self h _
  | failedAfter failure =>
    simp only [rebind]
    split
    next hlost => exact ⟨_, .erase id devices, nofun, fun _ => hlost⟩
    next => exact hset

/-- Binding leaves a free device free, and its record is there after a success. -/
theorem BindToVfio_sets (hid : (devices.lookup id).isSome) (outcome : HostOutcome) :
    ∃ new, Table.Sets id new devices (BindToVfio devices id outcome).2 ∧
      (holder devices id = none → new.bind Device.attachedTo = none) ∧
      ((BindToVfio devices id outcome).1 = none → new.isSome) := by
  obtain ⟨device, hdevice, hget⟩ := GetDevice_of_isSome hid
  simp only [BindToVfio, hget]
  split
  · exact ⟨_, .refl id devices, fun hfree => hfree, nofun⟩
  obtain ⟨new, hset, hremains, -⟩ := rebind_sets hdevice true outcome
  refine ⟨new, hset, fun hfree => ?_, fun hdone => ?_⟩
  · rw [holder_of_GetDevice hget] at hfree
    cases new with
    | none => rfl
    | some device' =>
      rcases (hremains device' rfl).2 with hsame | hnone
      · exact hsame.trans hfree
      · exact hnone
  · cases outcome with
    | done =>
      have hself := hset id
      rw [if_pos rfl, rebind, Table.lookup_insert, if_pos rfl] at hself
      rw [← hself]
      rfl
    | failedBefore err => cases hdone
    | failedAfter failure => cases hdone

/-- Attaching; a failure leaves the record of the device or loses it. -/
theorem MarkAttached_sets (hid : (devices.lookup id).isSome) (instanceID : String)
    (fails : Option WriteFailure) :
    ∃ new, Table.Sets id new devices (MarkAttached devices id instanceID fails).2 ∧
      ((MarkAttached devices id instanceID fails).1 = none ∧
          new.bind Device.attachedTo = some instanceID ∨
        (MarkAttached devices id instanceID fails).1 ≠ none ∧
          (new = none ∨ new = devices.lookup id)) := by
  obtain ⟨device, hdevice, hget⟩ := GetDevice_of_isSome hid
  simp only [MarkAttached, hget]
  split
  · exact ⟨_, .refl id devices, .inr ⟨nofun, .inr rfl⟩⟩
  cases fails with
  | none => exact ⟨_, .insert id _ devices, .inl ⟨rfl, rfl⟩⟩
  | some failure =>
    simp only [saveDevice]
    split
    · exact ⟨_, .erase id devices, .inr ⟨nofun, .inl rfl⟩⟩
    · exact ⟨_, .refl id devices, .inr ⟨nofun, .inr rfl⟩⟩

theorem MarkDetached_sets (hget : GetDevice devices ref = some (id, device))
    (fails : Option WriteFailure) :
    ∃ new, Table.Sets id new devices (MarkDetached devices ref fails).2 ∧ device.Remains new ∧
      (new = none → ∃ failure ∈ fails, failure.lost = true) := by
  simp only [MarkDetached, hget]
  cases fails with
  | none => exact ⟨_, .insert id _ devices, device.remains_some rfl (.inr rfl), nofun⟩
  | some failure =>
    simp only [saveDevice]
    split
    next hlost => exact ⟨_, .erase id devices, nofun, fun _ => ⟨failure, rfl, hlost⟩⟩
    next => exact Device.remains_self (lookup_of_GetDevice hget) _

/-- Mark the devices as detached, with the errors ignored. -/
def detachDevices (fails : String → Option WriteFailure) (ids : List String)
    (devices : DeviceTable) : DeviceTable :=
  ids.foldl (fun devices id => (MarkDetached devices id (fails id)).2) devices

/-- Different devices that are registered are detached one by one, and the others stay. -/
theorem lookup_detachDevices (fails : String → Option WriteFailure) {ids : List String}
    (hnodup : ids.Nodup) {devices : DeviceTable} (hids : ∀ id ∈ ids, (devices.lookup id).isSome)
    {k : String} (hk : k ∉ ids) :
    (detachDevices fails ids devices).lookup k = devices.lookup k := by
  induction ids generalizing devices with
  | nil => rfl
  | cons id ids ih =>
    obtain ⟨hid, hnodup⟩ := List.nodup_cons.mp hnodup
    obtain ⟨device, -, hget⟩ := GetDevice_of_isSome (hids id List.mem_cons_self)
    obtain ⟨new, hset, -⟩ := MarkDetached_sets hget (fails id)
    rw [List.mem_cons, not_or] at hk
    refine (ih hnodup (fun d hd => ?_) hk.2).trans ((hset k).trans (if_neg hk.1))
    rw [hset d, if_neg (by rintro rfl; exact hid hd)]
    exact hids d (List.mem_cons_of_mem _ hd)

/-! ## Releasing the devices of an instance -/

/-- What releases on behalf of an instance leave: the records attached to others are as before, and
every other one is what remains of a record, or lost. -/
structure Spared (instanceID : String) (loses : Prop) (devices devices' : DeviceTable) : Prop where
  others : ∀ k owner, owner ≠ instanceID → holder devices k = some owner →
    devices'.lookup k = devices.lookup k
  remains : ∀ k device, devices'.lookup k = some device →
    ∃ before, devices.lookup k = some before ∧ before.Remains (some device)
  lost : ∀ k, devices'.lookup k = none → devices.lookup k = none ∨ loses

/-- The device is attached to the instance or to none. -/
def Device.Yields (device : Device) (instanceID : String) : Prop :=
  device.attachedTo = none ∨ device.attachedTo = some instanceID

instance (device : Device) (instanceID : String) : Decidable (device.Yields instanceID) :=
  inferInstanceAs (Decidable (_ ∨ _))

theorem Device.Remains.yields {device' : Device} (h : device.Remains (some device'))
    (hyields : device.Yields instanceID) : device'.Yields instanceID := by
  rcases (h device' rfl).2 with hsame | hnone
  · exact hyields.imp hsame.trans hsame.trans
  · exact .inl hnone

namespace Spared

variable {loses : Prop} {start : DeviceTable}

theorem refl (instanceID : String) (loses : Prop) (devices : DeviceTable) :
    Spared instanceID loses devices devices :=
  ⟨fun _ _ _ _ => rfl, fun _ device h => ⟨device, h, device.remains_some rfl (.inl rfl)⟩,
    fun _ h => .inl h⟩

/-- One more record is released. -/
theorem release (h : Spared instanceID loses start devices)
    (hdevice : devices.lookup id = some device) (hyields : device.Yields instanceID)
    (hset : Table.Sets id new devices devices') (hremains : device.Remains new)
    (hloses : new = none → loses) : Spared instanceID loses start devices' where
  others k owner hne hheld := by
    have hsame := h.others k owner hne hheld
    rw [hset k, if_neg, hsame]
    rintro rfl
    rw [holder, ← hsame, hdevice, Option.bind_some] at hheld
    rcases hyields with hnone | hown
    · cases hnone.symm.trans hheld
    · exact hne (Option.some.inj (hheld.symm.trans hown))
  remains k device' hk := by
    rcases hset.eq_some hk with ⟨rfl, rfl⟩ | ⟨-, hold⟩
    · obtain ⟨before, hbefore, hfirst⟩ := h.remains _ device hdevice
      exact ⟨before, hbefore, hfirst.trans hremains⟩
    · exact h.remains k device' hold
  lost k hk := by
    rw [hset k] at hk
    split at hk
    · exact .inr (hloses hk)
    · exact h.lost k hk

/-- The record that a reference means yields to the instance, if it did so at the start: the one
with this id, and those with this name where records are lost. -/
theorem yields (h : Spared instanceID loses start devices)
    (hget : GetDevice devices ref = some (id, device))
    (hid : ∀ before ∈ start.lookup ref, before.Yields instanceID)
    (hname : start.lookup ref = none ∨ loses →
      ∀ e ∈ start.entries, e.2.name = ref → e.2.Yields instanceID) :
    device.Yields instanceID := by
  obtain ⟨before, hbefore, hremains⟩ := h.remains id device (lookup_of_GetDevice hget)
  refine hremains.yields ?_
  unfold GetDevice at hget
  split at hget
  next =>
    cases hget
    exact hid before hbefore
  next hnone =>
    obtain ⟨e, he, heq⟩ := Option.map_eq_some_iff.mp hget
    cases heq
    have hfound : e.2.name = ref := by simpa using List.find?_some he
    refine hname (h.lost ref hnone) ⟨e.1, before⟩ (AList.mem_lookup_iff.mp hbefore) ?_
    exact (hremains e.2 rfl).1.symm.trans hfound

theorem markDetached (h : Spared instanceID loses start devices)
    (hid : ∀ before ∈ start.lookup ref, before.Yields instanceID)
    (hname : start.lookup ref = none ∨ loses →
      ∀ e ∈ start.entries, e.2.name = ref → e.2.Yields instanceID)
    (hloses : ∀ failure ∈ fails, failure.lost = true → loses) :
    Spared instanceID loses start (MarkDetached devices ref fails).2 := by
  cases hget : GetDevice devices ref with
  | none =>
    simp only [MarkDetached, hget]
    exact h
  | some r =>
    obtain ⟨k, device⟩ := r
    obtain ⟨new, hset, hremains, hlost⟩ := MarkDetached_sets hget fails
    refine h.release (lookup_of_GetDevice hget) (h.yields hget hid hname) hset hremains ?_
    intro hnew
    obtain ⟨failure, hmem, hl⟩ := hlost hnew
    exact hloses failure hmem hl

/-- Only free devices are unbound. -/
theorem unbindFromVfio (h : Spared instanceID loses start devices) {outcome : HostOutcome}
    (hloses : outcome.loses = true → loses) :
    Spared instanceID loses start (UnbindFromVfio devices ref outcome).2 := by
  unfold UnbindFromVfio
  split
  · exact h
  next k device hget =>
  split
  · exact h
  next hfree =>
  split
  · exact h
  have hdevice := lookup_of_GetDevice hget
  obtain ⟨new, hset, hremains, hlost⟩ := rebind_sets hdevice false outcome
  exact h.release hdevice (.inl (not_not.mp hfree)) hset hremains fun hnew => hloses (hlost hnew)

end Spared

/-! ## Reconciliation -/

/-- One step of a reconciliation takes a device from no running instance. -/
theorem holder_reconcileDevice (running : String → Bool) (host : ReconcileHost)
    (devices : DeviceTable) (id k inst : String) (hrun : running inst = true)
    (h : holder devices k = some inst) :
    holder (reconcileDevice running host devices id) k = some inst := by
  unfold reconcileDevice
  split
  · exact h
  next device hdevice =>
  split
  · exact h
  next owner howner =>
  split
  · exact h
  next hstays =>
  -- only the record of this device changes, which another instance holds
  have hne : k ≠ id := by
    rintro rfl
    rw [holder, hdevice, Option.bind_some, howner] at h
    cases h
    exact hstays hrun
  have hkeep : ∀ {new : Option Device} {devices' : DeviceTable},
      Table.Sets id new devices devices' → holder devices' k = some inst := by
    intro new devices' hset
    rw [holder_of_sets hset, if_neg hne]
    exact h
  unfold saveDevice
  split
  next heq =>
    split at heq
    · cases heq
    · cases heq
      split
      · exact hkeep (.erase id devices)
      · exact h
  next heq =>
    split at heq
    · cases heq
      split
      · exact hkeep ((Table.Sets.insert id _ devices).trans (.erase id _))
      · exact hkeep ((Table.Sets.insert id _ devices).trans (.insert id _ _))
    · cases heq

/-- A reconciliation takes a device from no running instance. -/
theorem holder_ReconcileDevices (running : String → Bool) (host : ReconcileHost)
    (devices : DeviceTable) (k inst : String) (hrun : running inst = true)
    (h : holder devices k = some inst) :
    holder (ReconcileDevices devices running host) k = some inst := by
  unfold ReconcileDevices
  induction devices.keys generalizing devices with
  | nil => exact h
  | cons id ids ih => exact ih _ (holder_reconcileDevice running host devices id k inst hrun h)

end Hypeman.Devices
