import Hypeman.Instances.NetworkIdentity

/-!
# Rate limits of the TAP devices along histories

The TAP device of an instance is set up anew whenever its VM is brought up: by `createInstance` and
`startInstance` through `CreateAllocation`, and by `restoreInstance` through `CreateAllocation` or
`RecreateAllocation` (`lib/network/allocate.go`). Each of them builds its own request for the rate
limits. The bandwidths an instance was created with are in its metadata, and go into its snapshots
and forks with it.

* `requested_limits_are_stored`: the limits last requested for the device of an instance with a VMM
  are the bandwidths in its metadata, if the VM was brought up by a creation or a restore.
* `started_without_limits`: a session in which an instance is started, and runs without limits.
-/

namespace Hypeman.Instances

open Foundations

/-- `NetworkBandwidthDownload` and `NetworkBandwidthUpload` of `StoredMetadata`. -/
structure Bandwidth where
  download : Int64
  upload : Int64
deriving DecidableEq, Repr

/-- The rates of a `rateLimitRequest`. -/
structure RateLimits where
  downloadBps : Int64
  uploadBps : Int64
  uploadCeilBps : Int64
deriving DecidableEq, Repr

/-- The end of `CreateAllocation` and `RecreateAllocation`: nothing is enqueued when both rates are
zero. -/
def enqueueRateLimit (limits : RateLimits) : Option RateLimits :=
  if 0 < limits.downloadBps ∨ 0 < limits.uploadBps then some limits else none

/-- The operations that set up a TAP device. -/
inductive Allocator
  | create
  | start
  | restore
deriving DecidableEq, Repr

/-- The rates each of them asks for; `startInstance` leaves the fields of its request empty. -/
def Allocator.limits (burstMultiplier : Int64) (stored : Bandwidth) : Allocator → RateLimits
  | .create => ⟨stored.download, stored.upload, stored.upload * burstMultiplier⟩
  | .start => ⟨0, 0, 0⟩
  | .restore => ⟨stored.download, stored.upload, stored.upload * burstMultiplier⟩

/-- A TAP device: what set it up, and the limits last requested for it. -/
structure TapDevice where
  allocator : Allocator
  requested : Option RateLimits
deriving DecidableEq, Repr

/-- The bandwidths in the metadata of the instances and in the snapshot records, the instances
created or forked, and the TAP device last set up for each. -/
structure Rates where
  stored : String → Bandwidth
  snapshots : String → Bandwidth
  created : String → Bool
  taps : String → Option TapDevice

variable (cfg : Network.Config) (burstMultiplier : Int64) (w : World)

/-- `startInstance` comes to set up the TAP device. -/
def startSetsTap (id : String) (host : StartHost) : Bool :=
  match w.guests.lookup id with
  | none => false
  | some guest =>
    decide (deriveState guest = .stopped) && host.refused.isNone && guest.stored.networkEnabled &&
      (startNetwork cfg w id guest.stored.clearMarkers host.network).1.isOk

/-- `restoreInstance` comes to set up the TAP device. -/
def restoreSetsTap (id : String) (host : RestoreHost) : Bool :=
  match w.guests.lookup id with
  | none => false
  | some guest =>
    decide (deriveState guest = .standby) && host.refused.isNone && guest.stored.networkEnabled &&
      (restoreNetwork cfg w id guest.stored host).1.isOk

namespace Rates

def setTap (r : Rates) (id : String) (allocator : Allocator) : Rates :=
  let tap : TapDevice :=
    ⟨allocator, enqueueRateLimit (allocator.limits burstMultiplier (r.stored id))⟩
  { r with taps := fun k => if k = id then some tap else r.taps k }

/-- Set the bandwidths in the metadata of an instance. -/
def store (r : Rates) (id : String) (b : Bandwidth) : Rates :=
  { r with stored := fun k => if k = id then b else r.stored k }

/-- A new instance with these bandwidths, without a TAP device. -/
def add (r : Rates) (id : String) (b : Bandwidth) : Rates :=
  { r.store id b with
    created := fun k => if k = id then true else r.created k
    taps := fun k => if k = id then none else r.taps k }

/-- The effect of an internal operation; `requested` are the bandwidths of a creation. -/
def perform (requested : String → Bandwidth) (r : Rates) (op : Op) : Rates :=
  let done := (Instances.perform cfg w op).1.isNone
  match op with
  | .createInstance id req _ =>
    if done then
      let r := r.add id (requested id)
      if req.networkEnabled then r.setTap burstMultiplier id .create else r
    else r
  | .startInstance id host =>
    if startSetsTap cfg w id host then r.setTap burstMultiplier id .start else r
  | .restoreInstance id host =>
    if restoreSetsTap cfg w id host then r.setTap burstMultiplier id .restore else r
  | .copySnapshot id snapshotID _ _ =>
    if done then { r with
      snapshots := fun k => if k = snapshotID then r.stored id else r.snapshots k }
    else r
  | .replaceInstance id snapshotID outcome =>
    match w.snapshots.lookup snapshotID, w.guests.lookup id with
    | some record, some guest =>
      if record.sourceInstanceID = id ∧ deriveState guest ≠ .running then
        match outcome with
        | .notCleared _ _ | .notCopied _ false => r
        | .notCopied _ true | .notSaved _ | .done => r.store id (r.snapshots snapshotID)
      else r
    | _, _ => r
  | .forkInstance id forkID _ _ => if done then r.add forkID (r.stored id) else r
  | .forkSnapshot snapshotID forkID _ _ =>
    if done then r.add forkID (r.snapshots snapshotID) else r
  | .stopInstance _ _ | .standbyInstance _ _ | .removeSnapshot _ _ | .deleteInstance _ _
  | .deleteSnapshot _ | .restartServer _ | .deleteVolume _ _ | .vmmReports _ _
  | .hydrateBootMarkers _ _ _ => r

def none : Rates := ⟨fun _ => ⟨0, 0⟩, fun _ => ⟨0, 0⟩, fun _ => false, fun _ => .none⟩

end Rates

/-- The sessions of a host without instances, with the rates that are requested. -/
def ratedSessions (requested : String → Bandwidth) (devices : Devices.DeviceTable)
    (volumes : Volumes.VolumeTable) : System (Session × Rates) Event :=
  (sessions cfg (emptyHost devices volumes)).monitored .none fun r s e _ =>
    match s.op e with
    | none => r
    | some op => r.perform cfg burstMultiplier s.world requested op

/-! ## Where a VMM comes from -/

variable {cfg burstMultiplier w}

/-- Every instance with a VMM had one before, with networking enabled or not as now. -/
def KeepsVMM (w w' : World) : Prop :=
  ∀ id guest', w'.guests.lookup id = some guest' → guest'.vmm.isSome →
    ∃ guest, w.guests.lookup id = some guest ∧ guest.vmm.isSome ∧
      guest'.stored.networkEnabled = guest.stored.networkEnabled

theorem KeepsVMM.refl (w : World) : KeepsVMM w w :=
  fun _ guest hguest hvmm => ⟨guest, hguest, hvmm, rfl⟩

/-- One guest is set: without a VMM, or with one in the place of another. -/
theorem KeepsVMM.set {w' : World} {id : String} {new : Option Guest}
    (hset : Table.Sets id new w.guests w'.guests)
    (hnew : ∀ guest' ∈ new, guest'.vmm.isSome → ∃ guest, w.guests.lookup id = some guest ∧
      guest.vmm.isSome ∧ guest'.stored.networkEnabled = guest.stored.networkEnabled) :
    KeepsVMM w w' := by
  intro k guest' hguest' hvmm
  rcases hset.eq_some hguest' with ⟨rfl, hg⟩ | ⟨-, hg⟩
  · exact hnew guest' hg hvmm
  · exact ⟨guest', hg, hvmm, rfl⟩

theorem KeepsVMM.setGuest {id : String} {w₁ : World} {guest' : Guest}
    (hw : w₁.guests = w.guests) (hnew : guest'.vmm.isSome →
      ∃ guest, w.guests.lookup id = some guest ∧ guest.vmm.isSome ∧
        guest'.stored.networkEnabled = guest.stored.networkEnabled) :
    KeepsVMM w (w₁.setGuest id guest') := by
  have hset : Table.Sets id (some guest') w.guests (w₁.setGuest id guest').guests := by
    rw [← hw]
    exact .insert id guest' w₁.guests
  refine .set hset ?_
  rintro _ ⟨⟩
  exact hnew

theorem guests_releaseNetwork (w : World) (id : String) (stored : StoredMetadata) :
    (w.releaseNetwork id stored).guests = w.guests := by
  unfold World.releaseNetwork
  split <;> rfl

/-- A running instance has a VMM. -/
theorem vmm_of_running {guest : Guest} (h : deriveState guest = .running) : guest.vmm.isSome := by
  obtain ⟨stored, vmm, snapshot⟩ := guest
  cases vmm with
  | none => cases snapshot <;> cases h
  | some vmm => rfl

theorem stopInstance_vmm (id : String) (host : StopHost) :
    KeepsVMM w (stopInstance w id host).2 := by
  unfold stopInstance
  split
  · exact .refl w
  split
  · exact .refl w
  split
  · exact .refl w
  · exact .setGuest (guests_releaseNetwork w id _) nofun

theorem standbyInstance_vmm (id : String) (outcome : StandbyOutcome) :
    KeepsVMM w (standbyInstance w id outcome).2 := by
  unfold standbyInstance
  split
  · exact .refl w
  next guest hguest =>
  split
  · exact .refl w
  next hrunning =>
  have hvmm := vmm_of_running (not_not.mp hrunning)
  split
  · exact .refl w
  split
  · exact .setGuest rfl fun _ => ⟨guest, hguest, hvmm, rfl⟩
  · exact .setGuest (guests_releaseNetwork w id _) nofun

theorem removeSnapshot_vmm (id : String) (err : Option String) :
    KeepsVMM w (removeSnapshot w id err).2 := by
  unfold removeSnapshot
  split
  · exact .refl w
  next guest hguest =>
  split
  · exact .refl w
  · exact .setGuest rfl fun hvmm => ⟨guest, hguest, hvmm, rfl⟩

theorem vmmReports_vmm (id : String) (vmm : VMState) : KeepsVMM w (vmmReports w id vmm) := by
  unfold vmmReports
  split
  · exact .refl w
  next guest hguest =>
  split
  next hvmm => exact .setGuest rfl fun _ => ⟨guest, hguest, hvmm, rfl⟩
  next => exact .refl w

theorem hydrateBootMarkers_vmm (id : String) (programStarted guestAgentReady : Bool) :
    KeepsVMM w (hydrateBootMarkers w id programStarted guestAgentReady) := by
  unfold hydrateBootMarkers
  split
  · exact .refl w
  next guest hguest =>
  split
  · exact .setGuest rfl fun hvmm => ⟨guest, hguest, hvmm, rfl⟩
  · exact .refl w

theorem deleteInstance_vmm (id : String) (host : DeleteHost) :
    KeepsVMM w (deleteInstance w id host).2 := by
  obtain hsame | ⟨guest, -, hkill | ⟨pending, hdelete⟩⟩ := deleteInstance_cases w id host
  · rw [hsame]
    exact .refl w
  · rw [hkill]
    exact .setGuest rfl nofun
  · rw [hdelete]
    refine .set (sets_retained _ _ _ _) fun guest' hguest' hvmm => ?_
    split at hguest'
    · cases hguest'
      cases hvmm
    · cases hguest'

theorem replaceInstance_vmm (id snapshotID : String) (outcome : ReplaceOutcome) :
    KeepsVMM w (replaceInstance w id snapshotID outcome).2 := by
  obtain hsame | ⟨record, guest, -, -, -, hgone | ⟨-, -, name, hset⟩⟩ :=
    replaceInstance_cases w id snapshotID outcome
  · rw [hsame]
    exact .refl w
  · rw [hgone]
    exact .set (.erase id w.guests) nofun
  · rw [hset]
    exact .setGuest rfl nofun

/-- Bringing up a VM: nothing is set up and the guests stay, or one guest is set, and its TAP device
has been set up if it has networking. -/
def BringsUp (w : World) (id : String) (setsTap : Bool) (w' : World) : Prop :=
  w'.guests = w.guests ∧ setsTap = false ∨
    ∃ guest guest', w.guests.lookup id = some guest ∧ w'.guests = w.guests.insert id guest' ∧
      guest'.stored.networkEnabled = guest.stored.networkEnabled ∧
      setsTap = guest.stored.networkEnabled

/-- The network was set up for a call that may go on. -/
theorem BringsUp.of_ok {id : String} {may : Bool} {stored : StoredMetadata} {w' : World}
    {guest : Guest} (hguest : w.guests.lookup id = some guest) (hmay : may = true)
    (hset : ∃ w₁ guest', w₁.guests = w.guests ∧ w' = World.setGuest w₁ id guest' ∧
      guest'.stored.networkEnabled = guest.stored.networkEnabled) :
    BringsUp w id (may && guest.stored.networkEnabled && (Except.ok stored : Except String _).isOk)
      w' := by
  obtain ⟨w₁, guest', hw, rfl, henabled⟩ := hset
  refine .inr ⟨guest, guest', hguest, by rw [World.setGuest, hw], henabled, ?_⟩
  simp [hmay, Except.isOk, Except.toBool]

theorem startInstance_bringsUp (id : String) (host : StartHost) :
    BringsUp w id (startSetsTap cfg w id host) (startInstance cfg w id host).2 := by
  unfold startInstance startSetsTap
  cases hguest : w.guests.lookup id with
  | none => exact .inl ⟨rfl, rfl⟩
  | some guest =>
  dsimp only
  split
  next hstate => exact .inl ⟨rfl, by simp [hstate]⟩
  next hstate =>
  split
  next err hrefused => exact .inl ⟨rfl, by simp [hrefused]⟩
  next hrefused =>
  have hstep := startNetwork_step cfg w id guest.stored.clearMarkers host.network
  split
  next err w₁ heq =>
    rw [heq] at hstep ⊢
    exact .inl ⟨hstep.guests, by simp [Except.isOk, Except.toBool]⟩
  next stored w₁ heq =>
  rw [heq] at hstep ⊢
  have hnet : Networked w.guests guest.stored stored := by
    obtain ⟨hd, hv, he, hi⟩ := hstep.2 stored rfl
    exact ⟨hd, hv, he, hi⟩
  refine .of_ok hguest (by simp [not_not.mp hstate, hrefused]) ?_
  split
  · exact ⟨_, _, (guests_releaseNetwork w₁ id stored).trans hstep.guests, rfl, (hnet.ite _).enabled⟩
  · exact ⟨_, _, hstep.guests, rfl, (hnet.ite _).enabled⟩

theorem restoreInstance_bringsUp (id : String) (host : RestoreHost) :
    BringsUp w id (restoreSetsTap cfg w id host) (restoreInstance cfg w id host).2 := by
  unfold restoreInstance restoreSetsTap
  cases hguest : w.guests.lookup id with
  | none => exact .inl ⟨rfl, rfl⟩
  | some guest =>
  dsimp only
  split
  next hstate => exact .inl ⟨rfl, by simp [hstate]⟩
  next hstate =>
  split
  next err hrefused => exact .inl ⟨rfl, by simp [hrefused]⟩
  next hrefused =>
  have hstep := restoreNetwork_step cfg w id guest.stored host
  split
  next err w₁ heq =>
    rw [heq] at hstep ⊢
    exact .inl ⟨hstep.guests, by simp [Except.isOk, Except.toBool]⟩
  next stored w₁ heq =>
  rw [heq] at hstep ⊢
  refine .of_ok hguest (by simp [not_not.mp hstate, hrefused]) ?_
  split
  · exact ⟨_, _, (guests_releaseNetwork w₁ id stored).trans hstep.guests, rfl, rfl⟩
  · exact ⟨_, _, hstep.guests, rfl, ((hstep.2 stored rfl).ite _).enabled⟩

/-! ## The limits requested -/

/-- The device of every created instance with networking and a VMM was set up with the limits that
its allocator asks for. -/
def Limited (burstMultiplier : Int64) (w : World) (r : Rates) : Prop :=
  ∀ id guest, w.guests.lookup id = some guest → guest.vmm.isSome →
    guest.stored.networkEnabled = true → r.created id = true →
    ∃ allocator, r.taps id =
      some ⟨allocator, enqueueRateLimit (allocator.limits burstMultiplier (r.stored id))⟩

/-- An operation that brings up no VMM, and leaves the rates of the instances that have one. -/
theorem Limited.keeps {r r' : Rates} {w' : World} (h : Limited burstMultiplier w r)
    (hw : KeepsVMM w w')
    (hr : ∀ id guest', w'.guests.lookup id = some guest' → guest'.vmm.isSome →
      r'.created id = r.created id ∧ r'.taps id = r.taps id ∧ r'.stored id = r.stored id) :
    Limited burstMultiplier w' r' := by
  intro id guest' hguest' hvmm henabled hcreated
  obtain ⟨guest, hguest, hvmm', henabled'⟩ := hw id guest' hguest' hvmm
  obtain ⟨hc, ht, hs⟩ := hr id guest' hguest' hvmm
  rw [ht, hs]
  exact h id guest hguest hvmm' (henabled' ▸ henabled) (hc ▸ hcreated)

theorem Limited.same {r : Rates} {w' : World} (h : Limited burstMultiplier w r)
    (hw : KeepsVMM w w') : Limited burstMultiplier w' r :=
  h.keeps hw fun _ _ _ _ => ⟨rfl, rfl, rfl⟩

theorem Limited.bringsUp {r : Rates} {w' : World} {id : String} {setsTap : Bool}
    (h : Limited burstMultiplier w r) (hup : BringsUp w id setsTap w') (allocator : Allocator) :
    Limited burstMultiplier w'
      (if setsTap then r.setTap burstMultiplier id allocator else r) := by
  obtain ⟨hguests, rfl⟩ | ⟨guest, guest', -, hguests, henabled, rfl⟩ := hup
  · intro k g hg
    rw [hguests] at hg
    exact h k g hg
  intro k g hg hvmm hk hcreated
  rw [hguests, Table.lookup_insert] at hg
  by_cases heq : k = id
  · rw [if_pos heq] at hg
    cases hg
    rw [← henabled, hk]
    exact ⟨allocator, by rw [heq]; exact if_pos rfl⟩
  · rw [if_neg heq] at hg
    have hunchanged : ∀ b : Bool,
        (if b then r.setTap burstMultiplier id allocator else r).created k = r.created k ∧
        (if b then r.setTap burstMultiplier id allocator else r).taps k = r.taps k ∧
        (if b then r.setTap burstMultiplier id allocator else r).stored k = r.stored k := by
      intro b
      cases b
      · exact ⟨rfl, rfl, rfl⟩
      · exact ⟨rfl, if_neg heq, rfl⟩
    obtain ⟨hc, ht, hs⟩ := hunchanged guest.stored.networkEnabled
    rw [ht, hs]
    exact h k g hg hvmm hk (hc ▸ hcreated)

/-- A new instance that nothing is known of: the others keep their rates. -/
theorem Limited.add {r r' : Rates} {w' : World} {id : String} {new : Option Guest}
    (h : Limited burstMultiplier w r) (hset : Table.Sets id new w.guests w'.guests)
    (hr : ∀ k, k ≠ id →
      r'.created k = r.created k ∧ r'.taps k = r.taps k ∧ r'.stored k = r.stored k)
    (hnew : ∀ guest ∈ new, guest.vmm.isSome → guest.stored.networkEnabled = true →
      r'.created id = true → ∃ allocator, r'.taps id =
        some ⟨allocator, enqueueRateLimit (allocator.limits burstMultiplier (r'.stored id))⟩) :
    Limited burstMultiplier w' r' := by
  intro k guest hguest hvmm henabled hcreated
  rcases hset.eq_some hguest with ⟨rfl, hg⟩ | ⟨hne, hg⟩
  · exact hnew guest hg hvmm henabled hcreated
  · obtain ⟨hc, ht, hs⟩ := hr k hne
    rw [ht, hs]
    exact h k guest hg hvmm henabled (hc ▸ hcreated)

@[simp] theorem Rates.created_add (r : Rates) (id k : String) (b : Bandwidth) :
    (r.add id b).created k = if k = id then true else r.created k := rfl

theorem Rates.add_ne (r : Rates) {id k : String} (b : Bandwidth) (hne : k ≠ id) :
    (r.add id b).created k = r.created k ∧ (r.add id b).taps k = r.taps k ∧
      (r.add id b).stored k = r.stored k := ⟨if_neg hne, if_neg hne, if_neg hne⟩

theorem Limited.createInstance {r : Rates} (h : Limited burstMultiplier w r)
    (hcreated : ∀ id, r.created id = true → id ∈ w.used) (requested : String → Bandwidth)
    (id : String) (req : ResourceRequest) (host : CreateHost) :
    Limited burstMultiplier (createInstance cfg w id req host).2
      (r.perform cfg burstMultiplier w requested (.createInstance id req host)) := by
  have hperform : Instances.perform cfg w (.createInstance id req host) =
    Instances.createInstance cfg w id req host := rfl
  simp only [Rates.perform]
  obtain ⟨err, hsame⟩ | ⟨hfresh, c, hsound, ⟨err, hroll⟩ | ⟨-, hcommit⟩⟩ :=
    createInstance_spec cfg w id req host
  · simp only [hperform, hsame]
    exact h
  · simp only [hperform, hroll]
    obtain ⟨new, hset, -⟩ := rollback_guests w id host c
    exact h.add hset (fun _ _ => ⟨rfl, rfl, rfl⟩)
      fun _ _ _ _ hc => absurd (hcreated id hc) hfresh
  · simp only [hperform, hcommit, Option.isNone_none, if_true]
    refine h.add (.insert id _ w.guests) (fun k hne => ?_) ?_
    · split
      · exact ⟨if_neg hne, (if_neg hne).trans (if_neg hne), if_neg hne⟩
      · exact r.add_ne _ hne
    · rintro _ ⟨⟩ - hnet -
      rw [hsound.enabled] at hnet
      rw [if_pos hnet]
      exact ⟨.create, if_pos rfl⟩

/-- The directory that replaces an instance has no VMM. -/
theorem Limited.replaceInstance {r : Rates} (h : Limited burstMultiplier w r)
    (requested : String → Bandwidth) (id snapshotID : String) (outcome : ReplaceOutcome) :
    Limited burstMultiplier (replaceInstance w id snapshotID outcome).2
      (r.perform cfg burstMultiplier w requested (.replaceInstance id snapshotID outcome)) := by
  have hkeeps : Limited burstMultiplier (Instances.replaceInstance w id snapshotID outcome).2 r :=
    h.same (replaceInstance_vmm id snapshotID outcome)
  simp only [Rates.perform]
  split
  next record guest hrecord hguest =>
    split
    next hadmitted =>
      have hset : ∀ stored, Limited burstMultiplier
          (w.setGuest id ⟨stored, none, record.toGuest.snapshot⟩)
          (r.store id (r.snapshots snapshotID)) := by
        intro stored
        refine h.add (.insert id _ w.guests) (fun k hne => ⟨rfl, rfl, if_neg hne⟩) ?_
        rintro _ ⟨⟩
        exact nofun
      have hsource : ¬ record.sourceInstanceID ≠ id := not_not.mpr hadmitted.1
      cases outcome with
      | notCleared err gone => exact hkeeps
      | notCopied err copied =>
        cases copied with
        | false => exact hkeeps
        | true =>
          simp only [Instances.replaceInstance, hrecord, hguest, if_neg hsource, if_neg hadmitted.2]
          exact hset _
      | notSaved | done =>
        simp only [Instances.replaceInstance, hrecord, hguest, if_neg hsource, if_neg hadmitted.2]
        exact hset _
    next => exact hkeeps
  next => exact hkeeps

theorem Limited.forks {r : Rates} (h : Limited burstMultiplier w r) {isSource : Guest → Prop}
    {forkID name : String} {result : Option String × World}
    (hforks : Forks w isSource forkID name result) (b : Bandwidth) :
    Limited burstMultiplier result.2 (if result.1.isNone then r.add forkID b else r) := by
  obtain ⟨err, rfl⟩ | ⟨source, -, -, rfl⟩ := hforks
  · exact h
  · refine h.add (.insert forkID _ w.guests) (fun k hne => r.add_ne b hne) ?_
    rintro _ ⟨⟩
    exact nofun

/-- What sessions keep: the invariant, and the ids of the created instances are used. -/
structure Rates.Sound (burstMultiplier : Int64) (w : World) (r : Rates) : Prop where
  limited : Limited burstMultiplier w r
  used : ∀ id, r.created id = true → id ∈ w.used

theorem Rates.created_perform {r : Rates} {requested : String → Bandwidth} {op : Op}
    (hused : ∀ id, r.created id = true → id ∈ w.used) :
    ∀ id, (r.perform cfg burstMultiplier w requested op).created id = true →
      id ∈ (Instances.perform cfg w op).2.used := by
  have hold : ∀ id, r.created id = true → id ∈ (Instances.perform cfg w op).2.used :=
    fun id hid => (perform_populates cfg w op).used (hused id hid)
  have hadd : ∀ id b, id ∈ (Instances.perform cfg w op).2.used → ∀ k,
      (r.add id b).created k = true → k ∈ (Instances.perform cfg w op).2.used := by
    intro id b hid k hk
    rw [created_add] at hk
    split at hk
    next heq => exact heq ▸ hid
    next => exact hold k hk
  cases op with
  | createInstance id req host =>
    simp only [Rates.perform]
    split
    next hdone =>
      intro k hk
      refine hadd id (requested id) (perform_creates rfl hdone).2 k ?_
      split at hk <;> exact hk
    next => exact hold
  | startInstance _ _ | restoreInstance _ _ | copySnapshot _ _ _ _ =>
    intro k hk
    refine hold k ?_
    simp only [Rates.perform] at hk
    split at hk <;> exact hk
  | replaceInstance id snapshotID outcome =>
    intro k hk
    refine hold k ?_
    simp only [Rates.perform] at hk
    split at hk
    · split at hk
      · split at hk <;> exact hk
      · exact hk
    · exact hk
  | forkInstance id forkID name failed | forkSnapshot snapshotID forkID name failed =>
    simp only [Rates.perform]
    split
    next hdone => exact hadd forkID _ (perform_creates rfl hdone).2
    next => exact hold
  | _ => exact hold

/-- **One operation** keeps the invariant. -/
theorem Limited.perform {r : Rates} (h : Limited burstMultiplier w r)
    (hused : ∀ id, r.created id = true → id ∈ w.used) (requested : String → Bandwidth) (op : Op) :
    Limited burstMultiplier (Instances.perform cfg w op).2
      (r.perform cfg burstMultiplier w requested op) := by
  cases op with
  | createInstance id req host => exact h.createInstance hused requested id req host
  | startInstance id host => exact h.bringsUp (startInstance_bringsUp id host) .start
  | stopInstance id host => exact h.same (stopInstance_vmm id host)
  | standbyInstance id outcome => exact h.same (standbyInstance_vmm id outcome)
  | restoreInstance id host => exact h.bringsUp (restoreInstance_bringsUp id host) .restore
  | removeSnapshot id err => exact h.same (removeSnapshot_vmm id err)
  | deleteInstance id host => exact h.same (deleteInstance_vmm id host)
  | copySnapshot id snapshotID kind copyErr =>
    have hkeeps : KeepsVMM w
        (Instances.perform cfg w (.copySnapshot id snapshotID kind copyErr)).2 := by
      obtain hsame | ⟨guest, -, hcopy⟩ := copySnapshot_cases w id snapshotID kind copyErr
      · rw [Instances.perform, hsame]
        exact .refl w
      · rw [Instances.perform, hcopy]
        exact .refl w
    refine h.keeps hkeeps fun _ _ _ _ => ?_
    simp only [Rates.perform]
    split <;> exact ⟨rfl, rfl, rfl⟩
  | deleteSnapshot snapshotID => exact h
  | replaceInstance id snapshotID outcome => exact h.replaceInstance requested id snapshotID outcome
  | forkInstance id forkID name failed =>
    exact h.forks (forkInstance_spec w id forkID name failed) (r.stored id)
  | forkSnapshot snapshotID forkID name failed =>
    exact h.forks (forkSnapshot_spec w snapshotID forkID name failed) (r.snapshots snapshotID)
  | restartServer host => exact h
  | deleteVolume volumeID fails => exact h
  | vmmReports id vmm => exact h.same (vmmReports_vmm id vmm)
  | hydrateBootMarkers id programStarted guestAgentReady =>
    exact h.same (hydrateBootMarkers_vmm id programStarted guestAgentReady)

variable {requested : String → Bandwidth} {devices : Devices.DeviceTable}
  {volumes : Volumes.VolumeTable}

theorem rates_sound {x : Session × Rates}
    (hx : (ratedSessions cfg burstMultiplier requested devices volumes).Reachable System.Always x) :
    x.2.Sound burstMultiplier x.1.world := by
  refine System.Reachable.invariant
    (I := fun x : Session × Rates => x.2.Sound burstMultiplier x.1.world) ?_ ?_ hx
  · exact ⟨fun _ _ h => (nomatch h), fun _ h => (nomatch h)⟩
  · intro x e x' hI _ hstep
    obtain ⟨hsession, hrates⟩ := System.monitored_step_iff.mp hstep
    rw [hrates]
    rcases sessionStep_world hsession with ⟨hop, hsame⟩ | ⟨op, hop, hworld⟩
    · rw [hop, hsame]
      exact hI
    · rw [hop, hworld]
      exact ⟨hI.limited.perform hI.used requested op, Rates.created_perform hI.used⟩

/-- **The limits requested are the stored ones.** Of an instance that was created or forked, has
networking and positive bandwidths in its metadata and has a VMM, the limits last requested for its
TAP device are these bandwidths, if the device was set up by a creation or a restore. -/
theorem requested_limits_are_stored {x : Session × Rates} {id : String} {guest : Guest}
    (hx : (ratedSessions cfg burstMultiplier requested devices volumes).Reachable System.Always x)
    (hguest : x.1.world.guests.lookup id = some guest) (hcreated : x.2.created id = true)
    (hnetwork : guest.stored.networkEnabled = true) (hdownload : 0 < (x.2.stored id).download)
    (hvmm : guest.vmm.isSome)
    (hallocator : ∀ tap ∈ x.2.taps id, tap.allocator ≠ .start) :
    ∃ tap limits, x.2.taps id = some tap ∧ tap.requested = some limits ∧
      limits.downloadBps = (x.2.stored id).download ∧
      limits.uploadBps = (x.2.stored id).upload := by
  obtain ⟨allocator, htap⟩ := (rates_sound hx).limited id guest hguest hvmm hnetwork hcreated
  have hlimits : allocator.limits burstMultiplier (x.2.stored id) =
      Allocator.create.limits burstMultiplier (x.2.stored id) := by
    cases allocator with
    | create => rfl
    | start => exact absurd rfl (hallocator _ htap)
    | restore => rfl
  rw [hlimits] at htap
  exact ⟨_, Allocator.create.limits burstMultiplier (x.2.stored id), htap,
    if_pos (.inl hdownload), rfl, rfl⟩

/-- Bandwidths of 1000 and 500 bytes a second. -/
def narrow : Bandwidth := ⟨1000, 500⟩

/-- The sessions of a host on which such instances are created. -/
def narrowSessions : System (Session × Rates) Event :=
  ratedSessions Network.exampleConfig 4 (fun _ => narrow) ∅ ∅

/-- Instance `a` is suspended, and restored. -/
def standbyAndRestore : List Event :=
  [.call (.StandbyInstance "a" (.done none)), .proceed,
   .call (.RestoreInstance "a" (quietRestore 9)), .proceed]

theorem requested_limits_are_stored_restored :
    ∃ x guest, narrowSessions.Reachable System.Always x ∧
      x.1.world.guests.lookup "a" = some guest ∧ deriveState guest = .running ∧
      x.2.stored "a" = narrow ∧ ∃ tap limits, x.2.taps "a" = some tap ∧
        tap.allocator = .restore ∧ tap.requested = some limits ∧
        limits.downloadBps = (x.2.stored "a").download ∧
        limits.uploadBps = (x.2.stored "a").upload := by
  obtain ⟨x, hx, guest, hguest, hnetwork, hrunning, hcreated, hstored, tap, htap, hrestore⟩ :=
    narrowSessions.exists_reachable_of_replay System.Always
      (fun x => ∃ guest ∈ x.1.world.guests.lookup "a", guest.stored.networkEnabled = true ∧
        deriveState guest = .running ∧ x.2.created "a" = true ∧ x.2.stored "a" = narrow ∧
        ∃ tap ∈ x.2.taps "a", tap.allocator = .restore)
      (bootFirst ++ standbyAndRestore) (by decide +kernel)
  obtain ⟨tap', limits, htap', hlimits⟩ := requested_limits_are_stored hx hguest hcreated hnetwork
    (by rw [hstored]; decide) (vmm_of_running hrunning) (by
      intro t ht
      cases htap.symm.trans ht
      rw [hrestore]
      decide)
  cases htap.symm.trans htap'
  exact ⟨x, guest, hx, hguest, hrunning, hstored, tap, limits, htap, hrestore, hlimits⟩

/-- Instance `a` is created with bandwidths, stopped and started: it runs, and no limits have been
requested for its device. -/
theorem started_without_limits :
    ¬ ∀ x, narrowSessions.Reachable System.Always x → ∀ id guest,
      x.1.world.guests.lookup id = some guest → x.2.created id = true →
      guest.stored.networkEnabled = true → 0 < (x.2.stored id).download →
      0 < (x.2.stored id).upload → deriveState guest = .running →
      ∃ tap limits, x.2.taps id = some tap ∧ tap.requested = some limits ∧
        limits.downloadBps = (x.2.stored id).download ∧
        limits.uploadBps = (x.2.stored id).upload := by
  obtain ⟨x, hx, guest, hguest, hnetwork, hrunning, hcreated, hstored, tap, htap, hnone⟩ :=
    narrowSessions.exists_reachable_of_replay System.Always
      (fun x => ∃ guest ∈ x.1.world.guests.lookup "a", guest.stored.networkEnabled = true ∧
        deriveState guest = .running ∧ x.2.created "a" = true ∧ x.2.stored "a" = narrow ∧
        ∃ tap ∈ x.2.taps "a", tap.requested = none)
      (List.flatten [bootFirst, stopFirst, [.call (.StartInstance "a" (quietStart 4)), .proceed,
        .hydrateBootMarkers "a" true false]]) (by decide +kernel)
  intro hall
  obtain ⟨tap', limits, htap', hlimits, -⟩ := hall x hx "a" guest hguest hcreated hnetwork
    (by rw [hstored]; decide) (by rw [hstored]; decide) hrunning
  cases htap.symm.trans htap'
  rw [hnone] at hlimits
  cases hlimits

end Hypeman.Instances
