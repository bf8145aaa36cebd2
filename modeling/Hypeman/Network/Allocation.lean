import Hypeman.Foundations.Table
import Hypeman.Network.Address

/-!
# Allocations on the default network

Model of `lib/network/derive.go` and of the locked part of `CreateAllocation`. The allocations that
exist are read off the metadata of the guest directories; an identity that has been chosen but not
saved yet is kept in a map of pending allocations, whose entries are dropped by the listing as soon
as the metadata of the instance yields an allocation.

* `mem_listAllocations_of_onDisk`, `mem_listAllocations_of_pending`: what a listing returns, and
  `listAllocations_pending`: what it leaves pending.
* `reserve_spec`: the identity reserved differs from every listed one.
-/

namespace Hypeman.Network

open Hypeman.Foundations Hypeman.Foundations.Strings

/-- `Network`, the default network; `ipNet` is what `net.ParseCIDR` makes of the subnet. -/
structure DefaultNetwork where
  name : String
  subnet : String
  ipNet : Option IPNet
  gateway : String

/-- The manager's configuration: the default network and the DNS server given to guests. -/
structure Config where
  network : DefaultNetwork
  dnsServer : String

/-- `Allocation.State`. -/
inductive AllocationState
  | running
  | standby
  | stopped
  | pending
deriving DecidableEq, Repr

/-- `Allocation`; the network is always `default`. -/
structure Allocation where
  instanceID : String
  instanceName : String
  ip : String
  mac : String
  tapDevice : String
  gateway : String
  netmask : String
  dns : String
  state : AllocationState
  classID : String
deriving DecidableEq, Repr

structure NetworkConfig where
  ip : String
  mac : String
  gateway : String
  netmask : String
  dns : String
  tapDevice : String
deriving DecidableEq, Repr

/-- `AllocateRequest`, without the rate limits. -/
structure AllocateRequest where
  instanceID : String
  instanceName : String
deriving DecidableEq, Repr

/-- `instanceMetadata`, the part of `metadata.json` the network manager reads. -/
structure InstanceMetadata where
  name : String
  networkEnabled : Bool
  ip : String
  mac : String
deriving DecidableEq, Repr

/-- A guest directory: the metadata file, if it can be read, whether the control socket and the
snapshot configuration exist, and the class id file. -/
structure Guest where
  metadata : Option InstanceMetadata
  socket : Bool
  snapshotConfig : Bool
  classID : String
deriving DecidableEq, Repr

def GenerateTAPName (instanceID : String) : String :=
  "hype-" ++ toLower (String.ofList (instanceID.toList.take 8))

def netmaskString (n : IPNet) : String := ipString n.mask

def deriveAllocation (cfg : Config) (instanceID : String) (guest : Guest) :
    Except String (Option Allocation) :=
  match guest.metadata with
  | none => .error "read metadata"
  | some md =>
    if !md.networkEnabled then .ok none
    else match cfg.network.ipNet with
      | none => .error "parse subnet CIDR"
      | some n =>
        if md.ip ≠ "" ∧ md.mac ≠ "" then
          .ok (some {
            instanceID := instanceID
            instanceName := md.name
            ip := md.ip
            mac := md.mac
            tapDevice := GenerateTAPName instanceID
            gateway := cfg.network.gateway
            netmask := netmaskString n
            dns := cfg.dnsServer
            state := if guest.socket then .running
              else if guest.snapshotConfig then .standby else .stopped
            classID := guest.classID })
        else .ok none

/-- The allocation derived from a guest, with failures skipped. -/
def derived (cfg : Config) (instanceID : String) (guest : Guest) : Option Allocation :=
  match deriveAllocation cfg instanceID guest with
  | .ok alloc => alloc
  | .error _ => none

def ListAllocations (cfg : Config) (guests : Table String Guest) : List Allocation :=
  guests.entries.filterMap fun g => derived cfg g.1 g.2

/-- The pending allocations left by a listing. -/
def dropSeen (allocations : List Allocation) (pending : Table String Allocation) :
    Table String Allocation :=
  allocations.foldl (fun p alloc => p.erase alloc.instanceID) pending

/-- A pending allocation as it is listed, with the class id saved for its instance. -/
def listedPending (guests : Table String Guest) (id : String) (alloc : Allocation) : Allocation :=
  if alloc.classID = "" then
    { alloc with classID := ((guests.lookup id).map (·.classID)).getD "" }
  else alloc

/-- `listAllocationsWithPendingLocked`: the derived allocations followed by those still pending,
and the pending map it leaves. -/
def listAllocationsWithPending (cfg : Config) (guests : Table String Guest)
    (pending : Table String Allocation) : List Allocation × Table String Allocation :=
  let allocations := ListAllocations cfg guests
  let pending := dropSeen allocations pending
  (allocations ++ pending.entries.map (fun e => listedPending guests e.1 e.2), pending)

def nameExistsInAllocations (allocations : List Allocation) (name excludeInstanceID : String) :
    Bool :=
  allocations.any fun alloc =>
    !(excludeInstanceID != "" && alloc.instanceID == excludeInstanceID) &&
      alloc.instanceName == name

/-- What `reserveAllocationIdentityLocked` takes from outside: whether the guests directory can be
read, and the random draws. -/
structure Draws where
  readDir : Option String
  ip : Fin 5 → Nat
  mac : Fin 5 → Except String Nat

/-- `reserveAllocationIdentityLocked`: the identity, or the error, and the pending map it leaves. -/
def reserveAllocationIdentity (cfg : Config) (guests : Table String Guest)
    (pending : Table String Allocation) (req : AllocateRequest) (draws : Draws) :
    Except String NetworkConfig × Table String Allocation :=
  match draws.readDir with
  | some err => (.error s!"list allocations: read guests dir: {err}", pending)
  | none =>
    let (allocations, pending) := listAllocationsWithPending cfg guests pending
    if nameExistsInAllocations allocations req.instanceName req.instanceID then
      (.error ("instance name already exists: instance name '" ++ req.instanceName ++
        "' already exists, can't assign into same network: " ++ cfg.network.name), pending)
    else match allocateNextIP cfg.network.subnet cfg.network.ipNet (allocations.map (·.ip))
        draws.ip with
      | .error err => (.error s!"allocate IP: {err}", pending)
      | .ok ip =>
        match allocateUniqueMAC (allocations.map (·.mac)) draws.mac with
        | .error err => (.error s!"allocate MAC: {err}", pending)
        | .ok mac =>
          let netmask := (cfg.network.ipNet.map netmaskString).getD ""
          let tap := GenerateTAPName req.instanceID
          (.ok {
            ip := ip
            mac := mac
            gateway := cfg.network.gateway
            netmask := netmask
            dns := cfg.dnsServer
            tapDevice := tap },
          pending.insert req.instanceID {
            instanceID := req.instanceID
            instanceName := req.instanceName
            ip := ip
            mac := mac
            tapDevice := tap
            gateway := cfg.network.gateway
            netmask := netmask
            dns := cfg.dnsServer
            state := .pending
            classID := "" })

/-! ## What a listing returns -/

variable {cfg : Config} {guests : Table String Guest} {pending : Table String Allocation}

/-- The allocation that the stored metadata of an instance yields. -/
def onDisk (cfg : Config) (guests : Table String Guest) (id : String) : Option Allocation :=
  (guests.lookup id).bind (derived cfg id)

theorem derived_eq_some {id : String} {guest : Guest} {alloc : Allocation}
    (h : derived cfg id guest = some alloc) :
    ∃ md, guest.metadata = some md ∧ md.networkEnabled = true ∧ md.ip ≠ "" ∧ md.mac ≠ "" ∧
      alloc.instanceID = id ∧ alloc.instanceName = md.name ∧ alloc.ip = md.ip ∧
      alloc.mac = md.mac := by
  unfold derived deriveAllocation at h
  cases hm : guest.metadata with
  | none => simp [hm] at h
  | some md =>
    cases hn : cfg.network.ipNet with
    | none => cases he : md.networkEnabled <;> simp [hm, hn, he] at h
    | some n =>
      cases he : md.networkEnabled with
      | false => simp [hm, he] at h
      | true =>
        simp only [hm, hn, he, Bool.not_true, Bool.false_eq_true, if_false] at h
        by_cases hid : md.ip ≠ "" ∧ md.mac ≠ ""
        · rw [if_pos hid] at h
          cases h
          exact ⟨md, rfl, he, hid.1, hid.2, rfl, rfl, rfl, rfl⟩
        · rw [if_neg hid] at h
          cases h

theorem onDisk_instanceID {id : String} {alloc : Allocation}
    (h : onDisk cfg guests id = some alloc) : alloc.instanceID = id := by
  obtain ⟨g, -, hg⟩ := Option.bind_eq_some_iff.mp h
  obtain ⟨_, _, _, _, _, hid, _⟩ := derived_eq_some hg
  exact hid

theorem mem_ListAllocations {alloc : Allocation} :
    alloc ∈ ListAllocations cfg guests ↔ onDisk cfg guests alloc.instanceID = some alloc := by
  unfold ListAllocations onDisk
  rw [List.mem_filterMap]
  constructor
  · rintro ⟨⟨id, g⟩, hmem, hd⟩
    obtain ⟨_, _, _, _, _, rfl, _⟩ := derived_eq_some hd
    rw [AList.mem_lookup_iff.mpr hmem]
    exact hd
  · intro h
    obtain ⟨g, hg, hd⟩ := Option.bind_eq_some_iff.mp h
    exact ⟨⟨alloc.instanceID, g⟩, AList.mem_lookup_iff.mp hg, hd⟩

theorem dropSeen_lookup (allocations : List Allocation) (id : String) :
    ∀ pending : Table String Allocation, (dropSeen allocations pending).lookup id =
      if id ∈ allocations.map (·.instanceID) then none else pending.lookup id := by
  induction allocations with
  | nil => intro pending; simp [dropSeen]
  | cons a as ih =>
    intro pending
    have hcons : dropSeen (a :: as) pending = dropSeen as (pending.erase a.instanceID) := rfl
    rw [hcons, ih, Table.lookup_erase, List.map_cons]
    by_cases hmem : id ∈ as.map (·.instanceID)
    · rw [if_pos hmem, if_pos (List.mem_cons_of_mem _ hmem)]
    · rw [if_neg hmem]
      by_cases hid : id = a.instanceID
      · rw [if_pos hid, if_pos (by rw [hid]; exact List.mem_cons_self)]
      · rw [if_neg hid, if_neg]
        simp only [List.mem_cons, hid, hmem, or_self, not_false_eq_true]

/-- A listing drops the pending entries of the instances whose metadata yields an allocation. -/
theorem listAllocations_pending (id : String) :
    (listAllocationsWithPending cfg guests pending).2.lookup id =
      if (onDisk cfg guests id).isSome then none else pending.lookup id := by
  have hseen : id ∈ (ListAllocations cfg guests).map (·.instanceID) ↔
      (onDisk cfg guests id).isSome := by
    rw [List.mem_map, Option.isSome_iff_exists]
    constructor
    · rintro ⟨a, hmem, rfl⟩
      exact ⟨a, mem_ListAllocations.mp hmem⟩
    · rintro ⟨a, ha⟩
      have hid := onDisk_instanceID ha
      exact ⟨a, mem_ListAllocations.mpr (by rw [hid, ha]), hid⟩
  simp only [listAllocationsWithPending, dropSeen_lookup, hseen]

/-- The stored allocation of an instance is listed. -/
theorem mem_listAllocations_of_onDisk {id : String} {alloc : Allocation}
    (h : onDisk cfg guests id = some alloc) :
    alloc ∈ (listAllocationsWithPending cfg guests pending).1 := by
  refine List.mem_append_left _ (mem_ListAllocations.mpr ?_)
  rw [onDisk_instanceID h, h]

/-- The pending identity of an instance without a stored one is listed. -/
theorem mem_listAllocations_of_pending {id : String} {alloc : Allocation}
    (hdisk : onDisk cfg guests id = none) (h : pending.lookup id = some alloc) :
    ∃ a ∈ (listAllocationsWithPending cfg guests pending).1,
      a.instanceID = alloc.instanceID ∧ a.instanceName = alloc.instanceName ∧
        a.ip = alloc.ip ∧ a.mac = alloc.mac := by
  have hleft : (listAllocationsWithPending cfg guests pending).2.lookup id = some alloc := by
    rw [listAllocations_pending, hdisk, h]
    rfl
  refine ⟨listedPending guests id alloc, List.mem_append_right _ ?_, ?_⟩
  · exact List.mem_map.mpr ⟨⟨id, alloc⟩, AList.mem_lookup_iff.mp hleft, rfl⟩
  · unfold listedPending
    split <;> exact ⟨rfl, rfl, rfl, rfl⟩

/-- The name is in none of the allocations, that of the excluded instance apart. -/
theorem nameExists_eq_false {allocations : List Allocation} {name exclude : String}
    (h : nameExistsInAllocations allocations name exclude = false) {a : Allocation}
    (ha : a ∈ allocations) (hname : a.instanceName = name) :
    exclude ≠ "" ∧ a.instanceID = exclude := by
  have hnot := List.any_eq_false.mp h a ha
  by_contra hother
  apply hnot
  simp only [hname, beq_self_eq_true, Bool.and_true, Bool.not_eq_true', Bool.and_eq_false_iff,
    bne_eq_false_iff_eq, beq_eq_false_iff_ne]
  by_cases hempty : exclude = ""
  · exact .inl hempty
  · exact .inr fun hid => hother ⟨hempty, hid⟩

/-- **A reservation.** It fails and leaves the map as a listing does, or as it was, or it returns an
identity that differs from every listed one, is then pending for its instance, and has a name that
no other instance has in the listing. -/
theorem reserve_spec (cfg : Config) (guests : Table String Guest)
    (pending : Table String Allocation) (req : AllocateRequest) (draws : Draws) :
    let listed := listAllocationsWithPending cfg guests pending
    let r := reserveAllocationIdentity cfg guests pending req draws
    ((∃ err, r.1 = .error err) ∧ (r.2 = pending ∨ draws.readDir = none ∧ r.2 = listed.2)) ∨
      ∃ c p, r.1 = .ok c ∧ r.2 = listed.2.insert req.instanceID p ∧ draws.readDir = none ∧
        (p.instanceID = req.instanceID ∧ p.instanceName = req.instanceName) ∧
        p.ip = c.ip ∧ p.mac = c.mac ∧ c.ip ≠ "" ∧ c.mac ≠ "" ∧ cfg.network.ipNet.isSome ∧
        ∀ a ∈ listed.1, (a.ip ≠ c.ip ∧ a.mac ≠ c.mac) ∧
          (a.instanceName = req.instanceName → a.instanceID = req.instanceID) := by
  intro listed r
  have hr : r = reserveAllocationIdentity cfg guests pending req draws := rfl
  unfold reserveAllocationIdentity at hr
  cases hread : draws.readDir with
  | some err =>
    rw [hread] at hr
    exact .inl ⟨⟨_, by rw [hr]⟩, .inl (by rw [hr])⟩
  | none =>
    simp only [hread] at hr
    split at hr
    · exact .inl ⟨⟨_, by rw [hr]⟩, .inr ⟨rfl, by rw [hr]⟩⟩
    next hname =>
    split at hr
    · exact .inl ⟨⟨_, by rw [hr]⟩, .inr ⟨rfl, by rw [hr]⟩⟩
    next ip hip =>
    split at hr
    · exact .inl ⟨⟨_, by rw [hr]⟩, .inr ⟨rfl, by rw [hr]⟩⟩
    next mac hmac =>
    obtain ⟨hip₁, hip₂⟩ := allocateNextIP_not_used hip
    obtain ⟨hmac₁, hmac₂⟩ := allocateUniqueMAC_not_used hmac
    have hnet : cfg.network.ipNet.isSome := by
      cases hn : cfg.network.ipNet with
      | none => rw [hn] at hip; cases hip
      | some n => rfl
    refine .inr ⟨_, _, by rw [hr], by rw [hr], rfl, ⟨rfl, rfl⟩, rfl, rfl, hip₂, hmac₂, hnet, ?_⟩
    intro a ha
    refine ⟨⟨fun he => hip₁ ?_, fun he => hmac₁ ?_⟩,
      fun he => (nameExists_eq_false (Bool.eq_false_iff.mpr hname) ha he).2⟩
    · exact List.mem_map.mpr ⟨a, ha, he⟩
    · exact List.mem_map.mpr ⟨a, ha, he⟩

end Hypeman.Network
