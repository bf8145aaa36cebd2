import Mathlib.Algebra.Ring.Nat
import Hypeman.Foundations.Strings

/-!
# Choosing an address

Model of the two searches of `lib/network/allocate.go`: an unused IPv4 address of the subnet (five
random draws, then a scan upwards) and an unused MAC address `02:00:00:xx:xx:xx` (five random draws,
then a scan of the suffixes). The random draws are inputs.

* `allocateNextIP_not_used`, `allocateUniqueMAC_not_used`: what is chosen is none of the addresses
  of the allocations given.
-/

namespace Hypeman.Network

open Hypeman.Foundations.Strings

/-! ## IPv4 addresses -/

/-- The dotted form of an IPv4 address. -/
def ipString (ip : BitVec 32) : String :=
  s!"{(ip >>> 24).toNat}.{(ip >>> 16).toNat % 256}.{(ip >>> 8).toNat % 256}.{ip.toNat % 256}"

theorem ipString_ne_empty (ip : BitVec 32) : ipString ip ≠ "" := by
  simp [ipString, toString, String.append_eq_empty_iff]

/-- The mask of a network with `ones` leading bits. -/
def cidrMask (ones : Nat) : BitVec 32 := BitVec.allOnes 32 <<< (32 - ones)

/-- `net.IPNet` for an IPv4 network, as `net.ParseCIDR` returns it: the host bits of the address
are zero. -/
structure IPNet where
  ip : BitVec 32
  ones : Nat
  ones_le : ones ≤ 32
  masked : ip &&& cidrMask ones = ip

namespace IPNet

/-- `ipNet.Mask`. -/
def mask (n : IPNet) : BitVec 32 := cidrMask n.ones

/-- `ipNet.Contains`. -/
def contains (n : IPNet) (ip : BitVec 32) : Bool := ip &&& n.mask == n.ip

def broadcast (n : IPNet) : BitVec 32 := n.ip ||| ~~~n.mask

/-- `1 << (bits - ones)`. -/
def size (n : IPNet) : Nat := 2 ^ (32 - n.ones)

end IPNet

def incrementIP (ip : BitVec 32) (n : Nat) : BitVec 32 := ip + BitVec.ofNat 32 n

/-- The first draw that gives an address of the network that is not used; `Intn(size - 3)` is the
draw reduced modulo `size - 3`. -/
def randomIP (n : IPNet) (used : List String) (draws : List Nat) : Option String :=
  draws.findSome? fun draw =>
    let ip := incrementIP n.ip (draw % (n.size - 3) + 2)
    if n.contains ip && !used.contains (ipString ip) then some (ipString ip) else none

/-- The sequential scan, for at most `fuel` addresses. -/
def scanIP (n : IPNet) (used : List String) : Nat → BitVec 32 → Option String
  | 0, _ => none
  | fuel + 1, testIP =>
    if !n.contains testIP then none
    else if !used.contains (ipString testIP) then some (ipString testIP)
    else scanIP n used fuel (incrementIP testIP 1)

/-- The addresses that are not handed out: those in use, the network address, the gateway (the
address after it) and the broadcast address. -/
def reservedIPs (n : IPNet) (inUse : List String) : List String :=
  ipString n.ip :: ipString (incrementIP n.ip 1) :: ipString n.broadcast :: inUse

/-- `allocateNextIPFromAllocations`, on the addresses of the allocations. `mathrand.Intn` panics
on a network of fewer than four addresses; that is the first error. -/
def allocateNextIP (subnet : String) (ipNet : Option IPNet) (inUse : List String)
    (draws : Fin 5 → Nat) : Except String String :=
  match ipNet with
  | none => .error s!"parse subnet: invalid CIDR address: {subnet}"
  | some n =>
    let used := reservedIPs n inUse
    if n.size ≤ 3 then .error "invalid argument to Intn"
    else match randomIP n used (List.ofFn draws) with
      | some ip => .ok ip
      | none =>
        match scanIP n used n.size (incrementIP n.ip 2) with
        | some ip => .ok ip
        | none =>
          .error s!"no available IPs in subnet {subnet} after 5 random attempts and full scan"

theorem randomIP_spec {n : IPNet} {used : List String} {draws : List Nat} {ip : String}
    (h : randomIP n used draws = some ip) :
    ip ∉ used ∧ ∃ addr, n.contains addr = true ∧ ip = ipString addr := by
  obtain ⟨draw, -, hd⟩ := List.exists_of_findSome?_eq_some h
  dsimp only at hd
  split at hd
  · next hfree =>
    cases hd
    simp only [Bool.and_eq_true, Bool.not_eq_true', List.contains_eq_mem,
      decide_eq_false_iff_not] at hfree
    exact ⟨hfree.2, _, hfree.1, rfl⟩
  · cases hd

theorem scanIP_spec {n : IPNet} {used : List String} {ip : String} :
    ∀ {fuel : Nat} {testIP : BitVec 32}, scanIP n used fuel testIP = some ip →
      ip ∉ used ∧ ∃ addr, n.contains addr = true ∧ ip = ipString addr := by
  intro fuel
  induction fuel with
  | zero =>
    intro testIP h
    cases h
  | succ fuel ih =>
    intro testIP h
    rw [scanIP] at h
    split at h
    · cases h
    · next hin =>
      split at h
      · next hfree =>
        cases h
        simp only [List.contains_eq_mem, Bool.not_eq_true', decide_eq_false_iff_not] at hfree
        exact ⟨hfree, testIP, by simpa using hin, rfl⟩
      · exact ih h

/-- The address chosen is an address of the network that is not set aside. -/
theorem allocateNextIP_eq_ok {subnet : String} {ipNet : Option IPNet} {inUse : List String}
    {draws : Fin 5 → Nat} {ip : String} (h : allocateNextIP subnet ipNet inUse draws = .ok ip) :
    ∃ n, ipNet = some n ∧ ip ∉ reservedIPs n inUse ∧
      ∃ addr, n.contains addr = true ∧ ip = ipString addr := by
  unfold allocateNextIP at h
  cases ipNet with
  | none => cases h
  | some n =>
    refine ⟨n, rfl, ?_⟩
    dsimp only at h
    split at h
    · cases h
    split at h
    · next hr =>
      cases h
      exact randomIP_spec hr
    · split at h
      · next hs =>
        cases h
        exact scanIP_spec hs
      · cases h

/-- The address chosen is not in use, and is a text at all. -/
theorem allocateNextIP_not_used {subnet : String} {ipNet : Option IPNet} {inUse : List String}
    {draws : Fin 5 → Nat} {ip : String} (h : allocateNextIP subnet ipNet inUse draws = .ok ip) :
    ip ∉ inUse ∧ ip ≠ "" := by
  obtain ⟨n, -, hfree, addr, -, rfl⟩ := allocateNextIP_eq_ok h
  refine ⟨fun hmem => hfree ?_, ipString_ne_empty addr⟩
  simp [reservedIPs, hmem]

/-! ## MAC addresses -/

/-- The verb `%02x` on one byte. -/
def hexByte (b : Nat) : String :=
  String.ofList [Nat.digitChar (b / 16 % 16), Nat.digitChar (b % 16)]

/-- `formatMACSuffix`; `generateMAC` formats its three random bytes the same way. -/
def formatMACSuffix (suffix : Nat) : String :=
  s!"02:00:00:{hexByte (suffix / 65536)}:{hexByte (suffix / 256)}:{hexByte suffix}"

/-- The form in which MAC addresses are compared. -/
def normalizeMAC (mac : String) : String := toLower (trimSpace mac)

/-- `generateMAC`, from the outcome of reading the random bytes. -/
def generateMAC (draw : Except String Nat) : Except String String :=
  draw.map formatMACSuffix

/-- The random attempts of `allocateUniqueMACFromSet`: a failed draw fails the call. -/
def randomMAC (used : List String) : List (Except String Nat) → Except String (Option String)
  | [] => .ok none
  | draw :: draws =>
    match generateMAC draw with
    | .error err => .error err
    | .ok mac =>
      if !used.contains (normalizeMAC mac) then .ok (some (normalizeMAC mac))
      else randomMAC used draws

/-- The suffix scan of `allocateUniqueMACFromSet`, with `left` suffixes to go up to `2 ^ 24`. -/
def scanMAC (used : List String) : Nat → Option String
  | 0 => none
  | left + 1 =>
    let mac := formatMACSuffix (2 ^ 24 - (left + 1))
    if !used.contains mac then some mac else scanMAC used left

/-- `allocateUniqueMACFromAllocations`, on the MAC addresses of the allocations. -/
def allocateUniqueMAC (macs : List String) (draws : Fin 5 → Except String Nat) :
    Except String String :=
  let used := (macs.map normalizeMAC).filter (· != "")
  match randomMAC used (List.ofFn draws) with
  | .error err => .error err
  | .ok (some mac) => .ok mac
  | .ok none =>
    match scanMAC used (2 ^ 24) with
    | some mac => .ok mac
    | none => .error "no available MAC addresses after 5 random attempts and full scan"

theorem digitChar_plain : ∀ k < 16,
    isSpace (Nat.digitChar k) = false ∧ (Nat.digitChar k).toLower = Nat.digitChar k := by
  decide

theorem plain_of_all {text : String}
    (h : text.toList.all (fun c => !isSpace c && c.toLower == c) = true) :
    ∀ c ∈ text.toList, isSpace c = false ∧ c.toLower = c := by
  intro c hc
  have hplain := List.all_eq_true.mp h c hc
  simpa using hplain

theorem formatMACSuffix_plain (n : Nat) :
    ∀ c ∈ (formatMACSuffix n).toList, isSpace c = false ∧ c.toLower = c := by
  have hex : ∀ b : Nat, ∀ c ∈ (hexByte b).toList, isSpace c = false ∧ c.toLower = c := by
    intro b c hc
    simp only [hexByte, String.toList_ofList, List.mem_cons, List.not_mem_nil, or_false] at hc
    rcases hc with rfl | rfl <;> exact digitChar_plain _ (Nat.mod_lt _ (by decide))
  intro c hc
  simp only [formatMACSuffix, toString, String.toList_append, List.mem_append] at hc
  rcases hc with ((((hc | hc) | hc) | hc) | hc) | hc
  · exact plain_of_all (by decide) c hc
  · exact hex _ c hc
  · exact plain_of_all (by decide) c hc
  · exact hex _ c hc
  · exact plain_of_all (by decide) c hc
  · exact hex _ c hc

/-- The formatted addresses are in the form in which addresses are compared. -/
theorem normalizeMAC_formatMACSuffix (n : Nat) :
    normalizeMAC (formatMACSuffix n) = formatMACSuffix n := by
  have hplain := formatMACSuffix_plain n
  rw [normalizeMAC, trimSpace_of_forall fun c hc => (hplain c hc).1,
    toLower_of_forall fun c hc => (hplain c hc).2]

theorem formatMACSuffix_ne_empty (n : Nat) : formatMACSuffix n ≠ "" := by
  simp [formatMACSuffix, toString, String.append_eq_empty_iff]

theorem randomMAC_spec {used : List String} {mac : String} :
    ∀ {draws : List (Except String Nat)}, randomMAC used draws = .ok (some mac) →
      mac ∉ used ∧ ∃ n, mac = formatMACSuffix n := by
  intro draws
  induction draws with
  | nil =>
    intro h
    cases h
  | cons draw draws ih =>
    intro h
    cases draw with
    | error err => cases h
    | ok n =>
      simp only [randomMAC, generateMAC, Except.map, normalizeMAC_formatMACSuffix] at h
      split at h
      · next hfree =>
        cases h
        exact ⟨by simpa using hfree, n, rfl⟩
      · exact ih h

theorem scanMAC_spec {used : List String} {mac : String} :
    ∀ {left : Nat}, scanMAC used left = some mac → mac ∉ used ∧ ∃ n, mac = formatMACSuffix n := by
  intro left
  induction left with
  | zero =>
    intro h
    cases h
  | succ left ih =>
    intro h
    rw [scanMAC] at h
    split at h
    · next hfree =>
      cases h
      exact ⟨by simpa using hfree, _, rfl⟩
    · exact ih h

/-- The MAC address chosen is not in use, and is a text at all. -/
theorem allocateUniqueMAC_not_used {macs : List String} {draws : Fin 5 → Except String Nat}
    {mac : String} (h : allocateUniqueMAC macs draws = .ok mac) : mac ∉ macs ∧ mac ≠ "" := by
  -- an address in use equal to a formatted one is its own normal form, so it is in the set
  have weaken : mac ∉ (macs.map normalizeMAC).filter (· != "") ∧ (∃ n, mac = formatMACSuffix n) →
      mac ∉ macs ∧ mac ≠ "" := by
    rintro ⟨hfree, n, rfl⟩
    refine ⟨fun hmem => hfree ?_, formatMACSuffix_ne_empty n⟩
    refine List.mem_filter.mpr ⟨List.mem_map.mpr ⟨_, hmem, normalizeMAC_formatMACSuffix n⟩, ?_⟩
    simpa using formatMACSuffix_ne_empty n
  unfold allocateUniqueMAC at h
  dsimp only at h
  split at h
  · cases h
  · next hr =>
    cases h
    exact weaken (randomMAC_spec hr)
  · split at h
    · next hs =>
      cases h
      exact weaken (scanMAC_spec hs)
    · cases h

end Hypeman.Network
