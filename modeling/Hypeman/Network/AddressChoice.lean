import Hypeman.Foundations.Words
import Hypeman.Network.Allocation

/-!
# The addresses of a subnet that are handed out

`allocateNextIPFromAllocations` sets the gateway aside as the address after that of the network
(`lib/network/allocate.go`), but the configuration may name another one
(`lib/network/default_network_linux.go`).

* `contains_iff`: the addresses of a network are those from the network address on.
* `scanIP_none`, `scanIP_stable`: the scan misses no address and ends.
* `allocateNextIP_correct_iff`: the choice is right for every list of allocations and all draws if,
  and only if, the gateway is the one set aside.
* `gateway_handed_out`: a guest that gets the address of the gateway.
-/

namespace Hypeman.Network

open Hypeman.Foundations Hypeman.Foundations.Strings

/-! ## The gateway of the default network -/

/-- `DeriveGateway`: the network address with its last octet incremented. -/
def DeriveGateway (cidr : String) : Option IPNet → Except String String
  | none => .error s!"parse CIDR: invalid CIDR address: {cidr}"
  | some n =>
    .ok (ipString (BitVec.ofNat 32 (n.ip.toNat / 256 * 256 + (n.ip.toNat + 1) % 256)))

/-- `platformDefaultNetwork`; `ipNet` is what `net.ParseCIDR` makes of `SubnetCIDR`. -/
def platformDefaultNetwork (subnetCIDR : String) (ipNet : Option IPNet) (subnetGateway : String) :
    Except String DefaultNetwork :=
  if subnetGateway = "" then
    match DeriveGateway subnetCIDR ipNet with
    | .error err => .error s!"derive gateway from subnet: {err}"
    | .ok gateway => .ok ⟨"default", subnetCIDR, ipNet, gateway⟩
  else .ok ⟨"default", subnetCIDR, ipNet, subnetGateway⟩

/-! ## The text of an address -/

theorem repr_no_dot (n : Nat) : '.' ∉ (toString n).toList := by
  intro h
  have hmem : '.' ∈ Nat.toDigits 10 n := by simpa [toString, Nat.repr] using h
  exact absurd (Nat.isDigit_of_mem_toDigits (by decide) (by decide) hmem) (by decide)

theorem toString_inj {a b : Nat} (h : toString a = toString b) : a = b := by
  have hdigits : Nat.toDigits 10 a = Nat.toDigits 10 b := String.ofList_injective h
  rw [← Nat.ofDigitChars_toDigits (b := 10) (n := a) (by decide) (by decide), hdigits,
    Nat.ofDigitChars_toDigits (by decide) (by decide)]

theorem octet_inj {a a' : Nat} {b b' : String}
    (h : toString a ++ ("." ++ b) = toString a' ++ ("." ++ b')) : a = a' ∧ b = b' := by
  rw [← String.append_assoc, ← String.append_assoc] at h
  obtain ⟨ha, hb⟩ := append_sep_inj (repr_no_dot a) (repr_no_dot a') h
  exact ⟨toString_inj ha, hb⟩

theorem ipString_inj {a b : BitVec 32} (h : ipString a = ipString b) : a = b := by
  simp only [ipString, String.append_assoc] at h
  obtain ⟨h₁, h⟩ := octet_inj h
  obtain ⟨h₂, h⟩ := octet_inj h
  obtain ⟨h₃, h⟩ := octet_inj h
  have h₄ := toString_inj h
  simp only [BitVec.toNat_ushiftRight, Nat.shiftRight_eq_div_pow] at h₁ h₂ h₃
  have ha := a.isLt
  have hb := b.isLt
  exact BitVec.eq_of_toNat_eq (by omega)

/-! ## The addresses of a network -/

namespace IPNet

variable {n : IPNet}

theorem size_pos (n : IPNet) : 0 < n.size := Nat.two_pow_pos _

theorem four_le_size (h30 : n.ones ≤ 30) : 4 ≤ n.size :=
  Nat.pow_le_pow_right (n := 2) (i := 2) (by decide) (by omega)

theorem mask_toNat (n : IPNet) : n.mask.toNat = 2 ^ 32 - n.size := by
  have hle : n.size ≤ 2 ^ 32 := Nat.pow_le_pow_right (by decide) (Nat.sub_le 32 n.ones)
  have hpos := n.size_pos
  have hsplit : (2 ^ 32 - 1) * n.size = 2 ^ 32 - n.size + 2 ^ 32 * (n.size - 1) := by
    obtain ⟨s, hs⟩ : ∃ s, n.size = s + 1 := ⟨n.size - 1, by omega⟩
    rw [hs] at hle ⊢
    omega
  rw [mask, cidrMask, BitVec.toNat_shiftLeft, BitVec.toNat_allOnes, Nat.shiftLeft_eq]
  change (2 ^ 32 - 1) * n.size % 2 ^ 32 = _
  rw [hsplit, Nat.add_mul_mod_self_left, Nat.mod_eq_of_lt (by omega)]

theorem toNat_and_mask (n : IPNet) (x : BitVec 32) :
    (x &&& n.mask).toNat = x.toNat / n.size * n.size := by
  rw [BitVec.toNat_and, mask_toNat]
  exact and_two_pow_sub x.toNat 32 (32 - n.ones) x.isLt (Nat.sub_le 32 n.ones)

theorem exists_ip (n : IPNet) : ∃ q, n.ip.toNat = q * n.size :=
  ⟨n.ip.toNat / n.size, by
    rw [← n.toNat_and_mask n.ip]
    exact congrArg BitVec.toNat n.masked.symm⟩

theorem ip_add_size_le (n : IPNet) : n.ip.toNat + n.size ≤ 2 ^ 32 := by
  obtain ⟨q, hq⟩ := n.exists_ip
  have hdvd : n.size ∣ 2 ^ 32 := Nat.pow_dvd_pow 2 (Nat.sub_le 32 n.ones)
  obtain ⟨r, hr⟩ := hdvd
  have hlt : q * n.size < r * n.size := by
    rw [← hq, Nat.mul_comm r, ← hr]
    exact n.ip.isLt
  have hqr := Nat.mul_le_mul_right n.size (Nat.lt_of_mul_lt_mul_right hlt)
  rw [Nat.succ_mul] at hqr
  rw [hq, hr, Nat.mul_comm n.size]
  exact hqr

/-- The addresses of a network are those from the network address on. -/
theorem contains_iff (n : IPNet) (x : BitVec 32) :
    n.contains x = true ↔ n.ip.toNat ≤ x.toNat ∧ x.toNat < n.ip.toNat + n.size := by
  obtain ⟨q, hq⟩ := n.exists_ip
  have hpos := n.size_pos
  rw [contains, beq_iff_eq, ← BitVec.toNat_inj, n.toNat_and_mask, hq]
  constructor
  · intro h
    rw [← h]
    exact ⟨Nat.div_mul_le_self _ _, Nat.lt_div_mul_add hpos⟩
  · rintro ⟨hle, hlt⟩
    rw [Nat.div_eq_of_lt_le hle (by rwa [Nat.succ_mul])]

theorem toNat_incrementIP {k : Nat} (hk : n.ip.toNat + k < 2 ^ 32) :
    (incrementIP n.ip k).toNat = n.ip.toNat + k := by
  rw [incrementIP, BitVec.toNat_add, BitVec.toNat_ofNat, Nat.add_mod_mod, Nat.mod_eq_of_lt hk]

theorem contains_incrementIP {k : Nat} (hk : k < n.size) :
    n.contains (incrementIP n.ip k) = true := by
  have hle := n.ip_add_size_le
  rw [contains_iff, toNat_incrementIP (by omega)]
  omega

theorem exists_of_contains {x : BitVec 32} (h : n.contains x = true) :
    ∃ k < n.size, x = incrementIP n.ip k := by
  have hle := n.ip_add_size_le
  rw [contains_iff] at h
  refine ⟨x.toNat - n.ip.toNat, by omega, BitVec.eq_of_toNat_eq ?_⟩
  rw [toNat_incrementIP (by omega)]
  omega

/-- The address after the last one is outside, also where it wraps around. -/
theorem contains_end (h1 : 1 ≤ n.ones) : n.contains (incrementIP n.ip n.size) = false := by
  have hle := n.ip_add_size_le
  have hhalf : n.size ≤ 2 ^ 31 := Nat.pow_le_pow_right (by decide) (by omega)
  rw [← Bool.not_eq_true, contains_iff]
  rintro ⟨hlow, hhigh⟩
  rcases Nat.lt_or_ge (n.ip.toNat + n.size) (2 ^ 32) with h | h
  · rw [toNat_incrementIP h] at hhigh
    omega
  · have hwrap : (incrementIP n.ip n.size).toNat = 0 := by
      rw [incrementIP, BitVec.toNat_add, BitVec.toNat_ofNat, Nat.add_mod_mod]
      omega
    omega

theorem broadcast_ne_second (h30 : n.ones ≤ 30) : n.broadcast ≠ incrementIP n.ip 1 := by
  have hsize := n.four_le_size h30
  have hle := n.ip_add_size_le
  have hdisj : n.ip &&& ~~~n.mask = 0#32 := by
    rw [← n.masked, BitVec.and_assoc]
    change n.ip &&& (n.mask &&& ~~~n.mask) = 0#32
    rw [BitVec.and_not_self]
    exact BitVec.and_zero
  intro h
  have hsum := congrArg BitVec.toNat h
  rw [broadcast, ← BitVec.add_eq_or_of_and_eq_zero _ _ hdisj, BitVec.toNat_add, BitVec.toNat_not,
    mask_toNat, toNat_incrementIP (by omega)] at hsum
  omega

end IPNet

theorem incrementIP_succ (ip : BitVec 32) (k : Nat) :
    incrementIP (incrementIP ip k) 1 = incrementIP ip (k + 1) := by
  rw [incrementIP, incrementIP, incrementIP, BitVec.add_assoc, ← BitVec.ofNat_add]

/-! ## The scan -/

variable {n : IPNet} {used : List String}

/-- From the `k`-th address on there are `n.size - k` addresses to look at: more fuel than that
makes no difference. -/
theorem scanIP_stable (h1 : 1 ≤ n.ones) {k fuel : Nat} (hk : k ≤ n.size)
    (hfuel : n.size - k ≤ fuel) :
    scanIP n used fuel (incrementIP n.ip k) = scanIP n used (n.size - k) (incrementIP n.ip k) := by
  induction hm : n.size - k generalizing k fuel with
  | zero =>
    obtain rfl : k = n.size := by omega
    cases fuel with
    | zero => rfl
    | succ fuel => simp [scanIP, IPNet.contains_end h1]
  | succ m ih =>
    obtain ⟨fuel, rfl⟩ : ∃ f, fuel = f + 1 := ⟨fuel - 1, by omega⟩
    have hnext : scanIP n used fuel (incrementIP n.ip (k + 1)) =
        scanIP n used m (incrementIP n.ip (k + 1)) := ih (by omega) (by omega) (by omega)
    rw [scanIP, scanIP, incrementIP_succ, hnext]

/-- A scan that finds nothing has met a used address at every place. -/
theorem scanIP_none {k fuel : Nat} (hfuel : n.size - k ≤ fuel)
    (h : scanIP n used fuel (incrementIP n.ip k) = none) :
    ∀ j, k ≤ j → j < n.size → ipString (incrementIP n.ip j) ∈ used := by
  induction fuel generalizing k with
  | zero =>
    intro j hkj hj
    omega
  | succ fuel ih =>
    intro j hkj hj
    rw [scanIP, incrementIP_succ, IPNet.contains_incrementIP (by omega)] at h
    by_cases hused : ipString (incrementIP n.ip k) ∈ used
    · simp only [List.contains_eq_mem, hused, decide_true, Bool.not_true, Bool.false_eq_true,
        if_false] at h
      rcases Nat.eq_or_lt_of_le hkj with rfl | hlt
      · exact hused
      · exact ih (by omega) h j hlt hj
    · simp [hused] at h

/-! ## The choice -/

/-- An address a new guest may be given. -/
structure Assignable (n : IPNet) (gateway : String) (inUse : List String) (addr : BitVec 32) :
    Prop where
  inside : n.contains addr = true
  unused : ipString addr ∉ inUse
  not_network : addr ≠ n.ip
  not_broadcast : addr ≠ n.broadcast
  not_gateway : ipString addr ≠ gateway

/-- The result is such an address, and an error where there is none. -/
structure Chosen (n : IPNet) (gateway : String) (inUse : List String)
    (result : Except String String) : Prop where
  sound : ∀ text, result = .ok text → ∃ addr, text = ipString addr ∧
    Assignable n gateway inUse addr
  complete : (∃ err, result = .error err) ↔ ¬ ∃ addr, Assignable n gateway inUse addr

variable {subnet : String} {inUse : List String} {draws : Fin 5 → Nat}

/-- An address from the third on is set aside only as the broadcast address or if it is in use. -/
theorem mem_reservedIPs {k : Nat} (hk : k < n.size) (h2 : 2 ≤ k) :
    ipString (incrementIP n.ip k) ∈ reservedIPs n inUse ↔
      incrementIP n.ip k = n.broadcast ∨ ipString (incrementIP n.ip k) ∈ inUse := by
  have hle := n.ip_add_size_le
  have hval := IPNet.toNat_incrementIP (n := n) (k := k) (by omega)
  have hone := IPNet.toNat_incrementIP (n := n) (k := 1) (by omega)
  have hnet : ipString (incrementIP n.ip k) ≠ ipString n.ip := fun h => by
    rw [ipString_inj h] at hval
    omega
  have hgw : ipString (incrementIP n.ip k) ≠ ipString (incrementIP n.ip 1) := fun h => by
    rw [ipString_inj h] at hval
    omega
  have hbc : ipString (incrementIP n.ip k) = ipString n.broadcast ↔
      incrementIP n.ip k = n.broadcast := ⟨ipString_inj, congrArg ipString⟩
  simp only [reservedIPs, List.mem_cons, hnet, hgw, hbc, false_or]

theorem allocateNextIP_fails (h30 : n.ones ≤ 30) {err : String}
    (h : allocateNextIP subnet (some n) inUse draws = .error err) :
    ∀ k, 2 ≤ k → k < n.size → ipString (incrementIP n.ip k) ∈ reservedIPs n inUse := by
  have hsize := n.four_le_size h30
  unfold allocateNextIP at h
  dsimp only at h
  rw [if_neg (by omega)] at h
  split at h
  · cases h
  · split at h
    · cases h
    · next hs => exact scanIP_none (Nat.sub_le _ _) hs

/-- With the gateway that is set aside, the choice is right. -/
theorem chosen_of_gateway (h30 : n.ones ≤ 30) :
    Chosen n (ipString (incrementIP n.ip 1)) inUse
      (allocateNextIP subnet (some n) inUse draws) := by
  have hsound : ∀ text, allocateNextIP subnet (some n) inUse draws = .ok text →
      ∃ addr, text = ipString addr ∧
        Assignable n (ipString (incrementIP n.ip 1)) inUse addr := by
    intro text h
    obtain ⟨m, hm, hfree, addr, hin, rfl⟩ := allocateNextIP_eq_ok h
    obtain rfl := Option.some.inj hm
    simp only [reservedIPs, List.mem_cons, not_or] at hfree
    exact ⟨addr, rfl, hin, hfree.2.2.2, fun h => hfree.1 (h ▸ rfl),
      fun h => hfree.2.2.1 (h ▸ rfl), hfree.2.1⟩
  refine ⟨hsound, ?_, fun hnone => ?_⟩
  · rintro ⟨err, herr⟩ ⟨addr, ha⟩
    obtain ⟨k, hk, rfl⟩ := IPNet.exists_of_contains ha.inside
    have h2 : 2 ≤ k := by
      rcases k with _ | _ | k
      · exact absurd (BitVec.add_zero n.ip) ha.not_network
      · exact absurd rfl ha.not_gateway
      · omega
    rcases (mem_reservedIPs hk h2).mp (allocateNextIP_fails h30 herr k h2 hk) with h | h
    · exact ha.not_broadcast h
    · exact ha.unused h
  · cases hres : allocateNextIP subnet (some n) inUse draws with
    | error err => exact ⟨err, rfl⟩
    | ok text =>
      obtain ⟨addr, -, ha⟩ := hsound text hres
      exact absurd ⟨addr, ha⟩ hnone

def allButSecond (n : IPNet) : List String :=
  ((List.range n.size).filter (· ≠ 1)).map fun k => ipString (incrementIP n.ip k)

theorem mem_allButSecond {k : Nat} (hk : k < n.size) :
    ipString (incrementIP n.ip k) ∈ allButSecond n ↔ k ≠ 1 := by
  have hle := n.ip_add_size_le
  simp only [allButSecond, List.mem_map, List.mem_filter, List.mem_range, decide_eq_true_eq]
  constructor
  · rintro ⟨j, ⟨hj, hne⟩, heq⟩ rfl
    have hval := congrArg BitVec.toNat (ipString_inj heq)
    rw [IPNet.toNat_incrementIP (by omega), IPNet.toNat_incrementIP (by omega)] at hval
    omega
  · exact fun hne => ⟨k, ⟨hk, hne⟩, rfl⟩

/-- With another gateway the second address is one to give, but it is never given. -/
theorem not_chosen_of_gateway (h30 : n.ones ≤ 30) {gateway : String}
    (hgw : ipString (incrementIP n.ip 1) ≠ gateway) :
    ¬ Chosen n gateway (allButSecond n)
      (allocateNextIP subnet (some n) (allButSecond n) draws) := by
  have hsize := n.four_le_size h30
  have hle := n.ip_add_size_le
  intro hch
  have hsecond : Assignable n gateway (allButSecond n) (incrementIP n.ip 1) := by
    refine ⟨IPNet.contains_incrementIP (by omega), ?_, fun h => ?_, fun h => ?_, hgw⟩
    · simp [mem_allButSecond (n := n) (k := 1) (by omega)]
    · have hval := IPNet.toNat_incrementIP (n := n) (k := 1) (by omega)
      rw [h] at hval
      omega
    · exact IPNet.broadcast_ne_second h30 h.symm
  cases hres : allocateNextIP subnet (some n) (allButSecond n) draws with
  | error err => exact hch.complete.mp ⟨err, hres⟩ ⟨_, hsecond⟩
  | ok text =>
    obtain ⟨m, hm, hfree, addr, hin, rfl⟩ := allocateNextIP_eq_ok hres
    obtain rfl := Option.some.inj hm
    obtain ⟨k, hk, rfl⟩ := IPNet.exists_of_contains hin
    simp only [reservedIPs, List.mem_cons, not_or, mem_allButSecond hk, not_not] at hfree
    obtain rfl := hfree.2.2.2
    exact hfree.2.1 rfl

theorem DeriveGateway_eq (h30 : n.ones ≤ 30) :
    DeriveGateway subnet (some n) = .ok (ipString (incrementIP n.ip 1)) := by
  obtain ⟨q, hq⟩ := n.exists_ip
  obtain ⟨r, hr⟩ : 4 ∣ n.ip.toNat := by
    rw [hq]
    exact Dvd.dvd.mul_left (Nat.pow_dvd_pow 2 (by omega : 2 ≤ 32 - n.ones)) q
  have hle := n.ip_add_size_le
  have hsize := n.four_le_size h30
  refine congrArg (Except.ok ∘ ipString) (BitVec.eq_of_toNat_eq ?_)
  rw [BitVec.toNat_ofNat, IPNet.toNat_incrementIP (by omega)]
  omega

/-- **The choice of an address is right, for every list of allocations and all draws, if, and only
if, the configuration names no gateway or the one that is set aside, in the notation of an address.
The search ends.** -/
theorem allocateNextIP_correct_iff (n : IPNet) (h1 : 1 ≤ n.ones) (h30 : n.ones ≤ 30)
    (subnetCIDR subnetGateway : String) :
    (∃ net, platformDefaultNetwork subnetCIDR (some n) subnetGateway = .ok net ∧
        ((∀ inUse draws, Chosen n net.gateway inUse
            (allocateNextIP net.subnet net.ipNet inUse draws)) ↔
          subnetGateway = "" ∨ subnetGateway = ipString (incrementIP n.ip 1))) ∧
      ∀ used fuel, n.size ≤ fuel → scanIP n used fuel (incrementIP n.ip 2) =
        scanIP n used n.size (incrementIP n.ip 2) := by
  have hsize := n.four_le_size h30
  refine ⟨?_, fun used fuel hfuel => ?_⟩
  · by_cases hempty : subnetGateway = ""
    · refine ⟨⟨"default", subnetCIDR, some n, ipString (incrementIP n.ip 1)⟩, ?_, ?_⟩
      · rw [platformDefaultNetwork, if_pos hempty, DeriveGateway_eq h30]
      · exact iff_of_true (fun inUse draws => chosen_of_gateway h30) (.inl hempty)
    · refine ⟨⟨"default", subnetCIDR, some n, subnetGateway⟩, if_neg hempty, ?_⟩
      constructor
      · intro hall
        by_contra hne
        exact not_chosen_of_gateway h30 (fun h => hne (.inr h.symm)) (hall _ fun _ => 0)
      · rintro (h | rfl) inUse draws
        · exact absurd h hempty
        · exact chosen_of_gateway h30
  · rw [scanIP_stable h1 (by omega) (by omega), scanIP_stable h1 (by omega) (Nat.sub_le _ _)]

/-- The network of the default configuration, 10.100.0.0/16. -/
def defaultNet : IPNet := ⟨0x0a640000, 16, by decide, by decide⟩

theorem allocateNextIP_correct_iff_derived :
    ∃ net, platformDefaultNetwork "10.100.0.0/16" (some defaultNet) "" = .ok net ∧
      ∀ inUse draws, Chosen defaultNet net.gateway inUse
        (allocateNextIP net.subnet net.ipNet inUse draws) :=
  let ⟨net, hnet, hiff⟩ := (allocateNextIP_correct_iff defaultNet (by decide) (by decide)
    "10.100.0.0/16" "").1
  ⟨net, hnet, hiff.mpr (.inl rfl)⟩

/-- A guest is given the address that the configuration names as the gateway. -/
theorem gateway_handed_out :
    ∃ net, platformDefaultNetwork "10.100.0.0/16" (some defaultNet) "10.100.0.254" = .ok net ∧
      defaultNet.contains 0x0a6400fe = true ∧ net.gateway = ipString 0x0a6400fe ∧
      allocateNextIP net.subnet net.ipNet [] (fun _ => 252) = .ok net.gateway :=
  ⟨⟨"default", "10.100.0.0/16", some defaultNet, "10.100.0.254"⟩, rfl, by decide, by decide +kernel,
    by decide +kernel⟩

end Hypeman.Network
