import Mathlib.Data.Nat.Bitwise
import Mathlib.Data.UInt

/-!
# Machine words

The values of 64-bit words under the conversions and the masks that address computations use.
-/

namespace Hypeman.Foundations

/-- A word below 2^63 keeps its value as a signed one. -/
theorem toInt_toInt64 {x : UInt64} (hx : x.toNat < 9223372036854775808) :
    x.toInt64.toInt = x.toNat := by
  rw [← Int64.toInt_toBitVec, UInt64.toBitVec_toInt64, BitVec.toInt_eq_toNat_of_lt]
  · rfl
  · change 2 * x.toNat < 2 ^ 64
    omega

theorem toNat_add_of_lt {x y : UInt64} (h : x.toNat + y.toNat < 18446744073709551616) :
    (x + y).toNat = x.toNat + y.toNat := by
  rw [UInt64.toNat_add]
  exact Nat.mod_eq_of_lt h

theorem toNat_sub_of_le {x y : UInt64} (h : y.toNat ≤ x.toNat) :
    (x - y).toNat = x.toNat - y.toNat := UInt64.toNat_sub_of_le _ _ (UInt64.le_iff_toNat_le.mpr h)

/-- Clearing the low bits of a number: the multiple of a power of two below it. -/
theorem and_two_pow_sub (x n k : ℕ) (hx : x < 2 ^ n) (hk : k ≤ n) :
    x &&& (2 ^ n - 2 ^ k) = x / 2 ^ k * 2 ^ k := by
  have hle : 2 ^ k ≤ 2 ^ n := Nat.pow_le_pow_right (by omega) hk
  have hpos : 0 < 2 ^ k := Nat.two_pow_pos k
  refine Nat.eq_of_testBit_eq fun i => ?_
  have hmask : (2 ^ n - 2 ^ k).testBit i = (decide (i < n) && decide (k ≤ i)) := by
    have := Nat.testBit_two_pow_sub_succ (x := 2 ^ k - 1) (n := n) (by omega) i
    rw [Nat.sub_add_cancel hpos, Nat.testBit_two_pow_sub_one, ← decide_not] at this
    simpa only [Nat.not_lt] using this
  rw [Nat.testBit_and, hmask, Nat.testBit_mul_two_pow, Nat.testBit_div_two_pow]
  by_cases hki : k ≤ i
  · by_cases hin : i < n
    · simp [hki, hin]
    · have hfalse : x.testBit i = false :=
        Nat.testBit_lt_two_pow (Nat.lt_of_lt_of_le hx (Nat.pow_le_pow_right (by omega) (by omega)))
      simp [hki, hfalse]
  · simp [hki]

/-- Masking a word with the complement of a power of two less one. -/
theorem toNat_and_not_sub_one {x p : UInt64} {k : ℕ} (hp : p.toNat = 2 ^ k) :
    (x &&& ~~~(p - 1)).toNat = x.toNat / p.toNat * p.toNat := by
  have hpos : 0 < p.toNat := hp ▸ Nat.two_pow_pos k
  have hlt := p.toNat_lt
  have hk : k ≤ 64 := by
    by_contra hk
    have : 2 ^ 64 ≤ 2 ^ k := Nat.pow_le_pow_right (by omega) (by omega)
    omega
  have hone : (p - 1).toNat = p.toNat - 1 := toNat_sub_of_le hpos
  have hnot : (~~~(p - 1)).toNat = 2 ^ 64 - 2 ^ k := by
    rw [UInt64.toNat_not, hone, hp]
    change 2 ^ 64 - 1 - (2 ^ k - 1) = _
    omega
  rw [UInt64.toNat_and, hnot, hp]
  exact and_two_pow_sub x.toNat 64 k x.toNat_lt hk

/-- The value of a word that is not negative as a signed one. -/
theorem toNatClampNeg_toInt64 {x : UInt64} (hx : ¬ x.toInt64 < 0) :
    x.toInt64.toNatClampNeg = x.toNat ∧ x.toNat < 9223372036854775808 := by
  have hlt : x.toNat < 9223372036854775808 := by
    by_contra hge
    refine hx (Int64.lt_iff_toInt_lt.mpr ?_)
    rw [← Int64.toInt_toBitVec, UInt64.toBitVec_toInt64, BitVec.toInt_eq_toNat_cond]
    have := x.toNat_lt
    change (if 2 * x.toNat < 2 ^ 64 then (x.toNat : ℤ) else x.toNat - (2 ^ 64 : ℕ)) < 0
    rw [if_neg (by omega)]
    omega
  refine ⟨?_, hlt⟩
  rw [Int64.toNatClampNeg, toInt_toInt64 hlt, Int.toNat_natCast]

/-! ## Signed words that do not overflow -/

theorem toInt_sub_of_lt {x y : Int64} (hle : -9223372036854775808 ≤ x.toInt - y.toInt)
    (hlt : x.toInt - y.toInt < 9223372036854775808) : (x - y).toInt = x.toInt - y.toInt := by
  rw [Int64.toInt_sub, Int.bmod_eq_of_le_mul_two]
  · omega
  · omega

theorem toInt_add_of_lt {x y : Int64} (hle : -9223372036854775808 ≤ x.toInt + y.toInt)
    (hlt : x.toInt + y.toInt < 9223372036854775808) : (x + y).toInt = x.toInt + y.toInt := by
  rw [Int64.toInt_add, Int.bmod_eq_of_le_mul_two]
  · change -18446744073709551616 ≤ _
    omega
  · change _ < 18446744073709551616
    omega

theorem toInt_mul_of_lt {x y : Int64} (hle : -9223372036854775808 ≤ x.toInt * y.toInt)
    (hlt : x.toInt * y.toInt < 9223372036854775808) : (x * y).toInt = x.toInt * y.toInt := by
  rw [Int64.toInt_mul, Int.bmod_eq_of_le_mul_two]
  · change -18446744073709551616 ≤ _
    omega
  · change _ < 18446744073709551616
    omega

theorem toInt_div_of_nonneg {x : Int64} (y : Int64) (hx : 0 ≤ x.toInt) :
    (x / y).toInt = x.toInt / y.toInt := by
  have hne : x ≠ Int64.minValue := by
    rintro rfl
    exact absurd hx (by decide)
  rw [Int64.toInt_div_of_ne_left _ _ hne, Int.tdiv_eq_ediv_of_nonneg hx]

theorem toInt_mod_of_nonneg {x : Int64} (y : Int64) (hx : 0 ≤ x.toInt) :
    (x % y).toInt = x.toInt % y.toInt := by
  rw [Int64.toInt_mod, Int.tmod_eq_emod_of_nonneg hx]

end Hypeman.Foundations
