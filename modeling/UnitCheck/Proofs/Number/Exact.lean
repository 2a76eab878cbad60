import Mathlib.Algebra.Field.Rat
import Mathlib.Algebra.GroupWithZero.Basic
import UnitCheck.Number.Magnitude

/-!
# Exact magnitudes

Rational numbers as magnitudes: what a written scale or a computed factor means before any rounding.
`power_eq_zpow` says that repeated squaring computes the integer power.
-/

namespace UnitCheck

def Decimal.toRat (d : Decimal) : ℚ :=
  (if d.negative then -1 else 1) * d.coefficient * 10 ^ d.exponent

/-- Exact arithmetic; a factor is not zero. -/
instance : Magnitude ℚ where
  toOne := inferInstance
  toMul := inferInstance
  toDiv := inferInstance
  ofDecimal := Decimal.toRat
  isFactor x := x ≠ 0

namespace Magnitude

theorem powerAux_eq (x acc : ℚ) (n : Nat) : powerAux x acc n = acc * x ^ n := by
  induction n using Nat.strong_induction_on generalizing x acc with
  | _ n ih =>
      have halves : x ^ n = x ^ (n % 2) * (x * x) ^ (n / 2) := by
        rw [← pow_two, ← pow_mul, ← pow_add, Nat.mod_add_div]
      have lowBit : (if n % 2 = 1 then acc * x else acc) = acc * x ^ (n % 2) := by
        rcases Nat.mod_two_eq_zero_or_one n with even | odd
        · simp [even]
        · simp [odd]
      rw [powerAux]
      simp only [lowBit]
      split
      · rw [ih (n / 2) (by omega), halves, mul_assoc]
      · have single : n / 2 = 0 := by omega
        rw [halves, single, pow_zero, mul_one]

theorem power_eq_zpow (x : ℚ) (n : Int32) : power x n = x ^ n.toInt := by
  unfold power
  rw [powerAux_eq, one_mul]
  split
  · rename_i negative
    have sign : n.toInt < 0 := Int32.lt_iff_toInt_lt.mp negative
    have magnitude : n.toInt = -(n.toInt.natAbs : Int) := by omega
    rw [magnitude, zpow_neg, zpow_natCast, Int.natAbs_neg, Int.natAbs_natCast, one_div]
  · rename_i nonnegative
    have sign : 0 ≤ n.toInt := Int.not_lt.mp fun less =>
      nonnegative (Int32.lt_iff_toInt_lt.mpr less)
    have magnitude : n.toInt = (n.toInt.natAbs : Int) := by omega
    rw [magnitude, zpow_natCast, Int.natAbs_natCast]

end Magnitude

end UnitCheck
