import UnitCheck.Proofs.Number.Exact
import UnitCheck.Proofs.Number.Range

/-!
# Written numbers

A numeral stands for a usable number exactly if its value is in range (`Decimal.isRegular_iff`), and
then for the nearest one (`Decimal.roundsTo_of_inRange`). Numerals that are far out of range are not
computed, and short ones are a single product or quotient of numbers without a rounding error.
-/

namespace UnitCheck

open Float.Model Float.Model.UnpackedFloat

/-! ## Whole numbers -/

theorem RoundsTo.eq_of_whole {m : Nat} {r : ℚ} (rounds : RoundsTo m r) (small : m < 2 ^ 53) :
    r = m := by
  obtain ⟨t, n, ulp, nearest, rfl⟩ := rounds
  have bits : (m : ℚ) < 2 ^ 53 := by exact_mod_cast small
  have unit : t ≤ 0 := by
    by_contra positive
    have normal : 2 ^ 52 * 2 ^ t ≤ (m : ℚ) := ulp.normal.resolve_left (by omega)
    have two : (2 : ℚ) ^ (1 : Int) ≤ 2 ^ t := two_zpow_le (by omega)
    rw [zpow_one] at two
    linarith
  obtain ⟨places, rfl⟩ : ∃ places : Nat, t = -places := ⟨t.natAbs, by omega⟩
  have whole : (m : ℚ) / 2 ^ (-places : Int) = (m * 2 ^ places : Nat) := by
    rw [zpow_neg, div_inv_eq_mul, zpow_natCast]
    push_cast
    rfl
  rw [whole] at nearest
  obtain rfl : n = m * 2 ^ places :=
    Nat.le_antisymm (nearest.le_of_le le_rfl) (nearest.ge_of_ge le_rfl)
  have exact : ((m * 2 ^ places : Nat) : ℚ) * 2 ^ (-places : Int) = m := by
    rw [← whole, div_mul_cancel₀ _ (two_zpow_pos _).ne']
  have range : (m : ℚ) < 2 ^ (1024 : Int) :=
    bits.trans_le ((zpow_natCast (2 : ℚ) 53).symm.le.trans (two_zpow_le (by norm_num)))
  rw [exact, if_pos range]

theorem packedValue_round {m : Nat} (positive : 0 < m) (small : m < 2 ^ 53) (sign : Sign) :
    packedValue (UnpackedFloat.round Format.binary64 sign m 0) = m := by
  obtain ⟨places, shift⟩ : ∃ places : Nat, m.log2 + places = 52 := by
    have bits : m.log2 < 53 := (Nat.log2_lt positive.ne').mpr small
    exact ⟨52 - m.log2, by omega⟩
  have moved : UnpackedFloat.round Format.binary64 sign m 0 =
      roundWithAccuracy Format.binary64 sign (m <<< places) (-places) .exact := by
    have amount : (-max (m.log2 + 0 - 52 : Int) (-1074)).toNat = places := by omega
    simp only [UnpackedFloat.round, decreaseExponent, targetExponent_eq, zero_sub, amount]
  have exact : Approximates (.ofMantissaAndAccuracy (m <<< places) .exact)
      ((m : ℚ) / 2 ^ (-places : Int)) := by
    change (m : ℚ) / 2 ^ (-places : Int) = (m <<< places : Nat)
    rw [zpow_neg, div_inv_eq_mul, zpow_natCast, Nat.shiftLeft_eq]
    push_cast
    rfl
  have bits : 52 ≤ (m <<< places).log2 := by
    have large : 2 ^ 52 ≤ m <<< places := by
      rw [← shift, pow_add, Nat.shiftLeft_eq]
      exact Nat.mul_le_mul_right _ (Nat.log2_self_le positive.ne')
    exact (Nat.le_log2 (by omega)).mpr large
  rw [moved]
  exact RoundsTo.eq_of_whole (roundsTo_roundWithAccuracy sign exact (by omega)) small

theorem absolute_toUInt64_toFloat {m : Nat} (small : m < 2 ^ 53) :
    absolute m.toUInt64.toFloat = m := by
  have same : m.toUInt64.toNat = m :=
    UInt64.toNat_ofNat_of_lt (Nat.lt_trans small (by decide))
  change packedValue (UnpackedFloat.ofNat Format.binary64 m.toUInt64.toNat) = m
  rw [same]
  unfold UnpackedFloat.ofNat UnpackedFloat.ofInt UnpackedFloat.normalize
  rcases Nat.eq_zero_or_pos m with rfl | positive
  · exact packedValue_zero .positive
  · have above : compare (m : Int) 0 = .gt := Int.compare_eq_gt.mpr (Int.natCast_pos.mpr positive)
    simp only [above, Int.toNat_natCast]
    exact packedValue_round positive small .positive

theorem absolute_powersOfTen (i : Fin Float.exactlyRepresentablePowersOfTen.size) :
    absolute Float.exactlyRepresentablePowersOfTen[i] = 10 ^ i.val := by
  revert i
  decide +kernel

/-! ## Decimals -/

namespace Decimal

theorem absolute_ofScientific_of_small {m e : Nat} (small : m < 2 ^ 53 ∧ e ≤ 22) (negative : Bool) :
    RoundsTo (m * 10 ^ (if negative then -e else e : Int))
      (absolute (Float.ofScientific m negative e)) := by
  have inside : e < Float.exactlyRepresentablePowersOfTen.size := Nat.lt_succ_of_le small.2
  have mantissa := absolute_toUInt64_toFloat small.1
  have power : absolute Float.exactlyRepresentablePowersOfTen[e] = 10 ^ e :=
    absolute_powersOfTen ⟨e, inside⟩
  unfold Float.ofScientific
  rw [dif_pos small]
  cases negative
  · have product := absolute_mul m.toUInt64.toFloat Float.exactlyRepresentablePowersOfTen[e]
    rw [mantissa, power, ← zpow_natCast] at product
    exact product
  · have quotient := absolute_div m.toUInt64.toFloat Float.exactlyRepresentablePowersOfTen[e]
    rw [mantissa, power, div_eq_mul_inv, ← zpow_natCast, ← zpow_neg] at quotient
    exact quotient

theorem packedValue_ofScientific {m : Nat} (positive : 0 < m) {e : Int} (small : e ≤ 2048)
    (large : -(2048 + m.log2 : Int) ≤ e) :
    RoundsTo (m * 10 ^ e) (packedValue (UnpackedFloat.ofScientific Format.binary64 m e)) := by
  unfold UnpackedFloat.ofScientific
  rw [dif_neg positive.ne', if_neg (by norm_num; omega), if_neg (by norm_num; omega)]
  split
  · rename_i nonnegative
    obtain ⟨n, rfl⟩ := Int.eq_ofNat_of_zero_le nonnegative
    have shifted : 0 < m <<< 53 := by simpa [Nat.shiftLeft_eq] using positive
    have power : 0 < 10 ^ n := Nat.pow_pos (by decide)
    have bits : 53 ≤ (m <<< 53 * 10 ^ n).log2 := by
      refine (Nat.le_log2 (Nat.mul_pos shifted power).ne').mpr ?_
      rw [Nat.shiftLeft_eq, mul_right_comm]
      exact Nat.le_mul_of_pos_left _ (Nat.mul_pos positive power)
    have exponent : (-53 + 0 : Int) ≤
        max (((m <<< 53 * 10 ^ n).log2 : Int) + (-53 + 0) - 52) (-1074) := by omega
    have product := roundsTo_mul .positive .positive shifted power exponent
    have value : ((m <<< 53 : Nat) : ℚ) * 2 ^ (-53 : Int) * ((10 ^ n : Nat) * 2 ^ (0 : Int)) =
        m * 10 ^ (n : Int) := by
      have unit : ((2 ^ 53 : Nat) : ℚ) * 2 ^ (-53 : Int) = 1 := by norm_num
      rw [Nat.shiftLeft_eq, Nat.cast_mul, mul_assoc (m : ℚ), unit, mul_one, zpow_zero, mul_one,
        Nat.cast_pow, zpow_natCast]
      rfl
    rw [value] at product
    exact product
  · rename_i negative
    obtain ⟨n, rfl⟩ : ∃ n : Nat, e = -n := ⟨e.natAbs, by omega⟩
    have power : 0 < 10 ^ n := Nat.pow_pos (by decide)
    have value : (m * 2 ^ (0 : Int) / ((10 ^ n : Nat) * 2 ^ (0 : Int)) : ℚ) =
        m * 10 ^ (-(n : Int)) := by
      rw [zpow_neg, zpow_natCast, zpow_zero]
      push_cast
      ring
    have exponent : (-(-n : Int)).toNat = n := by omega
    simp only [exponent]
    rw [← value]
    exact roundsTo_div .positive .positive positive power

theorem lt_ten_pow_digitCount (n : Nat) : n < 10 ^ digitCount n :=
  (Nat.length_toDigits_le_iff (by decide) Nat.length_toDigits_pos).mp le_rfl

theorem ten_pow_le {n : Nat} (positive : 0 < n) : 10 ^ (digitCount n - 1) ≤ n := by
  by_contra below
  rcases Nat.eq_zero_or_pos (digitCount n - 1) with zero | more
  · rw [zero] at below
    omega
  · have := (Nat.length_toDigits_le_iff (by decide) more).mpr (Nat.lt_of_not_le below)
    change digitCount n ≤ digitCount n - 1 at this
    omega

theorem digitCount_le (n : Nat) : digitCount n ≤ n.log2 + 1 := by
  refine (Nat.length_toDigits_le_iff (by decide) (by omega)).mpr ?_
  exact Nat.lt_log2_self.trans_le (Nat.pow_le_pow_left (by decide) _)

theorem absolute_ofScientific {m e : Nat} {exponent : Int} {negative : Bool} (positive : 0 < m)
    (sign : (if negative then -e else e : Int) = exponent) (small : exponent ≤ 2048)
    (large : -(2048 + m.log2 : Int) ≤ exponent) :
    RoundsTo (m * 10 ^ exponent) (absolute (Float.ofScientific m negative e)) := by
  subst sign
  -- The short cut for small mantissas and exponents is one operation on two exact numbers.
  by_cases fast : m < 2 ^ 53 ∧ e ≤ 22
  · exact absolute_ofScientific_of_small fast negative
  · unfold Float.ofScientific
    rw [dif_neg fast]
    cases negative
    · exact packedValue_ofScientific positive small large
    · dsimp only
      rw [if_pos rfl, Int.negOfNat_eq]
      exact packedValue_ofScientific positive small large

theorem two_zpow_le_ten_zpow {a b : Nat} (le : 2 ^ a ≤ 10 ^ b) :
    (2 : ℚ) ^ (a : Int) ≤ 10 ^ (b : Int) := by
  rw [zpow_natCast, zpow_natCast]
  exact_mod_cast le

theorem not_inRange_of_lt {v : ℚ} (below : v < 10 ^ (-330 : Int)) : ¬ InRange v := by
  have powers : (2 : ℚ) ^ (1075 : Int) ≤ 10 ^ (330 : Int) :=
    two_zpow_le_ten_zpow (a := 1075) (b := 330) (by decide +kernel)
  have bound : (10 : ℚ) ^ (-330 : Int) ≤ 2 ^ (-1075 : Int) := by
    rw [zpow_neg, zpow_neg]
    exact inv_anti₀ (two_zpow_pos _) powers
  exact fun inRange => absurd inRange.1 (not_lt.mpr (below.le.trans bound))

theorem not_inRange_of_le {v : ℚ} (above : 10 ^ (310 : Int) ≤ v) : ¬ InRange v := by
  have bound : ((2 ^ 54 - 1) * 2 ^ (970 : Int) : ℚ) ≤ 10 ^ (310 : Int) :=
    calc ((2 ^ 54 - 1) * 2 ^ (970 : Int) : ℚ) ≤ 2 ^ (54 : Int) * 2 ^ (970 : Int) :=
          mul_le_mul_of_nonneg_right (by norm_num) (two_zpow_pos _).le
      _ = 2 ^ (1024 : Int) := (two_zpow_add 54 970).symm
      _ ≤ 10 ^ (310 : Int) := two_zpow_le_ten_zpow (a := 1024) (b := 310) (by decide +kernel)
  exact fun inRange => absurd inRange.2 (not_lt.mpr (bound.trans above))

theorem value_lt (d : Decimal) :
    (d.coefficient * 10 ^ d.exponent : ℚ) < 10 ^ (digitCount d.coefficient + d.exponent) := by
  have upper : (d.coefficient : ℚ) < 10 ^ (digitCount d.coefficient : Int) := by
    rw [zpow_natCast]
    exact_mod_cast lt_ten_pow_digitCount d.coefficient
  rw [zpow_add₀ (by norm_num)]
  exact mul_lt_mul_of_pos_right upper (zpow_pos (by norm_num) _)

theorem le_value {d : Decimal} (positive : 0 < d.coefficient) :
    (10 : ℚ) ^ (digitCount d.coefficient - 1 + d.exponent) ≤ d.coefficient * 10 ^ d.exponent := by
  have digits : 0 < digitCount d.coefficient := Nat.length_toDigits_pos
  have lower : (10 : ℚ) ^ (digitCount d.coefficient - 1 : Int) ≤ d.coefficient := by
    have exponent : (digitCount d.coefficient - 1 : Int) =
        (digitCount d.coefficient - 1 : Nat) := by omega
    rw [exponent, zpow_natCast]
    exact_mod_cast ten_pow_le positive
  rw [zpow_add₀ (by norm_num)]
  exact mul_le_mul_of_nonneg_right lower (zpow_pos (by norm_num) _).le

theorem roundsTo_magnitudeToFloat (d : Decimal) :
    RoundsTo (d.coefficient * 10 ^ d.exponent) (absolute d.magnitudeToFloat) ∨
      absolute d.magnitudeToFloat = 0 ∧ ¬ InRange (d.coefficient * 10 ^ d.exponent) := by
  unfold magnitudeToFloat
  dsimp only
  split
  · rename_i tiny
    simp only [Bool.or_eq_true, decide_eq_true_eq] at tiny
    refine Or.inr ⟨rfl, not_inRange_of_lt ?_⟩
    rcases tiny with zero | tiny
    · rw [zero, Nat.cast_zero, zero_mul]
      exact zpow_pos (by norm_num) _
    · exact d.value_lt.trans_le (zpow_le_zpow_right₀ (by norm_num) (by omega))
  · rename_i usual
    simp only [Bool.or_eq_true, decide_eq_true_eq, not_or, not_lt] at usual
    have positive : 0 < d.coefficient := Nat.pos_of_ne_zero usual.1
    split
    · rename_i huge
      refine Or.inr ⟨rfl, not_inRange_of_le (le_trans ?_ (le_value positive))⟩
      exact zpow_le_zpow_right₀ (by norm_num) (by omega)
    · rename_i ordinary
      have digits := digitCount_le d.coefficient
      refine Or.inl ?_
      split
      · rename_i negative
        have sign : (if true then -d.exponent.natAbs else d.exponent.natAbs : Int) =
            d.exponent := by
          rw [if_pos rfl]
          omega
        exact absolute_ofScientific positive sign (by omega) (by omega)
      · rename_i nonnegative
        have sign : (if false then -d.exponent.natAbs else d.exponent.natAbs : Int) =
            d.exponent := by
          rw [if_neg Bool.false_ne_true]
          omega
        exact absolute_ofScientific positive sign (by omega) (by omega)

theorem abs_toRat (d : Decimal) : |d.toRat| = d.coefficient * 10 ^ d.exponent := by
  have nonnegative : (0 : ℚ) ≤ d.coefficient * 10 ^ d.exponent := by positivity
  rw [toRat, mul_assoc, abs_mul, abs_of_nonneg nonnegative]
  split <;> simp

theorem absolute_toFloat (d : Decimal) : absolute d.toFloat = absolute d.magnitudeToFloat := by
  rw [toFloat]
  split
  · exact absolute_neg _
  · rfl

/-- A numeral in range is rounded to the nearest number. -/
theorem roundsTo_of_inRange {d : Decimal} (inRange : InRange |d.toRat|) :
    RoundsTo |d.toRat| (absolute d.toFloat) := by
  rw [absolute_toFloat]
  rw [abs_toRat] at inRange ⊢
  exact (roundsTo_magnitudeToFloat d).resolve_right fun out => out.2 inRange

theorem isRegular_iff (d : Decimal) : d.isRegular = true ↔ InRange |d.toRat| := by
  have regular : d.isRegular = true ↔ absolute d.toFloat ≠ 0 := isFactor_iff
  rw [regular, absolute_toFloat, abs_toRat]
  rcases roundsTo_magnitudeToFloat d with rounds | ⟨zero, outside⟩
  · exact rounds.ne_zero_iff
  · exact iff_of_false (not_not.mpr zero) outside

end Decimal

end UnitCheck
