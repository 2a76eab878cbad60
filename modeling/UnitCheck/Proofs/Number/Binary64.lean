import UnitCheck.Number.Magnitude
import UnitCheck.Proofs.Number.Packing

/-!
# Binary64 arithmetic in exact terms

Products and quotients of binary64 numbers are those of their absolute values, rounded:
`absolute_mul` and `absolute_div`. An infinity and a NaN have the absolute value zero here, which
makes the two hold of all numbers, and `isFactor_iff` say that usable numbers are those that are not
zero.
-/

namespace UnitCheck

open Float.Model Float.Model.UnpackedFloat

/-- Rounding to binary64: the nearest multiple of the unit in the last place, and zero if that is
out of range. -/
def RoundsTo (v r : ℚ) : Prop :=
  ∃ (t : Int) (n : Nat), Ulp v t ∧ Nearest n (v / 2 ^ t) ∧
    r = if (n : ℚ) * 2 ^ t < 2 ^ (1024 : Int) then (n : ℚ) * 2 ^ t else 0

theorem roundsTo_roundWithAccuracy {mantissa : Nat} {exponent : Int} {accuracy : Accuracy} {v : ℚ}
    (sign : Sign)
    (approximates : Approximates (.ofMantissaAndAccuracy mantissa accuracy) (v / 2 ^ exponent))
    (le : exponent ≤ max (mantissa.log2 + exponent - 52) (-1074)) :
    RoundsTo v (packedValue
      (roundWithAccuracy Format.binary64 sign mantissa exponent accuracy)) := by
  obtain ⟨t, n, ulp, nearest, rounded⟩ := roundWithAccuracy_spec sign approximates le
  have scale := two_zpow_pos t
  have bounded : v / 2 ^ t ≤ (2 ^ 53 : Nat) := by
    rw [div_le_iff₀ scale]
    exact_mod_cast ulp.below.le
  have normal : t = -1074 ∨ 2 ^ 52 ≤ n := by
    refine ulp.normal.imp_right fun large => nearest.ge_of_ge ?_
    rw [le_div_iff₀ scale]
    exact_mod_cast large
  refine ⟨t, n, ulp, nearest, ?_⟩
  rw [rounded, packedValue_canonical sign ulp.least normal (nearest.le_of_le bounded)]

theorem roundsTo_mul (sign₁ sign₂ : Sign) {m₁ m₂ : Nat} {e₁ e₂ : Int} (positive₁ : 0 < m₁)
    (positive₂ : 0 < m₂)
    (le : e₁ + e₂ ≤ max ((m₁ * m₂).log2 + (e₁ + e₂) - 52) (-1074)) :
    RoundsTo (m₁ * 2 ^ e₁ * (m₂ * 2 ^ e₂)) (packedValue
      (UnpackedFloat.mul Format.binary64 (.finite sign₁ m₁ e₁ positive₁)
        (.finite sign₂ m₂ e₂ positive₂))) := by
  refine roundsTo_roundWithAccuracy _ ?_ le
  have exact : (m₁ * 2 ^ e₁ * (m₂ * 2 ^ e₂) : ℚ) / 2 ^ (e₁ + e₂) = (m₁ * m₂ : Nat) := by
    rw [div_eq_iff (two_zpow_pos _).ne', two_zpow_add, Nat.cast_mul]
    ring
  exact exact

theorem approximates_accuracyOfFraction {quotient remainder divisor : Nat} {x : ℚ}
    (divided : x * divisor = quotient * divisor + remainder) (less : remainder < divisor) :
    Approximates (.ofMantissaAndAccuracy quotient (accuracyOfFraction remainder divisor)) x := by
  have positive : (0 : ℚ) < divisor := by exact_mod_cast Nat.zero_lt_of_lt less
  have less' : (remainder : ℚ) < divisor := by exact_mod_cast less
  have value : x = quotient + remainder / divisor := by
    rw [← sub_eq_iff_eq_add', eq_div_iff positive.ne']
    linarith
  unfold accuracyOfFraction
  split
  · rename_i zero
    simp only [zero, Nat.cast_zero, zero_div, add_zero] at value
    exact value
  · rename_i nonzero
    have remains : (0 : ℚ) < remainder / divisor :=
      div_pos (by exact_mod_cast Nat.pos_of_ne_zero nonzero) positive
    cases side : compare (2 * remainder) divisor with
    | lt =>
        have half : (remainder : ℚ) / divisor < 1 / 2 := by
          have := Nat.compare_eq_lt.mp side
          have : (2 * remainder : ℚ) < divisor := by exact_mod_cast this
          rw [div_lt_iff₀ positive]
          linarith
        change (quotient : ℚ) < x ∧ x < quotient + 1 / 2
        exact ⟨by linarith, by linarith⟩
    | eq =>
        have half : (remainder : ℚ) / divisor = 1 / 2 := by
          have := Nat.compare_eq_eq.mp side
          have : (2 * remainder : ℚ) = divisor := by exact_mod_cast this
          rw [div_eq_iff positive.ne']
          linarith
        rw [half] at value
        exact value
    | gt =>
        have half : 1 / 2 < (remainder : ℚ) / divisor := by
          have := Nat.compare_eq_gt.mp side
          have : (divisor : ℚ) < 2 * remainder := by exact_mod_cast this
          rw [lt_div_iff₀ positive]
          linarith
        have one : (remainder : ℚ) / divisor < 1 := (div_lt_one₀ positive).mpr less'
        change (quotient : ℚ) + 1 / 2 < x ∧ x < quotient + 1
        exact ⟨by linarith, by linarith⟩

theorem quotient_bits {m₁ m₂ places : Nat} (positive₁ : 0 < m₁) (positive₂ : 0 < m₂)
    (enough : m₂.log2 + 53 ≤ m₁.log2 + places) : 52 ≤ ((m₁ <<< places) / m₂).log2 := by
  have large : 2 ^ 52 ≤ (m₁ <<< places) / m₂ := by
    rw [Nat.le_div_iff_mul_le positive₂, Nat.shiftLeft_eq]
    calc 2 ^ 52 * m₂ ≤ 2 ^ 52 * 2 ^ (m₂.log2 + 1) := Nat.mul_le_mul_left _ Nat.lt_log2_self.le
      _ = 2 ^ (m₂.log2 + 53) := by rw [← pow_add]; congr 1; omega
      _ ≤ 2 ^ (m₁.log2 + places) := Nat.pow_le_pow_right two_pos enough
      _ = 2 ^ m₁.log2 * 2 ^ places := pow_add _ _ _
      _ ≤ m₁ * 2 ^ places := Nat.mul_le_mul_right _ (Nat.log2_self_le positive₁.ne')
  exact (Nat.le_log2 (Nat.pos_of_ne_zero fun zero => by omega).ne').mpr large

theorem roundsTo_div (sign₁ sign₂ : Sign) {m₁ m₂ : Nat} {e₁ e₂ : Int} (positive₁ : 0 < m₁)
    (positive₂ : 0 < m₂) :
    RoundsTo (m₁ * 2 ^ e₁ / (m₂ * 2 ^ e₂)) (packedValue
      (UnpackedFloat.div Format.binary64 (.finite sign₁ m₁ e₁ positive₁)
        (.finite sign₂ m₂ e₂ positive₂))) := by
  obtain ⟨e, aim⟩ : ∃ e, min (e₁ - e₂)
      (max (m₁.log2 + e₁ - (m₂.log2 + e₂) - 53) (-1074)) = e := ⟨_, rfl⟩
  obtain ⟨places, shift⟩ : ∃ places : Nat, e₁ - e₂ - e = places := ⟨(e₁ - e₂ - e).toNat, by omega⟩
  have core : divCore Format.binary64 m₁ e₁ m₂ e₂ =
      ((m₁ <<< places) / m₂, e, accuracyOfFraction ((m₁ <<< places) % m₂) m₂) := by
    have target : min (e₁ - e₂) (Format.binary64.targetExponent
        (totalExponent m₁ e₁ - totalExponent m₂ e₂)) = e := by
      rw [← aim]
      simp only [Format.targetExponent, totalExponent, Format.mantissaBits, Format.minExponent]
      norm_num
      omega
    simp only [divCore, target, shift, Int.toNat_natCast]
  have divided : (m₁ * 2 ^ e₁ / (m₂ * 2 ^ e₂) : ℚ) / 2 ^ e * m₂ =
      ((m₁ <<< places) / m₂ : Nat) * m₂ + ((m₁ <<< places) % m₂ : Nat) := by
    have divisor : (m₂ : ℚ) ≠ 0 := by exact_mod_cast positive₂.ne'
    have exponent : e₁ = places + e + e₂ := by omega
    have whole : ((m₁ <<< places) / m₂ : Nat) * (m₂ : ℚ) + ((m₁ <<< places) % m₂ : Nat) =
        m₁ * 2 ^ places := by
      rw [← Nat.cast_mul, ← Nat.cast_add, Nat.div_add_mod', Nat.shiftLeft_eq]
      push_cast
      rfl
    rw [whole, exponent, two_zpow_add, two_zpow_add, zpow_natCast]
    have := (two_zpow_pos e).ne'
    have := (two_zpow_pos e₂).ne'
    field_simp
  simp only [UnpackedFloat.div, core]
  refine roundsTo_roundWithAccuracy _
    (approximates_accuracyOfFraction divided (Nat.mod_lt _ positive₂)) ?_
  rcases le_or_gt e (-1074) with least | normal
  · exact le_max_of_le_right least
  · have bits : 52 ≤ ((m₁ <<< places) / m₂).log2 := quotient_bits positive₁ positive₂ (by omega)
    omega

/-! ## Numbers -/

theorem roundsTo_zero : RoundsTo 0 0 := by
  refine ⟨-1074, 0, ⟨le_rfl, mul_pos (by norm_num) (two_zpow_pos _), Or.inl rfl⟩, ?_, by simp⟩
  rw [zero_div]
  exact ⟨by norm_num, by norm_num, fun odd => by cases odd⟩

theorem mul_exponent_le {m₁ m₂ : Nat} {e₁ e₂ : Int} (positive₁ : 0 < m₁) (positive₂ : 0 < m₂)
    (fitting₁ : Fitting m₁ e₁) (fitting₂ : Fitting m₂ e₂) :
    e₁ + e₂ ≤ max ((m₁ * m₂).log2 + (e₁ + e₂) - 52) (-1074) := by
  rcases Nat.lt_or_ge (m₁ * m₂) (2 ^ 52) with small | large
  · have subnormal₁ : e₁ = -1074 := fitting₁.normal.resolve_right fun normal => by
      have := Nat.le_mul_of_pos_right m₁ positive₂
      omega
    have subnormal₂ : e₂ = -1074 := fitting₂.normal.resolve_right fun normal => by
      have := Nat.le_mul_of_pos_left m₂ positive₁
      omega
    omega
  · have bits := (Nat.le_log2 (Nat.mul_pos positive₁ positive₂).ne').mpr large
    omega

/-- A product is the product of the absolute values, rounded. -/
theorem absolute_mul (x y : Float) : RoundsTo (absolute x * absolute y) (absolute (x * y)) := by
  change RoundsTo (unpackedValue x.toModel.unpack * unpackedValue y.toModel.unpack)
    (packedValue (UnpackedFloat.mul Format.binary64 x.toModel.unpack y.toModel.unpack))
  cases left : x.toModel.unpack with
  | finite sign₁ m₁ e₁ positive₁ =>
      cases right : y.toModel.unpack with
      | finite sign₂ m₂ e₂ positive₂ =>
          have le := mul_exponent_le positive₁ positive₂ (unpack_finite_spec left).2.1
            (unpack_finite_spec right).2.1
          exact roundsTo_mul sign₁ sign₂ positive₁ positive₂ le
      | _ => simp [UnpackedFloat.mul, roundsTo_zero]
  | _ =>
      cases y.toModel.unpack <;> simp [UnpackedFloat.mul, roundsTo_zero]

theorem absolute_div (x y : Float) : RoundsTo (absolute x / absolute y) (absolute (x / y)) := by
  change RoundsTo (unpackedValue x.toModel.unpack / unpackedValue y.toModel.unpack)
    (packedValue (UnpackedFloat.div Format.binary64 x.toModel.unpack y.toModel.unpack))
  cases left : x.toModel.unpack with
  | finite sign₁ m₁ e₁ positive₁ =>
      cases right : y.toModel.unpack with
      | finite sign₂ m₂ e₂ positive₂ => exact roundsTo_div sign₁ sign₂ positive₁ positive₂
      | _ => simp [UnpackedFloat.div, roundsTo_zero]
  | _ =>
      cases y.toModel.unpack <;> simp [UnpackedFloat.div, roundsTo_zero]

theorem absolute_neg (x : Float) : absolute (-x) = absolute x := by
  change packedValue x.toModel.unpack.neg = unpackedValue x.toModel.unpack
  cases unpacked : x.toModel.unpack with
  | finite sign m e positive =>
      obtain ⟨-, fitting, greatest⟩ := unpack_finite_spec unpacked
      exact (packedValue_finite _ positive fitting).trans
        (if_pos (mul_two_zpow_lt fitting.small greatest))
  | _ => simp [UnpackedFloat.neg]

theorem isFactor_iff {x : Float} : Magnitude.isFactor x = true ↔ absolute x ≠ 0 := by
  have zero : (0.0 : Float).toModel.unpack = .zero .positive := rfl
  change (x.toModel.unpack.isFinite &&
      !(x.toModel.unpack.beq (0.0 : Float).toModel.unpack)) = true ↔
    unpackedValue x.toModel.unpack ≠ 0
  rw [zero]
  cases x.toModel.unpack with
  | finite sign m e positive =>
      have nonzero : (m : ℚ) * 2 ^ e ≠ 0 :=
        mul_ne_zero (by exact_mod_cast positive.ne') (two_zpow_pos e).ne'
      cases sign <;>
        simp [unpackedValue, nonzero, UnpackedFloat.isFinite, UnpackedFloat.beq,
          UnpackedFloat.compare]
  | _ => simp [UnpackedFloat.isFinite, UnpackedFloat.beq, UnpackedFloat.compare]

end UnitCheck
