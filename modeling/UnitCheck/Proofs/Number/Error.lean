import UnitCheck.Proofs.Number.Range

/-!
# Rounding errors

A product of moderate size is off by at most one part in `2 ^ 53`, and its sign is that of the exact
product. So a product of several numbers is known up to one rounding for each of them, whatever the
order in which they are multiplied: `Rounded.mul` and `Rounded.differByRounding`.
-/

namespace UnitCheck

open Float.Model Float.Model.UnpackedFloat

/-! ## Signs -/

def signOf (x : Float) : Sign :=
  Sign.ofBitVec (@unpackSign Format.binary64 x.toModel.toBits.toBitVec)

def signFactor : Sign → ℤ
  | .negative => -1
  | .positive => 1

theorem signFactor_mul (s t : Sign) : signFactor (s * t) = signFactor s * signFactor t := by
  cases s <;> cases t <;> rfl

theorem signFactor_injective {s t : Sign} (same : signFactor s = signFactor t) : s = t := by
  cases s <;> cases t <;> first | rfl | cases same

theorem sign_pack_finite (sign : Sign) {m : Nat} (e : Int) (positive : 0 < m) :
    Sign.ofBitVec (unpackSign (UnpackedFloat.pack Format.binary64 (.finite sign m e positive))) =
      sign := by
  simp only [UnpackedFloat.pack, packedInfinity]
  split
  · rw [unpackSign_packComponents, Sign.ofBitVec_toBitVec]
  · split <;> rw [unpackSign_packComponents, Sign.ofBitVec_toBitVec]

theorem sign_pack_zero (sign : Sign) :
    Sign.ofBitVec (unpackSign (UnpackedFloat.pack Format.binary64 (.zero sign))) = sign := by
  simp only [UnpackedFloat.pack, packedZero]
  rw [unpackSign_packComponents, Sign.ofBitVec_toBitVec]

theorem sign_pack_rounded (sign : Sign) (mantissa : Nat) (exponent : Int) (accuracy : Accuracy) :
    Sign.ofBitVec (unpackSign (UnpackedFloat.pack Format.binary64
      (roundWithAccuracy Format.binary64 sign mantissa exponent accuracy))) = sign := by
  simp only [roundWithAccuracy]
  split
  · exact sign_pack_zero sign
  · exact sign_pack_finite sign _ _

theorem exists_finite {x : Float} (usable : absolute x ≠ 0) :
    ∃ m e positive, x.toModel.unpack = .finite (signOf x) m e positive := by
  cases unpacked : x.toModel.unpack with
  | finite sign m e positive =>
      obtain rfl : signOf x = sign := (unpack_finite_spec unpacked).1
      exact ⟨m, e, positive, rfl⟩
  | _ => exact absurd (by rw [absolute, unpacked]; rfl) usable

theorem signOf_mul {x y : Float} (left : absolute x ≠ 0) (right : absolute y ≠ 0) :
    signOf (x * y) = signOf x * signOf y := by
  obtain ⟨m₁, e₁, positive₁, unpacked₁⟩ := exists_finite left
  obtain ⟨m₂, e₂, positive₂, unpacked₂⟩ := exists_finite right
  change Sign.ofBitVec (unpackSign (UnpackedFloat.pack Format.binary64
    (UnpackedFloat.mul Format.binary64 x.toModel.unpack y.toModel.unpack))) = _
  rw [unpacked₁, unpacked₂]
  exact sign_pack_rounded _ _ _ _

/-! ## Relative errors -/

theorem RoundsTo.error_le {v r : ℚ} (rounds : RoundsTo v r) {bits : Nat}
    (moderate : Moderate bits v) (range : bits ≤ 1022) : |r - v| ≤ v / 2 ^ 53 := by
  have below := (moderate.inRange (by omega)).2
  obtain ⟨t, n, ulp, nearest, rfl⟩ := rounds
  rw [if_pos ((lt_iff_of_nearest ulp nearest).mpr below)]
  have scale := two_zpow_pos t
  -- From `2 ^ (-1022)` upwards all bits are in use, in the smallest unit in the last place too.
  have normal : 2 ^ 52 * 2 ^ t ≤ v := by
    rcases ulp.normal with rfl | normal
    · calc (2 : ℚ) ^ 52 * 2 ^ (-1074 : Int) = 2 ^ (52 + -1074 : Int) := by
            rw [two_zpow_add]; norm_cast
        _ ≤ 2 ^ (-bits : Int) := two_zpow_le (by omega)
        _ ≤ v := moderate.1
    · exact normal
  have value : v = v / 2 ^ t * 2 ^ t := (div_mul_cancel₀ v scale.ne').symm
  have lower := mul_le_mul_of_nonneg_right nearest.lower scale.le
  have upper := mul_le_mul_of_nonneg_right nearest.upper scale.le
  rw [← value] at lower upper
  rw [abs_le]
  constructor <;> linarith

/-- A product of `n` numbers that was rounded after each multiplication, with the sign and the
absolute value of the exact product. -/
structure Rounded (n : Nat) (s : ℤ) (v : ℚ) (x : Float) : Prop where
  sign : signFactor (signOf x) = s
  lower : (1 - 1 / 2 ^ 53) ^ n * v ≤ absolute x
  upper : absolute x ≤ (1 + 1 / 2 ^ 53) ^ n * v

/-- The two numbers have the same sign and are equal but for `n` roundings of each of them. -/
structure DifferByRounding (n : Nat) (x y : Float) : Prop where
  sign : signOf x = signOf y
  le : (1 - 1 / 2 ^ 53) ^ n * absolute x ≤ (1 + 1 / 2 ^ 53) ^ n * absolute y
  ge : (1 - 1 / 2 ^ 53) ^ n * absolute y ≤ (1 + 1 / 2 ^ 53) ^ n * absolute x

namespace Rounded

variable {n : Nat} {s : ℤ} {v : ℚ} {x y : Float}

theorem one : Rounded 0 1 1 (1.0 : Float) := by
  have value : absolute 1.0 = (2 ^ 52 : Nat) * 2 ^ (-52 : Int) := rfl
  refine ⟨rfl, ?_, ?_⟩ <;> rw [value] <;> norm_num

theorem mul (rounded : Rounded n s v x) (left : absolute x ≠ 0) (right : 0 < absolute y)
    {bits : Nat} (moderate : Moderate bits (absolute x * absolute y)) (range : bits ≤ 1022) :
    Rounded (n + 1) (s * signFactor (signOf y)) (v * absolute y) (x * y) := by
  have error := abs_le.mp ((absolute_mul x y).error_le moderate range)
  refine ⟨?_, ?_, ?_⟩
  · rw [signOf_mul left right.ne', signFactor_mul, rounded.sign]
  · calc (1 - 1 / 2 ^ 53) ^ (n + 1) * (v * absolute y)
        = (1 - 1 / 2 ^ 53) * ((1 - 1 / 2 ^ 53) ^ n * v * absolute y) := by ring
      _ ≤ (1 - 1 / 2 ^ 53) * (absolute x * absolute y) :=
          mul_le_mul_of_nonneg_left (mul_le_mul_of_nonneg_right rounded.lower right.le)
            (by norm_num)
      _ ≤ absolute (x * y) := by linarith
  · calc absolute (x * y) ≤ (1 + 1 / 2 ^ 53) * (absolute x * absolute y) := by linarith
      _ ≤ (1 + 1 / 2 ^ 53) * ((1 + 1 / 2 ^ 53) ^ n * v * absolute y) :=
          mul_le_mul_of_nonneg_left (mul_le_mul_of_nonneg_right rounded.upper right.le)
            (by norm_num)
      _ = (1 + 1 / 2 ^ 53) ^ (n + 1) * (v * absolute y) := by ring

theorem le (first : Rounded n s v x) (second : Rounded n s v y) :
    (1 - 1 / 2 ^ 53) ^ n * absolute x ≤ (1 + 1 / 2 ^ 53) ^ n * absolute y := by
  calc (1 - 1 / 2 ^ 53) ^ n * absolute x
      ≤ (1 - 1 / 2 ^ 53) ^ n * ((1 + 1 / 2 ^ 53) ^ n * v) :=
        mul_le_mul_of_nonneg_left first.upper (by positivity)
    _ = (1 + 1 / 2 ^ 53) ^ n * ((1 - 1 / 2 ^ 53) ^ n * v) := by ring
    _ ≤ (1 + 1 / 2 ^ 53) ^ n * absolute y :=
        mul_le_mul_of_nonneg_left second.lower (by positivity)

theorem differByRounding (first : Rounded n s v x) (second : Rounded n s v y) :
    DifferByRounding n x y :=
  ⟨signFactor_injective (first.sign.trans second.sign.symm), first.le second, second.le first⟩

end Rounded

end UnitCheck
