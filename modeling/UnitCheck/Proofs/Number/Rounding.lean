import Mathlib

/-!
# Rounding to 53 bits

The logical model of binary64 rounds an extended mantissa: the integer part of a value in units of
`2 ^ e`, with two bits about the part that was cut off. The value itself is a rational number here.

* `Approximates` is the meaning of the two bits, and `Approximates.shiftRight` says that shifting
  keeps it.
* `Ulp v t` says that `2 ^ t` is the unit in the last place of `v`, and `Nearest n x` that `n` is
  the integer nearest to `x`, even in a tie.
* `roundWithAccuracy_spec`: rounding gives the nearest multiple of the unit in the last place.
-/

namespace UnitCheck

open Float.Model Float.Model.UnpackedFloat

theorem two_zpow_pos (n : Int) : (0 : ℚ) < 2 ^ n :=
  zpow_pos two_pos n

theorem two_zpow_add (m n : Int) : (2 : ℚ) ^ (m + n) = 2 ^ m * 2 ^ n :=
  zpow_add₀ two_ne_zero m n

/-- The value `x` has the given integer part; the bits say on which side of the middle to the next
integer it is, and whether it is there exactly. -/
def Approximates (em : ExtendedMantissa) (x : ℚ) : Prop :=
  match em.roundBit, em.stickyBit with
  | false, false => x = em.mantissa
  | false, true => em.mantissa < x ∧ x < em.mantissa + 1 / 2
  | true, false => x = em.mantissa + 1 / 2
  | true, true => em.mantissa + 1 / 2 < x ∧ x < em.mantissa + 1

/-- The integer nearest to `x`; of two it is the even one. -/
structure Nearest (n : Nat) (x : ℚ) : Prop where
  lower : (n : ℚ) - 1 / 2 ≤ x
  upper : x ≤ n + 1 / 2
  tie : n % 2 = 1 → (n : ℚ) - 1 / 2 < x ∧ x < n + 1 / 2

/-! ## Extended mantissas -/

namespace Approximates

variable {em : ExtendedMantissa} {x : ℚ}

theorem floor (approximates : Approximates em x) : em.mantissa ≤ x ∧ x < em.mantissa + 1 := by
  obtain ⟨mantissa, roundBit, stickyBit⟩ := em
  cases roundBit <;> cases stickyBit <;> simp only [Approximates] at approximates ⊢ <;>
    constructor <;> linarith

theorem nearest (approximates : Approximates em x) : Nearest em.roundedMantissa x := by
  obtain ⟨mantissa, roundBit, stickyBit⟩ := em
  cases roundBit with
  | false =>
      cases stickyBit <;> simp only [Approximates] at approximates <;> change Nearest mantissa x <;>
        exact ⟨by linarith, by linarith, fun _ => ⟨by linarith, by linarith⟩⟩
  | true =>
      cases stickyBit <;> simp only [Approximates] at approximates
      · change Nearest (mantissa + mantissa % 2) x
        rcases Nat.mod_two_eq_zero_or_one mantissa with even | odd
        · rw [even]
          refine ⟨?_, ?_, fun odd => absurd odd (by omega)⟩ <;> push_cast <;> linarith
        · rw [odd]
          refine ⟨?_, ?_, fun odd => absurd odd (by omega)⟩ <;> push_cast <;> linarith
      · change Nearest (mantissa + 1) x
        refine ⟨?_, ?_, fun _ => ⟨?_, ?_⟩⟩ <;> push_cast <;> linarith

theorem shiftRightOne (approximates : Approximates em x) :
    Approximates em.shiftRightOne (x / 2) := by
  obtain ⟨mantissa, roundBit, stickyBit⟩ := em
  have halves : ((mantissa % 2 : Nat) : ℚ) + 2 * ((mantissa / 2 : Nat) : ℚ) = mantissa := by
    exact_mod_cast Nat.mod_add_div mantissa 2
  -- The lowest bit becomes the round bit, so its value decides about the half of `x`.
  rcases Nat.mod_two_eq_zero_or_one mantissa with parity | parity <;> rw [parity] at halves <;>
    cases roundBit <;> cases stickyBit <;>
    simp [Approximates, ExtendedMantissa.shiftRightOne, parity] at approximates halves ⊢ <;>
    (try constructor) <;> linarith

theorem shiftRight (approximates : Approximates em x) (places : Nat) :
    Approximates (em >>> places) (x / 2 ^ places) := by
  change Approximates (Nat.repeat ExtendedMantissa.shiftRightOne places em) (x / 2 ^ places)
  induction places with
  | zero => simpa [Nat.repeat] using approximates
  | succ places ih =>
      rw [pow_succ, ← div_div]
      exact ih.shiftRightOne

end Approximates

/-! ## Nearest integers -/

namespace Nearest

variable {n : Nat} {x : ℚ}

theorem le_of_le (nearest : Nearest n x) {bound : Nat} (below : x ≤ bound) : n ≤ bound := by
  by_contra above
  have next : (bound : ℚ) + 1 ≤ n := by exact_mod_cast Nat.lt_of_not_le above
  have := nearest.lower
  linarith

theorem ge_of_ge (nearest : Nearest n x) {bound : Nat} (above : (bound : ℚ) ≤ x) : bound ≤ n := by
  by_contra below
  have next : (n : ℚ) + 1 ≤ bound := by exact_mod_cast Nat.lt_of_not_le below
  have := nearest.upper
  linarith

theorem eq_zero_iff (nearest : Nearest n x) : n = 0 ↔ x ≤ 1 / 2 := by
  constructor
  · rintro rfl
    simpa using nearest.upper
  · intro small
    by_contra positive
    rcases Nat.lt_or_ge 1 n with more | one
    · have two : (2 : ℚ) ≤ n := by exact_mod_cast more
      have := nearest.lower
      linarith
    · obtain rfl : n = 1 := by omega
      have := (nearest.tie rfl).1
      push_cast at this
      linarith

theorem lt_iff (nearest : Nearest n x) {bound : Nat} (even : bound % 2 = 0) :
    n < bound ↔ x < bound - 1 / 2 := by
  constructor
  · intro less
    rcases Nat.lt_or_ge (n + 1) bound with far | near
    · have gap : (n : ℚ) + 2 ≤ bound := by exact_mod_cast far
      have := nearest.upper
      linarith
    · obtain rfl : bound = n + 1 := by omega
      have := (nearest.tie (by omega)).2
      push_cast
      linarith
  · intro less
    by_contra above
    have next : (bound : ℚ) ≤ n := by exact_mod_cast Nat.le_of_not_lt above
    have := nearest.lower
    linarith

end Nearest

/-! ## Units in the last place -/

/-- A value in units of `2 ^ t` has 53 bits before the point, or fewer if there is no smaller
unit. -/
structure Ulp (v : ℚ) (t : Int) : Prop where
  least : -1074 ≤ t
  below : v < 2 ^ 53 * 2 ^ t
  normal : t = -1074 ∨ 2 ^ 52 * 2 ^ t ≤ v

/-- The number `n * 2 ^ t` with a mantissa of at most 53 bits, for `n` up to `2 ^ 53`. -/
def canonical (sign : Sign) (n : Nat) (t : Int) : UnpackedFloat :=
  if zero : n = 0 then .zero sign
  else if n < 2 ^ 53 then .finite sign n t (Nat.pos_of_ne_zero zero)
  else .finite sign (2 ^ 52) (t + 1) (by decide)

theorem targetExponent_eq (mantissa : Nat) (exponent : Int) :
    Format.binary64.targetExponent (totalExponent mantissa exponent) =
      max (mantissa.log2 + exponent - 52) (-1074) := by
  simp only [Format.targetExponent, totalExponent, Format.mantissaBits, Format.minExponent]
  norm_num
  omega

theorem ulp_of_floor {mantissa : Nat} {exponent target : Int} {v : ℚ}
    (floor : mantissa ≤ v / 2 ^ exponent ∧ v / 2 ^ exponent < mantissa + 1)
    (aim : max (mantissa.log2 + exponent - 52) (-1074) = target) (le : exponent ≤ target) :
    Ulp v target := by
  have scale := two_zpow_pos exponent
  have lower := (le_div_iff₀ scale).mp floor.1
  have upper := (div_lt_iff₀ scale).mp floor.2
  refine ⟨by omega, ?_, ?_⟩
  · have bits : (mantissa : ℚ) + 1 ≤ 2 ^ (mantissa.log2 + 1) := by
      exact_mod_cast (Nat.lt_log2_self : mantissa < 2 ^ (mantissa.log2 + 1))
    calc v < (mantissa + 1) * 2 ^ exponent := upper
      _ ≤ 2 ^ (mantissa.log2 + 1) * 2 ^ exponent := mul_le_mul_of_nonneg_right bits scale.le
      _ = 2 ^ ((mantissa.log2 + 1 : Int) + exponent) := by rw [two_zpow_add]; norm_cast
      _ ≤ 2 ^ (53 + target) := zpow_le_zpow_right₀ one_le_two (by omega)
      _ = 2 ^ 53 * 2 ^ target := by rw [two_zpow_add]; norm_cast
  · rcases lt_or_ge (-1074) target with normal | least
    · right
      have nonzero : mantissa ≠ 0 := by
        rintro rfl
        simp at aim
        omega
      have bits : (2 : ℚ) ^ mantissa.log2 ≤ mantissa := by
        exact_mod_cast Nat.log2_self_le nonzero
      calc (2 : ℚ) ^ 52 * 2 ^ target = 2 ^ (52 + target) := by rw [two_zpow_add]; norm_cast
        _ = 2 ^ ((mantissa.log2 : Int) + exponent) := by congr 1; omega
        _ = 2 ^ mantissa.log2 * 2 ^ exponent := by rw [two_zpow_add]; norm_cast
        _ ≤ mantissa * 2 ^ exponent := mul_le_mul_of_nonneg_right bits scale.le
        _ ≤ v := lower
    · left
      omega

/-! ## Rounding -/

theorem shiftToTargetExponent_eq {mantissa : Nat} {exponent : Int} {accuracy : Accuracy}
    {places : Nat}
    (shift : (max (mantissa.log2 + exponent - 52) (-1074) - exponent).toNat = places) :
    shiftToTargetExponent Format.binary64 mantissa exponent accuracy =
      (ExtendedMantissa.ofMantissaAndAccuracy mantissa accuracy >>> places, exponent + places) := by
  simp only [shiftToTargetExponent, shiftToExponent, targetExponent_eq, shift]

theorem roundWithAccuracy_eq_canonical {mantissa n places : Nat} {exponent : Int}
    {accuracy : Accuracy} {sign : Sign}
    (shift : (max (mantissa.log2 + exponent - 52) (-1074) - exponent).toNat = places)
    (rounded : (ExtendedMantissa.ofMantissaAndAccuracy mantissa accuracy >>>
      places).roundedMantissa = n)
    (least : -1074 ≤ exponent + places) (bounded : n ≤ 2 ^ 53) :
    roundWithAccuracy Format.binary64 sign mantissa exponent accuracy =
      canonical sign n (exponent + places) := by
  unfold roundWithAccuracy canonical
  simp only [shiftToTargetExponent_eq shift, rounded]
  -- The second shift only matters for a mantissa that was rounded up to 54 bits.
  rcases Nat.lt_or_ge n (2 ^ 53) with small | large
  · have bits : n.log2 ≤ 52 := by
      rcases Nat.eq_zero_or_pos n with rfl | positive
      · simp
      · exact Nat.le_of_lt_succ ((Nat.log2_lt positive.ne').mpr small)
    have stays : (max (n.log2 + (exponent + places) - 52) (-1074) - (exponent + places)).toNat =
        0 := by omega
    have again : shiftToTargetExponent Format.binary64 n (exponent + places) .exact =
        (⟨n, false, false⟩, exponent + places) := by
      rw [shiftToTargetExponent_eq stays, Nat.cast_zero, add_zero]
      rfl
    simp only [again, small, if_true]
  · obtain rfl : n = 2 ^ 53 := by omega
    have moves : (max ((2 ^ 53 : Nat).log2 + (exponent + places) - 52) (-1074) -
        (exponent + places)).toNat = 1 := by
      rw [Nat.log2_two_pow]
      omega
    have again : shiftToTargetExponent Format.binary64 (2 ^ 53) (exponent + places) .exact =
        (⟨2 ^ 52, false, false⟩, exponent + places + 1) := by
      rw [shiftToTargetExponent_eq moves]
      rfl
    simp only [again]
    rfl

/-- The model rounds to the nearest multiple of the unit in the last place. -/
theorem roundWithAccuracy_spec {mantissa : Nat} {exponent : Int} {accuracy : Accuracy} {v : ℚ}
    (sign : Sign)
    (approximates : Approximates (.ofMantissaAndAccuracy mantissa accuracy) (v / 2 ^ exponent))
    (le : exponent ≤ max (mantissa.log2 + exponent - 52) (-1074)) :
    ∃ (t : Int) (n : Nat), Ulp v t ∧ Nearest n (v / 2 ^ t) ∧
      roundWithAccuracy Format.binary64 sign mantissa exponent accuracy = canonical sign n t := by
  obtain ⟨target, aim⟩ : ∃ t : Int, max (mantissa.log2 + exponent - 52) (-1074) = t := ⟨_, rfl⟩
  rw [aim] at le
  obtain ⟨places, rfl⟩ : ∃ places : Nat, target = exponent + places :=
    ⟨(target - exponent).toNat, by omega⟩
  have integerPart : (ExtendedMantissa.ofMantissaAndAccuracy mantissa accuracy).mantissa =
      mantissa := by
    unfold ExtendedMantissa.ofMantissaAndAccuracy
    split <;> rfl
  have floor := approximates.floor
  rw [integerPart] at floor
  have ulp := ulp_of_floor floor aim le
  have nearest := (approximates.shiftRight places).nearest
  have unit : v / 2 ^ exponent / 2 ^ places = v / 2 ^ (exponent + places : Int) := by
    rw [div_div, two_zpow_add, zpow_natCast]
  rw [unit] at nearest
  have small : v / 2 ^ (exponent + places : Int) ≤ (2 ^ 53 : Nat) := by
    rw [div_le_iff₀ (two_zpow_pos _)]
    exact_mod_cast ulp.below.le
  exact ⟨_, _, ulp, nearest,
    roundWithAccuracy_eq_canonical (by rw [aim]; omega) rfl ulp.least (nearest.le_of_le small)⟩

end UnitCheck
