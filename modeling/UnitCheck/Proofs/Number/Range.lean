import UnitCheck.Proofs.Number.Binary64

/-!
# The range of binary64

A product is usable, finite and not zero, exactly if its exact value is `InRange`. `Within` bounds a
number by powers of two on both sides; rounding keeps such bounds, so they add up in products,
quotients and powers as if there were no rounding.
-/

namespace UnitCheck

/-- The values that round to a finite number other than zero: those above half of the smallest
number, and below the middle of the largest number and `2 ^ 1024`. -/
def InRange (v : ℚ) : Prop :=
  2 ^ (-1075 : Int) < v ∧ v < (2 ^ 54 - 1) * 2 ^ (970 : Int)

theorem half_mul_two_zpow (t : Int) : (1 / 2 : ℚ) * 2 ^ t = 2 ^ (t - 1) := by
  rw [zpow_sub_one₀ two_ne_zero]
  ring

theorem two_zpow_le {s t : Int} (le : s ≤ t) : (2 : ℚ) ^ s ≤ 2 ^ t :=
  zpow_le_zpow_right₀ one_le_two le

variable {v r : ℚ} {t : Int} {n : Nat}

theorem ne_zero_iff_of_nearest (ulp : Ulp v t) (nearest : Nearest n (v / 2 ^ t)) :
    n ≠ 0 ↔ 2 ^ (-1075 : Int) < v := by
  rw [ne_eq, nearest.eq_zero_iff, not_le, lt_div_iff₀ (two_zpow_pos t), half_mul_two_zpow]
  rcases ulp.normal with rfl | normal
  · rfl
  · have half : (2 : ℚ) ^ (t - 1) < v := by
      refine lt_of_lt_of_le ?_ normal
      rw [← half_mul_two_zpow]
      exact mul_lt_mul_of_pos_right (by norm_num) (two_zpow_pos t)
    have least := ulp.least
    exact iff_of_true half (lt_of_le_of_lt (two_zpow_le (by omega)) half)

theorem lt_iff_of_nearest (ulp : Ulp v t) (nearest : Nearest n (v / 2 ^ t)) :
    (n : ℚ) * 2 ^ t < 2 ^ (1024 : Int) ↔ v < (2 ^ 54 - 1) * 2 ^ (970 : Int) := by
  have scale := two_zpow_pos t
  rcases lt_trichotomy t 971 with small | rfl | large
  · have top : (2 : ℚ) ^ 53 * 2 ^ t ≤ 2 ^ 53 * 2 ^ (970 : Int) :=
      mul_le_mul_of_nonneg_left (two_zpow_le (by omega)) (by norm_num)
    refine iff_of_true ?_ (lt_of_lt_of_le ulp.below (top.trans ?_))
    · have bounded : (n : ℚ) ≤ 2 ^ 53 := by
        have : v / 2 ^ t ≤ (2 ^ 53 : Nat) := by
          rw [div_le_iff₀ scale]
          exact_mod_cast ulp.below.le
        exact_mod_cast nearest.le_of_le this
      calc (n : ℚ) * 2 ^ t ≤ 2 ^ 53 * 2 ^ t := mul_le_mul_of_nonneg_right bounded scale.le
        _ ≤ 2 ^ 53 * 2 ^ (970 : Int) := top
        _ = 2 ^ (1023 : Int) := by rw [show (1023 : Int) = 53 + 970 by rfl, two_zpow_add]; rfl
        _ < 2 ^ (1024 : Int) := zpow_lt_zpow_right₀ one_lt_two (by norm_num)
    · exact mul_le_mul_of_nonneg_right (by norm_num) (two_zpow_pos _).le
  · have fits : (n : ℚ) * 2 ^ (971 : Int) < 2 ^ (1024 : Int) ↔ n < 2 ^ 53 := by
      rw [show (1024 : Int) = 53 + 971 by rfl, two_zpow_add, mul_lt_mul_iff_left₀ (two_zpow_pos _)]
      exact_mod_cast Iff.rfl
    have middle : (2 ^ 53 - 1 / 2 : ℚ) * 2 ^ (971 : Int) = (2 ^ 54 - 1) * 2 ^ (970 : Int) := by
      rw [show (971 : Int) = 1 + 970 by rfl, two_zpow_add]
      ring
    rw [fits, nearest.lt_iff (by norm_num), div_lt_iff₀ scale, ← middle]
    norm_num
  · have normal : 2 ^ 52 * 2 ^ t ≤ v := ulp.normal.resolve_left (by omega)
    have bits : 2 ^ 52 ≤ n := nearest.ge_of_ge (by
      rw [le_div_iff₀ scale]
      exact_mod_cast normal)
    refine iff_of_false (not_lt.mpr (le_mul_two_zpow bits (by omega))) (not_lt.mpr ?_)
    calc ((2 ^ 54 - 1) * 2 ^ (970 : Int) : ℚ) ≤ 2 ^ 52 * 2 ^ 2 * 2 ^ (970 : Int) :=
          mul_le_mul_of_nonneg_right (by norm_num) (two_zpow_pos _).le
      _ = 2 ^ 52 * 2 ^ (972 : Int) := by
          rw [show (972 : Int) = 2 + 970 by rfl, two_zpow_add, mul_assoc]
          rfl
      _ ≤ 2 ^ 52 * 2 ^ t := mul_le_mul_of_nonneg_left (two_zpow_le (by omega)) (by norm_num)
      _ ≤ v := normal

namespace RoundsTo

theorem ne_zero_iff (rounds : RoundsTo v r) : r ≠ 0 ↔ InRange v := by
  obtain ⟨t, n, ulp, nearest, rfl⟩ := rounds
  rw [InRange, ← ne_zero_iff_of_nearest ulp nearest, ← lt_iff_of_nearest ulp nearest]
  have scale := (two_zpow_pos t).ne'
  split
  · rename_i fits
    simp only [ne_eq, mul_eq_zero, Nat.cast_eq_zero, scale, or_false, fits, and_true]
  · rename_i overflows
    simp only [ne_eq, not_true_eq_false, overflows, and_false]

theorem le_two_zpow (rounds : RoundsTo v r) {b : Int} (least : -1074 ≤ b) (le : v ≤ 2 ^ b) :
    r ≤ 2 ^ b := by
  obtain ⟨t, n, ulp, nearest, rfl⟩ := rounds
  split
  · rcases lt_or_ge b t with large | small
    · have normal : 2 ^ 52 * 2 ^ t ≤ v := ulp.normal.resolve_left (by omega)
      have less : (2 : ℚ) ^ b < 2 ^ t := zpow_lt_zpow_right₀ one_lt_two large
      linarith [two_zpow_pos t]
    · obtain ⟨places, rfl⟩ : ∃ places : Nat, b = places + t := ⟨(b - t).toNat, by omega⟩
      rw [two_zpow_add, zpow_natCast] at le ⊢
      have bounded : n ≤ 2 ^ places := nearest.le_of_le (by
        rw [div_le_iff₀ (two_zpow_pos t)]
        exact_mod_cast le)
      exact mul_le_mul_of_nonneg_right (by exact_mod_cast bounded) (two_zpow_pos t).le
  · exact (two_zpow_pos b).le

theorem ge_two_zpow (rounds : RoundsTo v r) {a : Int} (least : -1074 ≤ a) (le : 2 ^ a ≤ v)
    (below : v < (2 ^ 54 - 1) * 2 ^ (970 : Int)) : 2 ^ a ≤ r := by
  obtain ⟨t, n, ulp, nearest, rfl⟩ := rounds
  rw [if_pos ((lt_iff_of_nearest ulp nearest).mpr below)]
  rcases lt_or_ge a t with large | small
  · have normal : 2 ^ 52 * 2 ^ t ≤ v := ulp.normal.resolve_left (by omega)
    have bits : 2 ^ 52 ≤ n := nearest.ge_of_ge (by
      rw [le_div_iff₀ (two_zpow_pos t)]
      exact_mod_cast normal)
    have one : (1 : ℚ) ≤ n := by exact_mod_cast Nat.le_trans (by norm_num) bits
    exact (zpow_le_zpow_right₀ one_le_two large.le).trans
      (le_mul_of_one_le_left (two_zpow_pos t).le one)
  · obtain ⟨places, rfl⟩ : ∃ places : Nat, a = places + t := ⟨(a - t).toNat, by omega⟩
    rw [two_zpow_add, zpow_natCast] at le ⊢
    have bounded : 2 ^ places ≤ n := nearest.ge_of_ge (by
      rw [le_div_iff₀ (two_zpow_pos t)]
      exact_mod_cast le)
    exact mul_le_mul_of_nonneg_right (by exact_mod_cast bounded) (two_zpow_pos t).le

end RoundsTo

/-! ## Products -/

theorem isFactor_mul_iff {x y : Float} :
    Magnitude.isFactor (x * y) = true ↔ InRange (absolute x * absolute y) := by
  rw [isFactor_iff, (absolute_mul x y).ne_zero_iff]

theorem InRange.ne_zero {v : ℚ} (inRange : InRange v) : v ≠ 0 :=
  ((two_zpow_pos _).trans inRange.1).ne'

/-- An infinity, a NaN or a zero stays in every later product. -/
theorem isFactor_of_mul {x y : Float} (usable : Magnitude.isFactor (x * y) = true) :
    Magnitude.isFactor x = true ∧ Magnitude.isFactor y = true := by
  have nonzero := (isFactor_mul_iff.mp usable).ne_zero
  rw [isFactor_iff, isFactor_iff]
  exact mul_ne_zero_iff.mp nonzero

/-! ## Powers of two as bounds -/

/-- The value is at most `2 ^ bits` times larger or smaller than one. -/
def Moderate (bits : Nat) (v : ℚ) : Prop :=
  2 ^ (-bits : Int) ≤ v ∧ v ≤ 2 ^ (bits : Int)

theorem Moderate.inRange {bits : Nat} {v : ℚ} (moderate : Moderate bits v) (range : bits ≤ 1023) :
    InRange v := by
  constructor
  · exact (zpow_lt_zpow_right₀ one_lt_two (by omega)).trans_le moderate.1
  · calc v ≤ 2 ^ (bits : Int) := moderate.2
      _ ≤ 2 ^ (53 + 970 : Int) := two_zpow_le (by omega)
      _ = 2 ^ (53 : Int) * 2 ^ (970 : Int) := two_zpow_add _ _
      _ < (2 ^ 54 - 1) * 2 ^ (970 : Int) :=
        mul_lt_mul_of_pos_right (by norm_num) (two_zpow_pos _)

theorem Moderate.mul {a b : Nat} {v w : ℚ} (first : Moderate a v) (second : Moderate b w) :
    Moderate (a + b) (v * w) := by
  constructor
  · rw [Nat.cast_add, neg_add, two_zpow_add]
    exact mul_le_mul first.1 second.1 (two_zpow_pos _).le ((two_zpow_pos _).le.trans first.1)
  · rw [Nat.cast_add, two_zpow_add]
    exact mul_le_mul first.2 second.2 ((two_zpow_pos _).le.trans second.1) (two_zpow_pos _).le

/-- A usable number of moderate size. -/
def Within (bits : Nat) (x : Float) : Prop :=
  Moderate bits (absolute x)

namespace Within

variable {a b : Nat} {x y : Float}

theorem isFactor (within : Within a x) : Magnitude.isFactor x = true :=
  isFactor_iff.mpr ((two_zpow_pos _).trans_le within.1).ne'

theorem mono (within : Within a x) (le : a ≤ b) : Within b x :=
  ⟨(two_zpow_le (by omega)).trans within.1, within.2.trans (two_zpow_le (by omega))⟩

theorem of_roundsTo {v : ℚ} (rounds : RoundsTo v (absolute x)) (range : a ≤ 1023)
    (moderate : Moderate a v) : Within a x :=
  ⟨rounds.ge_two_zpow (by omega) moderate.1 (moderate.inRange range).2,
    rounds.le_two_zpow (by omega) moderate.2⟩

theorem mul (first : Within a x) (second : Within b y) (range : a + b ≤ 1023) :
    Within (a + b) (x * y) :=
  of_roundsTo (absolute_mul x y) range (Moderate.mul first second)

theorem div (first : Within a x) (second : Within b y) (range : a + b ≤ 1023) :
    Within (a + b) (x / y) := by
  have positive : 0 < absolute y := (two_zpow_pos _).trans_le second.1
  refine of_roundsTo (absolute_div x y) range ⟨?_, ?_⟩
  · rw [Nat.cast_add, neg_add, two_zpow_add, zpow_neg (2 : ℚ) b, ← div_eq_mul_inv]
    exact div_le_div₀ ((two_zpow_pos _).le.trans first.1) first.1 positive second.2
  · rw [Nat.cast_add, two_zpow_add, ← inv_inv ((2 : ℚ) ^ (b : Int)), ← zpow_neg, ← div_eq_mul_inv]
    exact div_le_div₀ (two_zpow_pos _).le first.2 (two_zpow_pos _) second.1

theorem one : Within 0 (1.0 : Float) := by
  have value : absolute 1.0 = (2 ^ 52 : Nat) * 2 ^ (-52 : Int) := rfl
  rw [Within, Moderate, value]
  norm_num

theorem powerAux (base : Within b x) (n : Nat) {acc : Float} (within : Within a acc)
    (range : a + b * n ≤ 1023) : Within (a + b * n) (Magnitude.powerAux x acc n) := by
  induction n using Nat.strong_induction_on generalizing x acc a b with
  | _ n ih =>
      have grown : b * n = b * (n % 2) + (b + b) * (n / 2) := by
        rw [← two_mul, mul_comm 2 b, mul_assoc, ← mul_add, Nat.mod_add_div]
      rw [grown, ← add_assoc] at range ⊢
      have low : Within (a + b * (n % 2)) (if n % 2 = 1 then acc * x else acc) := by
        rcases Nat.mod_two_eq_zero_or_one n with even | odd
        · rw [even]
          exact within
        · rw [odd] at range ⊢
          rw [if_pos rfl, mul_one] at *
          exact within.mul base (by omega)
      rw [Magnitude.powerAux]
      split
      · rename_i more
        have square : b + b ≤ (b + b) * (n / 2) := Nat.le_mul_of_pos_right _ (by omega)
        exact ih (n / 2) (by omega) (base.mul base (by omega)) low range
      · have last : n / 2 = 0 := by omega
        rw [last, mul_zero, add_zero]
        exact low

theorem power (base : Within b x) (n : Int32) (range : b * n.toInt.natAbs ≤ 1023) :
    Within (b * n.toInt.natAbs) (Magnitude.power x n) := by
  have positive := base.powerAux n.toInt.natAbs one (by rwa [zero_add])
  rw [zero_add] at positive
  unfold Magnitude.power
  split
  · have inverse := one.div positive (by rwa [zero_add])
    rwa [zero_add] at inverse
  · exact positive

end Within

end UnitCheck
