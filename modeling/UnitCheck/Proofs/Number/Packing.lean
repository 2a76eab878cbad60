import UnitCheck.Proofs.Number.Rounding

/-!
# Packing into 64 bits

A rounded number is packed into a sign, an exponent and a mantissa, and unpacked again for the next
operation. Packing keeps it unless it is `2 ^ 1024` or more, which becomes infinite:
`packedValue_canonical`.
-/

namespace UnitCheck

open Float.Model Float.Model.UnpackedFloat

/-! ## Bits -/

theorem toNat_one_append (mantissa : BitVec 52) :
    (1#1 ++ mantissa).toNat = 2 ^ 52 + mantissa.toNat := by
  rw [BitVec.toNat_append, ← Nat.shiftLeft_add_eq_or_of_lt mantissa.isLt]
  rfl

theorem unpack_packComponents (sign : Sign) (exponent : BitVec 11) (mantissa : BitVec 52)
    (finite : exponent ≠ -1#11) :
    UnpackedFloat.unpack Format.binary64
        (packComponents Format.binary64 sign exponent mantissa) =
      if exponent = 0#11 then
        if zero : mantissa.toNat = 0 then .zero sign
        else .finite sign mantissa.toNat (-1074) (Nat.pos_of_ne_zero zero)
      else .finite sign (2 ^ 52 + mantissa.toNat) (exponent.toNat - 1075) (by omega) := by
  unfold UnpackedFloat.unpack
  simp only [unpackMantissa_packComponents, unpackExponent_packComponents,
    unpackSign_packComponents, Sign.ofBitVec_toBitVec, finite, if_false, toNat_one_append]
  split
  · rename_i subnormal
    subst subnormal
    by_cases zero : mantissa = 0#52
    · simp [zero]
    · have zero' : mantissa.toNat ≠ 0 := fun same => zero (BitVec.eq_of_toNat_eq same)
      simp only [zero, zero', dif_neg, not_false_eq_true]
      rfl
  · rfl

theorem unpack_pack (f : UnpackedFloat) :
    (Float.Model.pack f).unpack =
      UnpackedFloat.unpack Format.binary64 (UnpackedFloat.pack Format.binary64 f) := rfl

theorem pack_finite (sign : Sign) {m biased : Nat} {e : Int} (positive : 0 < m)
    (shifted : e + 1075 = biased) :
    UnpackedFloat.pack Format.binary64 (.finite sign m e positive) =
      if 2047 ≤ biased then packedInfinity Format.binary64 sign
      else if m.log2 = 52 then
        packComponents Format.binary64 sign (BitVec.ofNat 11 biased) (BitVec.ofNat 52 m)
      else packComponents Format.binary64 sign 0#11 (BitVec.ofNat 52 m) := by
  have bias : e + Format.binary64.exponentBias + Format.binary64.mantissaBitsWithoutImplicit =
      biased := by
    have : e + 1023 + 52 = biased := by omega
    exact this
  rw [UnpackedFloat.pack]
  simp only [bias, Int.toNat_natCast]
  congr 1
  · exact propext (Nat.succ_le_succ_iff (a := 2047) (b := biased))
  · congr 1
    exact propext (Nat.succ_inj (a := m.log2) (b := 52))

theorem toNat_ofNat_of_lt {width n : Nat} (bound : n < 2 ^ width) :
    (BitVec.ofNat width n).toNat = n := by
  rw [BitVec.toNat_ofNat, Nat.mod_eq_of_lt bound]

theorem unpack_pack_overflow (sign : Sign) {m : Nat} {e : Int} (positive : 0 < m)
    (overflow : 972 ≤ e) :
    (Float.Model.pack (.finite sign m e positive)).unpack = .infinity sign := by
  obtain ⟨biased, shifted⟩ : ∃ biased : Nat, e + 1075 = biased := ⟨(e + 1075).toNat, by omega⟩
  rw [unpack_pack, pack_finite sign positive shifted, if_pos (by omega)]
  cases sign <;> rfl

theorem unpack_pack_normal (sign : Sign) {m : Nat} {e : Int} (positive : 0 < m)
    (large : 2 ^ 52 ≤ m) (small : m < 2 ^ 53) (least : -1074 ≤ e) (greatest : e ≤ 971) :
    (Float.Model.pack (.finite sign m e positive)).unpack = .finite sign m e positive := by
  have bits : m.log2 = 52 := (Nat.log2_eq_iff positive.ne').mpr ⟨large, small⟩
  obtain ⟨biased, shifted⟩ : ∃ biased : Nat, e + 1075 = biased := ⟨(e + 1075).toNat, by omega⟩
  have exponent : (BitVec.ofNat 11 biased).toNat = biased := toNat_ofNat_of_lt (by omega)
  have mantissa : 2 ^ 52 + (BitVec.ofNat 52 m).toNat = m := by
    rw [BitVec.toNat_ofNat]
    omega
  have finite : BitVec.ofNat 11 biased ≠ -1#11 := by
    intro same
    have := exponent.symm.trans (congrArg BitVec.toNat same)
    have top : (-1#11 : BitVec 11).toNat = 2047 := rfl
    omega
  have nonzero : BitVec.ofNat 11 biased ≠ 0#11 := by
    intro same
    have := exponent.symm.trans (congrArg BitVec.toNat same)
    have bottom : (0#11 : BitVec 11).toNat = 0 := rfl
    omega
  have value : (biased : Int) - 1075 = e := by omega
  rw [unpack_pack, pack_finite sign positive shifted, if_neg (by omega), if_pos bits]
  refine (unpack_packComponents sign _ _ finite).trans ?_
  simp only [nonzero, if_false, exponent, mantissa, value]

theorem unpack_pack_subnormal (sign : Sign) {m : Nat} (positive : 0 < m) (small : m < 2 ^ 52) :
    (Float.Model.pack (.finite sign m (-1074) positive)).unpack =
      .finite sign m (-1074) positive := by
  have bits : m.log2 ≠ 52 := Nat.ne_of_lt ((Nat.log2_lt positive.ne').mpr small)
  have mantissa : (BitVec.ofNat 52 m).toNat = m := toNat_ofNat_of_lt small
  have shifted : (-1074 : Int) + 1075 = (1 : Nat) := rfl
  rw [unpack_pack, pack_finite sign positive shifted, if_neg (by omega), if_neg bits]
  refine (unpack_packComponents sign _ _ (by decide)).trans ?_
  simp only [mantissa, positive.ne', if_true, dif_neg, not_false_eq_true]

/-- A mantissa and an exponent as binary64 numbers have them. -/
structure Fitting (m : Nat) (e : Int) : Prop where
  small : m < 2 ^ 53
  least : -1074 ≤ e
  normal : e = -1074 ∨ 2 ^ 52 ≤ m

theorem unpack_finite_spec {x : Float.Model} {sign : Sign} {m : Nat} {e : Int} {positive : 0 < m}
    (unpacked : x.unpack = .finite sign m e positive) :
    Sign.ofBitVec (@unpackSign Format.binary64 x.toBits.toBitVec) = sign ∧ Fitting m e ∧
      e ≤ 971 := by
  unfold Float.Model.unpack UnpackedFloat.unpack at unpacked
  dsimp only at unpacked
  split at unpacked
  · split at unpacked <;> cases unpacked
  · rename_i finite
    have mantissaBound : (@unpackMantissa Format.binary64 x.toBits.toBitVec).toNat < 2 ^ 52 :=
      BitVec.isLt _
    split at unpacked
    · rename_i subnormal
      split at unpacked
      · cases unpacked
      · cases unpacked
        rw [subnormal]
        exact ⟨rfl, ⟨Nat.lt_trans mantissaBound (by decide), by decide, Or.inl rfl⟩, by decide⟩
    · rename_i normal
      have exponentBound : (@unpackExponent Format.binary64 x.toBits.toBitVec).toNat < 2 ^ 11 :=
        BitVec.isLt _
      have nonzero : (@unpackExponent Format.binary64 x.toBits.toBitVec).toNat ≠ 0 :=
        fun same => normal (BitVec.eq_of_toNat_eq same)
      have notTop : (@unpackExponent Format.binary64 x.toBits.toBitVec).toNat ≠ 2047 :=
        fun same => finite (BitVec.eq_of_toNat_eq same)
      have value := toNat_one_append (@unpackMantissa Format.binary64 x.toBits.toBitVec)
      cases unpacked
      refine ⟨rfl, ?_⟩
      change Fitting _ ((@unpackExponent Format.binary64 x.toBits.toBitVec).toNat - 1075) ∧
        ((@unpackExponent Format.binary64 x.toBits.toBitVec).toNat - 1075 : Int) ≤ 971
      exact ⟨⟨by omega, by omega, Or.inr (by omega)⟩, by omega⟩

/-! ## Values -/

/-- The absolute value of a finite number; zero for an infinity or a NaN. -/
def unpackedValue : UnpackedFloat → ℚ
  | .finite _ m e _ => m * 2 ^ e
  | _ => 0

/-- The absolute value of what is left of a number in 64 bits. -/
def packedValue (f : UnpackedFloat) : ℚ := unpackedValue (Float.Model.pack f).unpack

/-- The absolute value of a binary64 number; zero for an infinity or a NaN. -/
def absolute (x : Float) : ℚ := unpackedValue x.toModel.unpack

@[simp] theorem unpackedValue_infinity (sign : Sign) : unpackedValue (.infinity sign) = 0 := rfl

@[simp] theorem unpackedValue_notANumber : unpackedValue .notANumber = 0 := rfl

@[simp] theorem unpackedValue_zero (sign : Sign) : unpackedValue (.zero sign) = 0 := rfl

@[simp] theorem packedValue_infinity (sign : Sign) : packedValue (.infinity sign) = 0 := by
  cases sign <;> rfl

@[simp] theorem packedValue_notANumber : packedValue .notANumber = 0 := rfl

@[simp] theorem packedValue_zero (sign : Sign) : packedValue (.zero sign) = 0 := by
  cases sign <;> rfl

theorem mul_two_zpow_lt {n : Nat} {t : Int} (small : n < 2 ^ 53) (range : t ≤ 971) :
    (n : ℚ) * 2 ^ t < 2 ^ (1024 : Int) := by
  have bits : (n : ℚ) < 2 ^ 53 := by exact_mod_cast small
  calc (n : ℚ) * 2 ^ t < 2 ^ 53 * 2 ^ t := mul_lt_mul_of_pos_right bits (two_zpow_pos t)
    _ = 2 ^ (53 + t) := by rw [two_zpow_add]; norm_cast
    _ ≤ 2 ^ (1024 : Int) := zpow_le_zpow_right₀ one_le_two (by omega)

theorem le_mul_two_zpow {n : Nat} {t : Int} (large : 2 ^ 52 ≤ n) (range : 972 ≤ t) :
    (2 : ℚ) ^ (1024 : Int) ≤ n * 2 ^ t := by
  have bits : (2 : ℚ) ^ 52 ≤ n := by exact_mod_cast large
  calc (2 : ℚ) ^ (1024 : Int) ≤ 2 ^ (52 + t) := zpow_le_zpow_right₀ one_le_two (by omega)
    _ = 2 ^ 52 * 2 ^ t := by rw [two_zpow_add]; norm_cast
    _ ≤ n * 2 ^ t := mul_le_mul_of_nonneg_right bits (two_zpow_pos t).le

theorem packedValue_finite (sign : Sign) {m : Nat} {t : Int} (positive : 0 < m)
    (fitting : Fitting m t) :
    packedValue (.finite sign m t positive) =
      if (m : ℚ) * 2 ^ t < 2 ^ (1024 : Int) then (m : ℚ) * 2 ^ t else 0 := by
  rcases lt_or_ge 971 t with overflow | range
  · have large : 2 ^ 52 ≤ m := fitting.normal.resolve_left (by omega)
    rw [packedValue, unpack_pack_overflow sign positive overflow,
      if_neg (not_lt.mpr (le_mul_two_zpow large overflow))]
    rfl
  · rw [if_pos (mul_two_zpow_lt fitting.small range)]
    rcases Nat.lt_or_ge m (2 ^ 52) with small | large
    · obtain rfl : t = -1074 := fitting.normal.resolve_right (by omega)
      rw [packedValue, unpack_pack_subnormal sign positive small]
      rfl
    · rw [packedValue, unpack_pack_normal sign positive large fitting.small fitting.least range]
      rfl

theorem packedValue_canonical (sign : Sign) {n : Nat} {t : Int} (least : -1074 ≤ t)
    (normal : t = -1074 ∨ 2 ^ 52 ≤ n) (bounded : n ≤ 2 ^ 53) :
    packedValue (canonical sign n t) =
      if (n : ℚ) * 2 ^ t < 2 ^ (1024 : Int) then (n : ℚ) * 2 ^ t else 0 := by
  unfold canonical
  split
  · rename_i zero
    subst zero
    simp
  · rename_i nonzero
    split
    · rename_i small
      exact packedValue_finite sign (Nat.pos_of_ne_zero nonzero) ⟨small, least, normal⟩
    · obtain rfl : n = 2 ^ 53 := by omega
      have carried : ((2 ^ 53 : Nat) : ℚ) * 2 ^ t = ((2 ^ 52 : Nat) : ℚ) * 2 ^ (t + 1) := by
        rw [two_zpow_add]
        push_cast
        ring
      rw [carried]
      exact packedValue_finite sign (by decide) ⟨by decide, by omega, Or.inr (by decide)⟩

end UnitCheck
