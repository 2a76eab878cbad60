import Mathlib.Algebra.BigOperators.Group.Finset.Basic
import Mathlib.Algebra.BigOperators.Group.List.Lemmas
import Mathlib.Tactic.FieldSimp
import UnitCheck.Proofs.Matching.Dimension
import UnitCheck.Proofs.Number.Exact

/-!
# Factors of matched units

In exact arithmetic the factor of a match is the ratio of the unit to its counterparts. It is the
ratio to the target only if the counterparts are as large as the target: units that share a
counterpart leave another unit of the target without one, and its scale is not in the factor.

* `factor_mul_counterparts` is the meaning of the factor that is computed.
* `matchTargets_factor_iff` is the condition under which it converts values to the target; it holds
  when no two units share a counterpart.
* `not_forall_matchTargets_factor` is a match with a factor that is off by a hundred.
-/

namespace UnitCheck

namespace ConversionTable

/-- The scale of a unit. A unit without an entry is measured in itself. -/
def scaleOf (table : ConversionTable ℚ) (unit : String) : ℚ :=
  (table[unit]?.map (·.scale)).getD 1

def powerOf (table : ConversionTable ℚ) (power : UnitPower) : ℚ :=
  table.scaleOf power.unit ^ power.exponent.toInt

/-- No known unit has the scale zero. -/
def Scaled (table : ConversionTable ℚ) : Prop :=
  ∀ (unit : String) (entry : UnitEntry ℚ), table[unit]? = some entry → entry.scale ≠ 0

variable {table : ConversionTable ℚ}

theorem Scaled.scaleOf_ne_zero (scaled : table.Scaled) (unit : String) :
    table.scaleOf unit ≠ 0 := by
  unfold scaleOf
  cases known : table[unit]? with
  | none => exact one_ne_zero
  | some entry => exact scaled unit entry known

theorem Scaled.powerOf_ne_zero (scaled : table.Scaled) (power : UnitPower) :
    table.powerOf power ≠ 0 :=
  zpow_ne_zero _ (scaled.scaleOf_ne_zero power.unit)

end ConversionTable

/-- The product of the powers of a vector, each as often as `times` says. -/
def UnitVector.productIn (v : UnitVector) (table : ConversionTable ℚ) (times : UnitPower → Nat) :
    ℚ :=
  (v.powers.map fun power => table.powerOf power ^ times power).prod

/-- The product of the scales of the base units, raised to their exponents. -/
def UnitVector.magnitudeIn (v : UnitVector) (table : ConversionTable ℚ) : ℚ :=
  (v.powers.map fun power => table.scaleOf power.unit ^ power.exponent.toInt).prod

/-- The powers of the target that are used repeatedly make up for those that are not used: counted
beyond their first use they have the same product. -/
def Compensated (table : ConversionTable ℚ) (unit target : UnitVector) : Prop :=
  target.productIn table (fun power => uses table unit target power - 1) =
    target.productIn table (fun power => if uses table unit target power = 0 then 1 else 0)

variable {table : ConversionTable ℚ} {unit target : UnitVector}

/-! ## Products of powers -/

theorem magnitudeIn_mk (powers : List UnitPower) :
    (⟨powers⟩ : UnitVector).magnitudeIn table = (powers.map table.powerOf).prod := rfl

theorem productIn_one (v : UnitVector) : v.productIn table (fun _ => 1) = v.magnitudeIn table := by
  simp only [UnitVector.productIn, pow_one]
  rfl

theorem productIn_add (v : UnitVector) (f g : UnitPower → Nat) :
    v.productIn table (fun power => f power + g power) =
      v.productIn table f * v.productIn table g := by
  unfold UnitVector.productIn
  rw [← List.prod_map_mul]
  simp only [pow_add]

theorem productIn_ne_zero (scaled : table.Scaled) (v : UnitVector) (times : UnitPower → Nat) :
    v.productIn table times ≠ 0 := by
  apply List.prod_ne_zero
  intro zero
  obtain ⟨power, -, vanishes⟩ := List.mem_map.mp zero
  exact pow_ne_zero _ (scaled.powerOf_ne_zero power) vanishes

theorem productIn_count (v : UnitVector) (distinct : v.powers.Nodup) (chosen : List UnitPower)
    (members : ∀ power ∈ chosen, power ∈ v.powers) :
    v.productIn table (fun power => chosen.count power) =
      (⟨chosen⟩ : UnitVector).magnitudeIn table := by
  rw [magnitudeIn_mk, UnitVector.productIn, ← List.prod_toFinset _ distinct,
    Finset.prod_list_map_count]
  symm
  apply Finset.prod_subset
  · intro power member
    exact List.mem_toFinset.mpr (members power (List.mem_toFinset.mp member))
  · intro power _ absent
    rw [List.count_eq_zero_of_not_mem fun present => absent (List.mem_toFinset.mpr present),
      pow_zero]

/-! ## The factor that is computed -/

theorem scaleRatio_mul (scaled : table.Scaled) {name : String} {other : UnitPower}
    (found : counterpart? table target name = some other) :
    scaleRatio table name other.unit * table.scaleOf other.unit = table.scaleOf name := by
  unfold scaleRatio
  split
  · rename_i same
    rw [same, one_mul]
  · rename_i different
    have converted := (counterpart?_unit found).resolve_left (Ne.symm different)
    unfold ConversionTable.sameClass at converted
    split at converted
    · rename_i entry candidate known candidateKnown
      have nonzero := scaled other.unit candidate candidateKnown
      simp only [known, candidateKnown, ConversionTable.scaleOf, Option.map_some, Option.getD_some]
      exact div_mul_cancel₀ _ nonzero
    · cases converted

theorem contribution_mul (scaled : table.Scaled) {power other : UnitPower}
    (found : counterpart? table target power.unit = some other)
    (exponent : other.exponent = power.exponent) :
    contribution table target power * table.powerOf other = table.powerOf power := by
  unfold contribution ConversionTable.powerOf
  rw [found]
  simp only
  rw [Magnitude.power_eq_zpow, exponent, ← mul_zpow, scaleRatio_mul scaled found]

theorem prod_contribution_mul (scaled : table.Scaled) {powers : List UnitPower}
    (covered : Covered table target powers) :
    (powers.map (contribution table target)).prod *
        (⟨counterparts table target powers⟩ : UnitVector).magnitudeIn table =
      (⟨powers⟩ : UnitVector).magnitudeIn table := by
  simp only [magnitudeIn_mk]
  induction powers with
  | nil => simp [counterparts]
  | cons power rest ih =>
      obtain ⟨other, found, exponent⟩ := covered power List.mem_cons_self
      have head := contribution_mul scaled found exponent
      have tail := ih covered.tail
      simp only [counterparts, List.filterMap_cons, found, List.map_cons, List.prod_cons] at tail ⊢
      rw [mul_mul_mul_comm, head, tail]

/-- The factor takes a value in the unit to a value in the product of its counterparts. -/
theorem factor_mul_counterparts (scaled : table.Scaled) {factor : ℚ}
    (matched : matchTarget table unit target = some factor) :
    factor * (⟨counterparts table target unit.powers⟩ : UnitVector).magnitudeIn table =
      unit.magnitudeIn table := by
  obtain ⟨-, covered, value, -⟩ := matchTarget_eq_some_iff.mp matched
  have product : factor = (unit.powers.map (contribution table target)).prod := by
    rw [value, List.prod_eq_foldl, List.foldl_map]
  rw [product]
  exact prod_contribution_mul scaled covered

/-! ## The ratio to the target -/

theorem counterparts_mul_unused (distinct : target.units.Nodup) :
    (⟨counterparts table target unit.powers⟩ : UnitVector).magnitudeIn table *
        target.productIn table
          (fun power => if uses table unit target power = 0 then 1 else 0) =
      target.magnitudeIn table *
        target.productIn table (fun power => uses table unit target power - 1) := by
  have used : target.productIn table (uses table unit target) =
      (⟨counterparts table target unit.powers⟩ : UnitVector).magnitudeIn table :=
    productIn_count target (powers_nodup distinct) _ counterparts_mem
  rw [← used, ← productIn_one target, ← productIn_add, ← productIn_add]
  congr 1
  funext power
  split <;> omega

theorem magnitudeIn_ne_zero (scaled : table.Scaled) (v : UnitVector) :
    v.magnitudeIn table ≠ 0 := by
  rw [← productIn_one]
  exact productIn_ne_zero scaled v _

theorem factor_mul_iff_compensated (scaled : table.Scaled) (distinct : target.units.Nodup)
    {factor : ℚ} (matched : matchTarget table unit target = some factor) :
    factor * target.magnitudeIn table = unit.magnitudeIn table ↔
      Compensated table unit target := by
  have ratio := factor_mul_counterparts scaled matched
  have difference : (⟨counterparts table target unit.powers⟩ : UnitVector).magnitudeIn table *
      target.productIn table (fun power => if uses table unit target power = 0 then 1 else 0) =
        target.magnitudeIn table *
          target.productIn table (fun power => uses table unit target power - 1) :=
    counterparts_mul_unused distinct
  have nonzero : factor ≠ 0 := by
    intro zero
    rw [zero, zero_mul] at ratio
    exact magnitudeIn_ne_zero scaled unit ratio.symm
  rw [← ratio, mul_right_inj' nonzero]
  -- What is left says that the counterparts are as large as the target.
  constructor
  · intro same
    rw [← same] at difference
    exact (mul_left_cancel₀ (same ▸ magnitudeIn_ne_zero scaled _) difference).symm
  · intro compensated
    rw [compensated] at difference
    exact (mul_right_cancel₀ (productIn_ne_zero scaled target _) difference).symm

theorem compensated_of_unshared (sizes : unit.size = target.size)
    (covered : Covered table target unit.powers)
    (unshared : (counterparts table target unit.powers).Nodup) :
    Compensated table unit target := by
  unfold Compensated UnitVector.productIn
  congr 1
  apply List.map_congr_left
  intro power member
  simp [uses_eq_one sizes covered unshared member]

theorem matchTargets_factor_iff {targets : TargetList} {factor : ℚ} {i : Nat}
    (scaled : table.Scaled) (reduced : ∀ target ∈ targets, target.Reduced)
    (found : matchTargets table unit targets = some (factor, i)) :
    ∃ target, targets[i]? = some target ∧
      (factor * target.magnitudeIn table = unit.magnitudeIn table ↔
        Compensated table unit target) ∧
      ((counterparts table target unit.powers).Nodup →
        factor * target.magnitudeIn table = unit.magnitudeIn table) := by
  obtain ⟨target, position, matched, -⟩ := matchTargets_eq_some_iff.mp found
  obtain ⟨sizes, covered, -⟩ := matchTarget_eq_some_iff.mp matched
  have distinct : target.units.Nodup := (reduced target (List.mem_of_getElem? position)).1
  have condition := factor_mul_iff_compensated scaled distinct matched
  exact ⟨target, position, condition,
    fun unshared => condition.mpr (compensated_of_unshared sizes covered unshared)⟩

/-- The table of the rules `m: k c d` in exact arithmetic. -/
def exactMetreTable : ConversionTable ℚ :=
  (RuleBook.empty.addRules "m: k c d").1.table

theorem scaled_of_toList (regular : ∀ known ∈ table.toList, known.2.scale ≠ 0) :
    table.Scaled := by
  intro unit entry known
  exact regular (unit, entry) (Std.TreeMap.mem_toList_iff_getElem?_eq_some.mpr known)

theorem scaled_exactMetreTable : exactMetreTable.Scaled :=
  scaled_of_toList (by decide +kernel)

theorem matchTargets_factor_iff_metre :
    exactMetreTable.Scaled ∧
    (∀ target ∈ [(⟨[⟨"cm", 2⟩, ⟨"m", -1⟩]⟩ : UnitVector)], target.Reduced) ∧
    matchTargets exactMetreTable ⟨[⟨"m", -1⟩, ⟨"km", 2⟩]⟩ [⟨[⟨"cm", 2⟩, ⟨"m", -1⟩]⟩] =
      some (10 ^ 10, 0) ∧
    10 ^ 10 * (⟨[⟨"cm", 2⟩, ⟨"m", -1⟩]⟩ : UnitVector).magnitudeIn exactMetreTable =
      (⟨[⟨"m", -1⟩, ⟨"km", 2⟩]⟩ : UnitVector).magnitudeIn exactMetreTable := by
  have reduced : ∀ target ∈ [(⟨[⟨"cm", 2⟩, ⟨"m", -1⟩]⟩ : UnitVector)], target.Reduced := by
    simp only [UnitVector.Reduced, List.forall_mem_singleton]
    decide
  have found : matchTargets exactMetreTable ⟨[⟨"m", -1⟩, ⟨"km", 2⟩]⟩
      [⟨[⟨"cm", 2⟩, ⟨"m", -1⟩]⟩] = some (10 ^ 10, 0) := by decide +kernel
  obtain ⟨target, position, -, ratio⟩ :=
    matchTargets_factor_iff scaled_exactMetreTable reduced found
  obtain rfl := Option.some.inj position
  exact ⟨scaled_exactMetreTable, reduced, found, ratio (by decide +kernel)⟩

/-- Both units of `km dm` are converted to `cm`. A `km dm` is a hundred square metres and a `cm m` a
hundredth of one, which makes the ratio ten thousand and not a million. -/
theorem not_forall_matchTargets_factor :
    ¬ ∀ (table : ConversionTable ℚ) (unit : UnitVector) (targets : TargetList) (factor : ℚ)
      (i : Nat), table.Scaled → unit.Reduced → (∀ target ∈ targets, target.Reduced) →
      (∀ power ∈ unit.powers, power.unit ∈ table) →
      (∀ target ∈ targets, ∀ power ∈ target.powers, power.unit ∈ table) →
      matchTargets table unit targets = some (factor, i) →
      ∃ target, targets[i]? = some target ∧
        factor * target.magnitudeIn table = unit.magnitudeIn table := by
  intro ratio
  have reduced : (⟨[⟨"km", 1⟩, ⟨"dm", 1⟩]⟩ : UnitVector).Reduced ∧
      (⟨[⟨"cm", 1⟩, ⟨"m", 1⟩]⟩ : UnitVector).Reduced := by
    simp only [UnitVector.Reduced]
    decide
  have found : matchTargets exactMetreTable ⟨[⟨"km", 1⟩, ⟨"dm", 1⟩]⟩ [⟨[⟨"cm", 1⟩, ⟨"m", 1⟩]⟩] =
      some (1000000, 0) := by decide +kernel
  obtain ⟨target, position, same⟩ := ratio exactMetreTable ⟨[⟨"km", 1⟩, ⟨"dm", 1⟩]⟩
    [⟨[⟨"cm", 1⟩, ⟨"m", 1⟩]⟩] 1000000 0 scaled_exactMetreTable reduced.1 (by simpa using reduced.2)
    (by decide +kernel) (by decide +kernel) found
  obtain rfl := Option.some.inj position
  exact absurd same (by decide +kernel)

end UnitCheck
