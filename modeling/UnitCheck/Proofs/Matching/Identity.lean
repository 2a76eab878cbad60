import UnitCheck.Proofs.Matching.Order

/-!
# Units that need no conversion

A unit matches each target that spells it in another order, with the factor one, whatever the rules
say about its base units: names come before classes, and powers and products of one are one. Without
rules it matches nothing else.

* `Fits.of_perm` and `fits_empty_iff` are about the base units, `productOf_of_subset` about the
  factor.
* `matchTargets_identical` puts them together.
-/

namespace UnitCheck

/-! ## Base units -/

section

variable {α : Type} {table : ConversionTable α} {unit target : UnitVector}

theorem units_nodup_of_perm (same : target.powers.Perm unit.powers) (distinct : unit.units.Nodup) :
    target.units.Nodup :=
  (same.map _).nodup_iff.mpr distinct

theorem Fits.of_perm (same : target.powers.Perm unit.powers) (distinct : unit.units.Nodup) :
    Fits table unit target := by
  refine ⟨same.length_eq.symm, fun power member => ⟨power, ?_, rfl⟩⟩
  exact counterpart?_of_mem (units_nodup_of_perm same distinct) (same.mem_iff.mpr member)

theorem counterpart?_empty (target : UnitVector) (name : String) :
    counterpart? (∅ : ConversionTable α) target name = target.powers.find? (·.unit = name) := by
  have unrelated : target.powers.find?
      (fun power => (∅ : ConversionTable α).sameClass name power.unit) = none := by
    simp [ConversionTable.sameClass]
  rw [counterpart?, unrelated, Option.or_none]

theorem subset_of_covered_empty {powers : List UnitPower}
    (covered : Covered (∅ : ConversionTable α) target powers) : powers ⊆ target.powers := by
  intro power member
  obtain ⟨other, found, exponent⟩ := covered power member
  rw [counterpart?_empty] at found
  have named : other.unit = power.unit := by simpa using List.find?_some found
  have same : other = power := by
    obtain ⟨name, value⟩ := other
    obtain rfl : name = power.unit := named
    obtain rfl : value = power.exponent := exponent
    rfl
  exact same ▸ List.mem_of_find?_eq_some found

/-- Every base unit of the unit is looked up in the target. That nothing else is in the target
follows by counting. -/
theorem fits_empty_iff (distinct : unit.units.Nodup) :
    Fits (∅ : ConversionTable α) unit target ↔ target.powers.Perm unit.powers := by
  constructor
  · rintro ⟨sizes, covered⟩
    have part : unit.powers.Subperm target.powers :=
      List.subperm_of_subset (powers_nodup distinct) (subset_of_covered_empty covered)
    exact (part.perm_of_length_le sizes.ge).symm
  · intro same
    exact .of_perm same distinct

end

/-! ## Factors of one -/

/-- The arithmetic has no rounding error on ones, and one is a factor. -/
structure Magnitude.Neutral (α : Type) [Magnitude α] : Prop where
  mul : (1 : α) * 1 = 1
  div : (1 : α) / 1 = 1
  isFactor : isFactor (1 : α) = true

theorem Magnitude.neutral_float : Neutral Float := by
  constructor <;> decide +kernel

variable {α : Type} [Magnitude α] {table : ConversionTable α} {unit target : UnitVector}

theorem Magnitude.Neutral.powerAux (neutral : Neutral α) (n : Nat) :
    Magnitude.powerAux (1 : α) 1 n = 1 := by
  induction n using Nat.strongRecOn with
  | ind n ih =>
      rw [Magnitude.powerAux]
      simp only [neutral.mul, ite_self]
      split
      · exact ih (n / 2) (by omega)
      · rfl

theorem Magnitude.Neutral.power (neutral : Neutral α) (n : Int32) :
    Magnitude.power (1 : α) n = 1 := by
  simp only [Magnitude.power, neutral.powerAux, neutral.div, ite_self]

theorem contribution_of_mem (neutral : Magnitude.Neutral α) (distinct : target.units.Nodup)
    {power : UnitPower} (member : power ∈ target.powers) : contribution table target power = 1 := by
  simp only [contribution, counterpart?_of_mem distinct member, scaleRatio, if_pos, neutral.power]

theorem productOf_of_subset (neutral : Magnitude.Neutral α) (distinct : target.units.Nodup)
    {powers : List UnitPower} (subset : powers ⊆ target.powers) :
    productOf table target powers = 1 := by
  induction powers using List.reverseRecOn with
  | nil => rfl
  | append_singleton powers last ih =>
      obtain ⟨front, member⟩ := List.append_subset.mp subset
      rw [productOf_append, ih front,
        contribution_of_mem neutral distinct (member List.mem_cons_self), neutral.mul]

/-! ## Matching -/

theorem matchTarget_of_perm (neutral : Magnitude.Neutral α) (same : target.powers.Perm unit.powers)
    (distinct : unit.units.Nodup) : matchTarget table unit target = some 1 := by
  have product : productOf table target unit.powers = 1 :=
    productOf_of_subset neutral (units_nodup_of_perm same distinct) same.symm.subset
  rw [matchTarget_eq_some_iff_fits, product]
  exact ⟨.of_perm same distinct, rfl, neutral.isFactor⟩

theorem matchTarget_empty (neutral : Magnitude.Neutral α) (distinct : unit.units.Nodup)
    (target : UnitVector) :
    matchTarget (∅ : ConversionTable α) unit target =
      if target.powers.Perm unit.powers then some 1 else none := by
  split
  · rename_i same
    exact matchTarget_of_perm neutral same distinct
  · rename_i other
    rw [Option.eq_none_iff_forall_ne_some]
    intro factor matched
    exact other ((fits_empty_iff distinct).mp (matchTarget_eq_some_iff_fits.mp matched).1)

theorem matchFrom_empty (neutral : Magnitude.Neutral α) (distinct : unit.units.Nodup)
    (first : Nat) (targets : TargetList) :
    matchFrom (∅ : ConversionTable α) unit first targets =
      (targets.findIdx? fun target => target.powers.Perm unit.powers).map
        fun i => (1, first + i) := by
  induction targets generalizing first with
  | nil => rfl
  | cons target rest ih =>
      rw [matchFrom, matchTarget_empty neutral distinct, List.findIdx?_cons]
      by_cases same : target.powers.Perm unit.powers
      · simp [same]
      · simp [same, ih, Function.comp_def, Nat.add_comm, Nat.add_left_comm]

/-- A unit matches every spelling of itself with the factor one, also when the scales of its base
units are infinite, zero or no numbers. Without rules it matches nothing else, and of several
targets the first spelling is reported. -/
theorem matchTargets_identical {unit : UnitVector} (distinct : unit.units.Nodup) :
    (∀ (table : ConversionTable Float) (target : UnitVector),
      target.powers.Perm unit.powers → matchTargets table unit [target] = some (1.0, 0)) ∧
    ∀ targets : TargetList, matchTargets (RuleBook.empty : RuleBook Float).table unit targets =
      (targets.findIdx? fun target => target.powers.Perm unit.powers).map fun i => (1.0, i) := by
  constructor
  · intro table target same
    rw [matchTargets_eq_some_iff]
    exact ⟨target, rfl, matchTarget_of_perm Magnitude.neutral_float same distinct, by simp⟩
  · intro targets
    have found := matchFrom_empty Magnitude.neutral_float distinct 0 targets
    simp only [Nat.zero_add] at found
    exact found

/-- Scales that no conversion could use. -/
def brokenTable : ConversionTable Float :=
  (((∅ : ConversionTable Float).insert "m" ⟨0, 0.0 / 0.0⟩).insert "km" ⟨0, 1.0 / 0.0⟩).insert "s"
    ⟨1, 0.0⟩

theorem matchTargets_identical_broken :
    (⟨[⟨"s", Int32.minValue⟩, ⟨"km", 1⟩, ⟨"m", -2⟩]⟩ : UnitVector).units.Nodup ∧
    matchTargets brokenTable ⟨[⟨"s", Int32.minValue⟩, ⟨"km", 1⟩, ⟨"m", -2⟩]⟩
      [⟨[⟨"m", -2⟩, ⟨"s", Int32.minValue⟩, ⟨"km", 1⟩]⟩] = some (1.0, 0) ∧
    matchTargets (RuleBook.empty : RuleBook Float).table
      ⟨[⟨"s", Int32.minValue⟩, ⟨"km", 1⟩, ⟨"m", -2⟩]⟩
      [⟨[⟨"s", -1⟩, ⟨"km", 1⟩, ⟨"m", -2⟩]⟩, ⟨[⟨"m", -2⟩, ⟨"s", Int32.minValue⟩, ⟨"km", 1⟩]⟩,
        ⟨[⟨"s", Int32.minValue⟩, ⟨"km", 1⟩, ⟨"m", -2⟩]⟩] = some (1.0, 1) := by
  have distinct : (⟨[⟨"s", Int32.minValue⟩, ⟨"km", 1⟩, ⟨"m", -2⟩]⟩ : UnitVector).units.Nodup := by
    decide
  obtain ⟨spellings, first⟩ := matchTargets_identical distinct
  refine ⟨distinct, spellings brokenTable _ (by decide), ?_⟩
  rw [first]
  decide +kernel

end UnitCheck
