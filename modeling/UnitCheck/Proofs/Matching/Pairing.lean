import Mathlib.Data.Set.Function
import UnitCheck.Proofs.Matching.Dimension

/-!
# Pairings of base units

When no two base units of a unit are in one class, matching is pairing: a unit matches a target
exactly when their base units correspond one to one, each to itself or to one of its class and with
the same exponent.

* `eq_of_related` is the reason. Two base units of such a unit have no name in common that both could
  go to, so looking each of them up alone cannot go wrong.
* `pairing_counterpartName` and `Pairing.counterpart?_eq` are the two directions: the counterparts
  are a pairing, and a pairing consists of the counterparts.
* `matchTargets_singleton_iff` puts them together.
-/

namespace UnitCheck

variable {α : Type}

/-- Whether a unit can be matched with a name: its own, or one of its class. -/
def ConversionTable.Related (table : ConversionTable α) (unit other : String) : Prop :=
  other = unit ∨ table.sameClass unit other = true

/-- No two base units are in one class. -/
def UnitVector.Separate (v : UnitVector) (table : ConversionTable α) : Prop :=
  ∀ a ∈ v.units, ∀ b ∈ v.units, table.sameClass a b = true → a = b

/-- A one to one correspondence between the base units of a unit and those of a target, which have
the same exponents and convert into each other. -/
structure Pairing (table : ConversionTable α) (unit target : UnitVector) (pair : String → String) :
    Prop where
  bijective : Set.BijOn pair {name | name ∈ unit.units} {name | name ∈ target.units}
  exponent : ∀ name ∈ unit.units, target.get? (pair name) = unit.get? name
  related : ∀ name ∈ unit.units, table.Related name (pair name)

variable {table : ConversionTable α} {unit target : UnitVector}

theorem ConversionTable.sameClass_of_common {a b c : String} (left : table.sameClass a c = true)
    (right : table.sameClass b c = true) : table.sameClass a b = true := by
  obtain ⟨dimension, first, common⟩ := sameClass_iff.mp left
  obtain ⟨other, second, same⟩ := sameClass_iff.mp right
  apply sameClass_iff.mpr
  exact ⟨dimension, first, by rw [second, ← same, common]⟩

theorem eq_of_related (separate : unit.Separate table) {a b other : String} (left : a ∈ unit.units)
    (right : b ∈ unit.units) (first : table.Related a other) (second : table.Related b other) :
    a = b := by
  rcases first with rfl | first
  · rcases second with rfl | second
    · rfl
    · exact (separate b right other left second).symm
  · rcases second with rfl | second
    · exact separate a left other right first
    · exact separate a left b right (ConversionTable.sameClass_of_common first second)

/-! ## Names and powers -/

theorem unit_mem_units {v : UnitVector} {power : UnitPower} (member : power ∈ v.powers) :
    power.unit ∈ v.units :=
  List.mem_map_of_mem member

theorem exists_power {v : UnitVector} {name : String} (member : name ∈ v.units) :
    ∃ power ∈ v.powers, power.unit = name :=
  List.mem_map.mp member

theorem counterpart?_related {name : String} {other : UnitPower}
    (found : counterpart? table target name = some other) : table.Related name other.unit :=
  counterpart?_unit found

/-- A name of the target that a unit is related to gives it a counterpart. -/
theorem exists_counterpart {name partner : String} (member : partner ∈ target.units)
    (related : table.Related name partner) :
    ∃ other, counterpart? table target name = some other := by
  obtain ⟨power, powerMember, rfl⟩ := exists_power member
  unfold counterpart?
  rw [← Option.isSome_iff_exists, Option.isSome_or, Bool.or_eq_true]
  rcases related with same | converted
  · exact Or.inl (List.find?_isSome.mpr ⟨power, powerMember, by simpa using same⟩)
  · exact Or.inr (List.find?_isSome.mpr ⟨power, powerMember, converted⟩)

/-! ## A pairing consists of the counterparts -/

theorem Pairing.eqOn (separate : unit.Separate table) {p q : String → String}
    (first : Pairing table unit target p) (second : Pairing table unit target q) :
    Set.EqOn p q {name | name ∈ unit.units} := by
  intro name member
  -- Some base unit goes to `p name` under `q`, and it can be no other than `name`.
  obtain ⟨other, otherMember, reached⟩ := second.bijective.surjOn (first.bijective.mapsTo member)
  have related : table.Related other (p name) := reached ▸ second.related other otherMember
  have same : other = name :=
    eq_of_related separate otherMember member related (first.related name member)
  rw [← reached, same]

theorem Pairing.counterpart?_eq (separate : unit.Separate table) (distinct : target.units.Nodup)
    {pair : String → String} (pairing : Pairing table unit target pair) {name : String}
    (member : name ∈ unit.units) :
    ∃ other, counterpart? table target name = some other ∧ other.unit = pair name ∧
      unit.get? name = some other.exponent := by
  obtain ⟨other, found⟩ := exists_counterpart (pairing.bijective.mapsTo member)
    (pairing.related name member)
  have otherMember := counterpart?_mem found
  obtain ⟨origin, originMember, reached⟩ := pairing.bijective.surjOn (unit_mem_units otherMember)
  have related : table.Related origin other.unit := reached ▸ pairing.related origin originMember
  have same : origin = name :=
    eq_of_related separate originMember member related (counterpart?_related found)
  have paired : other.unit = pair name := by rw [← reached, same]
  refine ⟨other, found, paired, ?_⟩
  rw [← pairing.exponent name member, ← paired, get?_of_mem distinct otherMember]

theorem Pairing.size_eq (distinct : unit.units.Nodup) (targetDistinct : target.units.Nodup)
    {pair : String → String} (pairing : Pairing table unit target pair) :
    unit.size = target.size := by
  have images : (unit.units.map pair).Nodup :=
    distinct.map_on fun a left b right same => pairing.bijective.injOn left right same
  have reordered : (unit.units.map pair).Perm target.units := by
    rw [List.perm_ext_iff_of_nodup images targetDistinct]
    intro name
    rw [List.mem_map]
    constructor
    · rintro ⟨origin, member, rfl⟩
      exact pairing.bijective.mapsTo member
    · intro member
      exact pairing.bijective.surjOn member
  simpa [UnitVector.units, UnitVector.size] using reordered.length_eq

theorem Pairing.covered (separate : unit.Separate table) (distinct : unit.units.Nodup)
    (targetDistinct : target.units.Nodup) {pair : String → String}
    (pairing : Pairing table unit target pair) : Covered table target unit.powers := by
  intro power member
  obtain ⟨other, found, -, exponent⟩ :=
    pairing.counterpart?_eq separate targetDistinct (unit_mem_units member)
  rw [get?_of_mem distinct member] at exponent
  exact ⟨other, found, (Option.some.inj exponent).symm⟩

/-! ## The counterparts are a pairing -/

/-- The name of the counterpart. A unit without one is sent to itself. -/
def counterpartName (table : ConversionTable α) (target : UnitVector) (name : String) : String :=
  ((counterpart? table target name).map (·.unit)).getD name

theorem counterpartName_eq {name : String} {other : UnitPower}
    (found : counterpart? table target name = some other) :
    counterpartName table target name = other.unit := by
  rw [counterpartName, found]
  rfl

/-- No two base units share a counterpart. -/
theorem counterparts_nodup (separate : unit.Separate table) (distinct : unit.units.Nodup) :
    (counterparts table target unit.powers).Nodup := by
  unfold counterparts
  rw [List.Nodup, List.pairwise_filterMap]
  have apart : unit.powers.Pairwise fun power other => power.unit ≠ other.unit :=
    List.pairwise_map.mp distinct
  apply List.Pairwise.imp_of_mem _ apart
  intro power other member otherMember different partner found partner' found' same
  subst same
  exact different (eq_of_related separate (unit_mem_units member) (unit_mem_units otherMember)
    (counterpart?_related found) (counterpart?_related found'))

section Counterparts

variable (distinct : unit.units.Nodup) (covered : Covered table target unit.powers)

include distinct covered

theorem exists_partner {name : String} (member : name ∈ unit.units) :
    ∃ other, counterpart? table target name = some other ∧ unit.get? name = some other.exponent := by
  obtain ⟨power, powerMember, rfl⟩ := exists_power member
  obtain ⟨other, found, exponent⟩ := covered power powerMember
  exact ⟨other, found, by rw [get?_of_mem distinct powerMember, exponent]⟩

theorem counterpartName_related {name : String} (member : name ∈ unit.units) :
    table.Related name (counterpartName table target name) := by
  obtain ⟨other, found, -⟩ := exists_partner distinct covered member
  rw [counterpartName_eq found]
  exact counterpart?_related found

theorem mapsTo_counterpartName :
    Set.MapsTo (counterpartName table target) {name | name ∈ unit.units}
      {name | name ∈ target.units} := by
  intro name member
  obtain ⟨other, found, -⟩ := exists_partner distinct covered member
  rw [counterpartName_eq found]
  exact unit_mem_units (counterpart?_mem found)

theorem injOn_counterpartName (separate : unit.Separate table) :
    Set.InjOn (counterpartName table target) {name | name ∈ unit.units} := by
  intro a left b right same
  have related := counterpartName_related distinct covered left
  rw [same] at related
  exact eq_of_related separate left right related (counterpartName_related distinct covered right)

/-- As many counterparts as there are powers, all of them different, leave no power out. -/
theorem surjOn_counterpartName (separate : unit.Separate table) (sizes : unit.size = target.size) :
    Set.SurjOn (counterpartName table target) {name | name ∈ unit.units}
      {name | name ∈ target.units} := by
  intro name member
  obtain ⟨power, powerMember, rfl⟩ := exists_power member
  have used := uses_eq_one sizes covered (counterparts_nodup separate distinct) powerMember
  obtain ⟨origin, originMember, found⟩ := uses_pos_iff.mp (used ▸ Nat.one_pos)
  exact ⟨origin.unit, unit_mem_units originMember, counterpartName_eq found⟩

theorem pairing_counterpartName (separate : unit.Separate table)
    (targetDistinct : target.units.Nodup) (sizes : unit.size = target.size) :
    Pairing table unit target (counterpartName table target) := by
  constructor
  · exact ⟨mapsTo_counterpartName distinct covered, injOn_counterpartName distinct covered separate,
      surjOn_counterpartName distinct covered separate sizes⟩
  · intro name member
    obtain ⟨other, found, exponent⟩ := exists_partner distinct covered member
    rw [counterpartName_eq found, exponent, get?_of_mem targetDistinct (counterpart?_mem found)]
  · intro name member
    exact counterpartName_related distinct covered member

end Counterparts

/-! ## Matching -/

variable [Magnitude α]

/-- The product of the scale ratios of the base units to their partners, raised to the exponents, in
the order of the unit. -/
def pairedFactor (table : ConversionTable α) (unit : UnitVector) (pair : String → String) : α :=
  unit.powers.foldl
    (fun product power =>
      product * Magnitude.power (scaleRatio table power.unit (pair power.unit)) power.exponent) 1

theorem Pairing.factor_eq (separate : unit.Separate table) (distinct : target.units.Nodup)
    {pair : String → String} (pairing : Pairing table unit target pair) :
    unit.powers.foldl (fun product power => product * contribution table target power) 1 =
      pairedFactor table unit pair := by
  apply List.foldl_ext
  intro product power member
  obtain ⟨other, found, paired, -⟩ :=
    pairing.counterpart?_eq separate distinct (unit_mem_units member)
  simp only [contribution, found, paired]

theorem matchTarget_eq_some_iff_pairing (separate : unit.Separate table)
    (distinct : unit.units.Nodup) (targetDistinct : target.units.Nodup) {factor : α} :
    matchTarget table unit target = some factor ↔
      ∃ pair, Pairing table unit target pair ∧ factor = pairedFactor table unit pair ∧
        Magnitude.isFactor factor = true := by
  rw [matchTarget_eq_some_iff]
  constructor
  · rintro ⟨sizes, covered, value, regular⟩
    have pairing := pairing_counterpartName distinct covered separate targetDistinct sizes
    exact ⟨_, pairing, value.trans (pairing.factor_eq separate targetDistinct), regular⟩
  · rintro ⟨pair, pairing, value, regular⟩
    exact ⟨pairing.size_eq distinct targetDistinct,
      pairing.covered separate distinct targetDistinct,
      value.trans (pairing.factor_eq separate targetDistinct).symm, regular⟩

/-- A unit whose base units are in different classes matches a target exactly when a pairing gives
a factor that is finite and not zero, and then there is no other pairing. -/
theorem matchTargets_singleton_iff {table : ConversionTable Float} {unit target : UnitVector}
    (reduced : unit.Reduced) (targetReduced : target.Reduced) (separate : unit.Separate table)
    (factor : Float) :
    (matchTargets table unit [target] = some (factor, 0) ↔
      ∃ pair, Pairing table unit target pair ∧ factor = pairedFactor table unit pair ∧
        factor.isFinite = true ∧ (factor == 0.0) = false) ∧
    ∀ p q, Pairing table unit target p → Pairing table unit target q →
      Set.EqOn p q {name | name ∈ unit.units} := by
  refine ⟨?_, fun p q first second => first.eqOn separate second⟩
  have single : matchTargets table unit [target] = some (factor, 0) ↔
      matchTarget table unit target = some factor := by
    rw [matchTargets_eq_some_iff]
    simp
  rw [single, matchTarget_eq_some_iff_pairing separate reduced.1 targetReduced.1]
  simp only [Magnitude.isFactor_float_iff]

theorem matchTargets_singleton_iff_metre :
    (⟨[⟨"s", -1⟩, ⟨"km", 2⟩]⟩ : UnitVector).Reduced ∧
    (⟨[⟨"cm", 2⟩, ⟨"s", -1⟩]⟩ : UnitVector).Reduced ∧
    (⟨[⟨"s", -1⟩, ⟨"km", 2⟩]⟩ : UnitVector).Separate metreTable ∧
    matchTargets metreTable ⟨[⟨"s", -1⟩, ⟨"km", 2⟩]⟩ [⟨[⟨"cm", 2⟩, ⟨"s", -1⟩]⟩] =
      some (1e10, 0) ∧
    ∃ pair, Pairing metreTable ⟨[⟨"s", -1⟩, ⟨"km", 2⟩]⟩ ⟨[⟨"cm", 2⟩, ⟨"s", -1⟩]⟩ pair ∧
      1e10 = pairedFactor metreTable ⟨[⟨"s", -1⟩, ⟨"km", 2⟩]⟩ pair := by
  have reduced : (⟨[⟨"s", -1⟩, ⟨"km", 2⟩]⟩ : UnitVector).Reduced ∧
      (⟨[⟨"cm", 2⟩, ⟨"s", -1⟩]⟩ : UnitVector).Reduced := by
    simp only [UnitVector.Reduced]
    decide
  have separate : (⟨[⟨"s", -1⟩, ⟨"km", 2⟩]⟩ : UnitVector).Separate metreTable := by
    unfold UnitVector.Separate
    decide +kernel
  have found : matchTargets metreTable ⟨[⟨"s", -1⟩, ⟨"km", 2⟩]⟩ [⟨[⟨"cm", 2⟩, ⟨"s", -1⟩]⟩] =
      some (1e10, 0) := by decide +kernel
  obtain ⟨condition, -⟩ := matchTargets_singleton_iff reduced.1 reduced.2 separate 1e10
  obtain ⟨pair, pairing, factor, -⟩ := condition.mp found
  exact ⟨reduced.1, reduced.2, separate, found, pair, pairing, factor⟩

end UnitCheck
