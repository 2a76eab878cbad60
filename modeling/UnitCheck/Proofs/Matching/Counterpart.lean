import Mathlib.Data.List.Nodup
import UnitCheck.Matching

/-!
# Counterparts

Matching gives each base unit of a unit one power of the target, its counterpart.

* `partner?_eq` reads the ratio and the exponent of a partner off the counterpart.
* `matchTarget_eq_some_iff` says when a unit matches a target, and with which factor.
* `matchTargets_eq_some_iff` says which target of a list is reported.
-/

namespace UnitCheck

variable {α : Type}

def ConversionTable.classOf? (table : ConversionTable α) (unit : String) : Option DimensionClass :=
  table[unit]?.map (·.dimension)

/-- The power of the target that a unit is matched with: the one of the same name, or else the first
one in the unit's class. -/
def counterpart? (table : ConversionTable α) (target : UnitVector) (unit : String) :
    Option UnitPower :=
  (target.powers.find? (·.unit = unit)).or
    (target.powers.find? fun power => table.sameClass unit power.unit)

theorem ConversionTable.sameClass_iff {table : ConversionTable α} {a b : String} :
    table.sameClass a b = true ↔
      ∃ dimension, table.classOf? a = some dimension ∧ table.classOf? b = some dimension := by
  unfold sameClass classOf?
  cases table[a]? <;> cases table[b]? <;> simp [eq_comm]

theorem classOf?_eq_of_sameClass {table : ConversionTable α} {a b : String}
    (same : table.sameClass a b = true) :
    table.classOf? a = table.classOf? b ∧ table.classOf? a ≠ none := by
  obtain ⟨dimension, left, right⟩ := ConversionTable.sameClass_iff.mp same
  simp [left, right]

theorem counterpart?_mem {table : ConversionTable α} {target : UnitVector} {unit : String}
    {power : UnitPower} (found : counterpart? table target unit = some power) :
    power ∈ target.powers := by
  rcases Option.or_eq_some_iff.mp found with named | ⟨-, converted⟩
  · exact List.mem_of_find?_eq_some named
  · exact List.mem_of_find?_eq_some converted

/-- A counterpart has the name of its unit, or a class in common with it. -/
theorem counterpart?_unit {table : ConversionTable α} {target : UnitVector} {unit : String}
    {power : UnitPower} (found : counterpart? table target unit = some power) :
    power.unit = unit ∨ table.sameClass unit power.unit = true := by
  rcases Option.or_eq_some_iff.mp found with named | ⟨-, converted⟩
  · exact Or.inl (by simpa using List.find?_some named)
  · exact Or.inr (List.find?_eq_some_iff_append.mp converted).1

theorem find?_unit_of_mem {v : UnitVector} {power : UnitPower} (distinct : v.units.Nodup)
    (member : power ∈ v.powers) : v.powers.find? (·.unit = power.unit) = some power := by
  have present : ∃ p ∈ v.powers, decide (p.unit = power.unit) = true := ⟨power, member, by simp⟩
  obtain ⟨first, found⟩ := Option.isSome_iff_exists.mp (List.find?_isSome.mpr present)
  have named : first.unit = power.unit := by simpa using List.find?_some found
  have same : first = power :=
    List.inj_on_of_nodup_map distinct (List.mem_of_find?_eq_some found) member named
  rw [found, same]

theorem counterpart?_of_mem {table : ConversionTable α} {target : UnitVector} {power : UnitPower}
    (distinct : target.units.Nodup) (member : power ∈ target.powers) :
    counterpart? table target power.unit = some power := by
  rw [counterpart?, find?_unit_of_mem distinct member, Option.some_or]

/-- Every power has a counterpart with its own exponent. -/
def Covered (table : ConversionTable α) (target : UnitVector) (powers : List UnitPower) : Prop :=
  ∀ power ∈ powers, ∃ other, counterpart? table target power.unit = some other ∧
    other.exponent = power.exponent

theorem Covered.tail {table : ConversionTable α} {target : UnitVector} {power : UnitPower}
    {rest : List UnitPower} (covered : Covered table target (power :: rest)) :
    Covered table target rest :=
  fun p member => covered p (List.mem_cons_of_mem _ member)

variable [Magnitude α]

/-- The scale of a unit in terms of another one that it is matched with. -/
def scaleRatio (table : ConversionTable α) (unit other : String) : α :=
  if unit = other then 1
  else match table[unit]?, table[other]? with
    | some entry, some candidate => entry.scale / candidate.scale
    | _, _ => 1

theorem convert?_eq {table : ConversionTable α} {target : UnitVector} {unit : String}
    (foreign : ∀ power ∈ target.powers, power.unit ≠ unit) :
    convert? table target unit =
      (target.powers.find? fun power => table.sameClass unit power.unit).map fun power =>
        (scaleRatio table unit power.unit, power.exponent) := by
  unfold convert?
  cases known : table[unit]? with
  | none =>
      have unrelated : target.powers.find? (fun power => table.sameClass unit power.unit) = none := by
        simp [ConversionTable.sameClass, known]
      rw [unrelated, Option.map_none]
  | some entry =>
      obtain ⟨powers⟩ := target
      simp only at foreign ⊢
      induction powers with
      | nil => rfl
      | cons power rest ih =>
          have other : unit ≠ power.unit := (foreign power List.mem_cons_self).symm
          rw [List.findSome?_cons, List.find?_cons,
            ih fun p member => foreign p (List.mem_cons_of_mem _ member)]
          cases candidate : table[power.unit]? with
          | none => simp [ConversionTable.sameClass, known, candidate]
          | some found =>
              by_cases same : found.dimension = entry.dimension
              · simp [ConversionTable.sameClass, scaleRatio, known, candidate, same, other]
              · simp [ConversionTable.sameClass, known, candidate, same, Ne.symm same]

theorem partner?_eq (table : ConversionTable α) (target : UnitVector) (unit : String) :
    partner? table target unit =
      (counterpart? table target unit).map fun power =>
        (scaleRatio table unit power.unit, power.exponent) := by
  unfold partner? counterpart? UnitVector.get?
  cases named : target.powers.find? (·.unit = unit) with
  | some power =>
      have unitEq : power.unit = unit := by simpa using List.find?_some named
      simp [scaleRatio, unitEq]
  | none =>
      have foreign : ∀ power ∈ target.powers, power.unit ≠ unit := by
        simpa using List.find?_eq_none.mp named
      simpa using convert?_eq foreign

/-- What a power of the unit contributes to the factor. -/
def contribution (table : ConversionTable α) (target : UnitVector) (power : UnitPower) : α :=
  match counterpart? table target power.unit with
  | some other => Magnitude.power (scaleRatio table power.unit other.unit) power.exponent
  | none => 1

theorem addFactor_eq_some_iff {table : ConversionTable α} {target : UnitVector} {factor result : α}
    {power : UnitPower} :
    addFactor table target factor power = some result ↔
      (∃ other, counterpart? table target power.unit = some other ∧
        other.exponent = power.exponent) ∧
      result = factor * contribution table target power := by
  unfold addFactor contribution
  rw [partner?_eq]
  cases counterpart? table target power.unit with
  | none => simp
  | some other =>
      by_cases same : power.exponent = other.exponent
      · simp [same, eq_comm]
      · simp [same, Ne.symm same]

theorem foldlM_addFactor_eq_some_iff {table : ConversionTable α} {target : UnitVector}
    {factor result : α} {powers : List UnitPower} :
    powers.foldlM (addFactor table target) factor = some result ↔
      Covered table target powers ∧
      result = powers.foldl (fun product power => product * contribution table target power)
        factor := by
  induction powers generalizing factor with
  | nil => simp [Covered, eq_comm]
  | cons power rest ih =>
      rw [List.foldlM_cons, Option.bind_eq_bind, Option.bind_eq_some_iff]
      simp only [addFactor_eq_some_iff, ih, Covered, List.forall_mem_cons, List.foldl_cons]
      constructor
      · rintro ⟨_, ⟨covered, rfl⟩, restCovered, value⟩
        exact ⟨⟨covered, restCovered⟩, value⟩
      · rintro ⟨⟨covered, restCovered⟩, value⟩
        exact ⟨_, ⟨covered, rfl⟩, restCovered, value⟩

theorem matchTarget_eq_some_iff {table : ConversionTable α} {unit target : UnitVector}
    {factor : α} :
    matchTarget table unit target = some factor ↔
      unit.size = target.size ∧ Covered table target unit.powers ∧
      factor = unit.powers.foldl
        (fun product power => product * contribution table target power) 1 ∧
      Magnitude.isFactor factor = true := by
  unfold matchTarget
  split
  · rename_i sizes
    simp only [sizes, true_and, Option.filter_eq_some_iff, foldlM_addFactor_eq_some_iff]
    exact and_assoc
  · rename_i sizes
    simp [sizes]

theorem matchFrom_eq_some_iff {table : ConversionTable α} {unit : UnitVector}
    {targets : TargetList} {factor : α} {first number : Nat} :
    matchFrom table unit first targets = some (factor, number) ↔
      ∃ i target, number = first + i ∧ targets[i]? = some target ∧
        matchTarget table unit target = some factor ∧
        ∀ earlier ∈ targets.take i, matchTarget table unit earlier = none := by
  induction targets generalizing first with
  | nil => simp [matchFrom]
  | cons target rest ih =>
      rw [matchFrom]
      cases matched : matchTarget table unit target with
      | some result =>
          constructor
          · intro found
            obtain ⟨rfl, rfl⟩ := Prod.mk.inj (Option.some.inj found)
            exact ⟨0, target, rfl, rfl, matched, by simp⟩
          · rintro ⟨i, other, rfl, position, otherMatched, earlier⟩
            cases i with
            | zero =>
                obtain rfl : target = other := by simpa using position
                simp_all
            | succ i => simp [matched] at earlier
      | none =>
          simp only [ih]
          constructor
          · rintro ⟨i, other, rfl, position, otherMatched, earlier⟩
            refine ⟨i + 1, other, by omega, by simpa using position, otherMatched, ?_⟩
            simpa [matched] using earlier
          · rintro ⟨i, other, rfl, position, otherMatched, earlier⟩
            cases i with
            | zero =>
                obtain rfl : target = other := by simpa using position
                simp [matched] at otherMatched
            | succ i =>
                refine ⟨i, other, by omega, by simpa using position, otherMatched, ?_⟩
                simpa [matched] using earlier

theorem matchTargets_eq_some_iff {table : ConversionTable α} {unit : UnitVector}
    {targets : TargetList} {factor : α} {i : Nat} :
    matchTargets table unit targets = some (factor, i) ↔
      ∃ target, targets[i]? = some target ∧ matchTarget table unit target = some factor ∧
        ∀ earlier ∈ targets.take i, matchTarget table unit earlier = none := by
  simp [matchTargets, matchFrom_eq_some_iff]

end UnitCheck
