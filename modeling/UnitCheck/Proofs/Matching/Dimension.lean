import Mathlib.Algebra.BigOperators.Ring.Finset
import Mathlib.Data.Int.Cast.Lemmas
import UnitCheck.Proofs.Matching.Counterpart

/-!
# Dimensions of matched units

Matching looks up the counterpart of each base unit on its own and compares only the numbers of base
units. Nothing keeps two units from sharing a counterpart, while another unit of the target stays
without one. So a match says that the dimensions agree exactly when, in every class, the exponents
that are used more than once make up for those that are not used, and no unknown unit of the target
stays unused.

* `exponentIn_add_unused` compares the exponents of a class on both sides of a match.
* `matchTargets_sameDimension_iff` is the condition under which a match is dimensionally sound; it
  holds when no two units share a counterpart.
* `not_forall_matchTargets_sameDimension` is a match that is not sound.
-/

namespace UnitCheck

variable {α : Type}

/-- The exponents of the units in a class, summed up. -/
def UnitVector.exponentIn (v : UnitVector) (table : ConversionTable α)
    (dimension : DimensionClass) : Int :=
  ((v.powers.filter fun power => table.classOf? power.unit = some dimension).map fun power =>
    power.exponent.toInt).sum

/-- Two vectors have the same dimension: in each class the exponents add up to the same, and a unit
without a class has the same exponent in both or occurs in neither. -/
structure SameDimension (table : ConversionTable α) (v w : UnitVector) : Prop where
  classes : ∀ dimension, v.exponentIn table dimension = w.exponentIn table dimension
  unknown : ∀ unit, table.classOf? unit = none → v.get? unit = w.get? unit

/-- The counterparts of the base units, in their order. -/
def counterparts (table : ConversionTable α) (target : UnitVector) (powers : List UnitPower) :
    List UnitPower :=
  powers.filterMap fun power => counterpart? table target power.unit

/-- How many base units of the unit have a given power of the target as their counterpart. -/
def uses (table : ConversionTable α) (unit target : UnitVector) (power : UnitPower) : Nat :=
  (counterparts table target unit.powers).count power

/-- The exponents of a class summed up, each as often as `times` says. -/
def UnitVector.totalIn (v : UnitVector) (table : ConversionTable α) (times : UnitPower → Nat)
    (dimension : DimensionClass) : Int :=
  ((v.powers.filter fun power => table.classOf? power.unit = some dimension).map fun power =>
    (times power : Int) * power.exponent.toInt).sum

/-- In each class of the target the powers that are used repeatedly make up for those that are not
used, and each power of an unknown unit is used. -/
structure Balanced (table : ConversionTable α) (unit target : UnitVector) : Prop where
  classes : ∀ dimension,
    target.totalIn table (fun power => uses table unit target power - 1) dimension =
      target.totalIn table (fun power => if uses table unit target power = 0 then 1 else 0)
        dimension
  unknown : ∀ power ∈ target.powers, table.classOf? power.unit = none →
    0 < uses table unit target power

/-! ## Exponents of a class -/

theorem totalIn_add (v : UnitVector) (table : ConversionTable α) (f g : UnitPower → Nat)
    (dimension : DimensionClass) :
    v.totalIn table (fun power => f power + g power) dimension =
      v.totalIn table f dimension + v.totalIn table g dimension := by
  unfold UnitVector.totalIn
  rw [← List.sum_map_add]
  simp only [Nat.cast_add, add_mul]

theorem totalIn_one (v : UnitVector) (table : ConversionTable α) (dimension : DimensionClass) :
    v.totalIn table (fun _ => 1) dimension = v.exponentIn table dimension := by
  simp [UnitVector.totalIn, UnitVector.exponentIn]

theorem sum_map_filter {β : Type} (p : β → Bool) (f : β → Int) (l : List β) :
    ((l.filter p).map f).sum = (l.map fun x => if p x then f x else 0).sum := by
  simp [List.sum_map_ite]

/-- Counting the occurrences of each member of a list without repetitions is summing over a list of
such members. -/
theorem totalIn_count (table : ConversionTable α) (v : UnitVector) (distinct : v.powers.Nodup)
    (chosen : List UnitPower) (members : ∀ power ∈ chosen, power ∈ v.powers)
    (dimension : DimensionClass) :
    v.totalIn table (fun power => chosen.count power) dimension =
      (⟨chosen⟩ : UnitVector).exponentIn table dimension := by
  unfold UnitVector.totalIn UnitVector.exponentIn
  rw [sum_map_filter, sum_map_filter, ← List.sum_toFinset _ distinct, Finset.sum_list_map_count]
  symm
  refine Finset.sum_subset_zero_on_sdiff ?_ ?_ ?_
  · intro power member
    exact List.mem_toFinset.mpr (members power (List.mem_toFinset.mp member))
  · intro power member
    have absent : power ∉ chosen := fun present =>
      (Finset.mem_sdiff.mp member).2 (List.mem_toFinset.mpr present)
    simp [List.count_eq_zero_of_not_mem absent]
  · intro power _
    split <;> simp

theorem powers_nodup {v : UnitVector} (distinct : v.units.Nodup) : v.powers.Nodup :=
  List.Nodup.of_map _ distinct

theorem counterparts_mem {table : ConversionTable α} {target : UnitVector}
    {powers : List UnitPower} :
    ∀ power ∈ counterparts table target powers, power ∈ target.powers := by
  intro power member
  obtain ⟨origin, -, found⟩ := List.mem_filterMap.mp member
  exact counterpart?_mem found

theorem classOf?_counterpart {table : ConversionTable α} {target : UnitVector} {unit : String}
    {power : UnitPower} (found : counterpart? table target unit = some power) :
    table.classOf? power.unit = table.classOf? unit := by
  rcases counterpart?_unit found with named | converted
  · rw [named]
  · exact (classOf?_eq_of_sameClass converted).1.symm

theorem exponentIn_counterparts {table : ConversionTable α} {target : UnitVector}
    {powers : List UnitPower} (covered : Covered table target powers)
    (dimension : DimensionClass) :
    (⟨counterparts table target powers⟩ : UnitVector).exponentIn table dimension =
      (⟨powers⟩ : UnitVector).exponentIn table dimension := by
  induction powers with
  | nil => rfl
  | cons power rest ih =>
      obtain ⟨other, found, exponent⟩ := covered power List.mem_cons_self
      have sameClass := classOf?_counterpart found
      have step := ih covered.tail
      unfold UnitVector.exponentIn at step ⊢
      simp only [counterparts, List.filterMap_cons, found, List.filter_cons, sameClass] at step ⊢
      split
      · simp only [List.map_cons, List.sum_cons, exponent, step]
      · exact step

theorem exponentIn_add_unused {table : ConversionTable α} {unit target : UnitVector}
    (distinct : target.units.Nodup) (covered : Covered table target unit.powers)
    (dimension : DimensionClass) :
    unit.exponentIn table dimension +
        target.totalIn table (fun power => if uses table unit target power = 0 then 1 else 0)
          dimension =
      target.exponentIn table dimension +
        target.totalIn table (fun power => uses table unit target power - 1) dimension := by
  have used : target.totalIn table (uses table unit target) dimension =
      unit.exponentIn table dimension := by
    have counted := totalIn_count table target (powers_nodup distinct)
      (counterparts table target unit.powers) counterparts_mem dimension
    rw [exponentIn_counterparts covered] at counted
    exact counted
  rw [← used, ← totalIn_one target, ← totalIn_add, ← totalIn_add]
  congr 1
  funext power
  split <;> omega

/-! ## Unknown units -/

theorem uses_pos_iff {table : ConversionTable α} {unit target : UnitVector} {power : UnitPower} :
    0 < uses table unit target power ↔
      ∃ origin ∈ unit.powers, counterpart? table target origin.unit = some power := by
  rw [uses, List.count_pos_iff, counterparts, List.mem_filterMap]

theorem unit_eq_of_unknown {table : ConversionTable α} {target : UnitVector} {unit : String}
    {power : UnitPower} (unknown : table.classOf? unit = none)
    (found : counterpart? table target unit = some power) : power.unit = unit := by
  rcases counterpart?_unit found with named | converted
  · exact named
  · exact absurd unknown (classOf?_eq_of_sameClass converted).2

theorem get?_of_mem {v : UnitVector} {power : UnitPower} (distinct : v.units.Nodup)
    (member : power ∈ v.powers) : v.get? power.unit = some power.exponent := by
  rw [UnitVector.get?, find?_unit_of_mem distinct member, Option.map_some]

theorem exists_of_get? {v : UnitVector} {unit : String} {exponent : Int32}
    (found : v.get? unit = some exponent) :
    ∃ power ∈ v.powers, power.unit = unit ∧ power.exponent = exponent := by
  obtain ⟨power, first, rfl⟩ := Option.map_eq_some_iff.mp found
  exact ⟨power, List.mem_of_find?_eq_some first, by simpa using List.find?_some first, rfl⟩

theorem get?_eq_iff_uses {table : ConversionTable α} {unit target : UnitVector}
    (distinct : target.units.Nodup) (covered : Covered table target unit.powers) :
    (∀ name, table.classOf? name = none → unit.get? name = target.get? name) ↔
      ∀ power ∈ target.powers, table.classOf? power.unit = none →
        0 < uses table unit target power := by
  constructor
  · intro agree power member unknown
    have present := (agree power.unit unknown).trans (get?_of_mem distinct member)
    obtain ⟨origin, originMember, named, -⟩ := exists_of_get? present
    refine uses_pos_iff.mpr ⟨origin, originMember, ?_⟩
    rw [named]
    exact counterpart?_of_mem distinct member
  · intro used name unknown
    cases inUnit : unit.get? name with
    | some exponent =>
        obtain ⟨origin, member, named, rfl⟩ := exists_of_get? inUnit
        obtain ⟨other, found, same⟩ := covered origin member
        have otherNamed : other.unit = name := by
          rw [← named]
          exact unit_eq_of_unknown (by rwa [named]) found
        rw [← same, ← otherNamed]
        exact (get?_of_mem distinct (counterpart?_mem found)).symm
    | none =>
        cases inTarget : target.get? name with
        | none => rfl
        | some exponent =>
            obtain ⟨power, member, named, -⟩ := exists_of_get? inTarget
            obtain ⟨origin, originMember, found⟩ :=
              uses_pos_iff.mp (used power member (by rwa [named]))
            have originUnknown : table.classOf? origin.unit = none := by
              rw [← classOf?_counterpart found, named, unknown]
            have originNamed : origin.unit = name :=
              (unit_eq_of_unknown originUnknown found).symm.trans named
            have absent := List.find?_eq_none.mp (Option.map_eq_none_iff.mp inUnit) origin
              originMember
            exact absurd originNamed (by simpa using absent)

/-! ## Soundness -/

theorem sameDimension_iff_balanced {table : ConversionTable α} {unit target : UnitVector}
    (distinct : target.units.Nodup) (covered : Covered table target unit.powers) :
    SameDimension table unit target ↔ Balanced table unit target := by
  have unknown := get?_eq_iff_uses distinct covered
  have difference := exponentIn_add_unused distinct covered
  constructor
  · intro same
    refine ⟨fun dimension => ?_, unknown.mp same.unknown⟩
    have := difference dimension
    have := same.classes dimension
    omega
  · intro balanced
    refine ⟨fun dimension => ?_, unknown.mpr balanced.unknown⟩
    have := difference dimension
    have := balanced.classes dimension
    omega

theorem length_counterparts {table : ConversionTable α} {target : UnitVector}
    {powers : List UnitPower} (covered : Covered table target powers) :
    (counterparts table target powers).length = powers.length := by
  induction powers with
  | nil => rfl
  | cons power rest ih =>
      obtain ⟨other, found, -⟩ := covered power List.mem_cons_self
      simp [counterparts, found] at ih ⊢
      exact ih covered.tail

/-- If no two units share a counterpart, then the units of the target are used once each. -/
theorem uses_eq_one {table : ConversionTable α} {unit target : UnitVector}
    (sizes : unit.size = target.size) (covered : Covered table target unit.powers)
    (unshared : (counterparts table target unit.powers).Nodup) {power : UnitPower}
    (member : power ∈ target.powers) : uses table unit target power = 1 := by
  have lengths : target.powers.length ≤ (counterparts table target unit.powers).length := by
    rw [length_counterparts covered]
    exact sizes.ge
  have all := (unshared.subperm counterparts_mem).perm_of_length_le lengths
  rw [uses, List.count_eq_one_of_mem unshared (all.mem_iff.mpr member)]

theorem balanced_of_unshared {table : ConversionTable α} {unit target : UnitVector}
    (sizes : unit.size = target.size) (covered : Covered table target unit.powers)
    (unshared : (counterparts table target unit.powers).Nodup) : Balanced table unit target := by
  have once {power : UnitPower} (member : power ∈ target.powers) :=
    uses_eq_one sizes covered unshared member
  constructor
  · intro dimension
    unfold UnitVector.totalIn
    congr 1
    apply List.map_congr_left
    intro power member
    simp [once (List.mem_of_mem_filter member)]
  · intro power member _
    simp [once member]

theorem matchTargets_sameDimension_iff [Magnitude α] {table : ConversionTable α}
    {unit : UnitVector} {targets : TargetList} {factor : α} {i : Nat}
    (reduced : ∀ target ∈ targets, target.Reduced)
    (found : matchTargets table unit targets = some (factor, i)) :
    ∃ target, targets[i]? = some target ∧
      (SameDimension table unit target ↔ Balanced table unit target) ∧
      ((counterparts table target unit.powers).Nodup → SameDimension table unit target) := by
  obtain ⟨target, position, matched, -⟩ := matchTargets_eq_some_iff.mp found
  obtain ⟨sizes, covered, -⟩ := matchTarget_eq_some_iff.mp matched
  have distinct : target.units.Nodup := (reduced target (List.mem_of_getElem? position)).1
  have condition := sameDimension_iff_balanced distinct covered
  exact ⟨target, position, condition,
    fun unshared => condition.mpr (balanced_of_unshared sizes covered unshared)⟩

/-- The table of the rules `m: k c d`. -/
def metreTable : ConversionTable Float :=
  (RuleBook.empty.addRules "m: k c d").1.table

theorem matchTargets_sameDimension_iff_metre :
    (∀ target ∈ [(⟨[⟨"cm", 1⟩, ⟨"m", 1⟩]⟩ : UnitVector)], target.Reduced) ∧
    matchTargets metreTable ⟨[⟨"km", 1⟩, ⟨"m", 1⟩]⟩ [⟨[⟨"cm", 1⟩, ⟨"m", 1⟩]⟩] = some (1e5, 0) ∧
    SameDimension metreTable ⟨[⟨"km", 1⟩, ⟨"m", 1⟩]⟩ ⟨[⟨"cm", 1⟩, ⟨"m", 1⟩]⟩ := by
  have reduced : ∀ target ∈ [(⟨[⟨"cm", 1⟩, ⟨"m", 1⟩]⟩ : UnitVector)], target.Reduced := by
    simp only [UnitVector.Reduced, List.forall_mem_singleton]
    decide
  have found : matchTargets metreTable ⟨[⟨"km", 1⟩, ⟨"m", 1⟩]⟩ [⟨[⟨"cm", 1⟩, ⟨"m", 1⟩]⟩] =
      some (1e5, 0) := by decide +kernel
  obtain ⟨target, position, -, sound⟩ := matchTargets_sameDimension_iff reduced found
  obtain rfl := Option.some.inj position
  exact ⟨reduced, found, sound (by decide +kernel)⟩

/-- Both units of `km dm` are converted to `cm`, and nothing answers to the `s` of the target. -/
theorem not_forall_matchTargets_sameDimension :
    ¬ ∀ (table : ConversionTable Float) (unit : UnitVector) (targets : TargetList) (factor : Float)
      (i : Nat), unit.Reduced → (∀ target ∈ targets, target.Reduced) →
      matchTargets table unit targets = some (factor, i) →
      ∃ target, targets[i]? = some target ∧ SameDimension table unit target := by
  intro sound
  have reduced : (⟨[⟨"km", 1⟩, ⟨"dm", 1⟩]⟩ : UnitVector).Reduced ∧
      (⟨[⟨"cm", 1⟩, ⟨"s", 1⟩]⟩ : UnitVector).Reduced := by
    simp only [UnitVector.Reduced]
    decide
  have found : matchTargets metreTable ⟨[⟨"km", 1⟩, ⟨"dm", 1⟩]⟩ [⟨[⟨"cm", 1⟩, ⟨"s", 1⟩]⟩] =
      some (1e6, 0) := by decide +kernel
  obtain ⟨target, position, same⟩ := sound metreTable ⟨[⟨"km", 1⟩, ⟨"dm", 1⟩]⟩
    [⟨[⟨"cm", 1⟩, ⟨"s", 1⟩]⟩] 1e6 0 reduced.1 (by simpa using reduced.2) found
  obtain rfl := Option.some.inj position
  have seconds := same.unknown "s" (by decide +kernel)
  exact absurd seconds (by decide)

end UnitCheck
