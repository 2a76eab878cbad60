import UnitCheck.Proofs.Matching.Factor
import UnitCheck.Proofs.Number.Error
import UnitCheck.Proofs.Rules.Usable

/-!
# Reordered units

Which target a unit matches depends on the order of its base units in one way only. The factor is a
product of contributions from the first base unit to the last, and a partial product that is out of
range is never made up for.

* `matchTargets_perm` says when two orders report the same target, and that they do as long as the
  scales are not too far from one for the exponents.
* `matchTargets_perm_exact` is exact arithmetic, where the order does not matter at all.
* `not_forall_matchTargets_perm` is a unit of which one order is accepted and another one is not.
-/

namespace UnitCheck

/-- The unit matches the target but for the range of the factor. -/
def Fits {α : Type} (table : ConversionTable α) (unit target : UnitVector) : Prop :=
  unit.size = target.size ∧ Covered table target unit.powers

theorem Fits.perm {α : Type} {table : ConversionTable α} {unit other target : UnitVector}
    (reordered : unit.powers.Perm other.powers) :
    Fits table unit target ↔ Fits table other target := by
  unfold Fits Covered UnitVector.size
  rw [reordered.length_eq]
  simp only [reordered.mem_iff]

/-! ## Products of contributions -/

section

variable {α : Type} [Magnitude α]

/-- The product of the contributions of some powers, from first to last. -/
def productOf (table : ConversionTable α) (target : UnitVector) (powers : List UnitPower) : α :=
  powers.foldl (fun product power => product * contribution table target power) 1

theorem productOf_append (table : ConversionTable α) (target : UnitVector)
    (powers : List UnitPower) (last : UnitPower) :
    productOf table target (powers ++ [last]) =
      productOf table target powers * contribution table target last := by
  simp [productOf]

theorem matchTarget_eq_some_iff_fits {table : ConversionTable α} {unit target : UnitVector}
    {factor : α} :
    matchTarget table unit target = some factor ↔
      Fits table unit target ∧ factor = productOf table target unit.powers ∧
        Magnitude.isFactor factor = true := by
  rw [matchTarget_eq_some_iff, ← and_assoc]
  rfl

theorem isSome_matchTarget_iff {table : ConversionTable α} {unit target : UnitVector} :
    (matchTarget table unit target).isSome = true ↔
      Fits table unit target ∧ Magnitude.isFactor (productOf table target unit.powers) = true := by
  simp only [Option.isSome_iff_exists, matchTarget_eq_some_iff_fits, exists_and_left,
    exists_eq_left]

theorem map_snd_matchTargets (table : ConversionTable α) (unit : UnitVector)
    (targets : TargetList) :
    (matchTargets table unit targets).map Prod.snd =
      targets.findIdx? fun target => (matchTarget table unit target).isSome := by
  have numbered : ∀ first, (matchFrom table unit first targets).map Prod.snd =
      (targets.findIdx? fun target => (matchTarget table unit target).isSome).map (first + ·) := by
    induction targets with
    | nil => exact fun _ => rfl
    | cons target rest ih =>
        intro first
        rw [matchFrom, List.findIdx?_cons]
        cases matchTarget table unit target with
        | some factor => simp
        | none => simp [ih, Function.comp_def, Nat.add_comm, Nat.add_left_comm]
  rw [matchTargets, numbered 0]
  simp

end

theorem findIdx?_eq_iff {β : Type} {p q : β → Bool} {items : List β} :
    items.findIdx? p = items.findIdx? q ↔
      ∀ i item, items[i]? = some item →
        (∀ earlier ∈ items.take i, p earlier = false ∧ q earlier = false) → p item = q item := by
  induction items with
  | nil => simp
  | cons first rest ih =>
      have split : (∀ i item, (first :: rest)[i]? = some item →
          (∀ earlier ∈ (first :: rest).take i, p earlier = false ∧ q earlier = false) →
          p item = q item) ↔
          p first = q first ∧ (p first = false ∧ q first = false →
            ∀ i item, rest[i]? = some item →
              (∀ earlier ∈ rest.take i, p earlier = false ∧ q earlier = false) →
              p item = q item) := by
        constructor
        · intro agree
          refine ⟨agree 0 first rfl (by simp), fun none i item position earlier => ?_⟩
          refine agree (i + 1) item (by simpa using position) ?_
          rw [List.take_succ_cons]
          exact List.forall_mem_cons.mpr ⟨none, earlier⟩
        · rintro ⟨here, later⟩ i item position earlier
          cases i with
          | zero =>
              obtain rfl : first = item := by simpa using position
              exact here
          | succ i =>
              rw [List.take_succ_cons] at earlier
              obtain ⟨none, earlier⟩ := List.forall_mem_cons.mp earlier
              exact later none i item (by simpa using position) earlier
      rw [split, ← ih, List.findIdx?_cons, List.findIdx?_cons]
      have shifted : Function.Injective (Option.map (· + 1) : Option Nat → Option Nat) :=
        Option.map_injective fun _ _ => Nat.succ.inj
      cases p first <;> cases q first <;> simp [shifted.eq_iff]

/-! ## Partial products -/

/-- No partial product of the contributions is out of range. -/
def StaysInRange (table : ConversionTable Float) (target : UnitVector) (powers : List UnitPower) :
    Prop :=
  ∀ i power, powers[i]? = some power →
    InRange (absolute (productOf table target (powers.take i)) *
      absolute (contribution table target power))

theorem isFactor_productOf_iff {table : ConversionTable Float} {target : UnitVector}
    {powers : List UnitPower} :
    Magnitude.isFactor (productOf table target powers) = true ↔
      StaysInRange table target powers := by
  -- From the end: a product that is usable has a usable product before its last factor.
  induction powers using List.reverseRecOn with
  | nil => exact iff_of_true Within.one.isFactor (by simp [StaysInRange])
  | append_singleton powers last ih =>
      rw [productOf_append]
      constructor
      · intro usable i power position
        have kept := ih.mp (isFactor_of_mul usable).1
        rcases Nat.lt_or_ge i powers.length with inside | beyond
        · rw [List.getElem?_append_left inside] at position
          rw [List.take_append_of_le_length inside.le]
          exact kept i power position
        · obtain rfl : i = powers.length := by
            have inside := (List.getElem?_eq_some_iff.mp position).1
            simp at inside
            omega
          obtain rfl : last = power := by simpa using position
          rw [List.take_left]
          exact isFactor_mul_iff.mp usable
      · intro kept
        have final := kept powers.length last (by simp)
        rw [List.take_left] at final
        exact isFactor_mul_iff.mpr final

/-! ## Factors of moderate size -/

/-- The sum of the exponents of some powers, without their signs. -/
def exponentSum (powers : List UnitPower) : Nat :=
  (powers.map fun power => power.exponent.toInt.natAbs).sum

theorem power_of_natAbs {α : Type} [Magnitude α] (x : α) {n : Int32}
    (zero : n.toInt.natAbs = 0) : Magnitude.power x n = 1 := by
  obtain rfl : n = 0 := Int32.toInt_inj.mp (Int.natAbs_eq_zero.mp zero)
  have base : Magnitude.powerAux x 1 0 = 1 := by
    rw [Magnitude.powerAux]
    rfl
  exact base

section

variable {table : ConversionTable Float} {bits : Nat}

theorem within_scaleRatio (within : table.ScalesWithin bits) (range : 2 * bits ≤ 1023)
    (unit other : String) : Within (2 * bits) (scaleRatio table unit other) := by
  have one : Within (2 * bits) (1.0 : Float) := Within.one.mono (Nat.zero_le _)
  unfold scaleRatio
  split
  · exact one
  · split
    · rename_i entry candidate known candidateKnown
      rw [two_mul] at range ⊢
      exact (within unit entry known).div (within other candidate candidateKnown) range
    · exact one

theorem within_contribution (within : table.ScalesWithin bits) (target : UnitVector)
    {power : UnitPower} (range : 2 * bits * power.exponent.toInt.natAbs ≤ 1023) :
    Within (2 * bits * power.exponent.toInt.natAbs) (contribution table target power) := by
  have one : Within (2 * bits * power.exponent.toInt.natAbs) (1.0 : Float) :=
    Within.one.mono (Nat.zero_le _)
  unfold contribution
  split
  · rcases Nat.eq_zero_or_pos power.exponent.toInt.natAbs with zero | positive
    · rw [power_of_natAbs _ zero]
      exact one
    · have single : 2 * bits ≤ 2 * bits * power.exponent.toInt.natAbs :=
        Nat.le_mul_of_pos_right _ positive
      exact (within_scaleRatio within (by omega) _ _).power _ range
  · exact one

theorem exponentSum_append (powers : List UnitPower) (last : UnitPower) :
    exponentSum (powers ++ [last]) = exponentSum powers + last.exponent.toInt.natAbs := by
  simp [exponentSum]

theorem within_productOf (within : table.ScalesWithin bits) (target : UnitVector)
    {powers : List UnitPower} (range : 2 * bits * exponentSum powers ≤ 1023) :
    Within (2 * bits * exponentSum powers) (productOf table target powers) := by
  induction powers using List.reverseRecOn with
  | nil => exact Within.one
  | append_singleton powers last ih =>
      rw [exponentSum_append, mul_add] at range ⊢
      rw [productOf_append]
      exact (ih (by omega)).mul (within_contribution within target (by omega)) range

theorem rounded_productOf (within : table.ScalesWithin bits) (target : UnitVector)
    {powers : List UnitPower} (range : 2 * bits * exponentSum powers ≤ 1022) :
    Rounded powers.length
      (powers.map fun power => signFactor (signOf (contribution table target power))).prod
      (powers.map fun power => absolute (contribution table target power)).prod
      (productOf table target powers) := by
  induction powers using List.reverseRecOn with
  | nil => exact Rounded.one
  | append_singleton powers last ih =>
      rw [exponentSum_append, mul_add] at range
      have before : Within _ (productOf table target powers) :=
        within_productOf within target (by omega)
      have next : Within _ (contribution table target last) :=
        within_contribution within target (by omega)
      simp only [List.length_append, List.length_singleton, List.map_append, List.map_singleton,
        List.prod_append, List.prod_singleton]
      rw [productOf_append]
      exact (ih (by omega)).mul (isFactor_iff.mp before.isFactor) ((two_zpow_pos _).trans_le next.1)
        (Moderate.mul before next) range

theorem differByRounding_of_perm (within : table.ScalesWithin bits) (target : UnitVector)
    {powers others : List UnitPower} (reordered : powers.Perm others)
    (range : 2 * bits * exponentSum powers ≤ 1022) :
    DifferByRounding powers.length (productOf table target powers)
      (productOf table target others) := by
  have sum : exponentSum powers = exponentSum others := (reordered.map _).sum_eq
  have first := rounded_productOf within target range
  have second := rounded_productOf within target (sum ▸ range)
  rw [← reordered.length_eq, ← (reordered.map _).prod_eq, ← (reordered.map _).prod_eq] at second
  exact first.differByRounding second

end

/-! ## Orders -/

theorem sameTarget_iff {table : ConversionTable Float} {unit other : UnitVector}
    {targets : TargetList} (reordered : unit.powers.Perm other.powers) :
    (matchTargets table unit targets).map Prod.snd =
        (matchTargets table other targets).map Prod.snd ↔
      ∀ i target, targets[i]? = some target →
        (∀ earlier ∈ targets.take i,
          matchTarget table unit earlier = none ∧ matchTarget table other earlier = none) →
        Fits table unit target →
        (StaysInRange table target unit.powers ↔ StaysInRange table target other.powers) := by
  simp only [map_snd_matchTargets, findIdx?_eq_iff, Option.isSome_eq_false_iff,
    Option.isNone_iff_eq_none, Bool.eq_iff_iff (b := (matchTarget table other _).isSome),
    isSome_matchTarget_iff, ← Fits.perm reordered, isFactor_productOf_iff, and_congr_right_iff]

theorem productOf_of_matchTargets {α : Type} [Magnitude α] {table : ConversionTable α}
    {unit : UnitVector} {targets : TargetList} {factor : α} {i : Nat}
    (found : matchTargets table unit targets = some (factor, i)) :
    ∃ target, targets[i]? = some target ∧ factor = productOf table target unit.powers := by
  obtain ⟨target, position, matched, -⟩ := matchTargets_eq_some_iff.mp found
  exact ⟨target, position, (matchTarget_eq_some_iff_fits.mp matched).2.1⟩

/-- Two orders report the same target exactly if, at each target that is reached, the partial
products stay in range for both or for neither. Scales of moderate size have this property, and
there the two factors differ only by rounding. -/
theorem matchTargets_perm {table : ConversionTable Float} {unit other : UnitVector}
    (targets : TargetList) (reordered : unit.powers.Perm other.powers) :
    ((matchTargets table unit targets).map Prod.snd =
        (matchTargets table other targets).map Prod.snd ↔
      ∀ i target, targets[i]? = some target →
        (∀ earlier ∈ targets.take i,
          matchTarget table unit earlier = none ∧ matchTarget table other earlier = none) →
        Fits table unit target →
        (StaysInRange table target unit.powers ↔ StaysInRange table target other.powers)) ∧
    ∀ bits : Nat, 2 * bits * exponentSum unit.powers ≤ 1022 → table.ScalesWithin bits →
      (matchTargets table unit targets = none ∧ matchTargets table other targets = none) ∨
      ∃ first second i, matchTargets table unit targets = some (first, i) ∧
        matchTargets table other targets = some (second, i) ∧
        DifferByRounding unit.size first second := by
  refine ⟨sameTarget_iff reordered, fun bits range within => ?_⟩
  have sum : exponentSum unit.powers = exponentSum other.powers := (reordered.map _).sum_eq
  have same : (matchTargets table unit targets).map Prod.snd =
      (matchTargets table other targets).map Prod.snd := by
    -- With moderate scales no partial product leaves the range, whatever the order.
    refine (sameTarget_iff reordered).mpr fun i target _ _ _ => iff_of_true ?_ ?_
    · exact isFactor_productOf_iff.mp (within_productOf within target (by omega)).isFactor
    · rw [sum] at range
      exact isFactor_productOf_iff.mp (within_productOf within target (by omega)).isFactor
  cases found : matchTargets table unit targets with
  | none =>
      rw [found] at same
      exact Or.inl ⟨rfl, Option.map_eq_none_iff.mp same.symm⟩
  | some result =>
      obtain ⟨first, i⟩ := result
      rw [found] at same
      obtain ⟨⟨second, j⟩, otherFound, rfl⟩ := Option.map_eq_some_iff.mp same.symm
      obtain ⟨target, position, rfl⟩ := productOf_of_matchTargets found
      obtain ⟨_, otherPosition, rfl⟩ := productOf_of_matchTargets otherFound
      obtain rfl := Option.some.inj (position.symm.trans otherPosition)
      exact Or.inr ⟨_, _, _, rfl, otherFound,
        differByRounding_of_perm within target reordered range⟩

theorem scalesWithin_metreTable : metreTable.ScalesWithin 10 := by
  intro unit entry found
  have all : ∀ known ∈ metreTable.toList, Moderate 10 (absolute known.2.scale) := by
    unfold Moderate
    decide +kernel
  exact all (unit, entry) (Std.TreeMap.mem_toList_iff_getElem?_eq_some.mpr found)

theorem matchTargets_perm_metre :
    ([⟨"km", 2⟩, ⟨"s", -1⟩] : List UnitPower).Perm [⟨"s", -1⟩, ⟨"km", 2⟩] ∧
    ∃ first second, matchTargets metreTable ⟨[⟨"km", 2⟩, ⟨"s", -1⟩]⟩
        [⟨[⟨"m", 2⟩]⟩, ⟨[⟨"cm", 2⟩, ⟨"s", -1⟩]⟩] = some (first, 1) ∧
      matchTargets metreTable ⟨[⟨"s", -1⟩, ⟨"km", 2⟩]⟩
        [⟨[⟨"m", 2⟩]⟩, ⟨[⟨"cm", 2⟩, ⟨"s", -1⟩]⟩] = some (second, 1) ∧
      DifferByRounding 2 first second := by
  have reordered : (⟨[⟨"km", 2⟩, ⟨"s", -1⟩]⟩ : UnitVector).powers.Perm
      (⟨[⟨"s", -1⟩, ⟨"km", 2⟩]⟩ : UnitVector).powers := List.Perm.swap _ _ _
  have position : (matchTargets metreTable ⟨[⟨"km", 2⟩, ⟨"s", -1⟩]⟩
      [⟨[⟨"m", 2⟩]⟩, ⟨[⟨"cm", 2⟩, ⟨"s", -1⟩]⟩]).map Prod.snd = some 1 := by decide +kernel
  obtain ⟨none, -⟩ | ⟨first, second, i, found, otherFound, near⟩ :=
    (matchTargets_perm [⟨[⟨"m", 2⟩]⟩, ⟨[⟨"cm", 2⟩, ⟨"s", -1⟩]⟩] reordered).2 10 (by decide)
      scalesWithin_metreTable
  · rw [none] at position
    cases position
  · rw [found] at position
    obtain rfl := Option.some.inj position
    exact ⟨reordered, first, second, found, otherFound, near⟩

def yottaTable : ConversionTable Float :=
  (RuleBook.empty.addRules "m: Y; s: Y; g: Y").1.table

/-- The factor of `Ym^9 Ys^9 Yg^-9` is `1e216`, but `Ym^9 Ys^9` is out of range. With the last two
base units swapped the unit is accepted. -/
theorem not_forall_matchTargets_perm :
    ¬ ∀ (table : ConversionTable Float) (unit other : UnitVector) (targets : TargetList),
      unit.powers.Perm other.powers →
        (matchTargets table unit targets).map Prod.snd =
          (matchTargets table other targets).map Prod.snd := by
  intro orderless
  have same := orderless yottaTable ⟨[⟨"Ym", 9⟩, ⟨"Ys", 9⟩, ⟨"Yg", -9⟩]⟩
    ⟨[⟨"Ym", 9⟩, ⟨"Yg", -9⟩, ⟨"Ys", 9⟩]⟩ [⟨[⟨"m", 9⟩, ⟨"s", 9⟩, ⟨"g", -9⟩]⟩]
    (List.Perm.cons _ (List.Perm.swap _ _ _))
  exact absurd same (by decide +kernel)

/-! ## Exact arithmetic -/

theorem productOf_eq_prod (table : ConversionTable ℚ) (target : UnitVector)
    (powers : List UnitPower) :
    productOf table target powers = (powers.map (contribution table target)).prod := by
  rw [List.prod_eq_foldl, List.foldl_map]
  rfl

theorem matchTargets_perm_exact {table : ConversionTable ℚ} {unit other : UnitVector}
    (targets : TargetList) (reordered : unit.powers.Perm other.powers) :
    matchTargets table unit targets = matchTargets table other targets := by
  have product : ∀ target, productOf table target unit.powers =
      productOf table target other.powers := by
    intro target
    rw [productOf_eq_prod, productOf_eq_prod, (reordered.map _).prod_eq]
  have each : ∀ target, matchTarget table unit target = matchTarget table other target := by
    intro target
    ext factor
    rw [matchTarget_eq_some_iff_fits, matchTarget_eq_some_iff_fits, Fits.perm reordered, product]
  ext ⟨factor, i⟩
  simp only [matchTargets_eq_some_iff, each]

end UnitCheck
