import UnitCheck.Proofs.Number.Numeral
import UnitCheck.Proofs.Unit.Parsing

/-!
# Written units

Writing a vector and parsing it are inverse to each other. The vectors that texts stand for are the
`Expressible` ones, and each of them but the dimensionless one is parsed back from its own text. The
dimensionless unit is written `1`, which is no unit expression.

* `Derives.spelled` and `product_render` are the two directions: derived items can be written, and
  what is written derives its items.
* `render_parseUnit` puts them together.
-/

namespace UnitCheck

/-- Distinct names with exponents that are not zero and not the word without an opposite. -/
structure UnitVector.Expressible (v : UnitVector) : Prop where
  named : ∀ power ∈ v.powers, isUnitName power.unit = true
  distinct : v.units.Nodup
  nonzero : ∀ power ∈ v.powers, power.exponent ≠ 0
  opposite : ∀ power ∈ v.powers, power.exponent ≠ Int32.minValue

namespace UnitGrammar

open UnitExpression

/-- The items that have a text. -/
structure Spelled (item : String × Int) : Prop where
  named : isUnitName item.1 = true
  nonzero : item.2 ≠ 0
  bounded : item.2.natAbs ≤ maxExponent

theorem spelled_item_iff {power : UnitPower} :
    Spelled power.item ↔ isUnitName power.unit = true ∧ power.exponent ≠ 0 ∧
      power.exponent ≠ Int32.minValue := by
  have nonzero : power.exponent ≠ 0 ↔ power.exponent.toInt ≠ 0 :=
    not_congr Int32.toInt_inj.symm
  have opposite : power.exponent ≠ Int32.minValue ↔ power.exponent.toInt ≠ -2 ^ 31 := by
    rw [← Int32.toInt_minValue]
    exact not_congr Int32.toInt_inj.symm
  have lower := power.exponent.le_toInt
  have upper := power.exponent.toInt_lt
  have top : maxExponent = 2147483647 := rfl
  rw [nonzero, opposite]
  constructor
  · rintro ⟨named, apart, bounded⟩
    have bounded : power.exponent.toInt.natAbs ≤ maxExponent := bounded
    exact ⟨named, apart, by omega⟩
  · rintro ⟨named, apart, inside⟩
    have bounded : power.exponent.toInt.natAbs ≤ maxExponent := by omega
    exact ⟨named, apart, bounded⟩

theorem expressible_iff {v : UnitVector} :
    v.Expressible ↔ (∀ item ∈ v.items, Spelled item) ∧ v.units.Nodup := by
  unfold UnitVector.items
  rw [List.forall_mem_map]
  simp only [spelled_item_iff]
  constructor
  · intro expressible
    exact ⟨fun power member => ⟨expressible.named power member, expressible.nonzero power member,
      expressible.opposite power member⟩, expressible.distinct⟩
  · rintro ⟨spelled, distinct⟩
    exact ⟨fun power member => (spelled power member).1, distinct,
      fun power member => (spelled power member).2.1,
      fun power member => (spelled power member).2.2⟩

/-! ## Derived items can be written -/

theorem Digits.cast_ne_zero {text : List Char} {n : Nat} (digits : Digits text n) :
    (n : Int) ≠ 0 :=
  Int.natCast_ne_zero.mpr (Nat.ne_of_gt digits.positive)

theorem Exponent.ne_zero {text : List Char} {n : Int} (exponent : Exponent text n) : n ≠ 0 := by
  cases exponent with
  | positive digits => exact digits.cast_ne_zero
  | negative digits => exact Int.neg_ne_zero.mpr digits.cast_ne_zero
  | parenthesized digits => exact Int.neg_ne_zero.mpr digits.cast_ne_zero

theorem Item.spelled {text : List Char} {item : String × Int} (derived : Item text item) :
    Spelled item := by
  have bounded := derived.bounded
  cases derived with
  | bare valid => exact ⟨by rwa [isUnitName_ofList], Int.one_ne_zero, bounded⟩
  | raised valid _ _ exponent =>
      exact ⟨by rwa [isUnitName_ofList], exponent.ne_zero, bounded⟩

theorem Spelled.inverted {item : String × Int} (spelled : Spelled item) :
    Spelled (item.1, -item.2) := by
  refine ⟨spelled.named, Int.neg_ne_zero.mpr spelled.nonzero, ?_⟩
  rw [Int.natAbs_neg]
  exact spelled.bounded

theorem Derives.spelled {text : List Char} {items : List (String × Int)}
    (derived : Derives text items) : ∀ item ∈ items, Spelled item := by
  cases derived with
  | blank => simp
  | product product => exact product.forall_items fun _ _ => Item.spelled
  | quotient product divisor =>
      have above := product.forall_items fun _ _ => Item.spelled
      have below := divisor.forall_items fun _ _ => Item.spelled
      intro item member
      rcases List.mem_append.mp member with member | member
      · exact above item member
      · obtain ⟨origin, originMember, rfl⟩ := List.mem_map.mp member
        exact (below origin originMember).inverted

/-! ## What is written derives its items -/

theorem digits_toDigits {n : Nat} (positive : 0 < n) (bounded : n ≤ maxExponent) :
    Digits (Nat.toDigits 10 n) n := by
  constructor
  · exact Nat.toDigits_ne_nil
  · intro c member
    exact Nat.isDigit_of_mem_toDigits (by decide) (by decide) member
  · exact Nat.ofDigitChars_ten_toDigits
  · exact positive
  · exact bounded

theorem exponent_toString {z : Int} (nonzero : z ≠ 0) (bounded : z.natAbs ≤ maxExponent) :
    Exponent (toString z).toList z := by
  have digits := digits_toDigits (Int.natAbs_pos.mpr nonzero) bounded
  rw [toList_toString_int]
  split
  · have value : -(z.natAbs : Int) = z := by omega
    have exponent := Exponent.negative digits
    rwa [value] at exponent
  · have value : (z.natAbs : Int) = z := by omega
    have exponent := Exponent.positive digits
    rwa [value] at exponent

theorem item_render {power : UnitPower} (spelled : Spelled power.item) :
    Item power.render.toList power.item := by
  obtain ⟨unit, exponent⟩ := power
  have named : isName unit.toList = true := spelled.named
  unfold UnitPower.render
  split
  · rename_i one
    obtain rfl : exponent = 1 := one
    have item : Item unit.toList (String.ofList unit.toList, 1) := .bare named
    rwa [String.ofList_toList] at item
  · have written := exponent_toString spelled.nonzero spelled.bounded
    have item : Item (unit.toList ++ [] ++ '^' :: ([] ++ (toString exponent.toInt).toList))
        (String.ofList unit.toList, exponent.toInt) :=
      .raised named Text.blank_nil Text.blank_nil written
    rw [String.ofList_toList, List.append_nil, List.nil_append] at item
    rw [String.toList_append, String.toList_append, List.append_assoc]
    exact item

theorem separated_render {powers : List UnitPower} (nonempty : powers ≠ [])
    (spelled : ∀ power ∈ powers, Spelled power.item) :
    Separated Item ([' '].intercalate (powers.map fun power => power.render.toList))
      (powers.map UnitPower.item) := by
  have space : Spaces [' '] := ⟨List.cons_ne_nil _ _, by simp⟩
  induction powers with
  | nil => exact absurd rfl nonempty
  | cons power rest ih =>
      obtain ⟨here, others⟩ := List.forall_mem_cons.mp spelled
      cases rest with
      | nil =>
          rw [List.map_singleton, List.intercalate_singleton]
          exact .single (item_render here)
      | cons next rest =>
          have tail := ih (List.cons_ne_nil _ _) others
          rw [List.map_cons, List.map_cons, List.intercalate_cons_cons]
          exact .cons (item_render here) space tail

theorem product_render {v : UnitVector} (some : v.isEmpty = false)
    (spelled : ∀ item ∈ v.items, Spelled item) : Product v.render.toList v.items := by
  have nonempty : v.powers ≠ [] := by simpa [UnitVector.isEmpty] using some
  have separated := separated_render nonempty (List.forall_mem_map.mp spelled)
  have product := Product.padded Text.blank_nil separated Text.blank_nil
  have text : v.render.toList =
      [' '].intercalate (v.powers.map fun power => power.render.toList) := by
    unfold UnitVector.render
    rw [some, if_neg Bool.false_ne_true, String.toList_intercalate, List.map_map]
    rfl
  rw [text, UnitVector.items]
  simpa using product

end UnitGrammar

open UnitExpression UnitGrammar

theorem UnitVector.isEmpty_eq_false_iff {v : UnitVector} : v.isEmpty = false ↔ v ≠ .empty := by
  obtain ⟨powers⟩ := v
  cases powers with
  | nil => simp [isEmpty, empty]
  | cons power rest => simp [isEmpty, empty]

theorem parseUnit_render_empty : parseUnit UnitVector.empty.render = .error (.invalidName "1") :=
  rfl

theorem expressible_of_parseUnit {text : String} {v : UnitVector} (read : parseUnit text = .ok v) :
    v.Expressible := by
  obtain ⟨derived, distinct⟩ := (parseUnit_eq_ok_iff text v).mp read
  exact expressible_iff.mpr ⟨derived.spelled, distinct⟩

theorem parseUnit_render {v : UnitVector} (expressible : v.Expressible) (some : v ≠ .empty) :
    parseUnit v.render = .ok v := by
  obtain ⟨spelled, distinct⟩ := expressible_iff.mp expressible
  rw [parseUnit_eq_ok_iff]
  exact ⟨.product (product_render (UnitVector.isEmpty_eq_false_iff.mpr some) spelled), distinct⟩

theorem toInt_neg_of_parseSide {text : List Char} {v : UnitVector} (read : parseSide text = .ok v)
    {power : UnitPower} (member : power ∈ v.powers) :
    (-power.exponent).toInt = -power.exponent.toInt := by
  have some : v.isEmpty = false := by
    rw [UnitVector.isEmpty_eq_false_iff]
    rintro rfl
    exact List.not_mem_nil member
  have bounded := (parseSide_eq_ok_iff.mp ⟨read, some⟩).1.bounded
  exact toInt_neg_of_natAbs_le (bounded power.item (List.mem_map_of_mem member))

/-- The vectors that texts stand for are the expressible ones, and those are parsed back from their
own texts, but for the dimensionless unit. Where parsing negates an exponent, the opposite is a word
again. -/
theorem render_parseUnit (v : UnitVector) :
    ((∃ text, parseUnit text = .ok v) ↔ v.Expressible) ∧
    (parseUnit v.render = .ok v ↔ v.Expressible ∧ v ≠ .empty) ∧
    UnitVector.empty.render = "1" ∧ parseUnit "1" = .error (.invalidName "1") ∧
    (∀ digits magnitude, readMagnitude? digits = some magnitude →
      (-magnitude).toInt = -magnitude.toInt) ∧
    ∀ side divisor, parseSide side = .ok divisor → ∀ power ∈ divisor.powers,
      (-power.exponent).toInt = -power.exponent.toInt := by
  refine ⟨⟨?_, ?_⟩, ⟨?_, ?_⟩, rfl, parseUnit_render_empty, ?_, ?_⟩
  · rintro ⟨text, read⟩
    exact expressible_of_parseUnit read
  · intro expressible
    by_cases none : v = .empty
    · exact ⟨"", none ▸ rfl⟩
    · exact ⟨v.render, parseUnit_render expressible none⟩
  · intro read
    refine ⟨expressible_of_parseUnit read, ?_⟩
    rintro rfl
    rw [parseUnit_render_empty] at read
    cases read
  · rintro ⟨expressible, some⟩
    exact parseUnit_render expressible some
  · intro digits magnitude read
    obtain ⟨n, written, rfl⟩ := readMagnitude?_eq_some_iff.mp read
    rw [written.toInt_neg, written.toInt]
  · intro side divisor read power member
    exact toInt_neg_of_parseSide read member

/-- Units at both ends of the range of exponents, with names outside ASCII. -/
def extremeUnit : UnitVector :=
  ⟨[⟨"Å", 2147483647⟩, ⟨"Ω", -2147483647⟩, ⟨"K", 1⟩]⟩

theorem render_parseUnit_extremeUnit :
    extremeUnit.Expressible ∧ extremeUnit.render = "Å^2147483647 Ω^-2147483647 K" ∧
      parseUnit "Å^2147483647 Ω^-2147483647 K" = .ok extremeUnit := by
  have expressible : extremeUnit.Expressible := by
    constructor <;> decide +kernel
  have text : extremeUnit.render = "Å^2147483647 Ω^-2147483647 K" := by decide +kernel
  obtain ⟨-, read, -⟩ := render_parseUnit extremeUnit
  exact ⟨expressible, text, text ▸ read.mpr ⟨expressible, by decide⟩⟩

end UnitCheck
