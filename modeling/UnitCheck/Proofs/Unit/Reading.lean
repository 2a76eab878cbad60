import UnitCheck.Proofs.Unit.Tokens

/-!
# Powers and items

Vectors hold their exponents in words of 32 bits, the grammar has integers. `Bounded` items are those
of vectors, also after negation, and all items of the grammar are bounded.

`readToken_eq_ok_iff` says that a token is read exactly when it is an item without white space.
-/

namespace UnitCheck

/-- A power as an item of the grammar. -/
def UnitPower.item (power : UnitPower) : String × Int :=
  (power.unit, power.exponent.toInt)

/-- The powers of a vector as items of the grammar. -/
def UnitVector.items (v : UnitVector) : List (String × Int) :=
  v.powers.map UnitPower.item

theorem UnitPower.item_injective : Function.Injective UnitPower.item := by
  rintro ⟨unit, exponent⟩ ⟨otherUnit, otherExponent⟩ same
  obtain ⟨sameUnit, sameExponent⟩ := Prod.mk.inj same
  have sameExponent : exponent = otherExponent := Int32.toInt_inj.mp sameExponent
  have sameUnit : unit = otherUnit := sameUnit
  rw [sameUnit, sameExponent]

namespace UnitGrammar

open UnitExpression

/-! ## Exponents -/

theorem readMagnitude?_eq_some_iff {text : List Char} {e : Int32} :
    readMagnitude? text = some e ↔ ∃ n, Digits text n ∧ e = Int32.ofNat n := by
  unfold readMagnitude?
  constructor
  · intro read
    split at read
    · cases read
    · rename_i shape
      obtain ⟨nonempty, digits⟩ : text ≠ [] ∧ ∀ c ∈ text, c.isDigit = true := by
        simpa [List.all_eq_true] using shape
      simp only at read
      split at read
      · cases read
      · rename_i range
        simp only [Bool.or_eq_true, decide_eq_true_eq, not_or, Nat.not_lt] at range
        exact ⟨_, ⟨nonempty, digits, rfl, Nat.pos_of_ne_zero range.1, range.2⟩,
          (Option.some.inj read).symm⟩
  · rintro ⟨n, ⟨nonempty, digits, rfl, positive, bounded⟩, rfl⟩
    have shape : (text.isEmpty || !text.all Char.isDigit) = false := by
      simpa [List.all_eq_true] using ⟨nonempty, digits⟩
    have range : (Nat.ofDigitChars 10 text 0 = 0 ||
        maxExponent < Nat.ofDigitChars 10 text 0 : Bool) = false := by
      simp only [Bool.or_eq_false_iff, decide_eq_false_iff_not, Nat.not_lt]
      exact ⟨Nat.ne_of_gt positive, bounded⟩
    rw [shape]
    simp only [range]
    rfl

/-- Magnitudes of exponents and their negations fit into a word. -/
theorem toInt_ofInt_of_natAbs_le {z : Int} (bounded : z.natAbs ≤ maxExponent) :
    (Int32.ofInt z).toInt = z := by
  have top : maxExponent = 2147483647 := rfl
  exact Int32.toInt_ofInt_of_le (by omega) (by omega)

theorem toInt_neg_of_natAbs_le {e : Int32} (bounded : e.toInt.natAbs ≤ maxExponent) :
    (-e).toInt = -e.toInt := by
  conv_lhs => rw [← Int32.ofInt_toInt e]
  rw [Int32.neg_ofInt]
  apply toInt_ofInt_of_natAbs_le
  rwa [Int.natAbs_neg]

theorem Digits.toInt {text : List Char} {n : Nat} (digits : Digits text n) :
    (Int32.ofNat n).toInt = n := by
  rw [← Int32.ofInt_eq_ofNat]
  exact toInt_ofInt_of_natAbs_le digits.bounded

theorem Digits.toInt_neg {text : List Char} {n : Nat} (digits : Digits text n) :
    (-Int32.ofNat n).toInt = -n := by
  rw [toInt_neg_of_natAbs_le (by rw [digits.toInt]; exact digits.bounded), digits.toInt]

theorem readExponent?_of_digits {text : List Char} {n : Nat} (digits : Digits text n) :
    readExponent? text = readMagnitude? text := by
  cases text with
  | nil => exact absurd rfl digits.nonempty
  | cons c text =>
      have digit := digits.digits c List.mem_cons_self
      unfold readExponent?
      split
      · rename_i start
        obtain ⟨rfl, -⟩ := List.cons.inj start
        exact absurd digit (by decide)
      · rename_i start
        obtain ⟨rfl, -⟩ := List.cons.inj start
        exact absurd digit (by decide)
      · rfl

theorem readExponent?_eq_some_iff {text : List Char} {e : Int32} :
    readExponent? text = some e ↔ Exponent text e.toInt := by
  constructor
  · intro read
    unfold readExponent? at read
    split at read
    · rename_i rest
      split at read
      · rename_i closed
        obtain ⟨magnitude, found, rfl⟩ := Option.map_eq_some_iff.mp read
        obtain ⟨n, digits, rfl⟩ := readMagnitude?_eq_some_iff.mp found
        rw [digits.toInt_neg, ← List.dropLast_append_getLast? ')' closed]
        exact .parenthesized digits
      · cases read
    · obtain ⟨magnitude, found, rfl⟩ := Option.map_eq_some_iff.mp read
      obtain ⟨n, digits, rfl⟩ := readMagnitude?_eq_some_iff.mp found
      rw [digits.toInt_neg]
      exact .negative digits
    · obtain ⟨n, digits, rfl⟩ := readMagnitude?_eq_some_iff.mp read
      rw [digits.toInt]
      exact .positive digits
  · intro exponent
    generalize value : e.toInt = z at exponent
    cases exponent with
    | @positive _ n digits =>
        rw [readExponent?_of_digits digits, readMagnitude?_eq_some_iff]
        refine ⟨n, digits, Int32.toInt_inj.mp ?_⟩
        rw [value, digits.toInt]
    | @negative text n digits =>
        have found := readMagnitude?_eq_some_iff.mpr ⟨n, digits, rfl⟩
        have same : e = -Int32.ofNat n := Int32.toInt_inj.mp (value.trans digits.toInt_neg.symm)
        change (readMagnitude? text).map (- ·) = some e
        rw [found, same]
        rfl
    | @parenthesized text n digits =>
        have found := readMagnitude?_eq_some_iff.mpr ⟨n, digits, rfl⟩
        have same : e = -Int32.ofNat n := Int32.toInt_inj.mp (value.trans digits.toInt_neg.symm)
        simp [readExponent?, found, same]

/-! ## Tokens -/

theorem readToken_eq_ok_iff {token : List Char} {power : UnitPower} :
    readToken token = .ok power ↔ Tight token power.item := by
  unfold readToken
  constructor
  · intro read
    by_cases member : '^' ∈ token
    · obtain ⟨name, exponent, rfl, absent⟩ := List.eq_append_cons_of_mem member
      rw [Text.cutAt?_first absent] at read
      simp only at read
      split at read
      · cases read
      · split at read
        · cases read
        · rename_i valid
          have valid : isName name = true := by simpa using valid
          split at read
          · rename_i value found
            cases read
            exact .raised valid (readExponent?_eq_some_iff.mp found)
          · cases read
    · rw [Text.cutAt?_of_not_mem member] at read
      simp only at read
      split at read
      · rename_i valid
        cases read
        exact .bare valid
      · cases read
  · intro tight
    have noCaret : ∀ name : List Char, isName name = true → '^' ∉ name :=
      fun name valid member => ((solid_of_isName valid).2 '^' member).2.1 rfl
    generalize same : power.item = item at tight
    cases tight with
    | bare valid =>
        have written : power = ⟨String.ofList token, 1⟩ := UnitPower.item_injective same
        rw [Text.cutAt?_of_not_mem (noCaret _ valid)]
        simp only
        rw [if_pos valid, written]
    | @raised name exponent n valid exponentValid =>
        obtain ⟨unit, value⟩ := power
        obtain ⟨rfl, rfl⟩ := Prod.mk.inj same
        have found := readExponent?_eq_some_iff.mpr exponentValid
        have parts : (name.isEmpty || exponent.isEmpty) = false := by
          simpa using ⟨(solid_of_isName valid).1, exponentValid.solid.1⟩
        rw [Text.cutAt?_first (noCaret _ valid)]
        simp [parts, valid, found]

/-! ## Bounds -/

/-- Items whose exponents and their negations are exponents of vectors. -/
def Bounded (items : List (String × Int)) : Prop :=
  ∀ item ∈ items, item.2.natAbs ≤ maxExponent

theorem Exponent.bounded {text : List Char} {n : Int} (exponent : Exponent text n) :
    n.natAbs ≤ maxExponent := by
  cases exponent with
  | positive digits => exact digits.bounded
  | negative digits =>
      rw [Int.natAbs_neg]
      exact digits.bounded
  | parenthesized digits =>
      rw [Int.natAbs_neg]
      exact digits.bounded

theorem Item.bounded {text : List Char} {item : String × Int} (derived : Item text item) :
    item.2.natAbs ≤ maxExponent := by
  cases derived with
  | bare => exact Nat.le_of_ble_eq_true rfl
  | raised _ _ _ exponent => exact exponent.bounded

theorem Product.bounded {text : List Char} {items : List (String × Int)}
    (product : Product text items) : Bounded items :=
  product.forall_items fun _ _ => Item.bounded

theorem Divisor.bounded {text : List Char} {items : List (String × Int)}
    (divisor : Divisor text items) : Bounded items :=
  divisor.forall_items fun _ _ => Item.bounded

theorem exists_vector {items : List (String × Int)} (bounded : Bounded items) :
    ∃ v : UnitVector, v.items = items := by
  refine ⟨⟨items.map fun item => ⟨item.1, Int32.ofInt item.2⟩⟩, ?_⟩
  have read : ∀ item ∈ items, (item.1, (Int32.ofInt item.2).toInt) = item := by
    intro item member
    rw [toInt_ofInt_of_natAbs_le (bounded item member)]
  unfold UnitVector.items
  rw [List.map_map]
  exact (List.map_congr_left read).trans (List.map_id' items)

theorem items_inverse {v : UnitVector} (bounded : Bounded v.items) :
    v.inverse.items = inverted v.items := by
  unfold UnitVector.items UnitVector.inverse inverted
  rw [List.map_map, List.map_map]
  refine List.map_congr_left fun power member => ?_
  have negated : (-power.exponent).toInt = -power.exponent.toInt :=
    toInt_neg_of_natAbs_le (bounded power.item (List.mem_map_of_mem member))
  exact congrArg (Prod.mk power.unit) negated

end UnitGrammar

end UnitCheck
