import UnitCheck.Number.Decimal

/-!
# The grammar of numerals

```text
numeral  ::= sign mantissa power
sign     ::= '' | '+' | '-'
mantissa ::= digit+ | digit* '.' digit*      with a digit before or after the point
power    ::= '' | ('e' | 'E') sign digit+
```

`Decimal.read?_eq_some_iff` says that these texts and no others are read. Words such as `inf` and
`nan` are no numerals.
-/

namespace UnitCheck

def AllDigits (text : List Char) : Prop :=
  ∀ c ∈ text, c.isDigit = true

/-- The text of an integer. -/
theorem toList_toString_int (z : Int) :
    (toString z).toList =
      if z < 0 then '-' :: Nat.toDigits 10 z.natAbs else Nat.toDigits 10 z.natAbs := by
  rw [Int.toString_eq_repr, Int.repr_eq_if]
  by_cases sign : 0 ≤ z
  · have magnitude : z.toNat = z.natAbs := by omega
    rw [if_pos sign, if_neg (Int.not_lt.mpr sign), magnitude, Nat.toList_repr]
  · have magnitude : (-z).toNat = z.natAbs := by omega
    rw [if_neg sign, if_pos (Int.not_le.mp sign), magnitude, String.toList_append, Nat.toList_repr]
    rfl

namespace DecimalText

/-- A sign, true for minus. -/
inductive Sign : List Char → Bool → Prop
  | absent : Sign [] false
  | plus : Sign ['+'] false
  | minus : Sign ['-'] true

/-- Digits around a point, the digits alone, and how many of them are right of the point. -/
inductive Mantissa : List Char → List Char → Nat → Prop
  | whole {digits : List Char} : digits ≠ [] → AllDigits digits → Mantissa digits digits 0
  | pointed {whole fraction : List Char} : whole ++ fraction ≠ [] → AllDigits whole →
      AllDigits fraction → Mantissa (whole ++ '.' :: fraction) (whole ++ fraction) fraction.length

/-- The number with the given sign and digits. -/
def signed (negative : Bool) (digits : List Char) : Int :=
  if negative then -(Nat.ofDigitChars 10 digits 0 : Int) else Nat.ofDigitChars 10 digits 0

/-- A power of ten. -/
inductive Power : List Char → Int → Prop
  | absent : Power [] 0
  | written {mark : Char} {sign digits : List Char} {negative : Bool} : mark = 'e' ∨ mark = 'E' →
      Sign sign negative → digits ≠ [] → AllDigits digits →
      Power (mark :: (sign ++ digits)) (signed negative digits)

end DecimalText

open DecimalText in
/-- The texts of numerals with their values. -/
inductive DecimalText : List Char → Decimal → Prop
  | intro {sign mantissa power digits : List Char} {negative : Bool} {places : Nat}
      {exponent : Int} : Sign sign negative → Mantissa mantissa digits places →
      Power power exponent →
      DecimalText (sign ++ (mantissa ++ power))
        ⟨negative, Nat.ofDigitChars 10 digits 0, exponent - places⟩

namespace DecimalText

theorem Power.not_digit {text : List Char} {exponent : Int} (derived : Power text exponent) :
    ∀ c ∈ text.head?, c.isDigit = false ∧ c ≠ '.' := by
  intro c first
  cases derived with
  | absent => cases first
  | written marked =>
      obtain rfl := Option.some.inj first
      rcases marked with rfl | rfl <;> decide

theorem Mantissa.unsigned {mantissa digits : List Char} {places : Nat}
    (derived : Mantissa mantissa digits places) (rest : List Char) :
    ∀ c ∈ (mantissa ++ rest).head?, c.isDigit = true ∨ c = '.' := by
  intro c first
  cases derived with
  | whole nonempty all =>
      obtain ⟨d, more, rfl⟩ := List.exists_cons_of_ne_nil nonempty
      obtain rfl := Option.some.inj first
      exact Or.inl (all d List.mem_cons_self)
  | @pointed whole fraction nonempty before after =>
      cases whole with
      | nil =>
          obtain rfl := Option.some.inj first
          exact Or.inr rfl
      | cons d more =>
          obtain rfl := Option.some.inj first
          exact Or.inl (before d List.mem_cons_self)

end DecimalText

namespace Decimal

open DecimalText

/-! ## Signs -/

theorem of_splitSign {text rest : List Char} {negative : Bool}
    (split : splitSign text = (negative, rest)) :
    ∃ sign, Sign sign negative ∧ text = sign ++ rest := by
  unfold splitSign at split
  split at split <;> obtain ⟨rfl, rfl⟩ := Prod.mk.inj split
  · exact ⟨_, .minus, rfl⟩
  · exact ⟨_, .plus, rfl⟩
  · exact ⟨_, .absent, rfl⟩

theorem splitSign_append {sign rest : List Char} {negative : Bool} (derived : Sign sign negative)
    (unsigned : ∀ c ∈ rest.head?, c ≠ '+' ∧ c ≠ '-') :
    splitSign (sign ++ rest) = (negative, rest) := by
  cases derived with
  | absent =>
      cases rest with
      | nil => rfl
      | cons c tail =>
          obtain ⟨notPlus, notMinus⟩ := unsigned c rfl
          unfold splitSign
          split
          · rename_i same
            exact absurd (List.cons.inj same).1 notMinus
          · rename_i same
            exact absurd (List.cons.inj same).1 notPlus
          · rfl
  | plus => rfl
  | minus => rfl

theorem not_sign_of_isDigit {c : Char} (digit : c.isDigit = true) : c ≠ '+' ∧ c ≠ '-' := by
  constructor <;> rintro rfl <;> cases digit

/-! ## Digits -/

theorem splitDigits_append {digits rest : List Char} (all : AllDigits digits)
    (stops : ∀ c ∈ rest.head?, c.isDigit = false) :
    splitDigits (digits ++ rest) = (digits, rest) := by
  unfold splitDigits
  rw [List.takeWhile_append_of_pos all, List.dropWhile_append_of_pos all]
  cases rest with
  | nil => simp
  | cons c tail =>
      have stop : c.isDigit = false := stops c rfl
      simp [stop]

theorem of_splitDigits {text digits rest : List Char} (split : splitDigits text = (digits, rest)) :
    AllDigits digits ∧ text = digits ++ rest := by
  obtain ⟨rfl, rfl⟩ := Prod.mk.inj split
  exact ⟨List.all_eq_true.mp List.all_takeWhile, List.takeWhile_append_dropWhile.symm⟩

/-! ## Powers -/

theorem readExponent?_eq_some_iff {text : List Char} {exponent : Int} :
    readExponent? text = some exponent ↔ Power text exponent := by
  constructor
  · intro found
    unfold readExponent? at found
    split at found
    · cases found
      exact .absent
    · rename_i mark rest
      split at found
      · rename_i marked
        cases signed : splitSign rest with
        | mk negative digits =>
        obtain ⟨sign, derived, rfl⟩ := of_splitSign signed
        simp only [signed] at found
        split at found
        · cases found
        · rename_i valid
          simp only [Bool.or_eq_true, Bool.not_eq_true', not_or, Bool.not_eq_true,
            Bool.not_eq_false, List.isEmpty_eq_false_iff, List.all_eq_true] at valid
          rw [← Option.some.inj found]
          simp only [Bool.or_eq_true, decide_eq_true_eq] at marked
          exact .written marked derived valid.1 valid.2
      · cases found
  · intro derived
    cases derived with
    | absent => rfl
    | @written mark sign digits negative marked signed nonempty all =>
        have unsigned : ∀ c ∈ digits.head?, c ≠ '+' ∧ c ≠ '-' := fun c first =>
          not_sign_of_isDigit (all c (List.mem_of_mem_head? first))
        have valid : (digits.isEmpty || !digits.all Char.isDigit) = false := by
          simp [nonempty, List.all_eq_true.mpr all]
        simp [readExponent?, marked, splitSign_append signed unsigned, valid, DecimalText.signed]

/-! ## Numerals -/

theorem splitMantissa_append {mantissa power digits : List Char} {places : Nat} {exponent : Int}
    (derived : Mantissa mantissa digits places) (scaled : Power power exponent) :
    ∃ whole fraction rest, splitDigits (mantissa ++ power) = (whole, rest) ∧
      splitFraction rest = (fraction, power) ∧ whole ++ fraction = digits ∧ digits ≠ [] ∧
      fraction.length = places := by
  cases derived with
  | whole nonempty all =>
      have stops : ∀ c ∈ power.head?, c.isDigit = false :=
        fun c first => (scaled.not_digit c first).1
      refine ⟨mantissa, [], power, splitDigits_append all stops, ?_, List.append_nil _, nonempty,
        rfl⟩
      unfold splitFraction
      split
      · exact absurd rfl (scaled.not_digit '.' rfl).2
      · rfl
  | @pointed whole fraction nonempty before after =>
      refine ⟨whole, fraction, '.' :: (fraction ++ power), ?_, ?_, rfl, nonempty, rfl⟩
      · rw [List.append_assoc, List.cons_append]
        refine splitDigits_append before ?_
        rintro c ⟨⟩
        decide
      · exact splitDigits_append after fun c first => (scaled.not_digit c first).1

theorem mantissa_of_split {unsigned whole rest fraction tail : List Char}
    (divided : splitDigits unsigned = (whole, rest))
    (pointed : splitFraction rest = (fraction, tail)) (nonempty : whole ++ fraction ≠ []) :
    ∃ mantissa, Mantissa mantissa (whole ++ fraction) fraction.length ∧
      unsigned = mantissa ++ tail := by
  obtain ⟨before, rfl⟩ := of_splitDigits divided
  unfold splitFraction at pointed
  split at pointed
  · obtain ⟨after, rfl⟩ := of_splitDigits pointed
    exact ⟨_, .pointed nonempty before after, by simp⟩
  · obtain ⟨rfl, rfl⟩ := Prod.mk.inj pointed
    rw [List.append_nil] at nonempty ⊢
    exact ⟨_, .whole nonempty before, rfl⟩

theorem read?_eq_some_iff {text : List Char} {d : Decimal} :
    read? text = some d ↔ DecimalText text d := by
  constructor
  · intro found
    cases signed : splitSign text with
    | mk negative unsigned =>
    cases divided : splitDigits unsigned with
    | mk whole rest =>
    cases pointed : splitFraction rest with
    | mk fraction tail =>
    simp only [read?, signed, divided, pointed] at found
    split at found
    · cases found
    · rename_i digits
      have nonempty : whole ++ fraction ≠ [] := by simpa using digits
      obtain ⟨sign, derived, rfl⟩ := of_splitSign signed
      obtain ⟨mantissa, spelled, rfl⟩ := mantissa_of_split divided pointed nonempty
      obtain ⟨exponent, power, rfl⟩ := Option.map_eq_some_iff.mp found
      exact .intro derived spelled (readExponent?_eq_some_iff.mp power)
  · rintro ⟨signed, mantissa, power⟩
    rename_i sign mantissaText powerText digits negative places exponent
    obtain ⟨whole, fraction, rest, splitWhole, splitPoint, joined, nonempty, length⟩ :=
      splitMantissa_append mantissa power
    have unsigned : ∀ c ∈ (mantissaText ++ powerText).head?, c ≠ '+' ∧ c ≠ '-' := by
      intro c first
      rcases mantissa.unsigned powerText c first with digit | rfl
      · exact not_sign_of_isDigit digit
      · decide
    have present : (whole.isEmpty && fraction.isEmpty) = false := by
      rw [← joined] at nonempty
      simpa using nonempty
    have scale : readExponent? powerText = some exponent := readExponent?_eq_some_iff.mpr power
    simp only [read?, splitSign_append signed unsigned, splitWhole, splitPoint, present, scale,
      joined, length, Option.map_some]
    rfl

end Decimal

end UnitCheck
