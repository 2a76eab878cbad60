import UnitCheck.Json.Value
import UnitCheck.Number.Decimal

/-!
# JSON numbers

A numeral is read in two steps: `Numeral.lex?` finds its parts, and `Numeral.value?` computes the
number. Integer literals in the range of 64 bit words, signed or unsigned, are exact. Other numbers
are approximated: the digits that fit an unsigned 64 bit word are gathered into a significand, which
is scaled by a power of ten in binary64 arithmetic. The result may differ from the nearest number in
the last places, and a numeral beyond the range of binary64 has no value.
-/

namespace UnitCheck

/-- The parts of a JSON number. -/
structure Numeral where
  negative : Bool
  whole : List Char
  fraction : Option (List Char)
  /-- The sign, true for minus, and the digits of the exponent. -/
  exponent : Option (Bool × List Char)
deriving DecidableEq, Repr

namespace Numeral

/-- The digits at the start of a text, of which there is at least one, and the text after them. -/
def lexDigits? (text : List Char) : Option (List Char × List Char) :=
  if (Decimal.splitDigits text).1.isEmpty then none else some (Decimal.splitDigits text)

/-- The digits before the point and the text after them. Nothing follows a leading zero. -/
def lexWhole? : List Char → Option (List Char × List Char)
  | '0' :: rest => some (['0'], rest)
  | text => lexDigits? text

/-- The digits after the point, if there is a point, and the text after them. -/
def lexFraction? : List Char → Option (Option (List Char) × List Char)
  | '.' :: text => (lexDigits? text).map fun (digits, rest) => (some digits, rest)
  | text => some (none, text)

/-- The exponent, if its mark is there, and the text after it. -/
def lexExponent? : List Char → Option (Option (Bool × List Char) × List Char)
  | [] => some (none, [])
  | mark :: text =>
      if mark = 'e' || mark = 'E' then
        let (negative, unsigned) := Decimal.splitSign text
        (lexDigits? unsigned).map fun (digits, rest) => (some (negative, digits), rest)
      else some (none, mark :: text)

/-- The minus sign at the start of a numeral and the text after it. -/
def lexSign : List Char → Bool × List Char
  | '-' :: rest => (true, rest)
  | text => (false, text)

/-- The numeral at the start of a text and the text after it. -/
def lex? (text : List Char) : Option (Numeral × List Char) := do
  let (negative, text) := lexSign text
  let (whole, text) ← lexWhole? text
  let (fraction, text) ← lexFraction? text
  let (exponent, text) ← lexExponent? text
  return (⟨negative, whole, fraction, exponent⟩, text)

/-- The digits gathered so far, and the number of digits that found no place. -/
structure Significand where
  value : Nat
  dropped : Nat
deriving Repr

/-- The significand with one more digit. Once a digit would leave the range of a word, it and all
later ones are dropped. -/
def Significand.push (s : Significand) (digit : Char) : Significand :=
  let larger := s.value * 10 + (digit.toNat - '0'.toNat)
  if s.dropped = 0 && larger < UInt64.size then { s with value := larger }
  else { s with dropped := s.dropped + 1 }

/-- The significand of the digits before the point. -/
def wholeSignificand (n : Numeral) : Significand :=
  n.whole.foldl Significand.push ⟨0, 0⟩

/-- The digits before and after the point as a number times a power of ten. Each digit dropped
before the point counts as a zero, and the gathering starts anew after the point. -/
def scaledDigits (n : Numeral) : Nat × Int :=
  let whole := n.wholeSignificand
  match n.fraction with
  | none => (whole.value, whole.dropped)
  | some digits =>
      let all := digits.foldl Significand.push ⟨whole.value, 0⟩
      (all.value, (whole.dropped : Int) - (digits.length - all.dropped : Nat))

/-- The limit of the exponents that are computed with. -/
def maxPower : Nat := 2147483647

/-- A number times a power of ten, the power being at most 308 in magnitude or applied in steps. -/
def scale (x : Float) (power : Int) : Option Float :=
  if power.natAbs ≤ 308 then
    let ten := Float.ofScientific 1 false power.natAbs
    if 0 ≤ power then
      let scaled := x * ten
      if scaled.isInf then none else some scaled
    else some (x / ten)
  else if x == 0.0 then some x
  else if 0 ≤ power then none
  else scale (x / Float.ofScientific 1 false 308) (power + 308)
termination_by power.natAbs
decreasing_by omega

/-- The magnitude of a numeral that is no integer, if it is in range. -/
def magnitude? (n : Numeral) : Option Float :=
  let (digits, power) := n.scaledDigits
  let significand := (UInt64.ofNat digits).toFloat
  match n.exponent with
  | none => scale significand power
  | some (negative, exponent) =>
      let exponent := Nat.ofDigitChars 10 exponent 0
      if maxPower < exponent then
        if digits ≠ 0 && !negative then none else some 0.0
      else
        let power := if negative then power - exponent else power + exponent
        scale significand (max (-(maxPower : Int) - 1) (min maxPower power))

/-- The number that a numeral stands for, if it is in range. Minus zero is no integer. -/
def value? (n : Numeral) : Option Atom :=
  let whole := n.wholeSignificand
  if n.fraction.isNone && n.exponent.isNone && whole.dropped = 0 &&
      (!n.negative || (whole.value ≠ 0 && whole.value ≤ Int64.minValue.toInt.natAbs)) then
    some (.int (if n.negative then -whole.value else whole.value))
  else n.magnitude?.map fun x => .float (if n.negative then -x else x)

theorem lexDigits?_length {text digits rest : List Char}
    (found : lexDigits? text = some (digits, rest)) : rest.length < text.length := by
  unfold lexDigits? at found
  split at found
  · cases found
  · rename_i nonempty
    have total := congrArg List.length
      (List.takeWhile_append_dropWhile (p := Char.isDigit) (l := text))
    have some_digit : 0 < (text.takeWhile Char.isDigit).length := by
      simpa [List.length_pos_iff, Decimal.splitDigits] using nonempty
    obtain ⟨_, rfl⟩ := Prod.mk.inj (Option.some.inj found)
    rw [List.length_append] at total
    omega

theorem lexWhole?_length {text digits rest : List Char}
    (found : lexWhole? text = some (digits, rest)) : rest.length < text.length := by
  unfold lexWhole? at found
  split at found
  · obtain ⟨_, rfl⟩ := Prod.mk.inj (Option.some.inj found)
    simp
  · exact lexDigits?_length found

theorem lexFraction?_length {text rest : List Char} {fraction : Option (List Char)}
    (found : lexFraction? text = some (fraction, rest)) : rest.length ≤ text.length := by
  unfold lexFraction? at found
  split at found
  · obtain ⟨⟨digits, after⟩, partsFound, same⟩ := Option.map_eq_some_iff.1 found
    obtain ⟨_, rfl⟩ := Prod.mk.inj same
    have shorter := lexDigits?_length partsFound
    simp only [List.length_cons]
    omega
  · obtain ⟨_, rfl⟩ := Prod.mk.inj (Option.some.inj found)
    exact Nat.le_refl _

theorem splitSign_length (text : List Char) : (Decimal.splitSign text).2.length ≤ text.length := by
  unfold Decimal.splitSign
  split <;> simp

theorem lexExponent?_length {text rest : List Char} {exponent : Option (Bool × List Char)}
    (found : lexExponent? text = some (exponent, rest)) : rest.length ≤ text.length := by
  unfold lexExponent? at found
  split at found
  · obtain ⟨_, rfl⟩ := Prod.mk.inj (Option.some.inj found)
    exact Nat.le_refl _
  · rename_i mark text
    split at found
    · obtain ⟨⟨digits, after⟩, partsFound, same⟩ := Option.map_eq_some_iff.1 found
      obtain ⟨_, rfl⟩ := Prod.mk.inj same
      have unsigned := splitSign_length text
      have shorter := Nat.lt_of_lt_of_le (lexDigits?_length partsFound) unsigned
      simp only [List.length_cons]
      omega
    · obtain ⟨_, rfl⟩ := Prod.mk.inj (Option.some.inj found)
      exact Nat.le_refl _

theorem lexSign_length (text : List Char) : (lexSign text).2.length ≤ text.length := by
  unfold lexSign
  split <;> simp

/-- A numeral takes at least one character. -/
theorem lex?_length {text rest : List Char} {n : Numeral} (found : lex? text = some (n, rest)) :
    rest.length < text.length := by
  simp only [lex?, Option.bind_eq_bind, Option.bind_eq_some_iff, Option.pure_def,
    Option.some.injEq, Prod.mk.injEq, Prod.exists] at found
  obtain ⟨whole, afterWhole, wholeFound, fraction, afterFraction, fractionFound,
    exponent, afterExponent, exponentFound, _, rfl⟩ := found
  have := lexSign_length text
  have := lexWhole?_length wholeFound
  have := lexFraction?_length fractionFound
  have := lexExponent?_length exponentFound
  omega

end Numeral

end UnitCheck
