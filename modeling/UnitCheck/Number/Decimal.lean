/-!
# Decimal numerals

A numeral is an optional sign, digits with at most one point among them, and an optional power of
ten: `12`, `.5`, `-6.24150947e+18`. Reading keeps the exact value; `Decimal.toFloat` rounds it to
the nearest binary64 number, ties to even.
-/

namespace UnitCheck

/-- The number `± coefficient * 10 ^ exponent`. -/
structure Decimal where
  negative : Bool
  coefficient : Nat
  exponent : Int
deriving DecidableEq, Repr

namespace Decimal

/-- The number ten to the power `exponent`. -/
def powerOfTen (exponent : Int) : Decimal := ⟨false, 1, exponent⟩

/-- The sign in front of a numeral, true for minus, and the text after it. -/
def splitSign : List Char → Bool × List Char
  | '-' :: rest => (true, rest)
  | '+' :: rest => (false, rest)
  | text => (false, text)

/-- The leading digits of a text and what follows them. -/
def splitDigits (text : List Char) : List Char × List Char :=
  (text.takeWhile Char.isDigit, text.dropWhile Char.isDigit)

/-- The digits after a point at the start of a text and what follows them. -/
def splitFraction : List Char → List Char × List Char
  | '.' :: rest => splitDigits rest
  | text => ([], text)

/-- The power of ten written at the end of a numeral; nothing stands for zero. -/
def readExponent? : List Char → Option Int
  | [] => some 0
  | mark :: text =>
      if mark = 'e' || mark = 'E' then
        let (negative, digits) := splitSign text
        if digits.isEmpty || !digits.all Char.isDigit then none
        else
          let value : Int := Nat.ofDigitChars 10 digits 0
          some (if negative then -value else value)
      else none

/-- The exact value of a numeral. At least one digit stands before or after the point. -/
def read? (text : List Char) : Option Decimal :=
  let (negative, unsigned) := splitSign text
  let (whole, rest) := splitDigits unsigned
  let (fraction, rest) := splitFraction rest
  if whole.isEmpty && fraction.isEmpty then none
  else (readExponent? rest).map fun exponent =>
    ⟨negative, Nat.ofDigitChars 10 (whole ++ fraction) 0, exponent - fraction.length⟩

/-- The number of decimal digits of a natural number. -/
def digitCount (n : Nat) : Nat := (Nat.toDigits 10 n).length

/-- The binary64 number nearest to the magnitude of a decimal. A magnitude of `10 ^ 310` or more is
infinite and one below `10 ^ -330` is zero, whatever its digits are. -/
def magnitudeToFloat (d : Decimal) : Float :=
  let order := d.exponent + digitCount d.coefficient
  if d.coefficient = 0 || order < -330 then 0.0
  else if 310 < order then 1.0 / 0.0
  else if d.exponent < 0 then Float.ofScientific d.coefficient true d.exponent.natAbs
  else Float.ofScientific d.coefficient false d.exponent.natAbs

/-- The binary64 number nearest to a decimal. -/
def toFloat (d : Decimal) : Float :=
  if d.negative then -d.magnitudeToFloat else d.magnitudeToFloat

/-- Whether the nearest binary64 number is finite and not zero. -/
def isRegular (d : Decimal) : Bool :=
  d.toFloat.isFinite && d.toFloat != 0.0

end Decimal

end UnitCheck
