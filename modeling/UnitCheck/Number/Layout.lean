import UnitCheck.Number.Shortest

/-!
# The text of a binary64 number

Both layouts write the shortest decimal that reads back. Sentences show it in positional notation
whatever its size; JSON switches to an exponent for very large and very small numbers and always
marks a number as not an integer.
-/

namespace UnitCheck

/-- Text of zeros. -/
def zeros (count : Nat) : String := String.ofList (List.replicate count '0')

/-- Whether a number carries a minus sign. -/
def isNegative (x : Float) : Bool := x.toBits >>> 63 = 1

/-- The minus sign of a number, if it has one. -/
def signText (x : Float) : String := if isNegative x then "-" else ""

/-- Digits with the point so many places from their start, which is more than none and fewer than
all. -/
def pointInside (digits : String) (places : Nat) : String :=
  String.ofList (digits.toList.take places) ++ "." ++ String.ofList (digits.toList.drop places)

/-- The decimal `n * 10 ^ k` in positional notation, without a point if it is an integer. -/
def positional (n : Nat) (k : Int) : String :=
  let digits := toString n
  let places := digits.length + k
  if 0 ≤ k then digits ++ zeros k.toNat
  else if 0 < places then pointInside digits places.toNat
  else "0." ++ zeros (-places).toNat ++ digits

/-- The text of a number within a sentence. Of two equally near shortest decimals it shows the one
further from zero. -/
def factorText (x : Float) : String :=
  if x.isNaN then "NaN"
  else if x.isInf then signText x ++ "inf"
  else if x == 0.0 then signText x ++ "0"
  else
    let (n, k) := Shortest.ofBits x.toBits.toNat .up
    signText x ++ positional n k

/-- The decimal `n * 10 ^ k` with one digit before the point and a power of ten. -/
def scientific (n : Nat) (k : Int) : String :=
  let digits := toString n
  let power := "e" ++ toString (digits.length + k - 1)
  if digits.length = 1 then digits ++ power else pointInside digits 1 ++ power

/-- The text of a finite number in JSON. Magnitudes from `10 ^ -5` up to `10 ^ 16` are
positional. -/
def jsonNumberText (x : Float) : String :=
  if x == 0.0 then signText x ++ "0.0"
  else
    let (n, k) := Shortest.ofBits x.toBits.toNat .even
    let places := (toString n).length + k
    signText x ++
      if places ≤ -5 || 16 < places then scientific n k
      else if 0 ≤ k then positional n k ++ ".0"
      else positional n k

end UnitCheck
