/-!
# Shortest decimals

The decimal with the fewest digits among those that round to a given binary64 number, and among
several the one nearest to it.

A number `m * 2 ^ q` is the rounding of exactly the reals between the midpoints to its two
neighbours, the midpoints included when `m` is even. The grids of the multiples of `10 ^ k` are
tried from coarse to fine. If a grid has a point between the midpoints, one of the two grid points
next to the number is one, so two tests a grid suffice; all of them are in natural numbers.
-/

namespace UnitCheck

/-- What to do when two shortest decimals are equally near. -/
inductive Tie where
  /-- Take the larger one. -/
  | up
  /-- Take the one whose last digit is even. -/
  | even
deriving DecidableEq, Repr

/-- A positive number `value / unit` with the ends of the interval that rounds to it, over the same
denominator. -/
structure RoundingInterval where
  low : Nat
  value : Nat
  high : Nat
  unit : Nat
  /-- Whether the ends belong to the interval. -/
  closed : Bool
deriving Repr

namespace RoundingInterval

/-- The interval of the number `m * 2 ^ q`. The lower neighbour is only half as far away when `m` is
the least significand of its power of two. -/
def ofBinary (m : Nat) (q : Int) (leastSignificand : Bool) : RoundingInterval :=
  let factor := if 2 ≤ q then Nat.pow 2 (q - 2).toNat else 1
  { low := (4 * m - if leastSignificand then 1 else 2) * factor
    value := 4 * m * factor
    high := (4 * m + 2) * factor
    unit := if 2 ≤ q then 1 else Nat.pow 2 (2 - q).toNat
    closed := m % 2 = 0 }

/-- The same interval measured in multiples of `10 ^ k`. -/
def onGrid (i : RoundingInterval) (k : Int) : RoundingInterval :=
  if 0 ≤ k then { i with unit := i.unit * Nat.pow 10 k.toNat }
  else
    let factor := Nat.pow 10 (-k).toNat
    { i with low := i.low * factor, value := i.value * factor, high := i.high * factor }

/-- Whether a multiple of the grid lies in the interval. -/
def holds (i : RoundingInterval) (n : Nat) : Bool :=
  let scaled := n * i.unit
  if i.closed then i.low ≤ scaled && scaled ≤ i.high else i.low < scaled && scaled < i.high

/-- The multiple in the interval that is nearest to the number. -/
def nearest? (i : RoundingInterval) (tie : Tie) : Option Nat :=
  let below := i.value / i.unit
  let above := below + 1
  match i.holds below, i.holds above with
  | false, false => none
  | true, false => some below
  | false, true => some above
  | true, true =>
      let down := i.value - below * i.unit
      let up := above * i.unit - i.value
      if down < up then some below
      else if up < down then some above
      else if tie = .even && below % 2 = 0 then some below
      else some above

/-- The first hit on the grids `10 ^ k`, `10 ^ (k - 1)`, …, together with its grid. -/
def search (i : RoundingInterval) (tie : Tie) : Nat → Int → Option (Nat × Int)
  | 0, _ => none
  | tries + 1, k =>
      match (i.onGrid k).nearest? tie with
      | some n => some (n, k)
      | none => i.search tie tries (k - 1)

end RoundingInterval

namespace Shortest

/-- The number of grids that are tried: from `10 ^ 0` they reach past the smallest binary64
number. -/
def gridCount : Nat := 400

/-- The shortest decimal `n * 10 ^ k` for the magnitude of a finite number other than zero, given by
its bits. -/
def ofBits (bits : Nat) (tie : Tie) : Nat × Int :=
  let fraction : Nat := bits % Nat.pow 2 52
  let biased : Nat := bits / Nat.pow 2 52 % Nat.pow 2 11
  let interval :=
    if biased = 0 then RoundingInterval.ofBinary fraction (-1074) false
    else .ofBinary (fraction + Nat.pow 2 52) (biased - 1075) (fraction = 0 && 1 < biased)
  let coarsest := (Nat.toDigits 10 (interval.value / interval.unit)).length
  (interval.search tie gridCount coarsest).getD (0, 0)

end Shortest

end UnitCheck
