import UnitCheck.Number.Decimal

/-!
# Magnitudes

Conversion scales and factors are computed with products, quotients and integer powers alone. The
arithmetic is a parameter: binary64 numbers are what a check reports, and exact numbers say what it
means.
-/

namespace UnitCheck

/-- The arithmetic of conversion scales. -/
class Magnitude (α : Type) extends One α, Mul α, Div α where
  /-- The magnitude that a written number stands for. -/
  ofDecimal : Decimal → α
  /-- Whether a magnitude can be reported as a conversion factor. -/
  isFactor : α → Bool

namespace Magnitude

variable {α : Type} [Magnitude α]

/-- The product of `acc` and `x` to the power `n`, by repeated squaring from the lowest bit of `n`
upwards. -/
def powerAux (x acc : α) (n : Nat) : α :=
  let acc := if n % 2 = 1 then acc * x else acc
  if 2 ≤ n then powerAux (x * x) acc (n / 2) else acc
termination_by n
decreasing_by omega

/-- An integer power. A negative one is the inverse of the positive one. -/
def power (x : α) (n : Int32) : α :=
  let positive := powerAux x 1 n.toInt.natAbs
  if n < 0 then 1 / positive else positive

end Magnitude

/-- Binary64 arithmetic; a factor is finite and not zero. -/
instance : Magnitude Float where
  one := 1.0
  mul := (· * ·)
  div := (· / ·)
  ofDecimal := Decimal.toFloat
  isFactor x := x.isFinite && x != 0.0

theorem Magnitude.isFactor_float_iff {x : Float} :
    isFactor x = true ↔ x.isFinite = true ∧ (x == 0.0) = false := by
  simp [isFactor, bne]

end UnitCheck
