import UnitCheck.Rules.Book
import UnitCheck.Unit.Targets

/-!
# Matching a unit against targets

A unit matches a target when both have the same number of base units and each base unit of the unit
finds a partner in the target: the target's unit of the same name, or else the first unit of the
target that is in the same dimension class. Partners must have the same exponent. The conversion
factor is the product of the scale ratios raised to the exponents, in the order of the unit.

* `matchTarget` is the factor that takes a value in the unit to a value in one target.
* `matchTargets` is the first target of a list that matches, with its factor.
-/

namespace UnitCheck

variable {α : Type} [Magnitude α]

/-- The scale ratio to the first unit of the target in the class of `unit`, and the exponent of that
unit. -/
def convert? (table : ConversionTable α) (target : UnitVector) (unit : String) :
    Option (α × Int32) :=
  match table[unit]? with
  | none => none
  | some entry =>
      target.powers.findSome? fun power =>
        match table[power.unit]? with
        | none => none
        | some candidate =>
            if candidate.dimension = entry.dimension then
              some (entry.scale / candidate.scale, power.exponent)
            else none

/-- The scale ratio to the partner of `unit` in the target, and the exponent of the partner. -/
def partner? (table : ConversionTable α) (target : UnitVector) (unit : String) :
    Option (α × Int32) :=
  match target.get? unit with
  | some exponent => some (1, exponent)
  | none => convert? table target unit

/-- The factor so far multiplied with the contribution of one more power of the unit. -/
def addFactor (table : ConversionTable α) (target : UnitVector) (factor : α) (power : UnitPower) :
    Option α :=
  match partner? table target power.unit with
  | none => none
  | some (ratio, exponent) =>
      if power.exponent = exponent then some (factor * Magnitude.power ratio exponent) else none

/-- The factor from a unit to a target, if they match and it can be reported. -/
def matchTarget (table : ConversionTable α) (unit target : UnitVector) : Option α :=
  if unit.size = target.size then
    (unit.powers.foldlM (addFactor table target) 1).filter Magnitude.isFactor
  else none

/-- The factor and number of the first target that matches, where the first of the list has the
number `first`. -/
def matchFrom (table : ConversionTable α) (unit : UnitVector) :
    Nat → TargetList → Option (α × Nat)
  | _, [] => none
  | first, target :: rest =>
      match matchTarget table unit target with
      | some factor => some (factor, first)
      | none => matchFrom table unit (first + 1) rest

/-- The factor to the first target that matches, and the number of that target. -/
def matchTargets (table : ConversionTable α) (unit : UnitVector) (targets : TargetList) :
    Option (α × Nat) :=
  matchFrom table unit 0 targets

end UnitCheck
