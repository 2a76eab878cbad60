import UnitCheck.Json.Record
import UnitCheck.Unit.Vector

/-!
# The JSON form of unit vectors

A vector is the list of its powers. Reading takes any list of names and exponents: whether the names
are unit names, and whether they are distinct, is not asked.
-/

namespace UnitCheck

/-- The JSON form of a power. -/
def UnitPower.toJson (power : UnitPower) : Json :=
  .object [("unit", .string power.unit), ("exponent", .int power.exponent.toInt)]

/-- The power that a document describes. -/
def UnitPower.ofDocument? (document : Document) : Option UnitPower := do
  match ← document.slots? ["unit", "exponent"] with
  | [unit, exponent] =>
      return {
        unit := ← unit.required? Document.string?
        exponent := ← exponent.required? Document.int32? }
  | _ => none

/-- The JSON form of a vector. -/
def UnitVector.toJson (v : UnitVector) : Json :=
  .array (v.powers.map UnitPower.toJson)

/-- The vector that a document describes. -/
def UnitVector.ofDocument? (document : Document) : Option UnitVector :=
  (document.list? UnitPower.ofDocument?).map UnitVector.mk

/-- The vector that a JSON text describes. -/
def UnitVector.read? (text : String) : Option UnitVector :=
  (Document.read? text).bind ofDocument?

end UnitCheck
