import UnitCheck.Json.Record
import UnitCheck.Part

/-!
# The JSON form of part settings

Each setting that is left out has its default.
-/

namespace UnitCheck.PartSettings

/-- The JSON form of part settings. -/
def toJson (part : PartSettings) : Json :=
  .object [("rule_id", .int part.ruleId.toNat),
    ("additional_rules", .string part.additionalRules), ("targets", .string part.targets)]

/-- The part settings that a document describes. -/
def ofDocument? (document : Document) : Option PartSettings := do
  match ← document.slots? ["rule_id", "additional_rules", "targets"] with
  | [ruleId, additionalRules, targets] =>
      return {
        ruleId := ← ruleId.withDefault? 0 Document.uint32?
        additionalRules := ← additionalRules.withDefault? "" Document.string?
        targets := ← targets.withDefault? "" Document.string? }
  | _ => none

/-- The part settings that a JSON text describes. -/
def read? (text : String) : Option PartSettings :=
  (Document.read? text).bind ofDocument?

end UnitCheck.PartSettings
