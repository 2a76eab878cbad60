import UnitCheck.Json.Record
import UnitCheck.Preset.Registry

/-!
# The JSON form of presets

The presets of a site stand in a file that holds a JSON array. `Registry.load` adds them all or
none.
-/

namespace UnitCheck

namespace Preset

/-- The JSON form of a preset. -/
def toJson (preset : Preset) : Json :=
  .object [("id", .int preset.id.toNat), ("name", .string preset.name),
    ("rules", .string preset.rules)]

/-- The preset that a document describes. Its rules may be left out. -/
def ofDocument? (document : Document) : Option Preset := do
  match ← document.slots? ["id", "name", "rules"] with
  | [id, name, rules] =>
      return {
        id := ← id.required? Document.uint32?
        name := ← name.required? Document.string?
        rules := ← rules.withDefault? "" Document.string? }
  | _ => none

/-- The presets that a JSON text lists. -/
def readList? (text : String) : Option (List Preset) :=
  (Document.read? text).bind (·.list? ofDocument?)

end Preset

/-- Adds the presets that a JSON text lists, all or none. -/
def Registry.load (registry : Registry) (text : String) : Except PresetError Registry :=
  match Preset.readList? text with
  | some presets => registry.addAll presets
  | none => .error .malformed

end UnitCheck
