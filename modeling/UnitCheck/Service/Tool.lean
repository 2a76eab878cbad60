import UnitCheck.Json.Value

/-!
# The tools of the service

The tools that a client can call, with the descriptions that the service gives of them.
-/

namespace UnitCheck

/-- A tool of the service. -/
inductive Tool where
  | checkUnits
  | parseUnit
  | validateTargets
  | validatePart
  | listRules
deriving DecidableEq, Repr

/-- An argument of a tool as it is described to clients. -/
structure Parameter where
  name : String
  type : String
  description : String
  default : Option Int := none
  required : Bool := false

namespace Parameter

/-- The description of an argument. -/
def toJson (p : Parameter) : Json :=
  .object ([("type", .string p.type), ("description", .string p.description)] ++
    Json.optionalField "default" .int p.default)

end Parameter

namespace Tool

/-- The tools in the order in which they are listed. -/
def all : List Tool := [checkUnits, parseUnit, validateTargets, validatePart, listRules]

/-- The name that a tool is called by. -/
def name : Tool → String
  | checkUnits => "check_units"
  | parseUnit => "parse_unit"
  | validateTargets => "validate_targets"
  | validatePart => "validate_part"
  | listRules => "list_rules"

/-- The tool with the given name. -/
def ofName? (name : String) : Option Tool := all.find? fun tool => tool.name = name

/-- What a tool does. -/
def description : Tool → String
  | checkUnits =>
      "Check whether a unit converts to one of the target units. Returns the matched target " ++
        "and the factor that converts a value in the given unit to it."
  | parseUnit => "Parse a unit expression into base units with integer exponents."
  | validateTargets => "Parse an '='-separated list of target units."
  | validatePart =>
      "Validate the unit settings of a question part and list every problem found."
  | listRules => "List the available conversion rule presets."

/-- The arguments that a tool takes. -/
def parameters : Tool → List Parameter
  | checkUnits =>
      [{ name := "unit", type := "string", required := true
         description := "Unit expression, e.g. 'km/h'" },
       { name := "targets", type := "string", required := true
         description := "Accepted units separated by '=', e.g. 'J = N m'" },
       { name := "rule_id", type := "integer", default := some 0
         description := "Conversion rule preset (default: 0, no rules)" },
       { name := "rules", type := "string"
         description := "Additional conversion rules, e.g. 'm: k c; 2.54 cm = inch'" }]
  | parseUnit =>
      [{ name := "unit", type := "string", required := true
         description := "Unit expression, e.g. 'kg m^2/s^2'" }]
  | validateTargets =>
      [{ name := "targets", type := "string", required := true
         description := "Accepted units separated by '='" }]
  | validatePart =>
      [{ name := "rule_id", type := "integer"
         description := "Conversion rule preset (default: 0)" },
       { name := "rules", type := "string", description := "Additional conversion rules" },
       { name := "targets", type := "string"
         description := "Accepted units separated by '='" }]
  | listRules => []

/-- The names of the arguments that have to be given. -/
def requiredNames (tool : Tool) : List String :=
  (tool.parameters.filter (·.required)).map (·.name)

/-- The description of a tool. -/
def toJson (tool : Tool) : Json :=
  .object [("name", .string tool.name), ("description", .string tool.description),
    ("inputSchema", .object
      ([("type", .string "object"),
        ("properties", .object (tool.parameters.map fun p => (p.name, p.toJson)))] ++
      if tool.requiredNames.isEmpty then []
      else [("required", .array (tool.requiredNames.map .string))]))]

theorem ofName?_name (tool : Tool) : ofName? tool.name = some tool := by
  cases tool <;> decide

theorem name_of_ofName? {name : String} {tool : Tool} (found : ofName? name = some tool) :
    tool.name = name := by
  simpa using List.find?_some found

end Tool

end UnitCheck
