import UnitCheck.Form.Diagnostic
import UnitCheck.Form.Part
import UnitCheck.Form.Preset
import UnitCheck.Form.Unit
import UnitCheck.Service.Message
import UnitCheck.Service.Tool

/-!
# Tool calls

What the tools answer. Wrong arguments are a fault of the request; a problem of the unit texts is a
result that is marked as an error and carries the diagnostics.

* `CheckCall.run` selects the preset, sets the question rules if they differ from those in force,
  and compiles before it checks, so that a rule error can be placed in the preset or in the
  question.
* The other tools have no effect on the session.
-/

namespace UnitCheck

/-! ## Arguments -/

/-- The text of an argument that has to be given. -/
def textArgument (arguments : Json) (name : String) : Except Fault String :=
  match (arguments.field? name).bind Json.string? with
  | some text => .ok text
  | none => .error (.invalidParams ("Missing " ++ name ++ " argument"))

/-- The text of an argument; empty if it is not given as a text. -/
def textOrEmpty (arguments : Json) (name : String) : String :=
  ((arguments.field? name).bind Json.string?).getD ""

/-- The number of a preset; zero if none is given. -/
def ruleIdArgument (arguments : Json) : Except Fault UInt32 :=
  match arguments.field? "rule_id" with
  | none => .ok 0
  | some .null => .ok 0
  | some (.int value) =>
      if 0 ≤ value && value < UInt32.size then .ok (UInt32.ofNat value.toNat)
      else .error (.invalidParams "rule_id must be a non-negative integer")
  | some _ => .error (.invalidParams "rule_id must be a non-negative integer")

/-! ## Results -/

/-- The part of a result that is meant for people. -/
def contentField (text : String) : String × Json :=
  ("content", .array [.object [("type", .string "text"), ("text", .string text)]])

/-- A result with its text, its data and whether it reports a problem. -/
def toolResult (text : String) (data : Json) (isError : Bool) : Json :=
  .object [contentField text, ("data", data), ("isError", .bool isError)]

/-- The result that reports one problem. -/
def toolError (d : Diagnostic) : Json :=
  toolResult d.render d.toJson true

/-! ## Checking units -/

/-- The JSON form of a verdict. -/
def Verdict.toJson (verdict : Verdict) : Json :=
  .object [("convertible", .bool verdict.convertible), ("factor", .float verdict.factor),
    ("target", match verdict.target? with
      | some target => .int target
      | none => .null)]

/-- The verdict in words. -/
def Verdict.sentence (unit targets : String) (verdict : Verdict) : String :=
  match verdict.target?, verdict.convertible with
  | some target, true =>
      "'" ++ unit ++ "' converts to target " ++ toString target ++ " with factor " ++
        factorText verdict.factor
  | _, _ => "'" ++ unit ++ "' does not convert to any of '" ++ targets ++ "'"

/-- The arguments of a check. -/
structure CheckCall where
  unit : String
  targets : String
  ruleId : UInt32
  rules : String
deriving DecidableEq, Repr

namespace CheckCall

/-- The arguments of a check, or the first fault in them. -/
def read (arguments : Json) : Except Fault CheckCall := do
  let unit ← textArgument arguments "unit"
  let targets ← textArgument arguments "targets"
  let ruleId ← ruleIdArgument arguments
  return { unit, targets, ruleId, rules := textOrEmpty arguments "rules" }

/-- The session with the rules of a call in force. What is in force already is left alone, so that
books which are built are used again. -/
def prepare (session : Session) (preset : Preset) (rules : String) : Session :=
  let session := session.selectPreset preset.id preset.rules
  if session.questionRules = rules then session else session.setQuestionRules rules

/-- The setting that an error of the session's rules lies in. -/
def faultyField (session : Session) : String :=
  if session.presetBook.isSome then "rules" else "rule_id"

/-- The result of a check, and the session after it. -/
def run (call : CheckCall) (registry : Registry) (session : Session) : Session × Json :=
  match registry.get? call.ruleId with
  | none => (session, toolError ((Diagnostic.unknownRuleId call.ruleId).inField "rule_id"))
  | some preset =>
      match (prepare session preset call.rules).compile with
      | (session, .error cause) =>
          (session, toolError (cause.diagnostic.inField (faultyField session)))
      | (session, .ok _) =>
          match session.check call.unit call.targets with
          | (session, .ok verdict) =>
              (session, toolResult (verdict.sentence call.unit call.targets) verdict.toJson false)
          | (session, .error failure) => (session, toolError failure.diagnostic)

end CheckCall

/-! ## The other tools -/

/-- The result of parsing a unit. -/
def parseUnitResult (unit : String) : Json :=
  match parseUnit unit with
  | .ok vector => toolResult vector.render vector.toJson false
  | .error failure => toolError (failure.diagnostic.inField "unit")

/-- The result of parsing a target list. -/
def validateTargetsResult (targets : String) : Json :=
  match parseTargets targets with
  | .ok list =>
      toolResult (" = ".intercalate (list.map UnitVector.render))
        (.array (list.map UnitVector.toJson)) false
  | .error failure => toolError (failure.diagnostic.inField "targets")

/-- The part settings that the arguments describe. -/
def readPart (arguments : Json) : Except Fault PartSettings := do
  let ruleId ← ruleIdArgument arguments
  return {
    ruleId
    additionalRules := textOrEmpty arguments "rules"
    targets := textOrEmpty arguments "targets" }

/-- The result of validating part settings. -/
def validatePartResult (registry : Registry) (part : PartSettings) : Json :=
  let problems := part.validate registry
  let text :=
    if problems.isEmpty then "Unit settings are valid"
    else "\n".intercalate (problems.map Diagnostic.render)
  toolResult text (.array (problems.map Diagnostic.toJson)) (!problems.isEmpty)

/-- The result of listing the presets. -/
def listRulesResult (registry : Registry) : Json :=
  let line (preset : Preset) := toString preset.id.toNat ++ ": " ++ preset.name
  .object [contentField ("\n".intercalate (registry.presets.map line)),
    ("data", .array (registry.presets.map Preset.toJson))]

end UnitCheck
