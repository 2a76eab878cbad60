import UnitCheck.Proofs.Part.Validation
import UnitCheck.Proofs.Service.History

/-!
# Checking agrees with validating

`check_units` compiles in the session that all calls share, `validate_part` compiles each text anew.
Still, after any lines and for the same arguments, a readable unit is checked without an error
exactly when the settings validate: `checkUnits_agrees_validatePart`. A unit that is not readable is
answered before the targets are looked at, so only the preset and the rules can be at fault.

`Server.Serves` disposes of the history. What is left is `CheckCall.answer` for one tool and
`PartSettings.validate` for the other, and neither can fail on the rules of a preset.
-/

namespace UnitCheck

/-- The result of a tool is marked as an error. -/
def IsError (result : Json) : Prop :=
  result.field? "isError" = some (.bool true)

@[simp] theorem isError_toolResult {text : String} {data : Json} {flag : Bool} :
    IsError (toolResult text data flag) ↔ flag = true := by
  simp [IsError, toolResult, contentField, Json.field?]

@[simp] theorem isError_toolError (d : Diagnostic) : IsError (toolError d) :=
  isError_toolResult.mpr rfl

@[simp] theorem field?_data_toolResult (text : String) (data : Json) (flag : Bool) :
    (toolResult text data flag).field? "data" = some data := by
  simp [toolResult, contentField, Json.field?]

/-! ## Results without a session -/

variable {registry : Registry}

namespace CheckCall

theorem isError_answer_iff (compiles : registry.Compiles) (call : CheckCall) :
    IsError (call.answer registry) ↔
      registry.get? call.ruleId = none ∨
        (RuleBook.ofRules (α := Float) call.rules).isOk = false ∨
        readable call.unit = true ∧ (parseTargets call.targets).isOk = false := by
  cases found : registry.get? call.ruleId with
  | none => simp [answer, found]
  | some preset =>
      rw [← RuleTexts.isOk_book_of_preset compiles found]
      cases built : RuleTexts.book ⟨preset.id, preset.rules, call.rules⟩ with
      | error cause => simp [answer, found, built]
      | ok book =>
          have failing : readable call.unit = true ∧ (parseTargets call.targets).isOk = false ↔
              (RuleTexts.check ⟨preset.id, preset.rules, call.rules⟩ call.unit
                call.targets).isOk = false := by
            rw [RuleTexts.isOk_check (isOk_iff.mpr ⟨book, built⟩)]
            simp
          rw [failing]
          cases checked : RuleTexts.check ⟨preset.id, preset.rules, call.rules⟩ call.unit
              call.targets with
          | error failure => simp [answer, found, built, checked]
          | ok verdict => simp [answer, found, built, checked]

/-- A call whose unit is not readable reports what the blank texts alone decide. -/
theorem data_answer_of_not_readable (compiles : registry.Compiles) (call : CheckCall)
    (known : registry.get? call.ruleId ≠ none)
    (rulesRead : (RuleBook.ofRules (α := Float) call.rules).isOk = true)
    (unread : readable call.unit = false) :
    (call.answer registry).field? "data" = some (Verdict.toJson
      (if Text.isBlankString call.unit && Text.isBlankString call.targets then .matched 1.0 0
        else .rejected)) := by
  obtain ⟨preset, found⟩ := Option.ne_none_iff_exists'.mp known
  rw [← RuleTexts.isOk_book_of_preset compiles found] at rulesRead
  obtain ⟨book, built⟩ := isOk_iff.mp rulesRead
  simp only [answer, found, built, RuleTexts.check_of_not_readable _ unread, field?_data_toolResult]

end CheckCall

theorem isError_validatePartResult_iff (compiles : registry.Compiles) (part : PartSettings) :
    IsError (validatePartResult registry part) ↔
      registry.get? part.ruleId = none ∨
        (RuleBook.ofRules (α := Float) part.additionalRules).isOk = false ∨
        (parseTargets part.targets).isOk = false := by
  have problems : IsError (validatePartResult registry part) ↔ ¬part.validate registry = [] := by
    simp [validatePartResult]
  rw [problems, PartSettings.validate_eq_nil_iff compiles, ← Option.ne_none_iff_exists',
    not_and_or, not_and_or, Bool.not_eq_true, Bool.not_eq_true, not_ne_iff, or_rotate,
    or_left_comm]

/-! ## Arguments -/

section Arguments

variable {arguments : Json} {unit targets : String} {id : UInt32}

theorem CheckCall.read_of_given
    (unitGiven : (arguments.field? "unit").bind Json.string? = some unit)
    (targetsGiven : (arguments.field? "targets").bind Json.string? = some targets)
    (idGiven : ruleIdArgument arguments = .ok id) :
    read arguments = .ok ⟨unit, targets, id, textOrEmpty arguments "rules"⟩ := by
  rw [read, textArgument, unitGiven, textArgument, targetsGiven, idGiven]
  rfl

theorem readPart_of_given
    (targetsGiven : (arguments.field? "targets").bind Json.string? = some targets)
    (idGiven : ruleIdArgument arguments = .ok id) :
    readPart arguments = .ok ⟨id, textOrEmpty arguments "rules", targets⟩ := by
  rw [readPart, idGiven, textOrEmpty, textOrEmpty, targetsGiven]
  rfl

end Arguments

/-! ## Requests -/

/-- The request calls a tool with the given arguments. -/
structure Request.Calls (request : Request) (tool : Tool) (arguments : Json) : Prop where
  method : request.method = "tools/call"
  tool : (request.params.bind (·.field? "name")).bind Json.string? = some tool.name
  arguments : request.params.bind (·.field? "arguments") = some arguments

namespace Server

variable {server : Server}

/-- The server after it has answered some lines. -/
def afterLines (server : Server) : List String → Server
  | [] => server
  | line :: rest => (server.handleLine line).1.afterLines rest

theorem Serves.afterLines (sound : registry.Sound) (serves : server.Serves registry)
    (lines : List String) : (server.afterLines lines).Serves registry := by
  induction lines generalizing server with
  | nil => exact serves
  | cons line rest ih =>
      rw [Server.afterLines]
      exact ih (handleLine_eq sound serves line).2

theorem handleRequest_of_calls {request : Request} {tool : Tool} {arguments : Json}
    (calls : request.Calls tool arguments) :
    (server.handleRequest request).2 =
      request.id.map fun id => ⟨some id, (server.callTool arguments tool).2⟩ := by
  obtain ⟨id, method, params⟩ := request
  obtain ⟨method, name, given⟩ := calls
  obtain rfl := method
  cases params with
  | none => cases name
  | some params =>
      simp only [Option.bind_some] at name given
      simp [handleRequest, handleMethod, handleCall, name, given, Tool.ofName?_name]

theorem callTool_checkUnits (sound : registry.Sound) (serves : server.Serves registry)
    {arguments : Json} {call : CheckCall} (read : CheckCall.read arguments = .ok call) :
    (server.callTool arguments .checkUnits).2 = .ok (call.answer registry) := by
  simp only [callTool, read, serves.presets]
  rw [(CheckCall.run_eq sound serves.session call).1]

theorem callTool_validatePart (serves : server.Serves registry) {arguments : Json}
    {part : PartSettings} (read : readPart arguments = .ok part) :
    (server.callTool arguments .validatePart).2 = .ok (validatePartResult registry part) := by
  simp only [callTool, read, serves.presets]
  rfl

/-! ## Agreement -/

/-- After any lines, the two tools answer calls with the same arguments. Validating is in error
exactly when the preset is unknown, the rules do not compile or the targets are malformed, and so is
checking if the unit is readable. Otherwise checking is in error exactly when the preset is unknown
or the rules do not compile, and else reports what the blank texts decide. -/
theorem checkUnits_agrees_validatePart (file : Option ByteArray) (history : List String)
    {checkRequest partRequest : Request} {arguments : Json} {unit targets : String} {id : UInt32}
    (checkCalls : checkRequest.Calls .checkUnits arguments)
    (partCalls : partRequest.Calls .validatePart arguments)
    (unitGiven : (arguments.field? "unit").bind Json.string? = some unit)
    (targetsGiven : (arguments.field? "targets").bind Json.string? = some targets)
    (idGiven : ruleIdArgument arguments = .ok id) :
    ∃ checked validated,
      (((start (.atStart file)).afterLines history).handleRequest checkRequest).2 =
        checkRequest.id.map (fun id => ⟨some id, .ok checked⟩) ∧
      (((start (.atStart file)).afterLines history).handleRequest partRequest).2 =
        partRequest.id.map (fun id => ⟨some id, .ok validated⟩) ∧
      (IsError validated ↔
        (Registry.atStart file).get? id = none ∨
          (RuleBook.ofRules (α := Float) (textOrEmpty arguments "rules")).isOk = false ∨
          (parseTargets targets).isOk = false) ∧
      (readable unit = true → (IsError checked ↔ IsError validated)) ∧
      (readable unit = false →
        (IsError checked ↔
          (Registry.atStart file).get? id = none ∨
            (RuleBook.ofRules (α := Float) (textOrEmpty arguments "rules")).isOk = false) ∧
        (¬IsError checked → checked.field? "data" = some (.object
          (if Text.isBlankString unit && Text.isBlankString targets then
            [("convertible", .bool true), ("factor", .float 1.0), ("target", .int 0)]
          else [("convertible", .bool false), ("factor", .float 1.0), ("target", .null)])))) := by
  have reachable := Registry.reachable_atStart file
  have serves := (serves_start reachable.sound).afterLines reachable.sound history
  have callRead := CheckCall.read_of_given unitGiven targetsGiven idGiven
  have partRead := readPart_of_given targetsGiven idGiven
  have check := CheckCall.isError_answer_iff reachable.compiles
    ⟨unit, targets, id, textOrEmpty arguments "rules"⟩
  have validation := isError_validatePartResult_iff reachable.compiles
    ⟨id, textOrEmpty arguments "rules", targets⟩
  refine ⟨CheckCall.answer ⟨unit, targets, id, textOrEmpty arguments "rules"⟩ (.atStart file),
    validatePartResult (.atStart file) ⟨id, textOrEmpty arguments "rules", targets⟩, ?_, ?_,
    validation, ?_, ?_⟩
  · rw [handleRequest_of_calls checkCalls, callTool_checkUnits reachable.sound serves callRead]
  · rw [handleRequest_of_calls partCalls, callTool_validatePart serves partRead]
  · intro read
    rw [check, validation, read, eq_self, true_and]
  · intro unread
    -- The targets are never looked at, which leaves the preset and the rules.
    simp only [unread, Bool.false_eq_true, false_and, or_false] at check
    refine ⟨check, fun valid => ?_⟩
    rw [check, not_or, Bool.not_eq_false] at valid
    rw [CheckCall.data_answer_of_not_readable reachable.compiles
      ⟨unit, targets, id, textOrEmpty arguments "rules"⟩ valid.1 valid.2 unread]
    simp only
    split <;> rfl

def toolRequest (tool : Tool) (arguments : Json) : Request :=
  ⟨some (.int 7), "tools/call",
    some (.object [("name", .string tool.name), ("arguments", arguments)])⟩

theorem calls_toolRequest (tool : Tool) (arguments : Json) :
    (toolRequest tool arguments).Calls tool arguments :=
  ⟨rfl, rfl, rfl⟩

def metreArguments (unit : String) : Json :=
  .object [("unit", .string unit), ("targets", .string "m = km"), ("rule_id", .int 1)]

theorem checkUnits_agrees_validatePart_metre :
    (readable "cm" = true ∧ ∃ checked validated,
      (((start (.atStart none)).afterLines ["ping"]).handleRequest
        (toolRequest .checkUnits (metreArguments "cm"))).2 =
          some ⟨some (.int 7), .ok checked⟩ ∧
      (((start (.atStart none)).afterLines ["ping"]).handleRequest
        (toolRequest .validatePart (metreArguments "cm"))).2 =
          some ⟨some (.int 7), .ok validated⟩ ∧
      ¬IsError validated ∧ ¬IsError checked) ∧
    (readable "" = false ∧ ∃ checked,
      (((start (.atStart none)).afterLines ["ping"]).handleRequest
        (toolRequest .checkUnits (metreArguments ""))).2 = some ⟨some (.int 7), .ok checked⟩ ∧
      ¬IsError checked ∧
      checked.field? "data" = some (.object
        [("convertible", .bool false), ("factor", .float 1.0), ("target", .null)])) := by
  have read : readable "cm" = true := by decide +kernel
  have unread : readable "" = false := by decide +kernel
  obtain ⟨checked, validated, checkReply, partReply, fault, agree, -⟩ :=
    checkUnits_agrees_validatePart none ["ping"]
      (calls_toolRequest .checkUnits (metreArguments "cm"))
      (calls_toolRequest .validatePart (metreArguments "cm")) rfl rfl rfl
  obtain ⟨blank, -, blankReply, -, -, -, decided⟩ :=
    checkUnits_agrees_validatePart none ["ping"]
      (calls_toolRequest .checkUnits (metreArguments ""))
      (calls_toolRequest .validatePart (metreArguments "")) rfl rfl rfl
  obtain ⟨blankFault, data⟩ := decided unread
  rw [if_neg (by decide +kernel)] at data
  have valid : ¬IsError validated := by
    rw [fault]
    decide +kernel
  have blankValid : ¬IsError blank := by
    rw [blankFault]
    decide +kernel
  exact ⟨⟨read, checked, validated, checkReply, partReply, valid, mt (agree read).mp valid⟩,
    unread, blank, blankReply, blankValid, data blankValid⟩

end Server

end UnitCheck
