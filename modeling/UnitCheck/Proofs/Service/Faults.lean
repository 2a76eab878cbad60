import UnitCheck.Proofs.Outcome
import UnitCheck.Service.Server

/-!
# Refused calls

Which parameters a tool call is refused for: `BadCall` lists the reasons, and a call has a result in
every other case, whatever it is about. What a tool requires is what its description says.

* `Decides` is an outcome that is a fault of the parameters in the bad case and a result otherwise.
  It goes through the readers of the arguments, the tools and the call.
* `handleMethod_cases` is the same for the methods.
-/

namespace UnitCheck

/-! ## Reasons -/

/-- The field for the number of a preset leaves the number open, or has one in range. -/
inductive RuleIdFits : Option Json → Prop where
  | omitted : RuleIdFits none
  | null : RuleIdFits (some .null)
  | inRange {value : Int} : 0 ≤ value → value < UInt32.size → RuleIdFits (some (.int value))

/-- The arguments do not fit the tool. -/
inductive BadArguments (arguments : Json) : Tool → Prop where
  | missing {tool : Tool} {name : String} : name ∈ tool.requiredNames →
      (∀ text, arguments.field? name ≠ some (.string text)) → BadArguments arguments tool
  | checkRuleId : ¬RuleIdFits (arguments.field? "rule_id") → BadArguments arguments .checkUnits
  | partRuleId : ¬RuleIdFits (arguments.field? "rule_id") → BadArguments arguments .validatePart

/-- The parameters of a call name no tool, or have arguments that do not fit it. -/
inductive BadCall : Option Json → Prop where
  | noParams : BadCall none
  | noName {params : Json} : (∀ name, params.field? "name" ≠ some (.string name)) →
      BadCall (some params)
  | unknownTool {params : Json} {name : String} : params.field? "name" = some (.string name) →
      (∀ tool : Tool, tool.name ≠ name) → BadCall (some params)
  | badArguments {params : Json} {tool : Tool} : params.field? "name" = some (.string tool.name) →
      BadArguments ((params.field? "arguments").getD (.object [])) tool → BadCall (some params)

/-! ## Outcomes -/

/-- The outcome refuses the parameters in the bad case and is a result otherwise. -/
structure Decides {β : Type} (bad : Prop) (outcome : Except Fault β) : Prop where
  refused : bad → ∃ message, outcome = .error (.invalidParams message)
  accepted : ¬bad → ∃ result, outcome = .ok result

namespace Decides

variable {β γ : Type} {bad worse : Prop} {outcome : Except Fault β}

theorem ok (value : β) : Decides False (.ok value) where
  refused absurd := absurd.elim
  accepted _ := ⟨value, rfl⟩

theorem error {message : String} (holds : bad) :
    Decides bad (.error (.invalidParams message) : Except Fault β) where
  refused _ := ⟨message, rfl⟩
  accepted fine := absurd holds fine

theorem congr (decides : Decides bad outcome) (same : bad ↔ worse) : Decides worse outcome :=
  propext same ▸ decides

theorem bind {f : β → Except Fault γ} (decides : Decides bad outcome)
    (next : ∀ value, Decides worse (f value)) : Decides (bad ∨ worse) (outcome >>= f) := by
  constructor
  · intro either
    by_cases early : bad
    · obtain ⟨message, failed⟩ := decides.refused early
      exact ⟨message, by rw [failed]; rfl⟩
    · obtain ⟨value, read⟩ := decides.accepted early
      obtain ⟨message, failed⟩ := (next value).refused (either.resolve_left early)
      exact ⟨message, by rw [read]; exact failed⟩
  · intro neither
    obtain ⟨value, read⟩ := decides.accepted fun early => neither (Or.inl early)
    obtain ⟨result, given⟩ := (next value).accepted fun late => neither (Or.inr late)
    exact ⟨result, by rw [read]; exact given⟩

theorem map (decides : Decides bad outcome) (f : β → γ) : Decides bad (outcome.map f) := by
  constructor
  · intro holds
    obtain ⟨message, failed⟩ := decides.refused holds
    exact ⟨message, by rw [failed]; rfl⟩
  · intro fine
    obtain ⟨value, read⟩ := decides.accepted fine
    exact ⟨f value, by rw [read]; rfl⟩

end Decides

/-! ## Arguments -/

theorem bind_string?_eq_some_iff {field : Option Json} {text : String} :
    field.bind Json.string? = some text ↔ field = some (.string text) := by
  constructor
  · intro read
    obtain ⟨json, rfl, spelled⟩ := Option.bind_eq_some_iff.mp read
    unfold Json.string? at spelled
    split at spelled
    · rw [Option.some.inj spelled]
    · cases spelled
  · rintro rfl
    rfl

theorem bind_string?_eq_none_iff {field : Option Json} :
    field.bind Json.string? = none ↔ ∀ text, field ≠ some (.string text) := by
  rw [Option.eq_none_iff_forall_ne_some]
  simp only [ne_eq, bind_string?_eq_some_iff]

theorem decides_textArgument (arguments : Json) (name : String) :
    Decides (∀ text, arguments.field? name ≠ some (.string text)) (textArgument arguments name) := by
  apply Decides.congr ?_ bind_string?_eq_none_iff
  unfold textArgument
  cases (arguments.field? name).bind Json.string? with
  | none => exact .error rfl
  | some text => exact (Decides.ok text).congr (by simp)

theorem decides_ruleIdArgument (arguments : Json) :
    Decides (¬RuleIdFits (arguments.field? "rule_id")) (ruleIdArgument arguments) := by
  unfold ruleIdArgument
  generalize arguments.field? "rule_id" = field
  split
  · exact (Decides.ok 0).congr (by simp [RuleIdFits.omitted])
  · exact (Decides.ok 0).congr (by simp [RuleIdFits.null])
  · rename_i value
    by_cases range : 0 ≤ value ∧ value < UInt32.size
    · rw [if_pos (by simpa using range)]
      exact (Decides.ok _).congr (by simp [RuleIdFits.inRange range.1 range.2])
    · rw [if_neg (by simpa using range)]
      apply Decides.error
      intro fits
      cases fits with
      | inRange lower upper => exact range ⟨lower, upper⟩
  · rename_i notNull notInt
    apply Decides.error
    intro fits
    cases fits with
    | null => exact notNull rfl
    | inRange lower upper => exact notInt _ rfl

/-! ## Tools -/

theorem badArguments_iff {arguments : Json} {tool : Tool} :
    BadArguments arguments tool ↔
      (∃ name ∈ tool.requiredNames, ∀ text, arguments.field? name ≠ some (.string text)) ∨
        (tool = .checkUnits ∨ tool = .validatePart) ∧
          ¬RuleIdFits (arguments.field? "rule_id") := by
  constructor
  · intro bad
    cases bad with
    | missing required absent => exact Or.inl ⟨_, required, absent⟩
    | checkRuleId bad => exact Or.inr ⟨Or.inl rfl, bad⟩
    | partRuleId bad => exact Or.inr ⟨Or.inr rfl, bad⟩
  · rintro (⟨name, required, absent⟩ | ⟨rfl | rfl, bad⟩)
    · exact .missing required absent
    · exact .checkRuleId bad
    · exact .partRuleId bad

theorem CheckCall.decides_read (arguments : Json) :
    Decides (BadArguments arguments .checkUnits) (read arguments) := by
  have required : Tool.checkUnits.requiredNames = ["unit", "targets"] := rfl
  refine Decides.congr (((decides_textArgument arguments "unit").bind fun unit =>
    (decides_textArgument arguments "targets").bind fun targets =>
      (decides_ruleIdArgument arguments).bind fun ruleId => Decides.ok _)) ?_
  simp [badArguments_iff, required, or_assoc]

theorem decides_readPart (arguments : Json) :
    Decides (BadArguments arguments .validatePart) (readPart arguments) := by
  have required : Tool.validatePart.requiredNames = [] := rfl
  refine Decides.congr ((decides_ruleIdArgument arguments).bind fun ruleId => Decides.ok _) ?_
  simp [badArguments_iff, required]

namespace Server

variable {server : Server}

theorem decides_callTool (server : Server) (arguments : Json) (tool : Tool) :
    Decides (BadArguments arguments tool) (server.callTool arguments tool).2 := by
  cases tool with
  | checkUnits =>
      have outcome : (server.callTool arguments .checkUnits).2 =
          (CheckCall.read arguments).map fun call =>
            (call.run server.registry server.session).2 := by
        unfold callTool
        cases CheckCall.read arguments <;> rfl
      rw [outcome]
      exact (CheckCall.decides_read arguments).map _
  | parseUnit =>
      have required : Tool.parseUnit.requiredNames = ["unit"] := rfl
      exact ((decides_textArgument arguments "unit").map _).congr
        (by simp [badArguments_iff, required])
  | validateTargets =>
      have required : Tool.validateTargets.requiredNames = ["targets"] := rfl
      exact ((decides_textArgument arguments "targets").map _).congr
        (by simp [badArguments_iff, required])
  | validatePart => exact (decides_readPart arguments).map _
  | listRules =>
      have required : Tool.listRules.requiredNames = [] := rfl
      exact (Decides.ok _).congr (by simp [badArguments_iff, required])

/-! ## Calls and methods -/

theorem decides_handleCall (server : Server) (params : Option Json) :
    Decides (BadCall params) (server.handleCall params).2 := by
  unfold handleCall
  cases params with
  | none => exact .error .noParams
  | some params =>
      simp only
      cases named : (params.field? "name").bind Json.string? with
      | none => exact .error (.noName (bind_string?_eq_none_iff.mp named))
      | some name =>
          rw [bind_string?_eq_some_iff] at named
          simp only
          cases known : Tool.ofName? name with
          | none =>
              refine .error (.unknownTool named ?_)
              rintro tool rfl
              cases known.symm.trans (Tool.ofName?_name tool)
          | some tool =>
              obtain rfl := Tool.name_of_ofName? known
              apply (server.decides_callTool _ tool).congr
              constructor
              · exact .badArguments named
              · intro bad
                cases bad with
                | noName unnamed => exact absurd named (unnamed _)
                | unknownTool other unknown =>
                    cases named.symm.trans other
                    exact absurd rfl (unknown tool)
                -- Tools have different names, so the arguments are bad for this very tool.
                | @badArguments _ other otherNamed bad =>
                    have same : tool.name = other.name := by
                      simpa using named.symm.trans otherNamed
                    rw [same, Tool.ofName?_name] at known
                    rw [← Option.some.inj known]
                    exact bad

/-- The methods of the server. -/
def methods : List String := ["initialize", "initialized", "ping", "tools/list", "tools/call"]

@[simp] theorem call_mem_methods : "tools/call" ∈ methods := by decide

/-- A method that is known gives a result, except for the calls that are refused. -/
theorem handleMethod_cases (server : Server) (params : Option Json) (method : String) :
    (method ∉ methods ∧
        (server.handleMethod params method).2 = .error (.unknownMethod method)) ∨
      (method = "tools/call" ∧ BadCall params ∧ ∃ message,
        (server.handleMethod params method).2 = .error (.invalidParams message)) ∨
      (method ∈ methods ∧ ¬(method = "tools/call" ∧ BadCall params) ∧ ∃ result,
        (server.handleMethod params method).2 = .ok result) := by
  unfold handleMethod
  split
  case h_5 =>
    have decides := server.decides_handleCall params
    by_cases bad : BadCall params
    · exact Or.inr (Or.inl ⟨rfl, bad, decides.refused bad⟩)
    · exact Or.inr (Or.inr ⟨by decide, fun both => bad both.2, decides.accepted bad⟩)
  case h_6 notInitialize notInitialized notPing notList notCall =>
    refine Or.inl ⟨?_, rfl⟩
    simp only [methods, List.mem_cons, List.not_mem_nil, or_false, not_or]
    exact ⟨notInitialize, notInitialized, notPing, notList, notCall⟩
  all_goals exact Or.inr (Or.inr ⟨by decide, by simp, _, rfl⟩)

end Server

end UnitCheck
