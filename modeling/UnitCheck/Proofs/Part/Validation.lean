import UnitCheck.Part
import UnitCheck.Proofs.Preset.Reachability
import UnitCheck.Proofs.Session.Cache
import UnitCheck.Proofs.Unit.Targets

/-!
# Validated settings are safe to grade with

`validate` looks at each setting on its own, while grading reads the question rules on top of the
preset. `validate_spec` says that the two agree: settings without problems compile, and checking an
answer against them cannot fail; otherwise each setting that grading cannot work with is reported
once.

Reading a rule text does not depend on the book that it is folded into (`RuleBook.extend_eq`), and
the rules of a preset in a reachable registry compile. So what can be at fault is what
`faultySettings` lists.
-/

namespace UnitCheck

/-! ## Outcomes of compiling -/

namespace RuleBook

variable {α β : Type} [Magnitude α] [Magnitude β]

/-- Whether a text is folded in, and the error if it is not, are the same for all books. -/
theorem extend_map_unit (book : RuleBook α) (other : RuleBook β) (rules : String) :
    (book.extend rules).map (fun _ => ()) = (other.extend rules).map (fun _ => ()) := by
  rw [extend_eq, extend_eq]
  cases (Clause.split rules).mapM Clause.read <;> rfl

theorem isOk_extend (book : RuleBook α) (rules : String) :
    (book.extend rules).isOk = (ofRules (α := α) rules).isOk :=
  (map_unit_eq_iff.mp (extend_map_unit book empty rules)).1

end RuleBook

/-! ## Outcomes of checking -/

/-- A submission is readable when it is not blank and spells a unit. No other one gets as far as the
rules and the targets. -/
def readable (input : String) : Bool :=
  !Text.isBlankString input && (parseUnit input).isOk

namespace RuleTexts

theorem isOk_book (texts : RuleTexts) :
    texts.book.isOk = ((RuleBook.ofRules (α := Float) texts.preset).isOk &&
      (RuleBook.ofRules (α := Float) texts.question).isOk) := by
  rw [book_eq]
  cases RuleBook.ofRules (α := Float) texts.preset with
  | error cause => rfl
  | ok base => exact base.isOk_extend texts.question

/-- On top of the rules of a preset, only the rules of the question can fail. -/
theorem isOk_book_of_preset {registry : Registry} (compiles : registry.Compiles) {id : UInt32}
    {preset : Preset} (found : registry.get? id = some preset) (rules : String) :
    (book ⟨preset.id, preset.rules, rules⟩).isOk =
      (RuleBook.ofRules (α := Float) rules).isOk := by
  rw [isOk_book, isOk_iff.mpr (compiles id preset found), Bool.true_and]

/-- Compiled rules leave only the targets to fail, and only for a submission that is read. -/
theorem isOk_check {texts : RuleTexts} (compiled : texts.book.isOk = true)
    (input targets : String) :
    (texts.check input targets).isOk = (!readable input || (parseTargets targets).isOk) := by
  obtain ⟨book, built⟩ := isOk_iff.mp compiled
  unfold check readable
  rw [built]
  cases Text.isBlankString input with
  | true => cases Text.isBlankString targets <;> rfl
  | false =>
      cases blank : Text.isBlankString targets with
      | true =>
          -- The targets are not parsed here, but they would be accepted.
          simp [parseTargets_of_blank blank]
      | false =>
          cases parseUnit input with
          | error failure => rfl
          | ok unit =>
              simp only [judge]
              cases parseTargets targets <;> rfl

theorem check_of_not_readable (texts : RuleTexts) {input : String}
    (unread : readable input = false) (targets : String) :
    texts.check input targets =
      .ok (if Text.isBlankString input && Text.isBlankString targets then .matched 1.0 0
        else .rejected) := by
  unfold check
  cases blank : Text.isBlankString input with
  | true => cases Text.isBlankString targets <;> rfl
  | false =>
      cases parsed : parseUnit input with
      | error failure => cases Text.isBlankString targets <;> rfl
      | ok unit => simp [readable, blank, parsed] at unread

end RuleTexts

/-! ## Problems of a part -/

namespace PartSettings

/-- The settings that grading cannot work with, in the order in which they are reported. -/
def faultySettings (registry : Registry) (part : PartSettings) : List String :=
  (if (parseTargets part.targets).isOk then [] else ["targets"]) ++
    (if (RuleBook.ofRules (α := Float) part.additionalRules).isOk then []
      else ["additional_rules"]) ++
    (if (registry.get? part.ruleId).isSome then [] else ["rule_id"])

theorem map_field?_problem {ε β : Type} (field : String) (diagnose : ε → Diagnostic)
    (outcome : Except ε β) :
    (problem field diagnose outcome).map Diagnostic.field? =
      (if outcome.isOk then [] else [field]).map some := by
  cases outcome <;> rfl

variable {registry : Registry}

theorem map_field?_presetProblems (compiles : registry.Compiles) (part : PartSettings) :
    (part.presetProblems registry).map Diagnostic.field? =
      (if (registry.get? part.ruleId).isSome then [] else ["rule_id"]).map some := by
  unfold presetProblems
  cases found : registry.get? part.ruleId with
  | none => rfl
  | some preset =>
      simp only
      rw [map_field?_problem, isOk_iff.mpr (compiles part.ruleId preset found)]
      rfl

theorem map_field?_validate (compiles : registry.Compiles) (part : PartSettings) :
    (part.validate registry).map Diagnostic.field? = (part.faultySettings registry).map some := by
  rw [validate, faultySettings, List.map_append, List.map_append, List.map_append, List.map_append,
    targetProblems, ruleProblems, map_field?_problem, map_field?_problem,
    map_field?_presetProblems compiles]

theorem validate_eq_nil_iff (compiles : registry.Compiles) (part : PartSettings) :
    part.validate registry = [] ↔
      (parseTargets part.targets).isOk = true ∧
        (RuleBook.ofRules (α := Float) part.additionalRules).isOk = true ∧
        ∃ preset, registry.get? part.ruleId = some preset := by
  rw [← List.map_eq_nil_iff, map_field?_validate compiles, List.map_eq_nil_iff, faultySettings,
    ← Option.isSome_iff_exists]
  simp [Option.isSome_iff_ne_none]

/-! ## Grading a part -/

/-- The session that grades answers to a part under the given preset. -/
def session (part : PartSettings) (preset : Preset) : Session :=
  (Session.start.selectPreset preset.id preset.rules).setQuestionRules part.additionalRules

theorem coherent_session (part : PartSettings) (preset : Preset) :
    (part.session preset).Coherent :=
  (Session.coherent_start.selectPreset preset.id preset.rules).setQuestionRules
    part.additionalRules

theorem texts_session (sound : registry.Sound) {part : PartSettings} {preset : Preset}
    (found : registry.get? part.ruleId = some preset) :
    (part.session preset).texts = ⟨preset.id, preset.rules, part.additionalRules⟩ := by
  unfold session Session.selectPreset
  split
  · -- The number zero is selected from the start, so the rules of its preset are never set.
    rename_i zero
    have id : preset.id = 0 := zero
    have unruled : preset.rules = "" := by
      apply sound.unruled
      rw [← id, sound.keyed part.ruleId preset found, found]
    rw [id, unruled]
    rfl
  · rfl

theorem isOk_compile_session (sound : registry.Sound) (compiles : registry.Compiles)
    {part : PartSettings} {preset : Preset} (found : registry.get? part.ruleId = some preset) :
    (part.session preset).compile.2.isOk =
      (RuleBook.ofRules (α := Float) part.additionalRules).isOk := by
  obtain ⟨result, -⟩ := Session.compile_spec (part.coherent_session preset)
  rw [result, texts_session sound found, RuleTexts.isOk_book_of_preset compiles found]

/-- Compiling first does not change what a check answers. -/
theorem check_compile_session (part : PartSettings) (preset : Preset) (input targets : String) :
    ((part.session preset).compile.1.check input targets).2 =
      ((part.session preset).check input targets).2 := by
  have coherent := part.coherent_session preset
  obtain ⟨-, compiledCoherent, compiledTexts, -⟩ := Session.compile_spec coherent
  rw [(Session.check_spec compiledCoherent input targets).1, compiledTexts,
    (Session.check_spec coherent input targets).1]

theorem isOk_check_session {part : PartSettings} {preset : Preset}
    (compiled : (part.session preset).compile.2.isOk = true) (input targets : String) :
    ((part.session preset).check input targets).2.isOk =
      (!readable input || (parseTargets targets).isOk) := by
  have coherent := part.coherent_session preset
  rw [(Session.compile_spec coherent).1] at compiled
  rw [(Session.check_spec coherent input targets).1, RuleTexts.isOk_check compiled]

/-- No problem is reported exactly when grading can work with the settings, and then no answer makes
it fail. Otherwise each setting at fault is reported once. Whether the question rules are at fault
does not depend on the rules that they are read on top of. -/
theorem validate_spec (reachable : registry.Reachable) (part : PartSettings) :
    (part.validate registry = [] ↔
      ∃ preset, registry.get? part.ruleId = some preset ∧
        (part.session preset).compile.2.isOk = true ∧
        (parseTargets part.targets).isOk = true) ∧
    (∀ preset, registry.get? part.ruleId = some preset → part.validate registry = [] →
      ∀ input, ∃ verdict,
        ((part.session preset).check input part.targets).2 = .ok verdict ∧
        ((part.session preset).compile.1.check input part.targets).2 = .ok verdict) ∧
    (part.validate registry).map Diagnostic.field? = (part.faultySettings registry).map some ∧
    ∀ (book : RuleBook Float) (rules : String),
      (book.extend rules).isOk = (RuleBook.ofRules (α := Float) rules).isOk ∧
      ∀ cause, book.extend rules = .error cause ↔
        RuleBook.ofRules (α := Float) rules = .error cause := by
  have sound := reachable.sound
  have compiles := reachable.compiles
  refine ⟨?_, ?_, map_field?_validate compiles part,
    fun book rules => map_unit_eq_iff.mp (book.extend_map_unit .empty rules)⟩
  · rw [validate_eq_nil_iff compiles]
    constructor
    · rintro ⟨targetsRead, rulesRead, preset, found⟩
      have compiled := (isOk_compile_session sound compiles found).trans rulesRead
      exact ⟨preset, found, compiled, targetsRead⟩
    · rintro ⟨preset, found, compiled, targetsRead⟩
      have rulesRead := (isOk_compile_session sound compiles found).symm.trans compiled
      exact ⟨targetsRead, rulesRead, preset, found⟩
  · intro preset found valid input
    obtain ⟨targetsRead, rulesRead, -⟩ := (validate_eq_nil_iff compiles part).mp valid
    have compiled := (isOk_compile_session sound compiles found).trans rulesRead
    have checked := isOk_check_session compiled input part.targets
    rw [targetsRead, Bool.or_true] at checked
    obtain ⟨verdict, answer⟩ := isOk_iff.mp checked
    exact ⟨verdict, answer, (part.check_compile_session preset input part.targets).trans answer⟩

/-- A preset of a site; `lengthPart` adds the inch to it. -/
def lengths : Preset := { id := 100, name := "lengths", rules := "m: k c" }

def lengthPart : PartSettings :=
  { ruleId := 100, additionalRules := "2.54 cm = inch", targets := "m = inch" }

def faultyPart : PartSettings :=
  { ruleId := 99, additionalRules := "a:b:c:d", targets := "m =" }

theorem reachable_lengths : (Registry.empty.insert lengths).Reachable := by
  have compiled : ∃ book, RuleBook.ofRules (α := Float) lengths.rules = .ok book :=
    Registry.exists_book_of_read rfl (by decide +kernel)
  exact Registry.Reachable.empty.join ⟨by decide, Registry.get?_empty _, compiled⟩

theorem validate_spec_lengths :
    (Registry.empty.insert lengths).Reachable ∧
      lengthPart.validate (Registry.empty.insert lengths) = [] ∧
      (∀ input, ∃ verdict,
        ((lengthPart.session lengths).check input lengthPart.targets).2 = .ok verdict) ∧
      (faultyPart.validate (Registry.empty.insert lengths)).map Diagnostic.field? =
        [some "targets", some "additional_rules", some "rule_id"] := by
  obtain ⟨usable, checks, -, -⟩ := validate_spec reachable_lengths lengthPart
  obtain ⟨-, -, faults, -⟩ := validate_spec reachable_lengths faultyPart
  have found : (Registry.empty.insert lengths).get? lengthPart.ruleId = some lengths := by
    rw [Registry.get?_insert]
    rfl
  have valid := usable.mpr ⟨lengths, found, by decide +kernel, by decide +kernel⟩
  refine ⟨reachable_lengths, valid, fun input => ?_, faults.trans (by decide +kernel)⟩
  obtain ⟨verdict, answer, -⟩ := checks lengths found valid input
  exact ⟨verdict, answer⟩

end PartSettings

end UnitCheck
