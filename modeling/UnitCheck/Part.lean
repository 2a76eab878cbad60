import UnitCheck.Diagnosis

/-!
# The unit settings of a question

A question part names a preset, rules of its own and the accepted units. `validate` checks the
settings when the question is written, each on its own, so that the author sees every problem at
once; no problem means that checking an answer cannot fail.
-/

namespace UnitCheck

/-- The unit settings of a question part. -/
structure PartSettings where
  ruleId : UInt32 := 0
  additionalRules : String := ""
  targets : String := ""
deriving DecidableEq, Repr

namespace PartSettings

/-- The diagnostic of a failed reading, placed in the given setting. -/
def problem {ε β : Type} (field : String) (diagnose : ε → Diagnostic) :
    Except ε β → List Diagnostic
  | .ok _ => []
  | .error failure => [(diagnose failure).inField field]

/-- The problems of the target list. -/
def targetProblems (part : PartSettings) : List Diagnostic :=
  problem "targets" TargetError.diagnostic (parseTargets part.targets)

/-- The problems of the question rules, compiled without the preset. -/
def ruleProblems (part : PartSettings) : List Diagnostic :=
  problem "additional_rules" RuleError.diagnostic
    (RuleBook.ofRules (α := Float) part.additionalRules)

/-- The problems of the preset. -/
def presetProblems (registry : Registry) (part : PartSettings) : List Diagnostic :=
  match registry.get? part.ruleId with
  | none => [(Diagnostic.unknownRuleId part.ruleId).inField "rule_id"]
  | some preset =>
      problem "rule_id" RuleError.diagnostic (RuleBook.ofRules (α := Float) preset.rules)

/-- All problems of the settings: targets, then question rules, then the preset. -/
def validate (registry : Registry) (part : PartSettings) : List Diagnostic :=
  part.targetProblems ++ part.ruleProblems ++ part.presetProblems registry

end PartSettings

end UnitCheck
