import UnitCheck.Matching

/-!
# Grading sessions

A session answers checks under two rule texts: those of the selected preset, and those of the
question on top of them. The book of each layer is built when it is first needed and kept until its
text may have changed.

* `selectPreset` with the number that is selected already does nothing at all, whatever its rules
  are; another number replaces the preset rules and clears the question rules.
* `setQuestionRules` replaces the question rules and drops the merged book only.
* `compile` builds what is missing. A text that does not compile leaves its layer unbuilt.
* `check` judges a submitted unit. A submission that is no unit is rejected; only rules and targets
  can be in error.
-/

namespace UnitCheck

/-- What is wrong with the settings of a question, found while checking an answer. -/
inductive CheckError where
  | rules (cause : RuleError)
  | targets (cause : TargetError)
deriving DecidableEq, Repr

/-- The wording of an error found while checking. -/
def CheckError.message : CheckError → String
  | .rules cause => "invalid conversion rules: " ++ cause.message
  | .targets cause => cause.message

/-- The outcome of a check. -/
structure Verdict where
  /-- Whether the unit converts to one of the targets. -/
  convertible : Bool
  /-- A value in the unit times this is the value in the target; one if there is none. -/
  factor : Float
  /-- The number of the target that the unit converts to. -/
  target? : Option Nat
deriving DecidableEq

namespace Verdict

def matched (factor : Float) (target : Nat) : Verdict :=
  { convertible := true, factor, target? := some target }

def rejected : Verdict :=
  { convertible := false, factor := 1.0, target? := none }

@[simp] theorem matched_inj {factor other : Float} {i j : Nat} :
    matched factor i = matched other j ↔ factor = other ∧ i = j := by
  simp [matched]

@[simp] theorem matched_ne_rejected {factor : Float} {i : Nat} : matched factor i ≠ rejected := by
  simp [matched, rejected]

@[simp] theorem rejected_ne_matched {factor : Float} {i : Nat} : rejected ≠ matched factor i :=
  matched_ne_rejected.symm

/-- The verdict on what matching found. -/
def ofMatch : Option (Float × Nat) → Verdict
  | none => rejected
  | some (factor, target) => matched factor target

end Verdict

/-- The verdict on a unit under the given conversions, if the targets are well formed. -/
def judge (table : ConversionTable Float) (unit : UnitVector) (targets : String) :
    Except CheckError Verdict :=
  match parseTargets targets with
  | .ok list => .ok (.ofMatch (matchTargets table unit list))
  | .error cause => .error (.targets cause)

/-- Two layers of rules with the books built from them so far. -/
structure Session where
  presetId : UInt32 := 0
  presetRules : String := ""
  presetBook : Option (RuleBook Float) := none
  questionRules : String := ""
  mergedBook : Option (RuleBook Float) := none

namespace Session

/-- The session without rules. -/
def start : Session := {}

/-- Selects a preset by number. -/
def selectPreset (session : Session) (id : UInt32) (rules : String) : Session :=
  if id = session.presetId then session
  else { presetId := id, presetRules := rules }

/-- Replaces the rules of the question. -/
def setQuestionRules (session : Session) (rules : String) : Session :=
  { session with questionRules := rules, mergedBook := none }

/-- The book of the preset rules, kept if it is built. -/
def compilePreset (session : Session) : Session × Except RuleError (RuleBook Float) :=
  match session.presetBook with
  | some book => (session, .ok book)
  | none =>
      match RuleBook.ofRules session.presetRules with
      | .ok book => ({ session with presetBook := some book }, .ok book)
      | .error cause => (session, .error cause)

/-- The book of the question rules on top of `base`, kept if it is built. -/
def compileQuestion (session : Session) (base : RuleBook Float) :
    Session × Except RuleError (RuleBook Float) :=
  match session.mergedBook with
  | some book => (session, .ok book)
  | none =>
      match base.extend session.questionRules with
      | .ok book => ({ session with mergedBook := some book }, .ok book)
      | .error cause => (session, .error cause)

/-- The book of both layers. -/
def compile (session : Session) : Session × Except RuleError (RuleBook Float) :=
  match session.compilePreset with
  | (session, .ok base) => session.compileQuestion base
  | (session, .error cause) => (session, .error cause)

/-- Checks a submitted unit against a target list. Two blank texts agree, and one blank text agrees
with nothing. -/
def check (session : Session) (input targets : String) : Session × Except CheckError Verdict :=
  match Text.isBlankString input, Text.isBlankString targets with
  | true, true => (session, .ok (.matched 1.0 0))
  | true, false => (session, .ok .rejected)
  | false, true => (session, .ok .rejected)
  | false, false =>
      match parseUnit input with
      | .error _ => (session, .ok .rejected)
      | .ok unit =>
          match session.compile with
          | (session, .ok book) => (session, judge book.table unit targets)
          | (session, .error cause) => (session, .error (.rules cause))

end Session

end UnitCheck
