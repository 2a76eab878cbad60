import UnitCheck.Proofs.Matching.Counterpart
import UnitCheck.Proofs.Part.Validation

/-!
# Verdicts and errors of checks

A submission is never the cause of an error. If a check fails, then on the rules in force or on the
targets, in this order, and it fails in the same way for every submission that gets so far:
`RuleTexts.check_eq_error_iff`. A check that does not fail gives a verdict that can be shown:
`RuleTexts.verdict_of_check`.

`Session.check_run_start` says both of a session after any commands. In any session whatever, the
three components of a verdict agree: `Session.wellFormed_check`.
-/

namespace UnitCheck

theorem isNaN_of_isFinite {x : Float} (finite : x.isFinite = true) : x.isNaN = false := by
  unfold Float.isFinite Float.Model.isFinite at finite
  unfold Float.isNaN Float.Model.isNaN
  generalize x.toModel.unpack = unpacked at finite ⊢
  cases unpacked with
  | notANumber => cases finite
  | infinity sign => rfl
  | zero sign => rfl
  | finite sign mantissa exponent positive => rfl

/-! ## Verdicts -/

namespace Verdict

/-- The unit does not convert, and there is nothing to multiply its values with. -/
structure Rejects (verdict : Verdict) : Prop where
  convertible : verdict.convertible = false
  factor : verdict.factor = 1.0
  target : verdict.target? = none

/-- The unit converts to one of the targets, with a factor that values can be multiplied with. -/
structure Converts (verdict : Verdict) (targets : TargetList) : Prop where
  convertible : verdict.convertible = true
  finite : verdict.factor.isFinite = true
  number : verdict.factor.isNaN = false
  nonzero : (verdict.factor == 0.0) = false
  target : ∃ i, verdict.target? = some i ∧ i < targets.length

/-- The components agree: there is a target exactly when the unit converts, and nothing to multiply
with otherwise. -/
structure WellFormed (verdict : Verdict) : Prop where
  target : verdict.target?.isSome = verdict.convertible
  factor : verdict.convertible = false → verdict.factor = 1.0

theorem wellFormed_iff {verdict : Verdict} :
    verdict.WellFormed ↔ verdict = rejected ∨ ∃ factor i, verdict = matched factor i := by
  constructor
  · obtain ⟨convertible, factor, target?⟩ := verdict
    rintro ⟨present, one⟩
    cases target? with
    | none =>
        obtain rfl : false = convertible := present
        obtain rfl : factor = 1.0 := one rfl
        exact Or.inl rfl
    | some i =>
        obtain rfl : true = convertible := present
        exact Or.inr ⟨factor, i, rfl⟩
  · rintro (rfl | ⟨factor, i, rfl⟩)
    · exact ⟨rfl, fun _ => rfl⟩
    · refine ⟨rfl, fun impossible => ?_⟩
      cases impossible

theorem wellFormed_rejected : WellFormed rejected :=
  wellFormed_iff.mpr (Or.inl rfl)

theorem wellFormed_matched (factor : Float) (i : Nat) : (matched factor i).WellFormed :=
  wellFormed_iff.mpr (Or.inr ⟨factor, i, rfl⟩)

theorem wellFormed_ofMatch (found : Option (Float × Nat)) : (ofMatch found).WellFormed := by
  cases found with
  | none => exact wellFormed_rejected
  | some result => exact wellFormed_matched result.1 result.2

theorem wellFormed_judge {table : ConversionTable Float} {unit : UnitVector} {targets : String}
    {verdict : Verdict} (judged : judge table unit targets = .ok verdict) : verdict.WellFormed := by
  unfold judge at judged
  split at judged
  · cases judged
    exact wellFormed_ofMatch _
  · cases judged

theorem rejects_rejected : Rejects rejected :=
  ⟨rfl, rfl, rfl⟩

theorem ofMatch_matchTargets (table : ConversionTable Float) (unit : UnitVector)
    (targets : TargetList) :
    (ofMatch (matchTargets table unit targets)).Rejects ∨
      (ofMatch (matchTargets table unit targets)).Converts targets := by
  cases found : matchTargets table unit targets with
  | none => exact Or.inl rejects_rejected
  | some result =>
      obtain ⟨factor, i⟩ := result
      obtain ⟨target, position, matched, -⟩ := matchTargets_eq_some_iff.mp found
      obtain ⟨-, -, -, regular⟩ := matchTarget_eq_some_iff.mp matched
      obtain ⟨finite, nonzero⟩ := Magnitude.isFactor_float_iff.mp regular
      have bound : i < targets.length := (List.getElem?_eq_some_iff.mp position).1
      exact Or.inr ⟨rfl, finite, isNaN_of_isFinite finite, nonzero, i, rfl, bound⟩

end Verdict

theorem readable_iff {input : String} :
    readable input = true ↔ Text.isBlankString input = false ∧ ∃ unit, parseUnit input = .ok unit := by
  rw [readable, Bool.and_eq_true, Bool.not_eq_true', isOk_iff]

/-! ## Checks -/

namespace RuleTexts

/-- What is wrong with the settings that a submission is checked against. Targets count only when
the rules compile. -/
inductive Faulty (texts : RuleTexts) (targets : String) : CheckError → Prop
  | rules {cause : RuleError} : texts.book = .error cause → Faulty texts targets (.rules cause)
  | targets {book : RuleBook Float} {cause : TargetError} : texts.book = .ok book →
      parseTargets targets = .error cause → Faulty texts targets (.targets cause)

/-- What a check comes to once the submission is read and there are targets. -/
def grade (texts : RuleTexts) (unit : UnitVector) (targets : String) : Except CheckError Verdict :=
  match texts.book with
  | .error cause => .error (.rules cause)
  | .ok book => judge book.table unit targets

variable {texts : RuleTexts} {input targets : String}

theorem grade_eq_error_iff {unit : UnitVector} {failure : CheckError} :
    texts.grade unit targets = .error failure ↔ texts.Faulty targets failure := by
  unfold grade judge
  constructor
  · intro failed
    cases built : texts.book with
    | error cause =>
        rw [built] at failed
        cases failed
        exact .rules built
    | ok book =>
        cases parsed : parseTargets targets with
        | error cause =>
            simp only [built, parsed] at failed
            cases failed
            exact .targets built parsed
        | ok list =>
            simp only [built, parsed] at failed
            cases failed
  · intro faulty
    cases faulty with
    | rules built => simp only [built]
    | targets built refused => simp only [built, refused]

theorem verdict_of_grade {unit : UnitVector} {verdict : Verdict}
    (graded : texts.grade unit targets = .ok verdict) :
    ∃ list, parseTargets targets = .ok list ∧ (verdict.Rejects ∨ verdict.Converts list) := by
  unfold grade judge at graded
  cases built : texts.book with
  | error cause =>
      rw [built] at graded
      cases graded
  | ok book =>
      cases parsed : parseTargets targets with
      | error cause =>
          simp only [built, parsed] at graded
          cases graded
      | ok list =>
          simp only [built, parsed] at graded
          cases graded
          exact ⟨list, rfl, Verdict.ofMatch_matchTargets book.table unit list⟩

/-- A check grades the submission, or it is over before rules and targets are looked at. -/
theorem check_cases (texts : RuleTexts) (input targets : String) :
    (∃ unit, readable input = true ∧ Text.isBlankString targets = false ∧
      texts.check input targets = texts.grade unit targets) ∨
    (readable input = true → Text.isBlankString targets = true) ∧
      texts.check input targets =
        .ok (if Text.isBlankString input && Text.isBlankString targets then .matched 1.0 0
          else .rejected) := by
  cases read : readable input with
  | false =>
      apply Or.inr
      refine ⟨fun readable => ?_, check_of_not_readable texts read targets⟩
      cases readable
  | true =>
      obtain ⟨visible, unit, parsed⟩ := readable_iff.mp read
      unfold check
      rw [visible]
      cases Text.isBlankString targets with
      | true => exact Or.inr ⟨fun _ => rfl, rfl⟩
      | false =>
          rw [parsed]
          exact Or.inl ⟨unit, rfl, rfl, rfl⟩

theorem check_eq_error_iff {failure : CheckError} :
    texts.check input targets = .error failure ↔
      readable input = true ∧ Text.isBlankString targets = false ∧
        texts.Faulty targets failure := by
  rcases check_cases texts input targets with ⟨unit, read, some, graded⟩ | ⟨early, answer⟩
  · rw [graded, grade_eq_error_iff, read, some]
    simp
  · rw [answer]
    constructor
    · intro failed
      cases failed
    · rintro ⟨read, some, -⟩
      rw [early read] at some
      cases some

theorem verdict_of_check {verdict : Verdict}
    (some : (Text.isBlankString input && Text.isBlankString targets) = false)
    (checked : texts.check input targets = .ok verdict) :
    verdict.Rejects ∨ ∃ list, parseTargets targets = .ok list ∧ verdict.Converts list := by
  rcases check_cases texts input targets with ⟨unit, -, -, graded⟩ | ⟨-, answer⟩
  · rw [graded] at checked
    obtain ⟨list, parsed, shown⟩ := verdict_of_grade checked
    exact shown.imp_right fun converts => ⟨list, parsed, converts⟩
  · rw [answer, some] at checked
    cases checked
    exact Or.inl Verdict.rejects_rejected

theorem check_of_blank (blankInput : Text.isBlankString input = true)
    (blankTargets : Text.isBlankString targets = true) :
    texts.check input targets = .ok (.matched 1.0 0) := by
  unfold check
  rw [blankInput, blankTargets]
  rfl

/-- Which error a check gives does not depend on the submission, if only it is read. -/
theorem check_map_unit_eq {other : String} (read : readable input = true)
    (otherRead : readable other = true) :
    (texts.check other targets).map (fun _ => ()) =
      (texts.check input targets).map fun _ => () := by
  apply map_unit_eq_of_errors
  intro failure
  rw [check_eq_error_iff, check_eq_error_iff, read, otherRead]

end RuleTexts

namespace Session

/-- A check gives well-formed verdicts only, whatever books the session has. -/
theorem wellFormed_check {session : Session} {input targets : String} {verdict : Verdict}
    (checked : (session.check input targets).2 = .ok verdict) : verdict.WellFormed := by
  unfold check at checked
  split at checked
  · cases checked
    exact Verdict.wellFormed_matched 1.0 0
  · cases checked
    exact Verdict.wellFormed_rejected
  · cases checked
    exact Verdict.wellFormed_rejected
  · split at checked
    · cases checked
      exact Verdict.wellFormed_rejected
    · split at checked
      · exact Verdict.wellFormed_judge checked
      · cases checked

theorem check_eq_of_run (commands : List SessionCommand) (input targets : String) :
    ((start.run commands).1.check input targets).2 =
      (start.run commands).1.texts.check input targets :=
  (check_spec (run_eq coherent_start commands).2 input targets).1

/-- A check fails only on rules and targets, for a submission that is read, and in the same way for
all of them. Otherwise the verdict is a rejection or names a target with a usable factor; two blank
texts agree though there is no target. -/
theorem check_run_start (commands : List SessionCommand) (input targets : String) :
    (∀ failure, ((start.run commands).1.check input targets).2 = .error failure ↔
      (Text.isBlankString input = false ∧ ∃ unit, parseUnit input = .ok unit) ∧
        Text.isBlankString targets = false ∧
        (start.run commands).1.texts.Faulty targets failure) ∧
    (∀ later other, (start.run later).1.texts = (start.run commands).1.texts →
      readable input = true → readable other = true →
      ((start.run later).1.check other targets).2.map (fun _ => ()) =
        ((start.run commands).1.check input targets).2.map fun _ => ()) ∧
    (Text.isBlankString input = true → Text.isBlankString targets = true →
      ((start.run commands).1.check input targets).2 = .ok (.matched 1.0 0) ∧
        parseTargets targets = .ok []) ∧
    ((Text.isBlankString input && Text.isBlankString targets) = false →
      ∀ verdict, ((start.run commands).1.check input targets).2 = .ok verdict →
        verdict.Rejects ∨ ∃ list, parseTargets targets = .ok list ∧ verdict.Converts list) := by
  refine ⟨?_, ?_, ?_, ?_⟩
  · intro failure
    rw [check_eq_of_run, RuleTexts.check_eq_error_iff, readable_iff]
  · intro later other same read otherRead
    rw [check_eq_of_run, check_eq_of_run, same, RuleTexts.check_map_unit_eq read otherRead]
  · intro blankInput blankTargets
    rw [check_eq_of_run, RuleTexts.check_of_blank blankInput blankTargets]
    exact ⟨rfl, parseTargets_of_blank blankTargets⟩
  · intro some verdict checked
    rw [check_eq_of_run] at checked
    exact RuleTexts.verdict_of_check some checked

def metreCommands : List SessionCommand :=
  [.selectPreset 1 "m: k c", .check "km" "m", .setQuestionRules "2.54 cm = inch"]

theorem check_run_start_metre :
    ((start.run metreCommands).1.check "km" "cm").2 = .ok (.matched 1e5 0) ∧
    (Verdict.matched 1e5 0).Converts [⟨[⟨"cm", 1⟩]⟩] ∧
    ((start.run metreCommands).1.check "km" "m =").2 = .error (.targets .blankClause) ∧
    ((start.run metreCommands).1.check "" " ").2 = .ok (.matched 1.0 0) := by
  obtain ⟨-, -, -, verdicts⟩ := check_run_start metreCommands "km" "cm"
  obtain ⟨errors, -, -, -⟩ := check_run_start metreCommands "km" "m ="
  obtain ⟨-, -, blanks, -⟩ := check_run_start metreCommands "" " "
  have value : ((start.run metreCommands).1.check "km" "cm").2.toOption =
      some (.matched 1e5 0) := by decide +kernel
  have checked : ((start.run metreCommands).1.check "km" "cm").2 = .ok (.matched 1e5 0) := by
    generalize ((start.run metreCommands).1.check "km" "cm").2 = outcome at value ⊢
    cases outcome with
    | error failure => cases value
    | ok verdict => rw [Option.some.inj value]
  have parsed : parseTargets "cm" = .ok [⟨[⟨"cm", 1⟩]⟩] := rfl
  obtain ⟨book, built⟩ : ∃ book, (start.run metreCommands).1.texts.book = .ok book :=
    isOk_iff.mp (by decide +kernel)
  refine ⟨checked, ?_, ?_, (blanks rfl rfl).1⟩
  · rcases verdicts rfl _ checked with rejects | ⟨list, parsedList, converts⟩
    · cases rejects.convertible
    · obtain rfl := Except.ok.inj (parsed.symm.trans parsedList)
      exact converts
  · exact (errors _).mpr ⟨⟨rfl, ⟨[⟨"km", 1⟩]⟩, rfl⟩, rfl, .targets built rfl⟩

end Session

end UnitCheck
