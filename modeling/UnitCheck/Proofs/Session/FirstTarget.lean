import UnitCheck.Proofs.Session.Verdicts

/-!
# Targets one at a time

A check against a list of targets comes to what checks against each of them alone come to. The first
target that the submission converts to on its own is reported, with the factor that it has there;
the targets before and after it have no part in this.

* `Verdict.firstConverting_iff` compares matching against a list with matching against each target.
* `RuleTexts.answer` is a check whose targets are read. It either does not look at them or is what
  matching finds: `RuleTexts.answer_cases`.
* `TargetList.forall₂_clauses`: a clause of a target list is a target list with one target.
* `Session.check_targets_iff` puts them together for sessions.
-/

namespace UnitCheck

/-- Among checks against one target each, the one with number `i` is the first that is not a
rejection, and it converts with the given factor. -/
structure FirstConverting (outcomes : List (Except CheckError Verdict)) (factor : Float) (i : Nat) :
    Prop where
  converts : outcomes[i]? = some (.ok (.matched factor 0))
  earlier : ∀ outcome ∈ outcomes.take i, outcome = .ok .rejected

/-! ## Matching -/

theorem matchTargets_eq_none_iff {α : Type} [Magnitude α] {table : ConversionTable α}
    {unit : UnitVector} {targets : TargetList} :
    matchTargets table unit targets = none ↔
      ∀ target ∈ targets, matchTarget table unit target = none := by
  have numbered : ∀ first, matchFrom table unit first targets = none ↔
      ∀ target ∈ targets, matchTarget table unit target = none := by
    induction targets with
    | nil => simp [matchFrom]
    | cons target rest ih =>
        intro first
        rw [matchFrom, List.forall_mem_cons]
        cases matchTarget table unit target with
        | some factor => simp
        | none => simp [ih]
  exact numbered 0

namespace Verdict

theorem ofMatch_eq_matched_iff {found : Option (Float × Nat)} {factor : Float} {i : Nat} :
    ofMatch found = matched factor i ↔ found = some (factor, i) := by
  cases found <;> simp [ofMatch, Prod.ext_iff]

theorem ofMatch_eq_rejected_iff {found : Option (Float × Nat)} :
    ofMatch found = rejected ↔ found = none := by
  cases found <;> simp [ofMatch]

theorem ofMatch_single_eq_matched_iff {table : ConversionTable Float} {unit target : UnitVector}
    {factor : Float} :
    ofMatch (matchTargets table unit [target]) = matched factor 0 ↔
      matchTarget table unit target = some factor := by
  rw [ofMatch_eq_matched_iff, matchTargets_eq_some_iff]
  simp

theorem ofMatch_single_eq_rejected_iff {table : ConversionTable Float} {unit target : UnitVector} :
    ofMatch (matchTargets table unit [target]) = rejected ↔
      matchTarget table unit target = none := by
  rw [ofMatch_eq_rejected_iff, matchTargets_eq_none_iff, List.forall_mem_singleton]

theorem firstConverting_iff {table : ConversionTable Float} {unit : UnitVector}
    {targets : TargetList} {factor : Float} {i : Nat} :
    FirstConverting (targets.map fun target => .ok (ofMatch (matchTargets table unit [target])))
        factor i ↔
      matchTargets table unit targets = some (factor, i) := by
  rw [matchTargets_eq_some_iff]
  constructor
  · rintro ⟨converts, earlier⟩
    rw [List.getElem?_map, Option.map_eq_some_iff] at converts
    rw [← List.map_take, List.forall_mem_map] at earlier
    simp only [Except.ok.injEq, ofMatch_single_eq_matched_iff, ofMatch_single_eq_rejected_iff]
      at converts earlier
    obtain ⟨target, position, matched⟩ := converts
    exact ⟨target, position, matched, earlier⟩
  · rintro ⟨target, position, matched, earlier⟩
    constructor
    · rw [List.getElem?_map, position, Option.map_some,
        ofMatch_single_eq_matched_iff.mpr matched]
    · rw [← List.map_take, List.forall_mem_map]
      intro other member
      rw [ofMatch_single_eq_rejected_iff.mpr (earlier other member)]

end Verdict

/-! ## Answers -/

namespace RuleTexts

/-- What a check comes to once the targets are read, and there is at least one. -/
def answer (texts : RuleTexts) (input : String) (list : TargetList) : Except CheckError Verdict :=
  if Text.isBlankString input then .ok .rejected
  else match parseUnit input with
    | .error _ => .ok .rejected
    | .ok unit =>
        match texts.book with
        | .error cause => .error (.rules cause)
        | .ok book => .ok (.ofMatch (matchTargets book.table unit list))

variable {texts : RuleTexts} {input targets : String} {list : TargetList}

theorem check_eq_answer (visible : Text.isBlankString targets = false)
    (listed : parseTargets targets = .ok list) :
    texts.check input targets = texts.answer input list := by
  unfold check answer judge
  rw [visible, listed]
  cases Text.isBlankString input <;> rfl

theorem answer_cases (texts : RuleTexts) (input : String) :
    (∃ outcome, (∀ factor i, outcome ≠ .ok (.matched factor i)) ∧
      ∀ list, texts.answer input list = outcome) ∨
    ∃ table unit, ∀ list,
      texts.answer input list = .ok (.ofMatch (matchTargets table unit list)) := by
  unfold answer
  cases Text.isBlankString input with
  | true => exact Or.inl ⟨.ok .rejected, by simp, fun _ => rfl⟩
  | false =>
      cases parseUnit input with
      | error failure => exact Or.inl ⟨.ok .rejected, by simp, fun _ => rfl⟩
      | ok unit =>
          cases texts.book with
          | error cause => exact Or.inl ⟨.error (.rules cause), by simp, fun _ => rfl⟩
          | ok book => exact Or.inr ⟨book.table, unit, fun _ => rfl⟩

theorem answer_eq_matched_iff {factor : Float} {i : Nat} :
    texts.answer input list = .ok (.matched factor i) ↔
      FirstConverting (list.map fun target => texts.answer input [target]) factor i := by
  rcases answer_cases texts input with ⟨outcome, unmatched, constant⟩ | ⟨table, unit, found⟩
  · -- The targets are not looked at, and neither side reports one.
    simp only [constant]
    constructor
    · intro matched
      cases unmatched factor i matched
    · rintro ⟨converts, -⟩
      rw [List.getElem?_map, Option.map_eq_some_iff] at converts
      obtain ⟨-, -, matched⟩ := converts
      cases unmatched factor 0 matched
  · simp only [found]
    rw [Except.ok.injEq, Verdict.ofMatch_eq_matched_iff, Verdict.firstConverting_iff]

theorem answer_eq_rejected_iff (inhabited : list ≠ []) :
    texts.answer input list = .ok .rejected ↔
      ∀ target ∈ list, texts.answer input [target] = .ok .rejected := by
  rcases answer_cases texts input with ⟨outcome, -, constant⟩ | ⟨table, unit, found⟩
  · -- Without a target the right side would hold for every answer.
    obtain ⟨target, member⟩ := List.exists_mem_of_ne_nil list inhabited
    simp only [constant]
    exact ⟨fun rejected _ _ => rejected, fun rejected => rejected target member⟩
  · simp [found, Verdict.ofMatch_eq_rejected_iff, matchTargets_eq_none_iff]

theorem isOk_answer (compiled : texts.book.isOk = true) (input : String) (list : TargetList) :
    (texts.answer input list).isOk = true := by
  obtain ⟨book, built⟩ := isOk_iff.mp compiled
  unfold answer
  rw [built]
  cases Text.isBlankString input with
  | true => rfl
  | false => cases parseUnit input <;> rfl

end RuleTexts

/-! ## Texts -/

namespace TargetList

theorem forall₂_clauses {targets : String} {list : TargetList}
    (visible : Text.isBlankString targets = false) (listed : parseTargets targets = .ok list) :
    List.Forall₂ (fun clause target =>
      Text.isBlankString clause = false ∧ parseTargets clause = .ok [target])
      (clauses targets) list := by
  rcases parseTargets_eq_ok_iff.mp listed with ⟨blank, -⟩ | spelled
  · rw [visible] at blank
    cases blank
  · refine ((List.forall₂_and_left _ _).mpr ⟨fun _ => clauses_of_mem, spelled⟩).imp ?_
    rintro clause target ⟨alone, spells⟩
    refine ⟨spells.visible, parseTargets_eq_ok_iff.mpr (Or.inr ?_)⟩
    rw [alone]
    exact .cons spells .nil

end TargetList

namespace RuleTexts

variable {texts : RuleTexts} {input targets : String} {list : TargetList}

theorem map_check_clauses (visible : Text.isBlankString targets = false)
    (listed : parseTargets targets = .ok list) :
    (TargetList.clauses targets).map (texts.check input) =
      list.map fun target => texts.answer input [target] := by
  rw [← List.forall₂_eq_eq_eq, List.forall₂_map_left_iff, List.forall₂_map_right_iff]
  apply (TargetList.forall₂_clauses visible listed).imp
  rintro clause target ⟨clauseVisible, read⟩
  exact check_eq_answer clauseVisible read

theorem ne_nil_of_parseTargets (visible : Text.isBlankString targets = false)
    (listed : parseTargets targets = .ok list) : list ≠ [] := by
  rintro rfl
  have clauses := TargetList.forall₂_clauses visible listed
  rw [List.forall₂_nil_right_iff, TargetList.clauses, List.map_eq_nil_iff] at clauses
  exact List.splitOn_ne_nil _ _ clauses

end RuleTexts

namespace Session

/-- A check against a list of targets, compared with checks against the clauses of the list in
sessions with the same rules, for instance the same session later on. It reports the first clause
that is not rejected, if that one converts, and rejects if all clauses are rejected. When the rules
compile none of the checks fails. -/
theorem check_targets_iff {commands : List SessionCommand} {alone : String → List SessionCommand}
    {input targets : String} {list : TargetList}
    (same : ∀ clause, (start.run (alone clause)).1.texts = (start.run commands).1.texts)
    (visible : Text.isBlankString targets = false) (listed : parseTargets targets = .ok list) :
    let outcomes := (TargetList.clauses targets).map fun clause =>
      ((start.run (alone clause)).1.check input clause).2
    (∀ factor i, ((start.run commands).1.check input targets).2 = .ok (.matched factor i) ↔
      FirstConverting outcomes factor i) ∧
    (((start.run commands).1.check input targets).2 = .ok .rejected ↔
      ∀ outcome ∈ outcomes, outcome = .ok .rejected) ∧
    ((start.run commands).1.texts.book.isOk = true →
      ((start.run commands).1.check input targets).2.isOk = true ∧
        ∀ outcome ∈ outcomes, outcome.isOk = true) := by
  have each : (TargetList.clauses targets).map ((start.run commands).1.texts.check input) =
      list.map fun target => (start.run commands).1.texts.answer input [target] :=
    RuleTexts.map_check_clauses visible listed
  simp only [check_eq_of_run, same]
  rw [RuleTexts.check_eq_answer visible listed]
  refine ⟨?_, ?_, ?_⟩
  · intro factor i
    rw [RuleTexts.answer_eq_matched_iff, each]
  · rw [RuleTexts.answer_eq_rejected_iff (RuleTexts.ne_nil_of_parseTargets visible listed), each,
      List.forall_mem_map]
  · intro compiled
    rw [each, List.forall_mem_map]
    exact ⟨RuleTexts.isOk_answer compiled input list,
      fun target _ => RuleTexts.isOk_answer compiled input [target]⟩

def giantCommands : List SessionCommand :=
  [.selectPreset 1 "m: Y y; s: m"]

/-- The factor to the first target is out of range, and the second one has another class. -/
theorem check_targets_iff_giant :
    (∀ clause, (start.run (giantCommands ++ [.check "Ym^9" clause])).1.texts =
      (start.run giantCommands).1.texts) ∧
    parseTargets "ym^9 = ms^9 = m^9" =
      .ok [⟨[⟨"ym", 9⟩]⟩, ⟨[⟨"ms", 9⟩]⟩, ⟨[⟨"m", 9⟩]⟩] ∧
    FirstConverting (["ym^9 ", " ms^9 ", " m^9"].map fun clause =>
      ((start.run (giantCommands ++ [.check "Ym^9" clause])).1.check "Ym^9" clause).2) 1e216 2 := by
  have same : ∀ clause, (start.run (giantCommands ++ [.check "Ym^9" clause])).1.texts =
      (start.run giantCommands).1.texts := by
    intro clause
    rw [texts_run coherent_start, texts_run coherent_start]
    rfl
  have listed : parseTargets "ym^9 = ms^9 = m^9" =
      .ok [⟨[⟨"ym", 9⟩]⟩, ⟨[⟨"ms", 9⟩]⟩, ⟨[⟨"m", 9⟩]⟩] := rfl
  have value : ((start.run giantCommands).1.check "Ym^9" "ym^9 = ms^9 = m^9").2.toOption =
      some (.matched 1e216 2) := by decide +kernel
  obtain ⟨first, -, -⟩ := check_targets_iff same rfl listed
  exact ⟨same, listed, (first 1e216 2).mp (toOption_eq_some_iff.mp value)⟩

end Session

end UnitCheck
