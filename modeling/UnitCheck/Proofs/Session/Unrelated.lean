import UnitCheck.Proofs.Matching.Locality
import UnitCheck.Proofs.Rules.Classes
import UnitCheck.Proofs.Session.Verdicts

/-!
# Rules about other units

Question rules can join classes of the preset, take units out of them, and give new scales. All of
this concerns the units that they mention. A check looks up the units of the submission and of the
targets only, so if none of them is mentioned, the question rules might as well not be there.

* `getElem?_extend_of_not_mentioned`: rules leave the entries of other units alone.
* `Unrelated.judge_eq`: so the verdict of a book is the one before unrelated rules were folded in.
* `Session.check_eq_of_unrelated` compares two sessions on one preset text, each with the session
  that has no question rules.
-/

namespace UnitCheck

/-- The units that the clauses of a rule text mention, prefixed forms included. -/
def Clause.mentioned (rules : String) : List String :=
  (readText rules).1.flatMap units

/-- A rule text mentions no unit of the submission and of the targets. -/
structure Unrelated (rules input targets : String) : Prop where
  input : ∀ unit, parseUnit input = .ok unit → (Clause.mentioned rules).Disjoint unit.units
  targets : ∀ list, parseTargets targets = .ok list →
    ∀ target ∈ list, (Clause.mentioned rules).Disjoint target.units

variable {rules input targets : String}

theorem unrelated_of_parsed {unit : UnitVector} {list : TargetList}
    (parsed : parseUnit input = .ok unit) (listed : parseTargets targets = .ok list)
    (absent : ∀ name ∈ Clause.mentioned rules,
      name ∉ unit.units ∧ ∀ target ∈ list, name ∉ target.units) :
    Unrelated rules input targets := by
  constructor
  · intro other read
    obtain rfl := Except.ok.inj (parsed.symm.trans read)
    exact List.disjoint_left.mpr fun name mentioned => (absent name mentioned).1
  · intro others read target member
    obtain rfl := Except.ok.inj (listed.symm.trans read)
    exact List.disjoint_left.mpr fun name mentioned => (absent name mentioned).2 target member

theorem Unrelated.not_mem_mentioned (unrelated : Unrelated rules input targets) {unit : UnitVector}
    {list : TargetList} (parsed : parseUnit input = .ok unit)
    (listed : parseTargets targets = .ok list) {name : String} (occurs : Occurring unit list name) :
    name ∉ Clause.mentioned rules := by
  rcases occurs with member | ⟨target, targetMember, member⟩
  · exact List.disjoint_right.mp (unrelated.input unit parsed) member
  · exact List.disjoint_right.mp (unrelated.targets list listed target targetMember) member

theorem getElem?_extend_of_not_mentioned {α : Type} [Magnitude α] {book larger : RuleBook α}
    (extended : book.extend rules = .ok larger) {name : String}
    (absent : name ∉ Clause.mentioned rules) : larger.table[name]? = book.table[name]? := by
  obtain ⟨clauses, spelled, rfl⟩ := RuleBook.extend_eq_ok_iff.mp extended
  rw [Clause.mentioned, Clause.mapM_read_eq_ok_iff.mp spelled, List.mem_flatMap] at absent
  apply getElem?_addAll_of_not_mem
  intro clause member mentioned
  exact absent ⟨clause, member, mentioned⟩

theorem Unrelated.judge_eq {base book : RuleBook Float} (unrelated : Unrelated rules input targets)
    (extended : base.extend rules = .ok book) {unit : UnitVector}
    (parsed : parseUnit input = .ok unit) :
    judge book.table unit targets = judge base.table unit targets := by
  unfold judge
  cases listed : parseTargets targets with
  | error cause => rfl
  | ok list =>
      have agree : book.table.AgreeOn base.table (Occurring unit list) := by
        apply agreeOn_of_getElem?_eq
        intro name occurs
        exact getElem?_extend_of_not_mentioned extended
          (unrelated.not_mem_mentioned parsed listed occurs)
      simp only [matchTargets_eq_of_agreeOn agree]

theorem RuleTexts.check_of_unrelated {id : UInt32} {preset : String}
    (compiles : (RuleBook.ofRules (α := Float) rules).isOk = true)
    (unrelated : Unrelated rules input targets) :
    check ⟨id, preset, rules⟩ input targets = check ⟨0, preset, ""⟩ input targets := by
  unfold check
  cases parsed : parseUnit input with
  | error failure => rfl
  | ok unit =>
      rw [book_eq, book_eq]
      cases RuleBook.ofRules (α := Float) preset with
      | error cause => rfl
      | ok base =>
          obtain ⟨book, extended⟩ : ∃ book, base.extend rules = .ok book := by
            rw [← isOk_iff, RuleBook.isOk_extend, compiles]
          -- The other side has question rules too, but they are empty.
          have bare : base.extend "" = .ok base := rfl
          simp only [Except.bind, extended, bare, unrelated.judge_eq extended parsed]

namespace Session

/-- Two sessions on one preset text answer a check alike if the question rules of both are about
other units than those of the check. A preset that does not compile is the same error for both. -/
theorem check_eq_of_unrelated {commands others : List SessionCommand} {id otherId : UInt32}
    {preset first second : String}
    (texts : (start.run commands).1.texts = ⟨id, preset, first⟩)
    (otherTexts : (start.run others).1.texts = ⟨otherId, preset, second⟩)
    (compiles : (RuleBook.ofRules (α := Float) first).isOk = true)
    (otherCompiles : (RuleBook.ofRules (α := Float) second).isOk = true)
    (unrelated : Unrelated first input targets) (otherUnrelated : Unrelated second input targets) :
    ((start.run commands).1.check input targets).2 =
      ((start.run others).1.check input targets).2 := by
  rw [check_eq_of_run, check_eq_of_run, texts, otherTexts,
    RuleTexts.check_of_unrelated compiles unrelated,
    RuleTexts.check_of_unrelated otherCompiles otherUnrelated]

def lengthCommands : List SessionCommand :=
  [.selectPreset 1 "m: k c; s: m", .check "km" "cm", .setQuestionRules "12 inch = ft; 2 ks = m"]

def massCommands : List SessionCommand :=
  [.setQuestionRules "m: k", .selectPreset 2 "m: k c; s: m", .setQuestionRules "ms = 7 kg; g: k m"]

/-- The question rules found classes, enlarge one, and take `m` out of the class of `km`. -/
theorem check_eq_of_unrelated_lengths :
    ((start.run lengthCommands).1.check "km^2" "s = cm^2").2 =
        ((start.run massCommands).1.check "km^2" "s = cm^2").2 ∧
      ((start.run massCommands).1.check "km^2" "s = cm^2").2.toOption =
        some (.matched 1e10 1) := by
  have texts : (start.run lengthCommands).1.texts =
      ⟨1, "m: k c; s: m", "12 inch = ft; 2 ks = m"⟩ := texts_run coherent_start lengthCommands
  have otherTexts : (start.run massCommands).1.texts =
      ⟨2, "m: k c; s: m", "ms = 7 kg; g: k m"⟩ := texts_run coherent_start massCommands
  have unrelated : Unrelated "12 inch = ft; 2 ks = m" "km^2" "s = cm^2" :=
    unrelated_of_parsed rfl rfl (by decide +kernel)
  have otherUnrelated : Unrelated "ms = 7 kg; g: k m" "km^2" "s = cm^2" :=
    unrelated_of_parsed rfl rfl (by decide +kernel)
  exact ⟨check_eq_of_unrelated texts otherTexts (by decide +kernel) (by decide +kernel) unrelated
    otherUnrelated, by decide +kernel⟩

end Session

end UnitCheck
