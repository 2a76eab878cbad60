import UnitCheck.Proofs.Outcome
import UnitCheck.Proofs.Unit.Writing
import UnitCheck.Unit.Targets

/-!
# Target lists, clause by clause

A target list is read clause by clause. A clause `Spells` a target, or it is `Faulty` in one of two
ways; the targets of a list are what its clauses spell, and the failure of a list is that of its
leftmost faulty clause.

* `parse_eq_ok_empty_iff`: only white space is parsed to the dimensionless unit, so no target is
  dimensionless.
* `forall₂_padded_splitOn`: written targets hold no `=`, and joined by ` = ` they are taken apart
  again into their texts with white space around them.
* `parseTargets_clauses` puts them together.
-/

namespace UnitCheck

/-- The texts between the equals signs of a target list. -/
def TargetList.clauses (targets : String) : List String :=
  (targets.toList.splitOn '=').map String.ofList

namespace UnitGrammar

open UnitExpression

theorem parse_eq_ok_empty_iff {text : List Char} : parse text = .ok .empty ↔ Text.Blank text := by
  rw [parse_eq_ok_iff]
  constructor
  · rintro ⟨derived, -⟩
    generalize none : UnitVector.empty.items = items at derived
    cases derived with
    | blank blank => exact blank
    | product product => exact absurd none.symm (product_iff.mp product).1
    | quotient product divisor =>
        exact absurd (List.append_eq_nil_iff.mp none.symm).1 (product_iff.mp product).1
  · intro blank
    exact ⟨.blank blank, List.nodup_nil⟩

end UnitGrammar

theorem parseTargets_of_blank {targets : String} (blank : Text.isBlankString targets = true) :
    parseTargets targets = .ok [] :=
  if_pos blank

namespace TargetList

open UnitGrammar

/-! ## One clause -/

/-- The clause is the text of a unit, and this unit is the target. -/
structure Spells (clause : String) (target : UnitVector) : Prop where
  visible : Text.isBlankString clause = false
  parsed : parseUnit clause = .ok target

/-- What is wrong with a clause that spells no target. -/
inductive Faulty (clause : String) : TargetError → Prop
  | blank : Text.isBlankString clause = true → Faulty clause .blankClause
  | malformed {cause : UnitError} : Text.isBlankString clause = false →
      parseUnit clause = .error cause →
      Faulty clause (.invalidClause (Text.trimString clause) cause)

/-- The leftmost clause that spells no target fails in the given way. -/
def LeftmostFault (clauses : List String) (failure : TargetError) : Prop :=
  ∃ before clause after, clauses = before ++ clause :: after ∧
    (∀ earlier ∈ before, ∃ target, Spells earlier target) ∧ Faulty clause failure

theorem Spells.ne_empty {clause : String} {target : UnitVector} (spells : Spells clause target) :
    target ≠ .empty := by
  rintro rfl
  have visible := spells.visible
  rw [Text.isBlankString_iff.mpr (parse_eq_ok_empty_iff.mp spells.parsed)] at visible
  cases visible

theorem readClause_toList (clause : String) :
    readClause clause.toList =
      if Text.isBlankString clause then .error .blankClause
      else match parseUnit clause with
        | .ok target => .ok target
        | .error cause => .error (.invalidClause (Text.trimString clause) cause) := rfl

theorem Spells.read {clause : String} {target : UnitVector} (spells : Spells clause target) :
    readClause clause.toList = .ok target := by
  rw [readClause_toList, spells.visible, spells.parsed]
  rfl

theorem Faulty.read {clause : String} {failure : TargetError} (faulty : Faulty clause failure) :
    readClause clause.toList = .error failure := by
  cases faulty with
  | blank blank =>
      rw [readClause_toList, blank]
      rfl
  | malformed visible refused =>
      rw [readClause_toList, visible, refused]
      rfl

theorem spells_or_faulty (clause : String) :
    (∃ target, Spells clause target) ∨ ∃ failure, Faulty clause failure := by
  cases visible : Text.isBlankString clause with
  | true => exact Or.inr ⟨_, .blank visible⟩
  | false =>
      cases parsed : parseUnit clause with
      | ok target => exact Or.inl ⟨target, visible, parsed⟩
      | error cause => exact Or.inr ⟨_, .malformed visible parsed⟩

theorem readClause_eq_ok_iff {clause : String} {target : UnitVector} :
    readClause clause.toList = .ok target ↔ Spells clause target := by
  refine ⟨fun read => ?_, Spells.read⟩
  rcases spells_or_faulty clause with ⟨other, spells⟩ | ⟨failure, faulty⟩
  · rw [spells.read] at read
    cases read
    exact spells
  · rw [faulty.read] at read
    cases read

theorem readClause_eq_error_iff {clause : String} {failure : TargetError} :
    readClause clause.toList = .error failure ↔ Faulty clause failure := by
  refine ⟨fun read => ?_, Faulty.read⟩
  rcases spells_or_faulty clause with ⟨target, spells⟩ | ⟨other, faulty⟩
  · rw [spells.read] at read
    cases read
  · rw [faulty.read] at read
    cases read
    exact faulty

/-! ## All clauses -/

theorem parseTargets_of_visible {text : String} (visible : Text.isBlankString text = false) :
    parseTargets text = (clauses text).mapM fun clause => readClause clause.toList := by
  have read : (readClause ∘ String.toList) ∘ String.ofList = readClause := by
    funext clause
    exact congrArg readClause String.toList_ofList
  rw [clauses, List.mapM_map]
  change _ = (text.toList.splitOn '=').mapM ((readClause ∘ String.toList) ∘ String.ofList)
  rw [read]
  exact if_neg (by rw [← Text.isBlankString, visible]; exact Bool.false_ne_true)

theorem isOk_parseTargets_iff {text : String} :
    (parseTargets text).isOk = true ↔ Text.isBlankString text = true ∨
      ∀ clause ∈ clauses text,
        Text.isBlankString clause = false ∧ (parseUnit clause).isOk = true := by
  have each : ∀ clause : String, (readClause clause.toList).isOk = true ↔
      Text.isBlankString clause = false ∧ (parseUnit clause).isOk = true := by
    intro clause
    rw [isOk_iff, isOk_iff]
    simp only [readClause_eq_ok_iff]
    constructor
    · rintro ⟨target, visible, parsed⟩
      exact ⟨visible, target, parsed⟩
    · rintro ⟨visible, target, parsed⟩
      exact ⟨target, visible, parsed⟩
  cases visible : Text.isBlankString text with
  | true => simp [parseTargets_of_blank visible]
  | false =>
      rw [parseTargets_of_visible visible, isOk_mapM_iff]
      simp [each]

theorem clauses_of_single {text : String} (single : '=' ∉ text.toList) : clauses text = [text] := by
  rw [clauses, List.splitOn_eq_singleton single, List.map_singleton, String.ofList_toList]

theorem clauses_of_mem {text clause : String} (member : clause ∈ clauses text) :
    clauses clause = [clause] := by
  obtain ⟨piece, inside, rfl⟩ := List.mem_map.mp member
  apply clauses_of_single
  rw [String.toList_ofList]
  exact Text.not_mem_of_mem_splitOn inside

theorem parseTargets_eq_ok_iff {text : String} {list : TargetList} :
    parseTargets text = .ok list ↔
      (Text.isBlankString text = true ∧ list = []) ∨ List.Forall₂ Spells (clauses text) list := by
  cases visible : Text.isBlankString text with
  | true =>
      -- The one clause of a blank text is blank and spells nothing.
      have unspelled : ¬List.Forall₂ Spells (clauses text) list := by
        have single : '=' ∉ text.toList := (Text.isBlankString_iff.mp visible).not_mem (by decide)
        rw [clauses_of_single single, List.forall₂_cons_left_iff]
        rintro ⟨target, rest, spells, -, -⟩
        rw [spells.visible] at visible
        cases visible
      rw [parseTargets_of_blank visible]
      simp [unspelled, eq_comm]
  | false =>
      rw [parseTargets_of_visible visible, mapM_eq_ok_iff]
      simp [readClause_eq_ok_iff]

theorem parseTargets_eq_error_iff {text : String} {failure : TargetError} :
    parseTargets text = .error failure ↔
      Text.isBlankString text = false ∧ LeftmostFault (clauses text) failure := by
  cases visible : Text.isBlankString text with
  | true =>
      rw [parseTargets_of_blank visible]
      simp
  | false =>
      rw [parseTargets_of_visible visible, mapM_eq_error_iff]
      simp only [readClause_eq_ok_iff, readClause_eq_error_iff, LeftmostFault, true_and]

theorem exists_spells_of_mem {clauses : List String} {list : TargetList}
    (spells : List.Forall₂ Spells clauses list) {target : UnitVector} (member : target ∈ list) :
    ∃ clause, Spells clause target := by
  induction spells with
  | nil => cases member
  | @cons clause first clauses rest here _ ih =>
      rcases List.mem_cons.mp member with rfl | later
      · exact ⟨clause, here⟩
      · exact ih later

/-! ## Written targets -/

/-- The text with white space around it. -/
def Padded (core text : List Char) : Prop :=
  ∃ before after, Text.Blank before ∧ Text.Blank after ∧ text = before ++ core ++ after

/-- Texts joined by ` = ` are taken apart into the same texts with white space around them. The
first of them may have white space before it. -/
theorem forall₂_padded_splitOn {texts : List (List Char)} (some : texts ≠ [])
    (clean : ∀ text ∈ texts, '=' ∉ text) {lead : List Char} (blank : Text.Blank lead) :
    List.Forall₂ Padded texts ((lead ++ [' ', '=', ' '].intercalate texts).splitOn '=') := by
  have space : Text.Blank [' '] := .cons (by decide) Text.blank_nil
  have noSign : ∀ {spaces : List Char}, Text.Blank spaces → '=' ∉ spaces :=
    fun blank => blank.not_mem (by decide)
  induction texts generalizing lead with
  | nil => exact absurd rfl some
  | cons text rest ih =>
      obtain ⟨here, others⟩ := List.forall_mem_cons.mp clean
      cases rest with
      | nil =>
          have single : '=' ∉ lead ++ text := by simp [noSign blank, here]
          rw [List.intercalate_singleton, List.splitOn_eq_singleton single]
          exact .cons ⟨lead, [], blank, Text.blank_nil, by simp⟩ .nil
      | cons next rest =>
          have single : '=' ∉ lead ++ text ++ [' '] := by simp [noSign blank, here]
          have joined : lead ++ [' ', '=', ' '].intercalate (text :: next :: rest) =
              (lead ++ text ++ [' ']) ++
                '=' :: ([' '] ++ [' ', '=', ' '].intercalate (next :: rest)) := by
            rw [List.intercalate_cons_cons]
            simp
          rw [joined, List.splitOn_append_cons_self_of_not_mem single]
          exact .cons ⟨lead, [' '], blank, space, rfl⟩ (ih (List.cons_ne_nil _ _) others space)

theorem Spells.product {clause : String} {target : UnitVector} (spells : Spells clause target) :
    Product target.render.toList target.items :=
  product_render (UnitVector.isEmpty_eq_false_iff.mpr spells.ne_empty)
    (expressible_iff.mp (expressible_of_parseUnit spells.parsed)).1

/-- What is written for a target spells it, also with white space around it. -/
theorem Spells.padded {clause : String} {target : UnitVector} (spells : Spells clause target)
    {text : List Char} (padded : Padded target.render.toList text) :
    Spells (String.ofList text) target := by
  obtain ⟨before, after, leading, trailing, rfl⟩ := padded
  generalize same : before ++ target.render.toList ++ after = text
  have product : Product text target.items :=
    same ▸ (product_of_padded leading trailing).mpr spells.product
  have parsed : parseUnit (String.ofList text) = .ok target := by
    rw [parseUnit_eq_ok_iff, String.toList_ofList]
    exact ⟨.product product, (expressible_of_parseUnit spells.parsed).distinct⟩
  refine ⟨?_, parsed⟩
  rw [Bool.eq_false_iff, Ne, Text.isBlankString_iff]
  intro blank
  have none : parseUnit (String.ofList text) = .ok .empty := parse_eq_ok_empty_iff.mpr blank
  exact spells.ne_empty (Except.ok.inj (parsed.symm.trans none))

theorem forall₂_clauses_render {list : TargetList} (some : list ≠ [])
    (spelled : ∀ target ∈ list, ∃ clause, Spells clause target) :
    List.Forall₂ Spells (clauses (" = ".intercalate (list.map UnitVector.render))) list := by
  have clean : ∀ text ∈ list.map fun target => target.render.toList, '=' ∉ text := by
    rw [List.forall_mem_map]
    intro target member
    obtain ⟨clause, spells⟩ := spelled target member
    exact spells.product.not_mem (by decide)
  have split := forall₂_padded_splitOn (by simpa using some) clean Text.blank_nil
  rw [List.nil_append, List.forall₂_map_left_iff] at split
  have joined : (" = ".intercalate (list.map UnitVector.render)).toList =
      [' ', '=', ' '].intercalate (list.map fun target => target.render.toList) := by
    rw [String.toList_intercalate, List.map_map]
    rfl
  rw [clauses, joined, List.forall₂_map_left_iff]
  refine (((List.forall₂_and_left _ _).mpr ⟨spelled, split⟩).imp ?_).flip
  rintro target text ⟨⟨clause, spells⟩, padded⟩
  exact spells.padded padded

/-- A text is a target list when it is blank or each of its clauses spells a target, and these are
its targets. None of them is dimensionless, and joining their texts by ` = ` gives a text of the
same list. The failure of any other text is that of its leftmost faulty clause. -/
theorem parseTargets_clauses (text : String) :
    ((parseTargets text).isOk = true ↔ Text.isBlankString text = true ∨
      ∀ clause ∈ clauses text,
        Text.isBlankString clause = false ∧ (parseUnit clause).isOk = true) ∧
    (∀ list, parseTargets text = .ok list ↔
      (Text.isBlankString text = true ∧ list = []) ∨ List.Forall₂ Spells (clauses text) list) ∧
    (∀ list, parseTargets text = .ok list →
      (∀ target ∈ list, target ≠ .empty) ∧
      (list ≠ [] → parseTargets (" = ".intercalate (list.map UnitVector.render)) = .ok list)) ∧
    ∀ failure, parseTargets text = .error failure ↔
      Text.isBlankString text = false ∧ LeftmostFault (clauses text) failure := by
  refine ⟨isOk_parseTargets_iff, fun list => parseTargets_eq_ok_iff, ?_,
    fun failure => parseTargets_eq_error_iff⟩
  intro list read
  have spelled : ∀ target ∈ list, ∃ clause, Spells clause target := by
    intro target member
    rcases parseTargets_eq_ok_iff.mp read with ⟨-, rfl⟩ | spells
    · cases member
    · exact exists_spells_of_mem spells member
  refine ⟨?_, ?_⟩
  · intro target member
    obtain ⟨clause, spells⟩ := spelled target member
    exact spells.ne_empty
  · intro some
    exact parseTargets_eq_ok_iff.mpr (Or.inr (forall₂_clauses_render some spelled))

/-- White space around the clauses is lost, and a fault behind the leftmost one is not reported. -/
theorem parseTargets_clauses_joule :
    parseTargets "J=N  m =kg m^2/s^2" = parseTargets "J = N m = kg m^2 s^-2" ∧
      LeftmostFault ["J ", " m^0", ""] (.invalidClause "m^0" (.invalidExponent "0")) := by
  obtain ⟨-, -, read, -⟩ := parseTargets_clauses "J=N  m =kg m^2/s^2"
  obtain ⟨-, -, -, refused⟩ := parseTargets_clauses "J = m^0="
  have list : parseTargets "J=N  m =kg m^2/s^2" = .ok [⟨[⟨"J", 1⟩]⟩, ⟨[⟨"N", 1⟩, ⟨"m", 1⟩]⟩,
      ⟨[⟨"kg", 1⟩, ⟨"m", 2⟩, ⟨"s", -2⟩]⟩] := rfl
  obtain ⟨-, again⟩ := read _ list
  exact ⟨list.trans (again (List.cons_ne_nil _ _)).symm, ((refused _).mp rfl).2⟩

end TargetList

end UnitCheck
