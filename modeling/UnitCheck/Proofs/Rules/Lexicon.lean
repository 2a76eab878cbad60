import UnitCheck.Proofs.Rules.Classes
import UnitCheck.Proofs.Rules.Grammar
import UnitCheck.Proofs.Unit.Targets

/-!
# One lexicon

Unit expressions, target lists and rule texts each take texts apart in their own way, and yet have
the same names: `lexicon_agrees`. A name alone is a unit, a target list and a rule text that defines
this name and nothing else, and no other text is any of the three.

* `isUnitName_of_parseUnit` and `isUnitName_of_mem_units`: what units and clauses mention are names.
* `mem_addAll_iff` says which units a book knows, `isUnitName_of_mem_compileAll` that they are names
  after any texts, the malformed ones included.
-/

namespace UnitCheck

/-! ## Units and targets -/

variable {name : String}

theorem isBlankString_of_isUnitName (valid : isUnitName name = true) :
    Text.isBlankString name = false := by
  obtain ⟨c, rest, same, char⟩ := exists_cons_of_isName valid
  rw [Text.isBlankString, same, List.all_cons, not_isBlank_of_isNameChar char, Bool.false_and]

theorem isUnitName_of_parseUnit {text : String} {v : UnitVector} (parsed : parseUnit text = .ok v) :
    ∀ unit ∈ v.units, isUnitName unit = true :=
  List.forall_mem_map.mpr (expressible_of_parseUnit parsed).named

theorem parseUnit_eq_single_iff :
    parseUnit name = .ok (.single name 1) ↔ isUnitName name = true := by
  constructor
  · intro parsed
    exact isUnitName_of_parseUnit parsed name List.mem_cons_self
  · intro valid
    refine UnitGrammar.parse_eq_ok_iff.mpr ⟨.product ?_, List.nodup_singleton name⟩
    have item : UnitGrammar.Item name.toList (name, 1) := by
      simpa using UnitGrammar.Item.bare valid
    have items : (UnitVector.single name 1).items = [(name, 1)] := rfl
    rw [items]
    simpa using UnitGrammar.Product.padded Text.blank_nil (.single item) Text.blank_nil

theorem parseTargets_eq_single_iff :
    parseTargets name = .ok [.single name 1] ↔ isUnitName name = true := by
  rw [TargetList.parseTargets_eq_ok_iff]
  constructor
  · rintro (⟨-, none⟩ | spells)
    · cases none
    · obtain ⟨clause, spells⟩ := TargetList.exists_spells_of_mem spells List.mem_cons_self
      exact isUnitName_of_parseUnit spells.parsed name List.mem_cons_self
  · intro valid
    have single : '=' ∉ name.toList := not_mem_of_isName valid (by decide)
    have spells : TargetList.Spells name (.single name 1) :=
      ⟨isBlankString_of_isUnitName valid, parseUnit_eq_single_iff.mpr valid⟩
    rw [TargetList.clauses_of_single single]
    exact Or.inr (.cons spells .nil)

/-! ## Rules -/

theorem isUnitName_append {first second : String} (firstValid : isUnitName first = true)
    (secondValid : isUnitName second = true) : isUnitName (first ++ second) = true := by
  obtain ⟨nonempty, chars⟩ := isName_iff.mp firstValid
  obtain ⟨-, others⟩ := isName_iff.mp secondValid
  rw [isUnitName, String.toList_append, isName_iff]
  exact ⟨by simp [nonempty], List.forall_mem_append.mpr ⟨chars, others⟩⟩

theorem SiPrefix.isUnitName_symbol (p : SiPrefix) : isUnitName p.symbol = true := by
  cases p <;> decide

theorem RuleGrammar.TermText.isUnitName {text : List Char} {term : Term}
    (derived : TermText text term) : isUnitName term.unit = true := by
  cases derived with
  | bare _ valid _ => simpa using valid
  | numbered _ _ _ _ _ valid _ => simpa using valid

theorem isUnitName_of_mem_terms {pieces : List (List Char)} {terms : List Term}
    (derived : List.Forall₂ RuleGrammar.TermText pieces terms) :
    ∀ term ∈ terms, isUnitName term.unit = true := by
  induction derived with
  | nil => simp
  | cons here _ ih => exact List.forall_mem_cons.mpr ⟨here.isUnitName, ih⟩

/-- The prefixed forms of a name are names too. -/
theorem Clause.isUnitName_of_mem_units {text : List Char} {clause : Clause}
    (spelled : read text = .ok clause) : ∀ unit ∈ clause.units, isUnitName unit = true := by
  cases read_eq_ok_iff.mp spelled with
  | shorthand _ valid _ _ _ =>
      rw [← isUnitName_ofList] at valid
      simp only [units, List.forall_mem_cons, List.forall_mem_map]
      exact ⟨valid, fun p _ => isUnitName_append p.isUnitName_symbol valid⟩
  | chain _ terms =>
      rw [units, List.forall_mem_map]
      exact isUnitName_of_mem_terms terms

theorem Clause.read_of_mem_readAll {texts : List (List Char)} {clause : Clause}
    (member : clause ∈ (readAll texts).1) : ∃ text, read text = .ok clause := by
  induction texts with
  | nil => cases member
  | cons text rest ih =>
      rw [readAll] at member
      cases spelled : read text with
      | error failure =>
          rw [spelled] at member
          cases member
      | ok first =>
          rw [spelled] at member
          rcases List.mem_cons.mp member with rfl | later
          · exact ⟨text, spelled⟩
          · exact ih later

section Books

variable {α : Type} [Magnitude α]

theorem mem_add_iff {book : RuleBook α} {clause : Clause} {unit : String} :
    unit ∈ (book.add clause).table ↔ unit ∈ book.table ∨ unit ∈ clause.units := by
  cases head : clause.units.head? with
  | none =>
      rw [RuleBook.add_of_no_units head, List.head?_eq_none_iff.mp head]
      simp
  | some first =>
      rw [ConversionTable.mem_iff_classOf?, RuleBook.classOf?_add head,
        ConversionTable.mem_iff_classOf?]
      split <;> simp [*]

theorem mem_addAll_iff {book : RuleBook α} {clauses : List Clause} {unit : String} :
    unit ∈ (book.addAll clauses).table ↔
      unit ∈ book.table ∨ ∃ clause ∈ clauses, unit ∈ clause.units := by
  induction clauses generalizing book with
  | nil => simp [RuleBook.addAll]
  | cons clause rest ih =>
      rw [RuleBook.addAll, List.foldl_cons, ← RuleBook.addAll, ih, mem_add_iff]
      simp [or_assoc]

/-- The entries after texts are compiled into a table, one after the other. Each has its own first
class number, and those before the malformed clause of a text stay. -/
def ConversionTable.compileAll (table : ConversionTable α)
    (texts : List (DimensionClass × String)) : ConversionTable α :=
  texts.foldl (fun table text => (RuleBook.addRules ⟨table, text.1⟩ text.2).1.table) table

theorem isUnitName_of_mem_addRules (book : RuleBook α)
    (names : ∀ unit ∈ book.table, isUnitName unit = true) (rules : String) :
    ∀ unit ∈ (book.addRules rules).1.table, isUnitName unit = true := by
  intro unit member
  rcases mem_addAll_iff.mp member with known | ⟨clause, read, mentioned⟩
  · exact names unit known
  · obtain ⟨text, spelled⟩ := Clause.read_of_mem_readAll read
    exact Clause.isUnitName_of_mem_units spelled unit mentioned

theorem isUnitName_of_mem_extend {book larger : RuleBook α} {rules : String}
    (names : ∀ unit ∈ book.table, isUnitName unit = true) (built : book.extend rules = .ok larger) :
    ∀ unit ∈ larger.table, isUnitName unit = true := by
  have added := isUnitName_of_mem_addRules book names rules
  unfold RuleBook.extend at built
  generalize book.addRules rules = outcome at added built
  obtain ⟨after, failure⟩ := outcome
  cases failure with
  | none => cases built; exact added
  | some failure => cases built

theorem isUnitName_of_mem_compileAll {table : ConversionTable α}
    (names : ∀ unit ∈ table, isUnitName unit = true) (texts : List (DimensionClass × String)) :
    ∀ unit ∈ table.compileAll texts, isUnitName unit = true := by
  induction texts generalizing table with
  | nil => exact names
  | cons text rest ih =>
      apply ih
      exact isUnitName_of_mem_addRules ⟨table, text.1⟩ names text.2

end Books

/-! ## A name alone -/

theorem readText_of_isUnitName (valid : isUnitName name = true) :
    Clause.readText name = ([.chain [⟨none, name⟩]], none) := by
  have visible : name.toList.all Text.isBlank = false := isBlankString_of_isUnitName valid
  have whole : Clause.split name = [name.toList] := by
    rw [Clause.split, List.splitOn_eq_singleton (not_mem_of_isName valid (by decide))]
    simp [visible]
  have term : RuleGrammar.TermText name.toList ⟨none, name⟩ := by
    simpa using RuleGrammar.TermText.bare Text.blank_nil valid Text.blank_nil
  have equals : name.toList.splitOn '=' = [name.toList] :=
    List.splitOn_eq_singleton (not_mem_of_isName valid (by decide))
  have chain : RuleGrammar.ClauseText name.toList (.chain [⟨none, name⟩]) := by
    refine .chain (not_mem_of_isName valid (by decide)) ?_
    rw [equals]
    exact .cons term .nil
  rw [Clause.readText, whole, Clause.readAll, Clause.read_eq_ok_iff.mpr chain]
  rfl

/-- A name alone founds a class and is one of it. -/
theorem extend_of_isUnitName (valid : isUnitName name = true) (nextClass : DimensionClass) :
    (RuleBook.startingAt nextClass : RuleBook Float).extend name =
      .ok ⟨({} : ConversionTable Float).insert name ⟨nextClass, 1.0⟩, nextClass + 1⟩ := by
  have scale : (1 : Float) * (1 / 1) = 1.0 := by decide +kernel
  rw [← scale]
  unfold RuleBook.extend RuleBook.addRules
  rw [readText_of_isUnitName valid]
  rfl

/-- A text is a unit name exactly if it parses as this unit alone, or as the one target of this unit,
or compiles on its own to an entry for this unit and no other, which then has scale one. Whatever is
compiled, all units of the table are names, and so they can be written as inputs and as targets. -/
theorem lexicon_agrees (name : String) (nextClass : DimensionClass) :
    (isUnitName name = true ↔ parseUnit name = .ok (.single name 1)) ∧
    (isUnitName name = true ↔ parseTargets name = .ok [.single name 1]) ∧
    (isUnitName name = true ↔
      ∃ book, (RuleBook.startingAt nextClass : RuleBook Float).extend name = .ok book ∧
        ∀ unit, unit ∈ book.table ↔ unit = name) ∧
    (isUnitName name = true ↔
      ∃ book, (RuleBook.startingAt nextClass : RuleBook Float).extend name = .ok book ∧
        ∀ unit, book.table[unit]? = if unit = name then some ⟨nextClass, 1.0⟩ else none) ∧
    ∀ (texts : List (DimensionClass × String)) (unit : String),
      unit ∈ ConversionTable.compileAll ({} : ConversionTable Float) texts →
      isUnitName unit = true ∧ parseUnit unit = .ok (.single unit 1) ∧
        parseTargets unit = .ok [.single unit 1] := by
  have start : ∀ unit ∈ ({} : ConversionTable Float), isUnitName unit = true := by simp
  -- A text that defines itself is a name because every unit that is defined is one.
  refine ⟨parseUnit_eq_single_iff.symm, parseTargets_eq_single_iff.symm, ⟨?_, ?_⟩, ⟨?_, ?_⟩, ?_⟩
  · intro valid
    refine ⟨_, extend_of_isUnitName valid nextClass, fun unit => ?_⟩
    simp [Std.TreeMap.mem_insert, eq_comm (a := unit)]
  · rintro ⟨book, built, units⟩
    exact isUnitName_of_mem_extend start built name ((units name).mpr rfl)
  · intro valid
    refine ⟨_, extend_of_isUnitName valid nextClass, fun unit => ?_⟩
    simp [Std.TreeMap.getElem?_insert, eq_comm (a := unit)]
  · rintro ⟨book, built, entries⟩
    apply isUnitName_of_mem_extend start built
    rw [Std.TreeMap.mem_iff_isSome_getElem?, entries, if_pos rfl]
    rfl
  · intro texts unit member
    have valid := isUnitName_of_mem_compileAll start texts unit member
    exact ⟨valid, parseUnit_eq_single_iff.mpr valid, parseTargets_eq_single_iff.mpr valid⟩

end UnitCheck
