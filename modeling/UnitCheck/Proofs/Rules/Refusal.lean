import UnitCheck.Proofs.Rules.Sequence
import UnitCheck.Proofs.Text.Trim

/-!
# Refused rule texts

A rule text is folded in clause by clause, up to the first clause that is refused. What is refused
is a matter of the clause alone, so such a text leaves what the texts before that clause leave, and
reports the error that the clause has on its own.

* `Clause.split_eq_flatMap`: the clauses of a text are those of its pieces, one piece after the
  other.
* `exists_firstRefused` finds the piece that ends a refused text, and `FirstRefused.addRules_eq` is
  the book that is left there.
* `RuleBook.addRules_in_sequence` puts this beside the law of two texts in sequence.
-/

namespace UnitCheck

/-! ## Pieces -/

namespace Clause

/-- The texts between the semicolons of a rule text, blank ones included. -/
def pieces (rules : String) : List String :=
  (rules.toList.splitOn ';').map String.ofList

theorem intercalate_pieces (rules : String) : ";".intercalate (pieces rules) = rules := by
  have separator : (";" : String).toList = [';'] := rfl
  apply String.toList_injective
  simp [pieces, separator, Function.comp_def, List.intercalate_splitOn]

theorem split_intercalate (texts : List String) :
    split (";".intercalate texts) = texts.flatMap split := by
  induction texts with
  | nil => rfl
  | cons first rest ih =>
      cases rest with
      | nil => simp
      | cons second more =>
          rw [String.intercalate_cons_cons, split_append, ih, ← List.flatMap_cons]

theorem split_eq_flatMap (rules : String) : split rules = (pieces rules).flatMap split := by
  rw [← split_intercalate, intercalate_pieces]

theorem readAll_append_of_accepted {first : List (List Char)} (accepted : (readAll first).2 = none)
    (second : List (List Char)) :
    readAll (first ++ second) =
      ((readAll first).1 ++ (readAll second).1, (readAll second).2) := by
  rw [readAll_append]
  generalize readAll first = outcome at accepted ⊢
  obtain ⟨clauses, failure⟩ := outcome
  subst accepted
  rfl

theorem readAll_append_of_refused {first : List (List Char)} {failure : RuleError}
    (refused : (readAll first).2 = some failure) (second : List (List Char)) :
    readAll (first ++ second) = readAll first := by
  rw [readAll_append]
  generalize readAll first = outcome at refused ⊢
  obtain ⟨clauses, cause⟩ := outcome
  subst refused
  rfl

theorem readAll_accepted_iff {texts : List String} :
    (readAll (texts.flatMap split)).2 = none ↔ ∀ text ∈ texts, (readText text).2 = none := by
  induction texts with
  | nil => simp [readAll]
  | cons first rest ih =>
      rw [List.flatMap_cons, List.forall_mem_cons, readText]
      cases outcome : (readAll (split first)).2 with
      | none =>
          rw [readAll_append_of_accepted outcome, ih]
          simp
      | some failure =>
          rw [readAll_append_of_refused outcome, outcome]
          simp

/-- Nothing of a piece is folded in if it is refused. -/
theorem readText_of_refused {rules clause : String} {failure : RuleError}
    (piece : clause ∈ pieces rules) (refused : (readText clause).2 = some failure) :
    readText clause = ([], some failure) := by
  obtain ⟨text, member, rfl⟩ := List.mem_map.mp piece
  have single : text.splitOn ';' = [text] :=
    List.splitOn_eq_singleton (Text.not_mem_of_mem_splitOn member)
  rw [readText, split, String.toList_ofList, single] at refused ⊢
  cases blank : text.all Text.isBlank with
  | true => simp [blank, readAll] at refused
  | false =>
      rw [List.filter_cons_of_pos (by simp [blank]), List.filter_nil] at refused ⊢
      cases spelled : read text <;> simp_all [readAll]

end Clause

/-! ## The first refused clause -/

/-- The first clause of a rule text that is refused on its own, between the pieces before and after
it. -/
structure FirstRefused (α : Type) [Magnitude α] (rules : String) (before : List String)
    (clause : String) (after : List String) (failure : RuleError) : Prop where
  pieces : Clause.pieces rules = before ++ clause :: after
  accepted : ∀ earlier ∈ before, (RuleBook.ofRules (α := α) earlier).isOk = true
  refused : RuleBook.ofRules (α := α) clause = .error failure

section

variable {α : Type} [Magnitude α] {rules clause : String} {before after : List String}
  {failure : RuleError}

theorem isOk_ofRules_iff :
    (RuleBook.ofRules (α := α) rules).isOk = true ↔ (Clause.readText rules).2 = none := by
  unfold RuleBook.ofRules RuleBook.extend RuleBook.addRules
  cases Clause.readText rules with
  | mk clauses failure => cases failure <;> simp

theorem ofRules_eq_error_iff :
    RuleBook.ofRules (α := α) rules = .error failure ↔
      (Clause.readText rules).2 = some failure := by
  unfold RuleBook.ofRules RuleBook.extend RuleBook.addRules
  cases Clause.readText rules with
  | mk clauses cause => cases cause <;> simp

theorem exists_first_refused {texts : List String}
    (refused : (Clause.readAll (texts.flatMap Clause.split)).2 = some failure) :
    ∃ before clause after, texts = before ++ clause :: after ∧
      (∀ earlier ∈ before, (Clause.readText earlier).2 = none) ∧
      (Clause.readText clause).2 = some failure := by
  induction texts with
  | nil => cases refused
  | cons first rest ih =>
      rw [List.flatMap_cons] at refused
      cases outcome : (Clause.readText first).2 with
      | none =>
          rw [Clause.readAll_append_of_accepted outcome] at refused
          obtain ⟨before, clause, after, rfl, accepted, own⟩ := ih refused
          exact ⟨first :: before, clause, after, rfl,
            List.forall_mem_cons.mpr ⟨outcome, accepted⟩, own⟩
      | some cause =>
          have same : (Clause.readText first).2 = some failure := by
            rw [Clause.readAll_append_of_refused outcome] at refused
            exact refused
          exact ⟨[], first, rest, rfl, by simp, same⟩

theorem exists_firstRefused (refused : (Clause.readText rules).2 = some failure) :
    ∃ before clause after, FirstRefused α rules before clause after failure := by
  rw [Clause.readText, Clause.split_eq_flatMap] at refused
  obtain ⟨before, clause, after, pieces, accepted, own⟩ := exists_first_refused refused
  exact ⟨before, clause, after, pieces,
    fun earlier member => isOk_ofRules_iff.mpr (accepted earlier member),
    ofRules_eq_error_iff.mpr own⟩

namespace FirstRefused

variable (first : FirstRefused α rules before clause after failure)

include first

theorem readAll_before : (Clause.readAll (before.flatMap Clause.split)).2 = none :=
  Clause.readAll_accepted_iff.mpr fun earlier member =>
    isOk_ofRules_iff.mp (first.accepted earlier member)

theorem readText_eq :
    Clause.readText rules = ((Clause.readText (";".intercalate before)).1, some failure) := by
  have own := ofRules_eq_error_iff.mp first.refused
  have piece : clause ∈ Clause.pieces rules := by simp [first.pieces]
  have alone : Clause.readAll (Clause.split clause) = ([], some failure) :=
    Clause.readText_of_refused piece own
  rw [Clause.readText, Clause.readText, Clause.split_eq_flatMap, first.pieces, List.flatMap_append,
    List.flatMap_cons, Clause.readAll_append_of_accepted first.readAll_before,
    Clause.readAll_append_of_refused own, alone, List.append_nil, Clause.split_intercalate]

theorem addRules_eq (book : RuleBook α) :
    book.addRules rules = ((book.addRules (";".intercalate before)).1, some failure) ∧
      (book.addRules (";".intercalate before)).2 = none := by
  constructor
  · rw [RuleBook.addRules, first.readText_eq]
    rfl
  · have accepted := first.readAll_before
    rw [← Clause.split_intercalate] at accepted
    exact accepted

end FirstRefused

/-- Two texts are folded in one after the other. A text is refused exactly when one of its clauses
is refused on its own; it has the error of the first such clause, and leaves the book of the text
before it. -/
theorem RuleBook.addRules_in_sequence (book : RuleBook α) :
    (∀ first second : String, book.addRules (first ++ ";" ++ second) =
      match book.addRules first with
      | (larger, none) => larger.addRules second
      | (larger, some failure) => (larger, some failure)) ∧
    (∀ (rules : String) (failure : RuleError), (book.addRules rules).2 = some failure ↔
      ∃ before clause after, FirstRefused α rules before clause after failure) ∧
    ∀ (rules : String) (before : List String) (clause : String) (after : List String)
      (failure : RuleError), FirstRefused α rules before clause after failure →
        book.addRules rules = ((book.addRules (";".intercalate before)).1, some failure) ∧
          (book.addRules (";".intercalate before)).2 = none := by
  refine ⟨book.addRules_append, ?_, ?_⟩
  · intro rules failure
    constructor
    · exact exists_firstRefused
    · rintro ⟨before, clause, after, first⟩
      rw [(first.addRules_eq book).1]
  · intro rules before clause after failure first
    exact first.addRules_eq book

end

/-- The blank clause before the refused one does no harm, and the clause after it is not reached. -/
theorem RuleBook.addRules_in_sequence_metre :
    FirstRefused Float "m: k; ; 5m = s; t" ["m: k", " "] " 5m = s" [" t"] (.malformedTerm "5m") ∧
    ∀ book : RuleBook Float, book.addRules "m: k; ; 5m = s; t" =
      ((book.addRules (";".intercalate ["m: k", " "])).1, some (.malformedTerm "5m")) := by
  have first : FirstRefused Float "m: k; ; 5m = s; t" ["m: k", " "] " 5m = s" [" t"]
      (.malformedTerm "5m") := by
    constructor
    · decide +kernel
    · decide +kernel
    · exact ofRules_eq_error_iff.mpr (by decide +kernel)
  refine ⟨first, fun book => ?_⟩
  obtain ⟨-, -, refusals⟩ := addRules_in_sequence book
  exact (refusals _ _ _ _ _ first).1

end UnitCheck
