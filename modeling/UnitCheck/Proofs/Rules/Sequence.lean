import UnitCheck.Proofs.Outcome
import UnitCheck.Rules.Book

/-!
# Rule texts in sequence

Two rule texts with a `;` between them are folded in one after the other: `addRules_append` for the
book and the error that are left, `extend_append` for texts that count as a whole. `extend_eq` takes
reading a text apart from folding in what was read.
-/

namespace UnitCheck

theorem Clause.split_append (first second : String) :
    Clause.split (first ++ ";" ++ second) = Clause.split first ++ Clause.split second := by
  have separator : (";" : String).toList = [';'] := rfl
  unfold Clause.split
  rw [String.toList_append, String.toList_append, separator, List.append_assoc,
    List.singleton_append, List.splitOn_append_cons_self, List.filter_append]

theorem Clause.readAll_append (first second : List (List Char)) :
    Clause.readAll (first ++ second) =
      match Clause.readAll first with
      | (clauses, none) => (clauses ++ (Clause.readAll second).1, (Clause.readAll second).2)
      | (clauses, some failure) => (clauses, some failure) := by
  induction first with
  | nil => rfl
  | cons text rest ih =>
      rw [List.cons_append, Clause.readAll, Clause.readAll]
      cases Clause.read text with
      | error failure => rfl
      | ok clause =>
          simp only [ih]
          cases Clause.readAll rest with
          | mk clauses failure => cases failure <;> rfl

theorem Clause.mapM_read_eq (texts : List (List Char)) :
    texts.mapM read =
      match readAll texts with
      | (clauses, none) => .ok clauses
      | (_, some failure) => .error failure := by
  induction texts with
  | nil => rfl
  | cons text rest ih =>
      rw [List.mapM_cons, readAll, ih]
      cases read text with
      | error failure => rfl
      | ok clause =>
          cases readAll rest with
          | mk clauses failure => cases failure <;> rfl

theorem Clause.mapM_read_eq_ok_iff {rules : String} {clauses : List Clause} :
    (split rules).mapM read = .ok clauses ↔ readText rules = (clauses, none) := by
  rw [mapM_read_eq, readText]
  cases readAll (split rules) with
  | mk read failure => cases failure <;> simp

namespace RuleBook

variable {α : Type} [Magnitude α]

/-- The second text is folded in after the first one, unless the first one is malformed. -/
theorem addRules_append (book : RuleBook α) (first second : String) :
    book.addRules (first ++ ";" ++ second) =
      match book.addRules first with
      | (larger, none) => larger.addRules second
      | (larger, some failure) => (larger, some failure) := by
  unfold addRules Clause.readText
  rw [Clause.split_append, Clause.readAll_append]
  cases Clause.readAll (Clause.split first) with
  | mk clauses failure =>
      cases failure with
      | none => simp only [addAll, List.foldl_append]
      | some failure => rfl

theorem extend_append (book : RuleBook α) (first second : String) :
    book.extend (first ++ ";" ++ second) =
      (book.extend first).bind fun larger => larger.extend second := by
  unfold extend
  rw [addRules_append]
  cases book.addRules first with
  | mk larger failure => cases failure <;> rfl

/-- Whether a text is folded in depends on the text alone. -/
theorem extend_eq (book : RuleBook α) (rules : String) :
    book.extend rules = ((Clause.split rules).mapM Clause.read).map book.addAll := by
  rw [Clause.mapM_read_eq, extend, addRules, Clause.readText]
  cases Clause.readAll (Clause.split rules) with
  | mk clauses failure => cases failure <;> rfl

theorem extend_eq_ok_iff {book larger : RuleBook α} {rules : String} :
    book.extend rules = .ok larger ↔
      ∃ clauses, (Clause.split rules).mapM Clause.read = .ok clauses ∧
        larger = book.addAll clauses := by
  rw [extend_eq, map_eq_ok_iff]

end RuleBook

end UnitCheck
