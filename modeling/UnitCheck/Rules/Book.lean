import Std.Data.TreeMap
import UnitCheck.Rules.Clause

/-!
# Rule books

Folding clauses sorts units into dimension classes, whose members convert into each other, and gives
each unit a scale relative to the unit that founded its class.

* `Clause.scales` are the scales that a clause states among its own units, first mention first.
* `RuleBook.add` folds one clause in. If its first unit is known, the clause joins that unit's class
  at the scale which that unit has; otherwise it founds a class. Either way all its units move into
  the class, so a later unit that was known before leaves its old class and the mates it had there.
* `RuleBook.addRules` folds in a rule text up to its first malformed clause, and `RuleBook.extend`
  folds in the text as a whole or not at all.
-/

namespace UnitCheck

/-- The number of a set of mutually convertible units. -/
abbrev DimensionClass := UInt32

/-- What is known about a unit: its class, and its size relative to the unit that founded the
class. -/
structure UnitEntry (α : Type) where
  dimension : DimensionClass
  scale : α
deriving DecidableEq, Repr

/-- The entries of the known units, sorted by name. -/
abbrev ConversionTable (α : Type) := Std.TreeMap String (UnitEntry α)

/-- The known units with the number of the next class to be founded. -/
structure RuleBook (α : Type) where
  table : ConversionTable α
  nextClass : DimensionClass

variable {α : Type}

namespace ConversionTable

/-- Whether two units are both known and convert into each other. -/
def sameClass (table : ConversionTable α) (a b : String) : Bool :=
  match table[a]?, table[b]? with
  | some x, some y => x.dimension = y.dimension
  | _, _ => false

/-- The units of a class, sorted by name. -/
def members (table : ConversionTable α) (dimension : DimensionClass) : List String :=
  (table.toList.filter (·.2.dimension = dimension)).map (·.1)

end ConversionTable

variable [Magnitude α]

/-- The number of a term; one if none is written. -/
def Term.value (term : Term) : α :=
  match term.number with
  | some number => Magnitude.ofDecimal number
  | none => 1

namespace Clause

/-- The scales that a clause writes, one for each mention of a unit. -/
def statements : Clause → List (String × α)
  | shorthand unit prefixes => (unit, 1) :: prefixes.map fun p => (p.symbol ++ unit, p.factor)
  | chain terms => terms.map fun term => (term.unit, 1 / term.value)

/-- The scales with one more recorded. A unit that occurs keeps its place and takes the new
scale. -/
def record : List (String × α) → String × α → List (String × α)
  | [], statement => [statement]
  | (unit, scale) :: rest, statement =>
      if unit = statement.1 then (unit, statement.2) :: rest
      else (unit, scale) :: record rest statement

/-- The scale of each unit of a clause, in the order of first mention. The last mention counts. -/
def scales (clause : Clause) : List (String × α) :=
  clause.statements.foldl record []

end Clause

namespace RuleBook

/-- The book without units; its first class has the given number. -/
def startingAt (nextClass : DimensionClass) : RuleBook α := ⟨{}, nextClass⟩

/-- The book without units and classes. -/
def empty : RuleBook α := startingAt 0

/-- Puts units into a class, their scales multiplied by `anchor`. -/
def enter (table : ConversionTable α) (dimension : DimensionClass) (anchor : α)
    (scales : List (String × α)) : ConversionTable α :=
  scales.foldl (fun table (unit, scale) => table.insert unit ⟨dimension, anchor * scale⟩) table

/-- Folds in a clause. -/
def add (book : RuleBook α) (clause : Clause) : RuleBook α :=
  match (clause.scales : List (String × α)) with
  | [] => book
  | (first, scale) :: rest =>
      match book.table[first]? with
      | some entry =>
          let anchor := entry.scale / scale
          { book with table := enter book.table entry.dimension anchor ((first, scale) :: rest) }
      | none =>
          { table := enter book.table book.nextClass 1 ((first, scale) :: rest)
            nextClass := book.nextClass + 1 }

/-- Folds in clauses from first to last. -/
def addAll (book : RuleBook α) (clauses : List Clause) : RuleBook α :=
  clauses.foldl add book

/-- Folds in the clauses of a text before its first malformed one, and says what is wrong with that
one. -/
def addRules (book : RuleBook α) (rules : String) : RuleBook α × Option RuleError :=
  let (clauses, failure) := Clause.readText rules
  (book.addAll clauses, failure)

/-- The book with all clauses of a text folded in, if none is malformed. -/
def extend (book : RuleBook α) (rules : String) : Except RuleError (RuleBook α) :=
  match book.addRules rules with
  | (larger, none) => .ok larger
  | (_, some failure) => .error failure

/-- The book of a rule text alone. -/
def ofRules (rules : String) : Except RuleError (RuleBook α) :=
  empty.extend rules

end RuleBook

end UnitCheck
