import UnitCheck.Proofs.Matching.Locality
import UnitCheck.Proofs.Rules.Scales

/-!
# Renamed classes

Two books may differ in the numbers of their classes alone. Folding in a clause does not look at the
numbers, except that a class that it founds gets the next one, so a renaming that leaves the numbers
of new classes as they are survives any further clauses.

* `RuleBook.getElem?_add_eq` is the step of a book, for mentioned and other units at once.
* `Renamed.add` is what one clause keeps and `Renamed.addAll` what a run keeps.
* `Renamed.agreeOn`: under an injective renaming, matching cannot tell the books apart.
-/

namespace UnitCheck

variable {α : Type}

def UnitEntry.rename (rename : DimensionClass → DimensionClass) (entry : UnitEntry α) :
    UnitEntry α :=
  { entry with dimension := rename entry.dimension }

/-- The second book is the first one with its classes renamed. -/
structure Renamed (rename : DimensionClass → DimensionClass) (book other : RuleBook α) : Prop where
  entry : ∀ unit : String, other.table[unit]? = book.table[unit]?.map (UnitEntry.rename rename)
  next : other.nextClass = book.nextClass

/-! ## The step of a book -/

namespace RuleBook

variable [Magnitude α] {book : RuleBook α} {clause : Clause} {first : String}

/-- A unit of a clause gets the class of the first one, and every other unit keeps its entry. -/
theorem getElem?_add_eq (head : clause.units.head? = some first) (unit : String) :
    (book.add clause).table[unit]? =
      ((clause.stated? unit).map fun scale : α =>
        ⟨(book.table.classOf? first).getD book.nextClass, book.anchor clause * scale⟩).or
        book.table[unit]? := by
  cases stated : (clause.stated? unit : Option α) with
  | some scale => rw [getElem?_add head stated, Option.map_some, Option.some_or]
  | none =>
      have absent : unit ∉ clause.units := by
        rw [← Clause.isSome_stated?_iff (α := α), stated]
        exact Bool.false_ne_true
      rw [getElem?_add_of_not_mem absent, Option.map_none, Option.none_or]

theorem anchor_congr {other : RuleBook α} (head : clause.units.head? = some first)
    (same : other.table[first]?.map (·.scale) = book.table[first]?.map (·.scale)) :
    other.anchor clause = book.anchor clause := by
  unfold anchor
  simp only [head]
  generalize other.table[first]? = otherEntry, book.table[first]? = entry at same ⊢
  cases otherEntry <;> cases entry <;> cases (clause.stated? first : Option α) <;> simp_all

end RuleBook

/-! ## Further clauses -/

namespace Renamed

variable {rename : DimensionClass → DimensionClass} {book other : RuleBook α}

/-- Books that are renamed by the identity have the same entries. -/
theorem id_iff : Renamed id book other ↔
    (∀ unit : String, other.table[unit]? = book.table[unit]?) ∧
      other.nextClass = book.nextClass := by
  have unchanged : ∀ entry : Option (UnitEntry α), entry.map (UnitEntry.rename id) = entry :=
    congrFun Option.map_id
  constructor
  · rintro ⟨entry, next⟩
    exact ⟨fun unit => (entry unit).trans (unchanged _), next⟩
  · rintro ⟨entry, next⟩
    exact ⟨fun unit => (entry unit).trans (unchanged _).symm, next⟩

theorem classOf? (renamed : Renamed rename book other) (unit : String) :
    other.table.classOf? unit = (book.table.classOf? unit).map rename := by
  rw [ConversionTable.classOf?, ConversionTable.classOf?, renamed.entry, Option.map_map,
    Option.map_map]
  rfl

theorem scale (renamed : Renamed rename book other) (unit : String) :
    other.table[unit]?.map (·.scale) = book.table[unit]?.map (·.scale) := by
  rw [renamed.entry, Option.map_map]
  rfl

theorem sameClass (renamed : Renamed rename book other) (injective : rename.Injective)
    (a b : String) : book.table.sameClass a b = other.table.sameClass a b := by
  rw [Bool.eq_iff_iff, ConversionTable.sameClass_iff, ConversionTable.sameClass_iff,
    renamed.classOf?, renamed.classOf?]
  simp only [Option.map_eq_some_iff]
  constructor
  · rintro ⟨dimension, left, right⟩
    exact ⟨rename dimension, ⟨dimension, left, rfl⟩, dimension, right, rfl⟩
  · rintro ⟨_, ⟨dimension, left, rfl⟩, _, right, same⟩
    exact ⟨dimension, left, injective same ▸ right⟩

theorem agreeOn (renamed : Renamed rename book other) (injective : rename.Injective)
    (names : String → Prop) : book.table.AgreeOn other.table names := by
  constructor
  · exact fun name _ => (renamed.scale name).symm
  · exact fun a b _ _ => renamed.sameClass injective a b

variable [Magnitude α]

theorem add (renamed : Renamed rename book other) (clause : Clause)
    (fixed : rename book.nextClass = book.nextClass) :
    Renamed rename (book.add clause) (other.add clause) := by
  cases head : clause.units.head? with
  | none =>
      rw [RuleBook.add_of_no_units head, RuleBook.add_of_no_units head]
      exact renamed
  | some first =>
      have dimension : (other.table.classOf? first).getD other.nextClass =
          rename ((book.table.classOf? first).getD book.nextClass) := by
        rw [renamed.classOf?, renamed.next]
        cases book.table.classOf? first with
        | none => exact fixed.symm
        | some dimension => rfl
      constructor
      · intro unit
        rw [RuleBook.getElem?_add_eq head, RuleBook.getElem?_add_eq head, dimension,
          RuleBook.anchor_congr head (renamed.scale first), renamed.entry]
        cases (clause.stated? unit : Option α) <;> rfl
      · simp only [RuleBook.nextClass_add head, renamed.classOf?, renamed.next,
          Option.map_eq_none_iff]

/-- A renaming survives further clauses if it leaves the numbers alone that they found classes
with. -/
theorem addAll (renamed : Renamed rename book other) (clauses : List Clause)
    (fixed : ∀ i, rename (book.addAll (clauses.take i)).nextClass =
      (book.addAll (clauses.take i)).nextClass) :
    Renamed rename (book.addAll clauses) (other.addAll clauses) := by
  induction clauses generalizing book other with
  | nil => exact renamed
  | cons clause rest ih => exact ih (renamed.add clause (fixed 0)) fun i => fixed (i + 1)

end Renamed

end UnitCheck
