import UnitCheck.Proofs.Matching.Counterpart
import UnitCheck.Rules.Book

/-!
# Folding in one clause

What a clause does to a rule book, in terms of the units that it mentions: all of them move into one
class and nothing else changes.

* `mem_scales_iff` and `head?_scales`: the scales of a clause are those of the units it mentions,
  the first mention first.
* `classOf?_add`, `getElem?_add_of_not_mem` and `nextClass_add` are the step of the book.
-/

namespace UnitCheck

variable {α : Type}

namespace ConversionTable

variable {table : ConversionTable α}

theorem mem_iff_classOf? {unit : String} : unit ∈ table ↔ (table.classOf? unit).isSome = true := by
  rw [Std.TreeMap.mem_iff_isSome_getElem?, classOf?, Option.isSome_map]

end ConversionTable

/-! ## Scales -/

namespace Clause

theorem mem_record_iff {scales : List (String × α)} {statement : String × α} {unit : String} :
    unit ∈ (record scales statement).map Prod.fst ↔
      unit ∈ scales.map Prod.fst ∨ unit = statement.1 := by
  induction scales with
  | nil => simp [record]
  | cons scale rest ih =>
      rw [record]
      split
      · rename_i same
        simp [← same, or_comm]
      · simp [ih, or_assoc]

theorem head?_record (scales : List (String × α)) (statement : String × α) :
    ((record scales statement).map Prod.fst).head? =
      (scales.map Prod.fst ++ [statement.1]).head? := by
  cases scales with
  | nil => rfl
  | cons scale rest =>
      rw [record]
      split <;> rfl

theorem mem_foldl_record_iff {statements scales : List (String × α)} {unit : String} :
    unit ∈ (statements.foldl record scales).map Prod.fst ↔
      unit ∈ scales.map Prod.fst ∨ unit ∈ statements.map Prod.fst := by
  induction statements generalizing scales with
  | nil => simp
  | cons statement rest ih =>
      rw [List.foldl_cons, ih, mem_record_iff, List.map_cons, List.mem_cons, or_assoc]

theorem head?_foldl_record (statements scales : List (String × α)) :
    ((statements.foldl record scales).map Prod.fst).head? =
      (scales.map Prod.fst ++ statements.map Prod.fst).head? := by
  induction statements generalizing scales with
  | nil => simp
  | cons statement rest ih =>
      rw [List.foldl_cons, ih, List.head?_append, head?_record, ← List.head?_append]
      simp

variable [Magnitude α]

theorem map_fst_statements (clause : Clause) :
    (clause.statements : List (String × α)).map Prod.fst = clause.units := by
  cases clause <;> simp [statements, units, Function.comp_def]

theorem mem_scales_iff {clause : Clause} {unit : String} :
    unit ∈ (clause.scales : List (String × α)).map Prod.fst ↔ unit ∈ clause.units := by
  rw [scales, mem_foldl_record_iff, map_fst_statements]
  simp

theorem head?_scales (clause : Clause) :
    ((clause.scales : List (String × α)).map Prod.fst).head? = clause.units.head? := by
  rw [scales, head?_foldl_record, map_fst_statements]
  rfl

end Clause

/-! ## The step of a book -/

namespace RuleBook

variable [Magnitude α]

theorem getElem?_enter_of_not_mem (table : ConversionTable α) (dimension : DimensionClass)
    (anchor : α) {scales : List (String × α)} {unit : String}
    (absent : unit ∉ scales.map Prod.fst) :
    (enter table dimension anchor scales)[unit]? = table[unit]? := by
  unfold enter
  induction scales generalizing table with
  | nil => rfl
  | cons scale rest ih =>
      rw [List.map_cons, List.mem_cons, not_or] at absent
      rw [List.foldl_cons, ih _ absent.2, Std.TreeMap.getElem?_insert]
      simp [Ne.symm absent.1]

theorem classOf?_enter (table : ConversionTable α) (dimension : DimensionClass) (anchor : α)
    (scales : List (String × α)) (unit : String) :
    (enter table dimension anchor scales).classOf? unit =
      if unit ∈ scales.map Prod.fst then some dimension else table.classOf? unit := by
  unfold enter
  induction scales generalizing table with
  | nil => rfl
  | cons scale rest ih =>
      rw [List.foldl_cons, ih, ConversionTable.classOf?, ConversionTable.classOf?,
        Std.TreeMap.getElem?_insert]
      by_cases later : unit ∈ rest.map Prod.fst
      · simp [later]
      · by_cases same : unit = scale.1
        · simp [same]
        · simp [later, same, Ne.symm same]

variable {book : RuleBook α} {clause : Clause} {first : String}

theorem exists_scales_eq_cons (head : clause.units.head? = some first) :
    ∃ scale rest, (clause.scales : List (String × α)) = (first, scale) :: rest := by
  have heads := Clause.head?_scales (α := α) clause
  rw [head, List.head?_map, Option.map_eq_some_iff] at heads
  obtain ⟨⟨_, scale⟩, listed, rfl⟩ := heads
  exact ⟨scale, List.head?_eq_some_iff.mp listed⟩

theorem add_of_unknown (head : clause.units.head? = some first)
    (unknown : book.table[first]? = none) :
    book.add clause =
      ⟨enter book.table book.nextClass 1 clause.scales, book.nextClass + 1⟩ := by
  obtain ⟨scale, rest, listed⟩ := exists_scales_eq_cons (α := α) head
  unfold add
  rw [listed]
  simp only [unknown]

theorem add_of_known {entry : UnitEntry α} (head : clause.units.head? = some first)
    (known : book.table[first]? = some entry) :
    ∃ scale, (clause.scales : List (String × α)).head? = some (first, scale) ∧
      book.add clause =
        ⟨enter book.table entry.dimension (entry.scale / scale) clause.scales,
          book.nextClass⟩ := by
  obtain ⟨scale, rest, listed⟩ := exists_scales_eq_cons (α := α) head
  refine ⟨scale, by rw [listed, List.head?_cons], ?_⟩
  unfold add
  rw [listed]
  simp only [known]

theorem add_of_no_units (none : clause.units.head? = none) : book.add clause = book := by
  have heads := Clause.head?_scales (α := α) clause
  rw [none, List.head?_eq_none_iff, List.map_eq_nil_iff] at heads
  unfold add
  rw [heads]

/-- The units of a clause move into the class of its first unit, or into a new one if that unit is
unknown. -/
theorem classOf?_add (head : clause.units.head? = some first) (unit : String) :
    (book.add clause).table.classOf? unit =
      if unit ∈ clause.units then some ((book.table.classOf? first).getD book.nextClass)
      else book.table.classOf? unit := by
  cases known : book.table[first]? with
  | none =>
      rw [add_of_unknown head known, classOf?_enter]
      simp only [Clause.mem_scales_iff, ConversionTable.classOf?, known, Option.map_none,
        Option.getD_none]
  | some entry =>
      obtain ⟨scale, -, added⟩ := add_of_known head known
      rw [added, classOf?_enter]
      simp only [Clause.mem_scales_iff, ConversionTable.classOf?, known, Option.map_some,
        Option.getD_some]

theorem getElem?_add_of_not_mem {unit : String} (absent : unit ∉ clause.units) :
    (book.add clause).table[unit]? = book.table[unit]? := by
  rw [← Clause.mem_scales_iff (α := α)] at absent
  cases head : clause.units.head? with
  | none => rw [add_of_no_units head]
  | some first =>
      cases known : book.table[first]? with
      | none =>
          rw [add_of_unknown head known]
          exact getElem?_enter_of_not_mem _ _ _ absent
      | some entry =>
          obtain ⟨scale, -, added⟩ := add_of_known head known
          rw [added]
          exact getElem?_enter_of_not_mem _ _ _ absent

theorem nextClass_add (head : clause.units.head? = some first) :
    (book.add clause).nextClass =
      if book.table.classOf? first = none then book.nextClass + 1 else book.nextClass := by
  cases known : book.table[first]? with
  | none =>
      rw [add_of_unknown head known]
      simp [ConversionTable.classOf?, known]
  | some entry =>
      obtain ⟨scale, -, added⟩ := add_of_known head known
      rw [added]
      simp [ConversionTable.classOf?, known]

end RuleBook

end UnitCheck
