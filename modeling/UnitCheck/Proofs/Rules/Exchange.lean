import Mathlib.Data.List.Lattice
import Mathlib.Logic.Equiv.Basic
import UnitCheck.Proofs.Rules.Renaming

/-!
# Exchanged clauses

Two neighbouring clauses that have no unit in common can change places. Each of them reads its first
unit off the book before both, so the units get the same scales either way; if both clauses found a
class, they do so in the other order, and the numbers of the two classes are exchanged.

* `Fresh` and `HasRoom` keep the numbers of new classes apart from those in use.
* `exists_exchange` is the renaming, and `Renamed.exchange` says that it relates the two orders.
* `Renamed.addAll_exchange` carries it through the clauses before and after.
-/

namespace UnitCheck

variable {α : Type} [Magnitude α]

namespace RuleBook

/-- The classes in use have numbers below the next one. -/
def Fresh {α : Type} (book : RuleBook α) : Prop :=
  ∀ unit dimension, book.table.classOf? unit = some dimension → dimension < book.nextClass

/-- The numbers for classes do not run out while clauses are folded in: the next one never starts
over. -/
def HasRoom (book : RuleBook α) : List Clause → Prop
  | [] => True
  | clause :: rest =>
      book.nextClass ≤ (book.add clause).nextClass ∧ (book.add clause).HasRoom rest

instance decidableHasRoom (book : RuleBook α) (clauses : List Clause) :
    Decidable (book.HasRoom clauses) :=
  match clauses with
  | [] => isTrue trivial
  | clause :: rest =>
      have := decidableHasRoom (book.add clause) rest
      inferInstanceAs (Decidable (book.nextClass ≤ (book.add clause).nextClass ∧
        (book.add clause).HasRoom rest))

variable {book : RuleBook α} {clause : Clause} {clauses : List Clause}

theorem hasRoom_append {more : List Clause} :
    book.HasRoom (clauses ++ more) ↔
      book.HasRoom clauses ∧ (book.addAll clauses).HasRoom more := by
  induction clauses generalizing book with
  | nil => simp [HasRoom, addAll]
  | cons clause rest ih =>
      simp only [List.cons_append, HasRoom, ih, addAll, List.foldl_cons, and_assoc]

theorem HasRoom.nextClass_le (room : book.HasRoom clauses) (i : Nat) :
    book.nextClass ≤ (book.addAll (clauses.take i)).nextClass := by
  induction clauses generalizing book i with
  | nil =>
      rw [List.take_nil]
      exact UInt32.le_refl _
  | cons clause rest ih =>
      cases i with
      | zero => exact UInt32.le_refl _
      | succ i => exact UInt32.le_trans room.1 (ih room.2 i)

theorem Fresh.add (fresh : book.Fresh) (room : book.nextClass ≤ (book.add clause).nextClass) :
    (book.add clause).Fresh := by
  cases head : clause.units.head? with
  | none =>
      rw [add_of_no_units head]
      exact fresh
  | some first =>
      intro unit dimension found
      rw [classOf?_add head] at found
      rw [nextClass_add head] at room ⊢
      cases known : book.table.classOf? first with
      | some own =>
          have := fresh first own known
          have := fresh unit dimension
          grind
      | none =>
          have := fresh unit dimension
          grind

theorem Fresh.addAll (fresh : book.Fresh) (room : book.HasRoom clauses) :
    (book.addAll clauses).Fresh := by
  induction clauses generalizing book with
  | nil => exact fresh
  | cons clause rest ih => exact ih (fresh.add room.1) room.2

/-! ## Two clauses -/

variable {other : Clause} {first otherFirst : String}

/-- A clause and another one that has no unit in common with it, each read off the book before
both. -/
theorem getElem?_add_add (head : clause.units.head? = some first)
    (otherHead : other.units.head? = some otherFirst) (apart : clause.units.Disjoint other.units)
    (unit : String) :
    ((book.add clause).add other).table[unit]? =
      ((other.stated? unit).map fun scale : α =>
        ⟨(book.table.classOf? otherFirst).getD (book.add clause).nextClass,
          book.anchor other * scale⟩).or
      (((clause.stated? unit).map fun scale : α =>
        ⟨(book.table.classOf? first).getD book.nextClass, book.anchor clause * scale⟩).or
        book.table[unit]?) := by
  have untouched : (book.add clause).table[otherFirst]? = book.table[otherFirst]? :=
    getElem?_add_of_not_mem fun mentioned => apart mentioned (List.mem_of_mem_head? otherHead)
  have dimension : (book.add clause).table.classOf? otherFirst = book.table.classOf? otherFirst :=
    congrArg (Option.map UnitEntry.dimension) untouched
  have anchor : (book.add clause).anchor other = book.anchor other :=
    anchor_congr otherHead (congrArg (Option.map UnitEntry.scale) untouched)
  rw [getElem?_add_eq otherHead, getElem?_add_eq head, dimension, anchor]

theorem nextClass_add_add (head : clause.units.head? = some first)
    (otherHead : other.units.head? = some otherFirst)
    (apart : clause.units.Disjoint other.units) :
    ((book.add clause).add other).nextClass =
      if book.table.classOf? otherFirst = none then (book.add clause).nextClass + 1
      else (book.add clause).nextClass := by
  have elsewhere : otherFirst ∉ clause.units :=
    fun mentioned => apart mentioned (List.mem_of_mem_head? otherHead)
  rw [nextClass_add otherHead, classOf?_add head, if_neg elsewhere]

end RuleBook

/-- The numbers that two clauses found classes with, in either order, are the same but for a
renaming, and it leaves all other numbers alone. -/
theorem exists_exchange {book : RuleBook α} (fresh : book.Fresh) {clause other : Clause}
    (room : book.HasRoom [clause, other]) {first otherFirst : String}
    (head : clause.units.head? = some first) (otherHead : other.units.head? = some otherFirst)
    (apart : clause.units.Disjoint other.units) :
    ∃ rename : DimensionClass → DimensionClass, rename.Injective ∧
      (∀ unit dimension, book.table.classOf? unit = some dimension →
        rename dimension = dimension) ∧
      (∀ dimension, ((book.add clause).add other).nextClass ≤ dimension →
        rename dimension = dimension) ∧
      rename ((book.table.classOf? first).getD book.nextClass) =
        (book.table.classOf? first).getD (book.add other).nextClass ∧
      rename ((book.table.classOf? otherFirst).getD (book.add clause).nextClass) =
        (book.table.classOf? otherFirst).getD book.nextClass := by
  obtain ⟨here, there, -⟩ := room
  rw [RuleBook.nextClass_add_add head otherHead apart] at there ⊢
  rw [RuleBook.nextClass_add head] at here there ⊢
  rw [RuleBook.nextClass_add otherHead]
  cases known : book.table.classOf? first with
  | some dimension =>
      refine ⟨id, Function.injective_id, ?_⟩
      simp
  | none =>
      cases otherKnown : book.table.classOf? otherFirst with
      | some otherDimension =>
          refine ⟨id, Function.injective_id, ?_⟩
          simp
      | none =>
          -- Each clause founds a class, and the numbers of the two change places.
          simp only [known, otherKnown, if_true, Option.getD_none] at here there ⊢
          refine ⟨Equiv.swap book.nextClass (book.nextClass + 1), Equiv.injective _, ?_, ?_,
            Equiv.swap_apply_left _ _, Equiv.swap_apply_right _ _⟩
          · intro unit dimension found
            have := fresh unit dimension found
            exact Equiv.swap_apply_of_ne_of_ne (by grind) (by grind)
          · intro dimension above
            exact Equiv.swap_apply_of_ne_of_ne (by grind) (by grind)

namespace Renamed

variable {book : RuleBook α}

/-- Two clauses without a common unit, in either order. -/
theorem exchange (fresh : book.Fresh) {clause other : Clause} (room : book.HasRoom [clause, other])
    (some : clause.units ≠ []) (otherSome : other.units ≠ [])
    (apart : clause.units.Disjoint other.units) :
    ∃ rename, rename.Injective ∧
      (∀ dimension, ((book.add clause).add other).nextClass ≤ dimension →
        rename dimension = dimension) ∧
      Renamed rename ((book.add clause).add other) ((book.add other).add clause) := by
  have head := List.head?_eq_some_head some
  have otherHead := List.head?_eq_some_head otherSome
  obtain ⟨rename, injective, kept, above, own, otherOwn⟩ :=
    exists_exchange fresh room head otherHead apart
  refine ⟨rename, injective, above, ?entry, ?next⟩
  case entry =>
    intro unit
    rw [RuleBook.getElem?_add_add head otherHead apart,
      RuleBook.getElem?_add_add otherHead head apart.symm]
    cases stated : (clause.stated? unit : Option α) with
    | some scale =>
        have otherUnstated : (other.stated? unit : Option α) = none := by
          rw [← Option.not_isSome_iff_eq_none, Clause.isSome_stated?_iff]
          exact apart (Clause.isSome_stated?_iff.mp (by rw [stated]; rfl))
        simp [otherUnstated, UnitEntry.rename, own]
    | none =>
        cases (other.stated? unit : Option α) with
        | some scale => simp [UnitEntry.rename, otherOwn]
        | none =>
            cases known : book.table[unit]? with
            | none => simp
            | some entry =>
                have same := kept unit entry.dimension (by simp [ConversionTable.classOf?, known])
                simp [UnitEntry.rename, same]
  case next =>
    rw [RuleBook.nextClass_add_add otherHead head apart.symm,
      RuleBook.nextClass_add_add head otherHead apart, RuleBook.nextClass_add head,
      RuleBook.nextClass_add otherHead]
    split <;> split <;> rfl

/-- The exchange of two clauses survives the clauses before and after them. -/
theorem addAll_exchange (fresh : book.Fresh) {before after : List Clause} {clause other : Clause}
    (room : book.HasRoom (before ++ clause :: other :: after))
    (some : clause.units ≠ []) (otherSome : other.units ≠ [])
    (apart : clause.units.Disjoint other.units) :
    ∃ rename, rename.Injective ∧
      Renamed rename (book.addAll (before ++ clause :: other :: after))
        (book.addAll (before ++ other :: clause :: after)) := by
  obtain ⟨roomBefore, roomHere, roomThere, roomAfter⟩ := RuleBook.hasRoom_append.mp room
  obtain ⟨rename, injective, above, renamed⟩ :=
    exchange (fresh.addAll roomBefore) ⟨roomHere, roomThere, trivial⟩ some otherSome apart
  refine ⟨rename, injective, ?_⟩
  have final := renamed.addAll after fun i => above _ (roomAfter.nextClass_le i)
  simpa [RuleBook.addAll] using final

end Renamed

end UnitCheck
