import UnitCheck.Proofs.Number.Written
import UnitCheck.Proofs.Rules.Grammar
import UnitCheck.Proofs.Rules.Scales

/-!
# Scales out of range

A rule text is checked for numbers that are usable, finite and not zero, but not for the scales that
come of them: the inverse of a number, its ratio to the scale that the first unit had, and the
product of the two can each be out of range.

* `RuleBook.extend_usable_iff` says which scales are lost, and that none is if the numbers are not
  too far from one for the number of clauses.
* `RuleBook.not_forall_extend_usable` is a text that makes a usable scale infinite, though its own
  scales could all be kept.
-/

namespace UnitCheck

/-- Every known unit has a scale that is finite and not zero. -/
def ConversionTable.Usable (table : ConversionTable Float) : Prop :=
  ∀ (unit : String) (entry : UnitEntry Float), table[unit]? = some entry →
    Magnitude.isFactor entry.scale = true

/-- Every known unit has a scale that is usable and of moderate size. -/
def ConversionTable.ScalesWithin (table : ConversionTable Float) (bits : Nat) : Prop :=
  ∀ (unit : String) (entry : UnitEntry Float), table[unit]? = some entry → Within bits entry.scale

theorem ConversionTable.ScalesWithin.usable {table : ConversionTable Float} {bits : Nat}
    (within : table.ScalesWithin bits) : table.Usable :=
  fun unit entry found => (within unit entry found).isFactor

namespace Clause

/-- The numbers that a clause is written with. -/
def written : Clause → List Decimal
  | shorthand _ prefixes => prefixes.map fun p => .powerOfTen p.exponent
  | chain terms => terms.filterMap (·.number)

theorem within_statements {clause : Clause} {reach : Nat} (range : reach ≤ 1023)
    (moderate : ∀ number ∈ clause.written, Moderate reach |number.toRat|) :
    ∀ statement ∈ (clause.statements : List (String × Float)), Within reach statement.2 := by
  have numbers : ∀ number ∈ clause.written, Within reach (Magnitude.ofDecimal number) := by
    intro number member
    have near := moderate number member
    exact Within.of_roundsTo (Decimal.roundsTo_of_inRange (near.inRange range)) range near
  have one : Within reach (1.0 : Float) := Within.one.mono (Nat.zero_le _)
  cases clause with
  | shorthand unit prefixes =>
      simp only [statements, List.forall_mem_cons, List.forall_mem_map]
      simp only [written, List.forall_mem_map] at numbers
      exact ⟨one, numbers⟩
  | chain terms =>
      simp only [statements, List.forall_mem_map]
      simp only [written, List.mem_filterMap] at numbers
      intro term member
      have value : Within reach (term.value : Float) := by
        unfold Term.value
        cases written : term.number with
        | none => exact one
        | some number => exact numbers number ⟨term, member, written⟩
      have inverse := Within.one.div value (by omega)
      rw [zero_add] at inverse
      exact inverse

end Clause

namespace RuleBook

variable {book : RuleBook Float} {clause : Clause}

theorem within_add {bits reach : Nat} (range : bits + 2 * reach ≤ 1023)
    (within : book.table.ScalesWithin bits)
    (moderate : ∀ number ∈ clause.written, Moderate reach |number.toRat|) :
    (book.add clause).table.ScalesWithin (bits + 2 * reach) := by
  intro unit entry found
  have stated : ∀ (unit : String) (scale : Float), clause.stated? unit = some scale →
      Within reach scale := fun unit scale stated =>
    Clause.within_statements (by omega) moderate (unit, scale)
      (Clause.mem_statements_of_stated? stated)
  rcases scale_add found with old | ⟨scale, own, value⟩
  · exact (within unit entry old).mono (by omega)
  · have anchored : Within (bits + reach) (book.anchor clause) := by
      rcases anchor_eq book clause with one | ⟨first, other, scale, known, front, ratio⟩
      · rw [one]
        exact Within.one.mono (by omega)
      · rw [ratio]
        exact (within first other known).div (stated first scale front) (by omega)
    rw [value, two_mul, ← add_assoc]
    exact anchored.mul (stated unit scale own) (by omega)

theorem within_addAll {bits reach : Nat} {clauses : List Clause}
    (range : bits + 2 * reach * clauses.length ≤ 1023)
    (within : book.table.ScalesWithin bits)
    (moderate : ∀ clause ∈ clauses, ∀ number ∈ clause.written, Moderate reach |number.toRat|) :
    (book.addAll clauses).table.ScalesWithin (bits + 2 * reach * clauses.length) := by
  induction clauses using List.reverseRecOn with
  | nil => simpa [addAll] using within
  | append_singleton clauses last ih =>
      rw [List.length_append, List.length_singleton, mul_add, mul_one, ← add_assoc] at range ⊢
      rw [addAll_append]
      exact within_add range
        (ih (by omega) fun clause member => moderate clause (by simp [member]))
        (moderate last (by simp))

/-- A unit has a usable scale exactly if the scale that its owner gives it is in range. -/
theorem extend_usable_iff {book larger : RuleBook Float} {rules : String}
    (usable : book.table.Usable) (compiled : book.extend rules = .ok larger) :
    ∃ clauses, (Clause.split rules).mapM Clause.read = .ok clauses ∧
      (larger.table.Usable ↔ ∀ (i : Nat) (clause : Clause), clauses[i]? = some clause →
        ∀ (unit : String) (scale : Float), owner? clauses unit = some i →
          clause.stated? unit = some scale →
          InRange (absolute ((book.addAll (clauses.take i)).anchor clause) * absolute scale)) ∧
      ∀ bits reach : Nat, bits + 2 * reach * clauses.length ≤ 1023 →
        book.table.ScalesWithin bits →
        (∀ clause ∈ clauses, ∀ number ∈ clause.written, Moderate reach |number.toRat|) →
        larger.table.Usable := by
  obtain ⟨clauses, spelled, rfl⟩ := extend_eq_ok_iff.mp compiled
  refine ⟨clauses, spelled, ⟨?_, ?_⟩, ?_⟩
  · intro kept i clause position unit scale owner stated
    obtain ⟨entry, own, found, ownStated, value⟩ := exists_entry_of_owner? book owner position
    obtain rfl : own = scale := Option.some.inj (ownStated.symm.trans stated)
    have factor := kept unit entry found
    rw [value] at factor
    exact isFactor_mul_iff.mp factor
  · intro inRange unit entry found
    -- A unit without an owner keeps the entry that it had in the book.
    cases owner : owner? clauses unit with
    | none =>
        rw [getElem?_addAll_of_not_mem (owner?_eq_none_iff.mp owner)] at found
        exact usable unit entry found
    | some i =>
        obtain ⟨clause, position⟩ : ∃ clause, clauses[i]? = some clause :=
          ⟨_, List.getElem?_eq_getElem (owner?_lt owner)⟩
        obtain ⟨other, scale, entered, stated, value⟩ := exists_entry_of_owner? book owner position
        obtain rfl : other = entry := Option.some.inj (entered.symm.trans found)
        rw [value]
        exact isFactor_mul_iff.mpr (inRange i clause position unit scale owner stated)
  · intro bits reach range within moderate
    exact (within_addAll range within moderate).usable

theorem usable_empty : (empty : RuleBook Float).table.Usable := by
  intro unit entry found
  simp [empty, startingAt] at found

theorem extend_usable_iff_prefixes :
    (empty : RuleBook Float).table.Usable ∧
    ∃ larger, (empty : RuleBook Float).extend "m: y Y; Ym = 1e-30 x" = .ok larger ∧
      larger.table.Usable := by
  have accepted : ((empty : RuleBook Float).extend "m: y Y; Ym = 1e-30 x").isOk = true := by
    decide +kernel
  obtain ⟨larger, compiled⟩ := isOk_iff.mp accepted
  obtain ⟨clauses, spelled, -, bounded⟩ := extend_usable_iff usable_empty compiled
  have listed : (Clause.split "m: y Y; Ym = 1e-30 x").mapM Clause.read =
      .ok [.shorthand "m" [.yocto, .yotta],
        .chain [⟨none, "Ym"⟩, ⟨some ⟨false, 1, -30⟩, "x"⟩]] := by
    rfl
  obtain rfl := Except.ok.inj (listed.symm.trans spelled)
  refine ⟨usable_empty, larger, compiled, bounded 0 100 (by decide) ?_ ?_⟩
  · intro unit entry found
    simp [empty, startingAt] at found
  · unfold Moderate
    decide +kernel

/-- The text gives `a` the scale `1e200`. The second clause says that `c` is as large, but the ratio
`1e200 / 1e-200` that it is multiplied by is infinite, and so are `a` and `c` from then on. -/
theorem not_forall_extend_usable :
    ¬ ∀ (book larger : RuleBook Float) (rules : String), book.table.Usable →
      book.extend rules = .ok larger → larger.table.Usable := by
  intro keeps
  have lost : ((empty : RuleBook Float).extend "1e-200 a = b; 1e200 a = 1e200 c").toOption.bind
      (fun larger => larger.table["a"]?.map fun entry => Magnitude.isFactor entry.scale) =
        some false := by decide +kernel
  obtain ⟨larger, compiled, lost⟩ := Option.bind_eq_some_iff.mp lost
  obtain ⟨entry, found, useless⟩ := Option.map_eq_some_iff.mp lost
  have kept := keeps _ _ _ usable_empty (toOption_eq_some_iff.mp compiled) "a" entry found
  rw [useless] at kept
  cases kept

end RuleBook

end UnitCheck
