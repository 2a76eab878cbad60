import UnitCheck.Proofs.Matching.Factor
import UnitCheck.Proofs.Rules.Grammar
import UnitCheck.Proofs.Rules.Scales

/-!
# What clauses mean

A clause states that certain amounts of its units are one quantity: `2 x = 3 y` that two of `x` are
as much as three of `y`. In exact arithmetic this holds right after the clause is folded in, however
it joins the classes that were there, and for two units it holds on until a later clause mentions
one of them: `RuleBook.extend_clausesHold`.

The numbers of a clause are read off what is written: a decimal for its value, a prefix for its
power of ten. The scales that the clause is folded in with are the inverses of its numbers
(`Clause.stated?_eq`), so that a number times its scale is the same for all its units
(`RuleBook.numberOf_mul_scaleOf`).
-/

namespace UnitCheck

theorem SiPrefix.factor_eq (p : SiPrefix) : (p.factor : ℚ) = 10 ^ p.exponent := by
  simp [factor, Magnitude.ofDecimal, Decimal.powerOfTen, Decimal.toRat]

theorem Term.value_eq (term : Term) :
    (term.value : ℚ) = (term.number.map Decimal.toRat).getD 1 := by
  unfold value
  cases term.number <;> rfl

namespace Clause

/-- How many of each unit make up the quantity of the clause, one number for each mention: the
number that is written, and one if none is. A prefix writes a power of ten in front of the bare
unit, and the inverse power counts the prefixed units that make up one bare unit. -/
def numbers : Clause → List (String × ℚ)
  | shorthand unit prefixes =>
      (unit, 1) :: prefixes.map fun p => (p.symbol ++ unit, 10 ^ (-p.exponent))
  | chain terms =>
      terms.map fun term => (term.unit, (term.number.map Decimal.toRat).getD 1)

/-- The number of the last mention of a unit. -/
def numberOf (clause : Clause) (unit : String) : ℚ :=
  (clause.numbers.reverse.lookup unit).getD 1

/-- The units of a clause are known, convert into each other, and have scales that are inverse to
their numbers. -/
structure Holds (clause : Clause) (table : ConversionTable ℚ) : Prop where
  related : ∀ a ∈ clause.units, ∀ b ∈ clause.units, table.sameClass a b = true
  equal : ∀ a ∈ clause.units, ∀ b ∈ clause.units,
    clause.numberOf a * table.scaleOf a = clause.numberOf b * table.scaleOf b

theorem statements_eq (clause : Clause) :
    (clause.statements : List (String × ℚ)) =
      clause.numbers.map fun entry => (entry.1, 1 / entry.2) := by
  cases clause with
  | shorthand unit prefixes =>
      simp [statements, numbers, Function.comp_def, SiPrefix.factor_eq]
  | chain terms => simp [statements, numbers, Function.comp_def, Term.value_eq]

theorem lookup_map_snd (entries : List (String × ℚ)) (f : ℚ → ℚ) (unit : String) :
    (entries.map fun entry => (entry.1, f entry.2)).lookup unit = (entries.lookup unit).map f := by
  induction entries with
  | nil => rfl
  | cons entry rest ih =>
      obtain ⟨name, value⟩ := entry
      rw [List.map_cons, lookup_pair, lookup_pair, ih]
      split <;> rfl

theorem stated?_eq {clause : Clause} {unit : String} (mentioned : unit ∈ clause.units) :
    (clause.stated? unit : Option ℚ) = some (1 / clause.numberOf unit) := by
  have present := (isSome_stated?_iff (α := ℚ)).mpr mentioned
  have stated : (clause.stated? unit : Option ℚ) =
      (clause.numbers.reverse.lookup unit).map (1 / ·) := by
    rw [stated?, statements_eq, ← List.map_reverse, lookup_map_snd]
  rw [stated, Option.isSome_map] at present
  obtain ⟨number, found⟩ := Option.isSome_iff_exists.mp present
  rw [stated, numberOf, found, Option.map_some, Option.getD_some]

theorem written_ne_zero {text : List Char} {term : Term}
    (derived : RuleGrammar.TermText text term) :
    (term.number.map Decimal.toRat).getD 1 ≠ 0 := by
  cases derived with
  | bare _ _ _ => exact one_ne_zero
  | numbered _ _ inRange _ _ _ _ => exact fun zero => inRange.ne_zero (abs_eq_zero.mpr zero)

theorem numbers_ne_zero {text : List Char} {clause : Clause} (spelled : read text = .ok clause) :
    ∀ entry ∈ clause.numbers, entry.2 ≠ 0 := by
  cases read_eq_ok_iff.mp spelled with
  | @shorthand _ name _ _ prefixes _ _ _ _ _ =>
      refine List.forall_mem_cons.mpr ⟨one_ne_zero, ?_⟩
      simp only [List.forall_mem_map]
      exact fun p _ => zpow_ne_zero _ (by norm_num)
  | chain _ terms =>
      simp only [numbers, List.forall_mem_map]
      exact ((List.forall₂_and_left _ _).mp (terms.flip.imp fun term piece derived =>
        ⟨written_ne_zero derived, derived⟩)).1

theorem numberOf_ne_zero {text : List Char} {clause : Clause} (spelled : read text = .ok clause)
    (unit : String) : clause.numberOf unit ≠ 0 := by
  unfold numberOf
  cases found : clause.numbers.reverse.lookup unit with
  | none => exact one_ne_zero
  | some number =>
      obtain ⟨before, after, split, -⟩ := List.lookup_eq_some_iff.mp found
      refine numbers_ne_zero spelled (unit, number) (List.mem_reverse.mp ?_)
      rw [split]
      exact List.mem_append_right _ List.mem_cons_self

end Clause

namespace RuleBook

variable {book : RuleBook ℚ} {clause : Clause} {first : String}

theorem numberOf_mul_scaleOf (head : clause.units.head? = some first)
    (nonzero : ∀ unit, clause.numberOf unit ≠ 0) {unit : String} (mentioned : unit ∈ clause.units) :
    clause.numberOf unit * (book.add clause).table.scaleOf unit = book.anchor clause := by
  rw [ConversionTable.scaleOf, getElem?_add head (Clause.stated?_eq mentioned), Option.map_some,
    Option.getD_some, mul_one_div]
  exact mul_div_cancel₀ _ (nonzero unit)

theorem holds_add (nonzero : ∀ unit, clause.numberOf unit ≠ 0) :
    clause.Holds (book.add clause).table := by
  cases head : clause.units.head? with
  | none =>
      rw [List.head?_eq_none_iff] at head
      constructor <;> simp [head]
  | some first =>
      constructor
      case related =>
        intro a mentionedA b mentionedB
        have moved : ∀ unit ∈ clause.units, (book.add clause).table.classOf? unit =
            some ((book.table.classOf? first).getD book.nextClass) := by
          intro unit mentioned
          rw [classOf?_add head, if_pos mentioned]
        exact ConversionTable.sameClass_iff.mpr ⟨_, moved a mentionedA, moved b mentionedB⟩
      case equal =>
        intro a mentionedA b mentionedB
        rw [numberOf_mul_scaleOf head nonzero mentionedA,
          numberOf_mul_scaleOf head nonzero mentionedB]

theorem anchor_of_known (head : clause.units.head? = some first) {entry : UnitEntry ℚ}
    (known : book.table[first]? = some entry) :
    book.anchor clause = entry.scale / (1 / clause.numberOf first) := by
  simp only [anchor, head, known, Clause.stated?_eq (List.mem_of_mem_head? head)]

theorem getElem?_add_first (head : clause.units.head? = some first)
    (nonzero : ∀ unit, clause.numberOf unit ≠ 0) {entry : UnitEntry ℚ}
    (known : book.table[first]? = some entry) : (book.add clause).table[first]? = some entry := by
  have stays : book.anchor clause * (1 / clause.numberOf first) = entry.scale := by
    rw [anchor_of_known head known]
    exact div_mul_cancel₀ _ (one_div_ne_zero (nonzero first))
  rw [getElem?_add head (Clause.stated?_eq (List.mem_of_mem_head? head)), stays,
    ConversionTable.classOf?, known]
  rfl

theorem scaled_add (scaled : book.table.Scaled) (nonzero : ∀ unit, clause.numberOf unit ≠ 0) :
    (book.add clause).table.Scaled := by
  have stated : ∀ (unit : String) (scale : ℚ), clause.stated? unit = some scale → scale ≠ 0 := by
    intro unit scale stated
    have mentioned : unit ∈ clause.units :=
      (Clause.isSome_stated?_iff (α := ℚ)).mp (by rw [stated, Option.isSome_some])
    rw [Clause.stated?_eq mentioned] at stated
    obtain rfl := Option.some.inj stated
    exact one_div_ne_zero (nonzero unit)
  intro unit entry found
  rcases scale_add found with old | ⟨scale, own, value⟩
  · exact scaled unit entry old
  · rw [value]
    refine mul_ne_zero ?_ (stated unit scale own)
    rcases anchor_eq book clause with one | ⟨first, entry, scale, known, front, ratio⟩
    · rw [one]
      exact one_ne_zero
    · rw [ratio]
      exact div_ne_zero (scaled first entry known) (stated first scale front)

theorem scaled_addAll {clauses : List Clause} (scaled : book.table.Scaled)
    (nonzero : ∀ clause ∈ clauses, ∀ unit, clause.numberOf unit ≠ 0) :
    (book.addAll clauses).table.Scaled := by
  induction clauses using List.reverseRecOn with
  | nil => exact scaled
  | append_singleton clauses last ih =>
      rw [addAll_append]
      exact scaled_add (ih fun clause member => nonzero clause (by simp [member]))
        (nonzero last (by simp))

/-- The clauses that make a book larger hold in it. -/
structure ClausesHold (book larger : RuleBook ℚ) (clauses : List Clause) : Prop where
  folded : larger = book.addAll clauses
  /-- A clause holds right after it is folded in. -/
  holds : ∀ (i : Nat) (clause : Clause), clauses[i]? = some clause →
    clause.Holds (book.addAll (clauses.take (i + 1))).table
  /-- A clause leaves its first unit as it is, if that is known. -/
  anchored : ∀ (i : Nat) (clause : Clause), clauses[i]? = some clause → ∀ first entry,
    clause.units.head? = some first →
    (book.addAll (clauses.take i)).table[first]? = some entry →
    (book.addAll (clauses.take (i + 1))).table[first]? = some entry
  /-- Two units with the same owner stay as large as it says. -/
  kept : ∀ (i : Nat) (clause : Clause), clauses[i]? = some clause → ∀ a b,
    owner? clauses a = some i → owner? clauses b = some i →
    larger.table.sameClass a b = true ∧
      clause.numberOf a * larger.table.scaleOf a = clause.numberOf b * larger.table.scaleOf b
  scaled : larger.table.Scaled

/-- The clauses that a rule text writes hold once it compiles. -/
theorem extend_clausesHold {book larger : RuleBook ℚ} {rules : String}
    (scaled : book.table.Scaled) (compiled : book.extend rules = .ok larger) :
    ∃ clauses, RuleGrammar.RulesText rules clauses ∧
      (Clause.split rules).mapM Clause.read = .ok clauses ∧
      ClausesHold book larger clauses := by
  obtain ⟨clauses, spelled, rfl⟩ := extend_eq_ok_iff.mp compiled
  have nonzero : ∀ clause ∈ clauses, ∀ unit, clause.numberOf unit ≠ 0 :=
    ((List.forall₂_and_left _ _).mp ((mapM_eq_ok_iff.mp spelled).flip.imp fun clause text read =>
      ⟨Clause.numberOf_ne_zero read, read⟩)).1
  have holds : ∀ (i : Nat) (clause : Clause), clauses[i]? = some clause →
      clause.Holds (book.addAll (clauses.take (i + 1))).table := by
    intro i clause position
    rw [addAll_take_succ position]
    exact holds_add (nonzero clause (List.mem_of_getElem? position))
  have written : RuleGrammar.RulesText rules clauses := Clause.rulesText_iff.mpr spelled
  refine ⟨clauses, written, spelled, rfl, holds, ?anchored, ?kept, scaled_addAll scaled nonzero⟩
  case anchored =>
    intro i clause position first entry head known
    rw [addAll_take_succ position]
    exact getElem?_add_first head (nonzero clause (List.mem_of_getElem? position)) known
  case kept =>
    intro i clause position a b ownerA ownerB
    obtain ⟨mentionedA, entryA⟩ := getElem?_addAll_of_owner? book ownerA position
    obtain ⟨mentionedB, entryB⟩ := getElem?_addAll_of_owner? book ownerB position
    -- Both entries are still those of the book in which the owner was just folded in.
    have related := (holds i clause position).related a mentionedA b mentionedB
    have equal := (holds i clause position).equal a mentionedA b mentionedB
    simp only [ConversionTable.sameClass, ConversionTable.scaleOf, entryA, entryB]
      at related equal ⊢
    exact ⟨related, equal⟩

/-- The book of the rules `m: k c d` in exact arithmetic. -/
def exactMetres : RuleBook ℚ :=
  (RuleBook.empty.addRules "m: k c d").1

theorem extend_clausesHold_metres :
    exactMetres.table.Scaled ∧
    ∃ larger, exactMetres.extend "2 x = 3 m = 4 x; 5 km = y; z: k; kz = 7 y" = .ok larger ∧
      ∃ clauses, RuleGrammar.RulesText "2 x = 3 m = 4 x; 5 km = y; z: k; kz = 7 y" clauses ∧
        (Clause.split "2 x = 3 m = 4 x; 5 km = y; z: k; kz = 7 y").mapM Clause.read =
          .ok clauses ∧ ClausesHold exactMetres larger clauses := by
  have scaled : exactMetres.table.Scaled := scaled_exactMetreTable
  have accepted : (exactMetres.extend "2 x = 3 m = 4 x; 5 km = y; z: k; kz = 7 y").isOk = true := by
    decide +kernel
  obtain ⟨larger, compiled⟩ := isOk_iff.mp accepted
  exact ⟨scaled, larger, compiled, extend_clausesHold scaled compiled⟩

end RuleBook

end UnitCheck
