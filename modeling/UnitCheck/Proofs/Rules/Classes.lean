import UnitCheck.Proofs.Rules.Sequence
import UnitCheck.Proofs.Rules.Source

/-!
# The classes of a rule text

Which units convert into each other after a rule text has been folded into a book.

* `addAll_spec` gives the class of each unit, and the number of the next class, from the sources of
  the clauses. It is an induction on the clauses from first to last.
* `extend_classPartition` is the resulting partition for every rule text that compiles.
-/

namespace UnitCheck

variable {α : Type} {table : ConversionTable α} {clauses : List Clause} {last : Clause}

/-- The units and classes of a book after some clauses, compared with those before. -/
structure ClassPartition (before after : RuleBook α) (clauses : List Clause) : Prop where
  known : ∀ unit, unit ∈ after.table ↔
    unit ∈ before.table ∨ ∃ clause ∈ clauses, unit ∈ clause.units
  unmentioned : ∀ unit, (∀ clause ∈ clauses, unit ∉ clause.units) →
    after.table[unit]? = before.table[unit]?
  /-- Two units that are mentioned share a class if their owners have the same source. -/
  mentioned : ∀ a b i j, owner? clauses a = some i → owner? clauses b = some j →
    (after.table.sameClass a b = true ↔
      source before.table clauses i = source before.table clauses j)
  /-- A unit that is mentioned shares the class of one that is not if its owner has that class as
  its source. -/
  mixed : ∀ a b i, owner? clauses a = some i → owner? clauses b = none →
    (after.table.sameClass a b = true ↔
      (before.table.classOf? b).map .inherited = some (source before.table clauses i))
  /-- The classes that are founded have consecutive numbers. -/
  numbers : ∀ unit i j, owner? clauses unit = some i →
    source before.table clauses i = .founded j →
    (after.table.classOf? unit).map (·.toNat) =
      some (before.nextClass.toNat + founders before.table clauses j)
  inherited : ∀ unit i dimension, owner? clauses unit = some i →
    source before.table clauses i = .inherited dimension →
    after.table.classOf? unit = some dimension
  next : after.nextClass.toNat =
    before.nextClass.toNat + founders before.table clauses clauses.length
  bounded : ∀ unit dimension, after.table.classOf? unit = some dimension →
    dimension < after.nextClass

/-! ## The book after some clauses -/

variable [Magnitude α] {book : RuleBook α} {start : DimensionClass}

theorem RuleBook.addAll_append (book : RuleBook α) (clauses : List Clause) (last : Clause) :
    book.addAll (clauses ++ [last]) = (book.addAll clauses).add last := by
  simp [addAll]

/-- The classes after one more clause, given those before it. -/
theorem classOf?_add_last {first : String} (head : last.units.head? = some first)
    (classes : ∀ unit, (book.addAll clauses).table.classOf? unit =
      (origin? table clauses unit).map (·.dimension table clauses start))
    (next : (book.addAll clauses).nextClass =
      start + UInt32.ofNat (founders table clauses clauses.length)) (unit : String) :
    ((book.addAll clauses).add last).table.classOf? unit =
      (origin? table (clauses ++ [last]) unit).map
        (·.dimension table (clauses ++ [last]) start) := by
  rw [RuleBook.classOf?_add head, origin?_append]
  split
  · rw [source_last head, classes, next, Option.map_some]
    cases known : origin? table clauses first with
    | none => simp [ClassSource.dimension, founders_append (Nat.le_refl _)]
    | some origin => simp [dimension_append (occurs_origin? known)]
  · rw [classes]
    cases known : origin? table clauses unit with
    | none => rfl
    | some origin => simp [dimension_append (occurs_origin? known)]

theorem addAll_spec (book : RuleBook α) (mentioning : ∀ clause ∈ clauses, clause.units ≠ []) :
    (∀ unit, (book.addAll clauses).table.classOf? unit =
      (origin? book.table clauses unit).map
        (·.dimension book.table clauses book.nextClass)) ∧
    (book.addAll clauses).nextClass =
      book.nextClass + UInt32.ofNat (founders book.table clauses clauses.length) := by
  -- From the end, since an owner is the last clause that mentions a unit.
  induction clauses using List.reverseRecOn with
  | nil =>
      refine ⟨fun unit => ?_, ?_⟩
      · simp [origin?, owner?, RuleBook.addAll, Function.comp_def, ClassSource.dimension]
      · simp [RuleBook.addAll, founders]
  | append_singleton clauses last ih =>
      obtain ⟨classes, next⟩ := ih fun clause member => mentioning clause (by simp [member])
      obtain ⟨first, head⟩ : ∃ first, last.units.head? = some first :=
        ⟨_, List.head?_eq_some_head (mentioning last (by simp))⟩
      have founds : source book.table (clauses ++ [last]) clauses.length = .founded clauses.length ↔
          origin? book.table clauses first = none := source_last_eq_iff head
      rw [← Option.map_eq_none_iff, ← classes] at founds
      rw [RuleBook.addAll_append]
      refine ⟨classOf?_add_last head classes next, ?_⟩
      rw [RuleBook.nextClass_add head, List.length_append, List.length_singleton, founders_succ,
        founders_append (Nat.le_refl _), next]
      simp only [← founds]
      split
      · rw [UInt32.ofNat_add, ← UInt32.add_assoc]
        rfl
      · rfl

theorem getElem?_addAll_of_not_mem {unit : String}
    (absent : ∀ clause ∈ clauses, unit ∉ clause.units) :
    (book.addAll clauses).table[unit]? = book.table[unit]? := by
  induction clauses using List.reverseRecOn with
  | nil => rfl
  | append_singleton clauses last ih =>
      rw [RuleBook.addAll_append, RuleBook.getElem?_add_of_not_mem (absent last (by simp))]
      exact ih fun clause member => absent clause (by simp [member])

/-! ## Classes and their numbers -/

theorem sameClass_addAll_iff (mentioning : ∀ clause ∈ clauses, clause.units ≠ [])
    (roomy : Roomy book.table clauses book.nextClass) {a b : String} :
    (book.addAll clauses).table.sameClass a b = true ↔
      ∃ origin, origin? book.table clauses a = some origin ∧
        origin? book.table clauses b = some origin := by
  obtain ⟨classes, -⟩ := addAll_spec book mentioning
  simp only [ConversionTable.sameClass_iff, classes, Option.map_eq_some_iff]
  constructor
  · rintro ⟨dimension, ⟨origin, found, rfl⟩, other, otherFound, same⟩
    have equal := roomy.dimension_injective (occurs_origin? otherFound) (occurs_origin? found) same
    exact ⟨origin, found, equal ▸ otherFound⟩
  · rintro ⟨origin, found, otherFound⟩
    exact ⟨_, ⟨origin, found, rfl⟩, origin, otherFound, rfl⟩

theorem classPartition_addAll (mentioning : ∀ clause ∈ clauses, clause.units ≠ [])
    (roomy : Roomy book.table clauses book.nextClass) :
    ClassPartition book (book.addAll clauses) clauses := by
  obtain ⟨classes, next⟩ := addAll_spec book mentioning
  have nextNumber := roomy.toNat_founders (Nat.le_refl _)
  rw [← next] at nextNumber
  constructor
  case known =>
    intro unit
    rw [ConversionTable.mem_iff_classOf?, classes, Option.isSome_map, isSome_origin?_iff]
  case unmentioned => exact fun unit absent => getElem?_addAll_of_not_mem absent
  case mentioned =>
    intro a b i j ownerA ownerB
    rw [sameClass_addAll_iff mentioning roomy, origin?_of_owner? ownerA, origin?_of_owner? ownerB]
    simp [eq_comm]
  case mixed =>
    intro a b i ownerA unowned
    rw [sameClass_addAll_iff mentioning roomy, origin?_of_owner? ownerA, origin?, unowned]
    simp
  case numbers =>
    intro unit i j owner founder
    have occurs : Occurs book.table clauses (.founded j) :=
      occurs_origin? (founder ▸ origin?_of_owner? owner)
    rw [classes, origin?_of_owner? owner, founder, Option.map_some, Option.map_some,
      ClassSource.dimension, roomy.toNat_founders (Nat.le_of_lt occurs.1)]
  case inherited =>
    intro unit i dimension owner known
    rw [classes, origin?_of_owner? owner, known, Option.map_some, ClassSource.dimension]
  case next => exact nextNumber
  case bounded =>
    intro unit dimension found
    rw [classes] at found
    obtain ⟨origin, known, rfl⟩ := Option.map_eq_some_iff.mp found
    rw [UInt32.lt_iff_toNat_lt, nextNumber]
    exact roomy.dimension_lt (occurs_origin? known)

/-! ## Rule texts -/

theorem Clause.units_ne_nil_of_read {text : List Char} {clause : Clause}
    (spelled : Clause.read text = .ok clause) : clause.units ≠ [] := by
  unfold Clause.read Clause.readShorthand at spelled
  dsimp only at spelled
  split at spelled
  · split at spelled
    · obtain ⟨prefixes, -, rfl⟩ := map_eq_ok_iff.mp spelled
      simp [Clause.units]
    · cases spelled
  · split at spelled
    · cases spelled
    · obtain ⟨terms, read, rfl⟩ := map_eq_ok_iff.mp spelled
      intro none
      rw [Clause.units, List.map_eq_nil_iff] at none
      rw [none, mapM_eq_ok_iff, List.forall₂_nil_right_iff] at read
      exact List.splitOn_ne_nil _ _ read

theorem extend_classPartition {book larger : RuleBook α} {rules : String}
    (compiled : book.extend rules = .ok larger)
    (fresh : ∀ unit dimension, book.table.classOf? unit = some dimension →
      dimension < book.nextClass)
    (room : book.nextClass.toNat + (Clause.split rules).length < UInt32.size) :
    ∃ clauses, (Clause.split rules).mapM Clause.read = .ok clauses ∧
      ClassPartition book larger clauses := by
  obtain ⟨clauses, spelled, rfl⟩ := RuleBook.extend_eq_ok_iff.mp compiled
  have pairs := mapM_eq_ok_iff.mp spelled
  have mentioning : ∀ clause ∈ clauses, clause.units ≠ [] :=
    ((List.forall₂_and_left _ _).mp (pairs.flip.imp fun clause text read =>
      ⟨Clause.units_ne_nil_of_read read, read⟩)).1
  rw [pairs.length_eq] at room
  exact ⟨clauses, spelled, classPartition_addAll mentioning ⟨fresh, room⟩⟩

/-- A book whose classes have the numbers 5 and 6. -/
def lengthsAndTimes : RuleBook Float :=
  ((RuleBook.startingAt 5).addRules "m: k; s: m").1

theorem extend_classPartition_lengthsAndTimes :
    (∀ unit dimension, lengthsAndTimes.table.classOf? unit = some dimension →
      dimension < lengthsAndTimes.nextClass) ∧
    lengthsAndTimes.nextClass.toNat + (Clause.split "A = 2 B; C = 3 B; km = 4 C").length <
      UInt32.size ∧
    ∃ larger, lengthsAndTimes.extend "A = 2 B; C = 3 B; km = 4 C" = .ok larger ∧
      ∃ clauses, (Clause.split "A = 2 B; C = 3 B; km = 4 C").mapM Clause.read = .ok clauses ∧
        ClassPartition lengthsAndTimes larger clauses := by
  have fresh : ∀ unit dimension, lengthsAndTimes.table.classOf? unit = some dimension →
      dimension < lengthsAndTimes.nextClass := by
    intro unit dimension found
    obtain ⟨entry, known, rfl⟩ := Option.map_eq_some_iff.mp found
    have below : ∀ known ∈ lengthsAndTimes.table.toList,
        known.2.dimension < lengthsAndTimes.nextClass := by decide +kernel
    exact below (unit, entry) (Std.TreeMap.mem_toList_iff_getElem?_eq_some.mpr known)
  have room : lengthsAndTimes.nextClass.toNat +
      (Clause.split "A = 2 B; C = 3 B; km = 4 C").length < UInt32.size := by decide +kernel
  have accepted : (lengthsAndTimes.extend "A = 2 B; C = 3 B; km = 4 C").isOk = true := by
    decide +kernel
  obtain ⟨larger, compiled⟩ := isOk_iff.mp accepted
  exact ⟨fresh, room, larger, compiled, extend_classPartition compiled fresh room⟩

end UnitCheck
