import Mathlib.Data.List.Induction
import UnitCheck.Proofs.Rules.Folding

/-!
# Where classes come from

Every unit that a list of clauses mentions is in the class of its owner, the last clause that
mentions it. A clause takes the class that its first unit has at that moment, or founds one. Here
this is said of the clauses alone; no book is folded.

* `owner?` and `source` are the owner of a unit and the source of the class of a clause.
* `origin?` is the source of a unit's class, and `origin?_append` what one more clause changes.
* `Roomy.dimension_injective`: numbered in the order of their founders, distinct sources are
  distinct classes.
-/

namespace UnitCheck

variable {α : Type}

/-- The number of the last clause that mentions a unit. -/
def owner? : List Clause → String → Option Nat
  | [], _ => none
  | clause :: rest, unit =>
      match owner? rest unit with
      | some i => some (i + 1)
      | none => if unit ∈ clause.units then some 0 else none

theorem owner?_lt {clauses : List Clause} {unit : String} {i : Nat}
    (owned : owner? clauses unit = some i) : i < clauses.length := by
  induction clauses generalizing i with
  | nil => cases owned
  | cons clause rest ih =>
      rw [owner?] at owned
      split at owned
      · rename_i j later
        have := ih later
        grind
      · grind

/-- Where the class of a clause comes from. -/
inductive ClassSource where
  /-- The clause with this number founded it. -/
  | founded (clause : Nat)
  /-- The book had it before the first clause. -/
  | inherited (dimension : DimensionClass)
deriving DecidableEq

/-- The source of the class of a clause: that of the last earlier clause that mentions its first
unit, or the class that this unit had before all clauses, or else the clause itself. -/
def source (table : ConversionTable α) (clauses : List Clause) (i : Nat) : ClassSource :=
  match clauses[i]?.bind (·.units.head?) with
  | none => .founded i
  | some first =>
      match owned : owner? (clauses.take i) first with
      | some j =>
          have : j < i := Nat.lt_of_lt_of_le (owner?_lt owned) (List.length_take_le _ _)
          source table clauses j
      | none => ((table.classOf? first).map .inherited).getD (.founded i)
termination_by i

/-- How many of the first clauses found a class. -/
def founders (table : ConversionTable α) (clauses : List Clause) (count : Nat) : Nat :=
  (List.range count).countP fun i => source table clauses i = .founded i

/-! ## Owners and sources -/

theorem owner?_append (clauses : List Clause) (last : Clause) (unit : String) :
    owner? (clauses ++ [last]) unit =
      if unit ∈ last.units then some clauses.length else owner? clauses unit := by
  induction clauses with
  | nil => simp [owner?]
  | cons clause rest ih =>
      rw [List.cons_append, owner?, ih, owner?]
      by_cases mentioned : unit ∈ last.units <;> simp [mentioned]

theorem owner?_eq_none_iff {clauses : List Clause} {unit : String} :
    owner? clauses unit = none ↔ ∀ clause ∈ clauses, unit ∉ clause.units := by
  induction clauses with
  | nil => simp [owner?]
  | cons clause rest ih =>
      rw [owner?, List.forall_mem_cons, ← ih]
      cases owner? rest unit <;> simp

/-- The source of the class of a unit, if it has one after some clauses. -/
def origin? (table : ConversionTable α) (clauses : List Clause) (unit : String) :
    Option ClassSource :=
  match owner? clauses unit with
  | some i => some (source table clauses i)
  | none => (table.classOf? unit).map .inherited

variable {table : ConversionTable α} {clauses : List Clause} {last : Clause}
  {start : DimensionClass}

theorem origin?_of_owner? {unit : String} {i : Nat} (owner : owner? clauses unit = some i) :
    origin? table clauses unit = some (source table clauses i) := by
  rw [origin?, owner]

theorem source_of_head {i : Nat} {first : String}
    (head : clauses[i]?.bind (·.units.head?) = some first) :
    source table clauses i =
      match owner? (clauses.take i) first with
      | some j => source table clauses j
      | none => ((table.classOf? first).map .inherited).getD (.founded i) := by
  rw [source]
  split
  · rename_i missing
    cases head.symm.trans missing
  · rename_i other found
    obtain rfl : first = other := Option.some.inj (head.symm.trans found)
    split <;> rename_i owned <;> simp only [owned]

theorem source_of_no_head {i : Nat} (missing : clauses[i]?.bind (·.units.head?) = none) :
    source table clauses i = .founded i := by
  rw [source]
  split
  · rfl
  · rename_i found
    cases missing.symm.trans found

theorem source_append {i : Nat} (inside : i < clauses.length) :
    source table (clauses ++ [last]) i = source table clauses i := by
  -- The source of a clause is that of an owner before it, however far back.
  induction i using Nat.strongRecOn with
  | ind i ih =>
      have position : (clauses ++ [last])[i]? = clauses[i]? := List.getElem?_append_left inside
      cases head : clauses[i]?.bind (·.units.head?) with
      | none => rw [source_of_no_head head, source_of_no_head (position ▸ head)]
      | some first =>
          rw [source_of_head head, source_of_head (position ▸ head),
            List.take_append_of_le_length (Nat.le_of_lt inside)]
          cases owned : owner? (clauses.take i) first with
          | none => rfl
          | some j =>
              have earlier := Nat.lt_of_lt_of_le (owner?_lt owned) (List.length_take_le _ _)
              exact ih j earlier (Nat.lt_trans earlier inside)

theorem source_last {first : String} (head : last.units.head? = some first) :
    source table (clauses ++ [last]) clauses.length =
      (origin? table clauses first).getD (.founded clauses.length) := by
  have position : (clauses ++ [last])[clauses.length]?.bind (·.units.head?) = some first := by
    simp [head]
  rw [source_of_head position, List.take_left, origin?]
  cases owned : owner? clauses first with
  | none => rfl
  | some j => exact source_append (owner?_lt owned)

theorem origin?_append (unit : String) :
    origin? table (clauses ++ [last]) unit =
      if unit ∈ last.units then some (source table (clauses ++ [last]) clauses.length)
      else origin? table clauses unit := by
  unfold origin?
  rw [owner?_append]
  by_cases mentioned : unit ∈ last.units
  · simp [mentioned]
  · simp only [mentioned, if_false]
    split
    · rename_i owned
      rw [source_append (owner?_lt owned)]
    · rfl

/-! ## Founders -/

theorem founders_succ (count : Nat) :
    founders table clauses (count + 1) =
      founders table clauses count +
        if source table clauses count = .founded count then 1 else 0 := by
  simp [founders, List.range_succ, List.countP_append, List.countP_singleton]

theorem founders_le (count : Nat) : founders table clauses count ≤ count := by
  have bound := List.countP_le_length (l := List.range count)
    (p := fun i => decide (source table clauses i = .founded i))
  rwa [List.length_range] at bound

theorem founders_mono {i j : Nat} (le : i ≤ j) :
    founders table clauses i ≤ founders table clauses j := by
  induction le with
  | refl => exact Nat.le_refl _
  | step _ ih =>
      rw [founders_succ]
      exact Nat.le_add_right_of_le ih

theorem founders_lt {i j : Nat} (founder : source table clauses i = .founded i) (less : i < j) :
    founders table clauses i < founders table clauses j := by
  have step : founders table clauses (i + 1) = founders table clauses i + 1 := by
    rw [founders_succ, if_pos founder]
  have rest : founders table clauses (i + 1) ≤ founders table clauses j := founders_mono less
  omega

theorem founders_append {count : Nat} (inside : count ≤ clauses.length) :
    founders table (clauses ++ [last]) count = founders table clauses count := by
  apply List.countP_congr
  intro i member
  rw [source_append (Nat.lt_of_lt_of_le (List.mem_range.mp member) inside)]

/-- The sources that a class can have: a clause that founds one, or a class of the table. -/
def Occurs (table : ConversionTable α) (clauses : List Clause) : ClassSource → Prop
  | .founded i => i < clauses.length ∧ source table clauses i = .founded i
  | .inherited dimension => ∃ unit, table.classOf? unit = some dimension

theorem Occurs.append {origin : ClassSource} (occurs : Occurs table clauses origin) :
    Occurs table (clauses ++ [last]) origin := by
  cases origin with
  | founded i =>
      obtain ⟨inside, founder⟩ := occurs
      refine ⟨by simp; omega, ?_⟩
      rw [source_append inside, founder]
  | inherited dimension => exact occurs

theorem occurs_last {first : String} (head : last.units.head? = some first)
    (earlier : ∀ origin, origin? table clauses first = some origin → Occurs table clauses origin) :
    Occurs table (clauses ++ [last]) (source table (clauses ++ [last]) clauses.length) := by
  have atLast : source table (clauses ++ [last]) clauses.length =
      (origin? table clauses first).getD (.founded clauses.length) := source_last head
  cases known : origin? table clauses first with
  | none =>
      rw [known, Option.getD_none] at atLast
      rw [atLast]
      exact ⟨by simp, atLast⟩
  | some origin =>
      rw [known, Option.getD_some] at atLast
      rw [atLast]
      exact (earlier origin known).append

theorem occurs_origin? {unit : String} {origin : ClassSource}
    (found : origin? table clauses unit = some origin) : Occurs table clauses origin := by
  induction clauses using List.reverseRecOn generalizing unit origin with
  | nil =>
      obtain ⟨dimension, inTable, rfl⟩ := Option.map_eq_some_iff.mp found
      exact ⟨unit, inTable⟩
  | append_singleton clauses last ih =>
      rw [origin?_append] at found
      split at found
      · rename_i mentioned
        rw [← Option.some.inj found]
        exact occurs_last (List.head?_eq_some_head (List.ne_nil_of_mem mentioned)) fun _ => ih
      · exact (ih found).append

theorem source_last_eq_iff {first : String} (head : last.units.head? = some first) :
    source table (clauses ++ [last]) clauses.length = .founded clauses.length ↔
      origin? table clauses first = none := by
  rw [source_last head]
  cases known : origin? table clauses first with
  | none => simp
  | some origin =>
      have occurs := occurs_origin? known
      constructor
      · intro founder
        rw [Option.getD_some] at founder
        rw [founder] at occurs
        exact absurd occurs.1 (Nat.lt_irrefl _)
      · intro impossible
        cases impossible

theorem isSome_origin?_iff {unit : String} :
    (origin? table clauses unit).isSome = true ↔
      unit ∈ table ∨ ∃ clause ∈ clauses, unit ∈ clause.units := by
  unfold origin?
  cases owned : owner? clauses unit with
  | none =>
      have absent := owner?_eq_none_iff.mp owned
      rw [Option.isSome_map, ConversionTable.mem_iff_classOf?]
      refine ⟨Or.inl, fun known => known.resolve_right ?_⟩
      rintro ⟨clause, member, mentioned⟩
      exact absent clause member mentioned
  | some i =>
      have mentioned : ∃ clause ∈ clauses, unit ∈ clause.units := by
        by_contra absent
        push Not at absent
        rw [owner?_eq_none_iff.mpr absent] at owned
        cases owned
      simp [mentioned]

/-! ## Numbers of classes -/

/-- The class that a source stands for: founders are numbered from `first` upwards. -/
def ClassSource.dimension (table : ConversionTable α) (clauses : List Clause)
    (first : DimensionClass) : ClassSource → DimensionClass
  | .founded i => first + UInt32.ofNat (founders table clauses i)
  | .inherited dimension => dimension

theorem dimension_append {first : DimensionClass} {origin : ClassSource}
    (occurs : Occurs table clauses origin) :
    origin.dimension table (clauses ++ [last]) first = origin.dimension table clauses first := by
  cases origin with
  | founded i => simp only [ClassSource.dimension, founders_append (Nat.le_of_lt occurs.1)]
  | inherited dimension => rfl

/-- The numbers of the classes are below `start`, and those up to the number of clauses above it are
free. -/
structure Roomy (table : ConversionTable α) (clauses : List Clause) (start : DimensionClass) :
    Prop where
  fresh : ∀ unit dimension, table.classOf? unit = some dimension → dimension < start
  room : start.toNat + clauses.length < UInt32.size

theorem Roomy.toNat_founders (roomy : Roomy table clauses start) {count : Nat}
    (inside : count ≤ clauses.length) :
    (start + UInt32.ofNat (founders table clauses count)).toNat =
      start.toNat + founders table clauses count := by
  have bound : founders table clauses count ≤ clauses.length :=
    Nat.le_trans (founders_le count) inside
  have room : start.toNat + clauses.length < 2 ^ 32 := roomy.room
  rw [UInt32.toNat_add, UInt32.toNat_ofNat', Nat.mod_eq_of_lt (by omega),
    Nat.mod_eq_of_lt (by omega)]

theorem Roomy.founded_ne_inherited (roomy : Roomy table clauses start) {i : Nat}
    {dimension : DimensionClass} (founder : Occurs table clauses (.founded i))
    (known : Occurs table clauses (.inherited dimension)) :
    (ClassSource.founded i).dimension table clauses start ≠ dimension := by
  obtain ⟨unit, known⟩ := known
  have below := UInt32.lt_iff_toNat_lt.mp (roomy.fresh unit dimension known)
  have above := roomy.toNat_founders (Nat.le_of_lt founder.1)
  intro same
  rw [← same, ClassSource.dimension, above] at below
  omega

theorem Roomy.dimension_injective (roomy : Roomy table clauses start)
    {origin other : ClassSource} (occurs : Occurs table clauses origin)
    (otherOccurs : Occurs table clauses other)
    (same : origin.dimension table clauses start = other.dimension table clauses start) :
    origin = other := by
  cases origin with
  | inherited dimension =>
      cases other with
      | inherited _ => exact congrArg ClassSource.inherited same
      | founded j => exact absurd same.symm (roomy.founded_ne_inherited otherOccurs occurs)
  | founded i =>
      cases other with
      | inherited dimension => exact absurd same (roomy.founded_ne_inherited occurs otherOccurs)
      | founded j =>
          have numbers := congrArg UInt32.toNat same
          simp only [ClassSource.dimension, roomy.toNat_founders (Nat.le_of_lt occurs.1),
            roomy.toNat_founders (Nat.le_of_lt otherOccurs.1)] at numbers
          rcases Nat.lt_trichotomy i j with less | rfl | greater
          · have := founders_lt occurs.2 less
            omega
          · rfl
          · have := founders_lt otherOccurs.2 greater
            omega

theorem Roomy.dimension_lt (roomy : Roomy table clauses start) {origin : ClassSource}
    (occurs : Occurs table clauses origin) :
    (origin.dimension table clauses start).toNat <
      start.toNat + founders table clauses clauses.length := by
  cases origin with
  | founded i =>
      obtain ⟨inside, founder⟩ := occurs
      rw [ClassSource.dimension, roomy.toNat_founders (Nat.le_of_lt inside)]
      exact Nat.add_lt_add_left (founders_lt founder inside) _
  | inherited dimension =>
      obtain ⟨unit, known⟩ := occurs
      exact Nat.lt_add_right _ (UInt32.lt_iff_toNat_lt.mp (roomy.fresh unit dimension known))

end UnitCheck
