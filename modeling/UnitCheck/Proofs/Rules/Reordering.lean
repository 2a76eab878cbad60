import Mathlib.Data.List.Perm.Basic
import UnitCheck.Proofs.Rules.Exchange
import UnitCheck.Proofs.Rules.Grammar

/-!
# Rules in another order

The order of two neighbouring clauses that have no unit in common does not matter, and neither does
the order of the terms of a chain after the first one. Exchanged clauses give the same book up to
the numbers of the classes, and reordered terms the very same entries.

* `Clause.stated?_perm`: terms in another order state the same scales, if no unit repeats.
* `ClausesExchanged` and `TermsReordered` are the two relations between rule texts.
* `RuleBook.extend_reordered` says what they leave unchanged, the results of matching included.
-/

namespace UnitCheck

open RuleGrammar

variable {α : Type} [Magnitude α]

/-! ## Terms -/

namespace Clause

theorem lookup_perm {β : Type} {entries others : List (String × β)}
    (reordered : entries.Perm others) (distinct : (entries.map Prod.fst).Nodup) (unit : String) :
    entries.lookup unit = others.lookup unit := by
  induction reordered with
  | nil => rfl
  | cons entry _ ih =>
      obtain ⟨name, scale⟩ := entry
      rw [lookup_pair, lookup_pair, ih (List.nodup_cons.mp distinct).2]
  | swap entry other rest =>
      obtain ⟨name, scale⟩ := entry
      obtain ⟨otherName, otherScale⟩ := other
      have different : otherName ≠ name := fun same => by simp [same] at distinct
      simp only [lookup_pair]
      by_cases here : unit = otherName
      · simp [here, different]
      · simp [here]
  | trans reordered _ ih next =>
      exact (ih distinct).trans (next ((reordered.map Prod.fst).nodup_iff.mp distinct))

theorem stated?_perm {terms others : List Term} (reordered : terms.Perm others)
    (distinct : (chain terms).units.Nodup) (unit : String) :
    ((chain terms).stated? unit : Option α) = (chain others).stated? unit := by
  have statements : ((chain terms).statements : List (String × α)).Perm (chain others).statements :=
    reordered.map _
  have names : ((chain terms).statements : List (String × α)).reverse.map Prod.fst =
      (chain terms).units.reverse := by
    rw [List.map_reverse, map_fst_statements]
  apply lookup_perm (((List.reverse_perm _).trans statements).trans (List.reverse_perm _).symm)
  rw [names]
  exact List.nodup_reverse.mpr distinct

/-- A chain with its further terms in another order is a chain too. -/
theorem read_reordered {text other first : List Char} {pieces others : List (List Char)}
    {terms : List Term} (split : text.splitOn '=' = first :: pieces)
    (otherSplit : other.splitOn '=' = first :: others) (reordered : pieces.Perm others)
    (spelled : read text = .ok (.chain terms)) :
    ∃ head tail otherTail, terms = head :: tail ∧ tail.Perm otherTail ∧
      read other = .ok (.chain (head :: otherTail)) := by
  obtain ⟨-, derived⟩ : ':' ∉ text ∧ List.Forall₂ TermText (text.splitOn '=') terms := by
    cases read_eq_ok_iff.mp spelled with
    | chain absent derived => exact ⟨absent, derived⟩
  rw [split] at derived
  obtain ⟨head, tail, own, rest, rfl⟩ := List.forall₂_cons_left_iff.mp derived
  obtain ⟨otherTail, otherRest, permuted⟩ := List.perm_comp_forall₂ reordered.symm rest
  have otherDerived : List.Forall₂ TermText (other.splitOn '=') (head :: otherTail) := by
    rw [otherSplit]
    exact .cons own otherRest
  have absent : ':' ∉ other := not_mem_of_splitOn (by decide) other
    ((List.forall₂_and_left _ _).mp
      (otherDerived.imp fun piece term derived => ⟨derived.colon_not_mem, derived⟩)).1
  exact ⟨head, tail, otherTail, rfl, permuted.symm, read_eq_ok_iff.mpr (.chain absent otherDerived)⟩

end Clause

/-- Two clauses that state the same scales, with the same unit first, have the same effect. -/
theorem Renamed.add_congr {clause other : Clause} (heads : clause.units.head? = other.units.head?)
    (stated : ∀ unit, (clause.stated? unit : Option α) = other.stated? unit) (book : RuleBook α) :
    Renamed id (book.add clause) (book.add other) := by
  rw [Renamed.id_iff]
  cases head : clause.units.head? with
  | none =>
      rw [RuleBook.add_of_no_units head, RuleBook.add_of_no_units (heads ▸ head)]
      exact ⟨fun _ => rfl, rfl⟩
  | some first =>
      have otherHead : other.units.head? = some first := heads ▸ head
      have anchor : book.anchor other = book.anchor clause := by
        simp only [RuleBook.anchor, head, otherHead, stated]
      constructor
      · intro unit
        rw [RuleBook.getElem?_add_eq head, RuleBook.getElem?_add_eq otherHead, anchor, stated]
      · rw [RuleBook.nextClass_add head, RuleBook.nextClass_add otherHead]

/-! ## Rule texts -/

/-- Two rule texts that differ in the order of two neighbouring clauses, which have no unit in
common. -/
inductive ClausesExchanged (rules other : String) : Prop
  | intro {before after : List (List Char)} {first second : List Char} {clause next : Clause} :
      Clause.split rules = before ++ first :: second :: after →
      Clause.split other = before ++ second :: first :: after →
      Clause.read first = .ok clause → Clause.read second = .ok next →
      clause.units.Disjoint next.units → ClausesExchanged rules other

/-- Two rule texts that differ in the order of the terms after the first one of a chain, which
mentions no unit twice. -/
inductive TermsReordered (rules other : String) : Prop
  | intro {before after : List (List Char)} {text reordered first : List Char}
      {pieces others : List (List Char)} {terms : List Term} :
      Clause.split rules = before ++ text :: after →
      Clause.split other = before ++ reordered :: after →
      text.splitOn '=' = first :: pieces → reordered.splitOn '=' = first :: others →
      pieces.Perm others → Clause.read text = .ok (.chain terms) →
      (Clause.chain terms).units.Nodup → TermsReordered rules other

namespace RuleBook

variable {book larger : RuleBook α} {rules other : String}

theorem extend_of_exchanged (compiled : book.extend rules = .ok larger) (fresh : book.Fresh)
    (room : book.HasRoom (Clause.readText rules).1) (exchanged : ClausesExchanged rules other) :
    ∃ result rename, book.extend other = .ok result ∧ rename.Injective ∧
      Renamed rename larger result := by
  obtain ⟨split, otherSplit, own, next, apart⟩ := exchanged
  obtain ⟨clauses, spelled, rfl⟩ := extend_eq_ok_iff.mp compiled
  rw [Clause.mapM_read_eq_ok_iff.mp spelled] at room
  rw [split] at spelled
  simp only [mapM_append_eq_ok_iff, mapM_cons_eq_ok_iff, own, next, Except.ok.injEq] at spelled
  obtain ⟨front, _, before, ⟨_, _, rfl, ⟨_, back, rfl, after, rfl⟩, rfl⟩, rfl⟩ := spelled
  obtain ⟨rename, injective, renamed⟩ := Renamed.addAll_exchange fresh room
    (Clause.units_ne_nil_of_read own) (Clause.units_ne_nil_of_read next) apart
  refine ⟨_, rename, extend_eq_ok_iff.mpr ⟨_, ?_, rfl⟩, injective, renamed⟩
  rw [otherSplit]
  simp only [mapM_append_eq_ok_iff, mapM_cons_eq_ok_iff, own, next, Except.ok.injEq]
  exact ⟨front, _, before, ⟨_, _, rfl, ⟨_, back, rfl, after, rfl⟩, rfl⟩, rfl⟩

theorem extend_of_reordered (compiled : book.extend rules = .ok larger)
    (reordered : TermsReordered rules other) :
    ∃ result, book.extend other = .ok result ∧ Renamed id larger result := by
  obtain ⟨split, otherSplit, pieces, others, permuted, own, distinct⟩ := reordered
  obtain ⟨clauses, spelled, rfl⟩ := extend_eq_ok_iff.mp compiled
  obtain ⟨head, tail, otherTail, rfl, permutedTail, otherOwn⟩ :=
    Clause.read_reordered pieces others permuted own
  rw [split] at spelled
  simp only [mapM_append_eq_ok_iff, mapM_cons_eq_ok_iff, own, Except.ok.injEq] at spelled
  obtain ⟨front, _, before, ⟨_, back, rfl, after, rfl⟩, rfl⟩ := spelled
  have stated : ∀ unit, ((Clause.chain (head :: tail)).stated? unit : Option α) =
      (Clause.chain (head :: otherTail)).stated? unit :=
    Clause.stated?_perm (permutedTail.cons head) distinct
  have heads : (Clause.chain (head :: tail)).units.head? =
      (Clause.chain (head :: otherTail)).units.head? := rfl
  have final := (Renamed.add_congr heads stated (book.addAll front)).addAll back fun _ => rfl
  refine ⟨_, extend_eq_ok_iff.mpr ⟨front ++ .chain (head :: otherTail) :: back, ?_, rfl⟩, ?_⟩
  · rw [otherSplit]
    simp only [mapM_append_eq_ok_iff, mapM_cons_eq_ok_iff, otherOwn, Except.ok.injEq]
    exact ⟨front, _, before, ⟨_, back, rfl, after, rfl⟩, rfl⟩
  · simpa [addAll] using final

/-- Two neighbouring clauses without a common unit can change places: the units keep their scales
and class mates, the classes are renamed, and matching gives the same results. The terms of a chain
after the first one can be reordered, and no entry changes. -/
theorem extend_reordered {book larger : RuleBook α} {rules : String}
    (compiled : book.extend rules = .ok larger) :
    (book.Fresh → book.HasRoom (Clause.readText rules).1 →
      ∀ other, ClausesExchanged rules other →
        ∃ result rename, book.extend other = .ok result ∧ rename.Injective ∧
          Renamed rename larger result ∧
          (∀ a b, larger.table.sameClass a b = result.table.sameClass a b) ∧
          ∀ unit targets, matchTargets larger.table unit targets =
            matchTargets result.table unit targets) ∧
    ∀ other, TermsReordered rules other →
      ∃ result, book.extend other = .ok result ∧
        (∀ unit : String, result.table[unit]? = larger.table[unit]?) ∧
        result.nextClass = larger.nextClass ∧
        ∀ unit targets, matchTargets larger.table unit targets =
          matchTargets result.table unit targets := by
  constructor
  · intro fresh room other exchanged
    obtain ⟨result, rename, extended, injective, renamed⟩ :=
      extend_of_exchanged compiled fresh room exchanged
    exact ⟨result, rename, extended, injective, renamed, renamed.sameClass injective,
      fun unit targets => matchTargets_eq_of_agreeOn (renamed.agreeOn injective _)⟩
  · intro other reordered
    obtain ⟨result, extended, renamed⟩ := extend_of_reordered compiled reordered
    obtain ⟨entries, next⟩ := Renamed.id_iff.mp renamed
    exact ⟨result, extended, entries, next,
      fun unit targets => matchTargets_eq_of_agreeOn (renamed.agreeOn Function.injective_id _)⟩

theorem fresh_lengthsAndTimes : lengthsAndTimes.Fresh := by
  intro unit dimension found
  obtain ⟨entry, known, rfl⟩ := Option.map_eq_some_iff.mp found
  have below : ∀ known ∈ lengthsAndTimes.table.toList,
      known.2.dimension < lengthsAndTimes.nextClass := by decide +kernel
  exact below (unit, entry) (Std.TreeMap.mem_toList_iff_getElem?_eq_some.mpr known)

theorem exchanged_lengthsAndTimes :
    ClausesExchanged "A = 2 B; C: k; 5 C = 3 B = km" " C: k;;A = 2 B; 5 C = 3 B = km" := by
  have split : Clause.split "A = 2 B; C: k; 5 C = 3 B = km" =
      [] ++ "A = 2 B".toList :: " C: k".toList :: [" 5 C = 3 B = km".toList] := by decide +kernel
  have otherSplit : Clause.split " C: k;;A = 2 B; 5 C = 3 B = km" =
      [] ++ " C: k".toList :: "A = 2 B".toList :: [" 5 C = 3 B = km".toList] := by decide +kernel
  have own : Clause.read "A = 2 B".toList =
      .ok (.chain [⟨none, "A"⟩, ⟨some ⟨false, 2, 0⟩, "B"⟩]) :=
    toOption_eq_some_iff.mp (by decide +kernel)
  have next : Clause.read " C: k".toList = .ok (.shorthand "C" [.kilo]) :=
    toOption_eq_some_iff.mp (by decide +kernel)
  exact .intro split otherSplit own next (by simp [Clause.units, SiPrefix.symbol])

theorem reordered_lengthsAndTimes :
    TermsReordered "A = 2 B; C: k; 5 C = 3 B = km" "A = 2 B; C: k; 5 C = km= 3 B " := by
  have split : Clause.split "A = 2 B; C: k; 5 C = 3 B = km" =
      ["A = 2 B".toList, " C: k".toList] ++ " 5 C = 3 B = km".toList :: [] := by decide +kernel
  have otherSplit : Clause.split "A = 2 B; C: k; 5 C = km= 3 B " =
      ["A = 2 B".toList, " C: k".toList] ++ " 5 C = km= 3 B ".toList :: [] := by decide +kernel
  have pieces : " 5 C = 3 B = km".toList.splitOn '=' =
      " 5 C ".toList :: [" 3 B ".toList, " km".toList] := by decide +kernel
  have others : " 5 C = km= 3 B ".toList.splitOn '=' =
      " 5 C ".toList :: [" km".toList, " 3 B ".toList] := by decide +kernel
  have own : Clause.read " 5 C = 3 B = km".toList =
      .ok (.chain [⟨some ⟨false, 5, 0⟩, "C"⟩, ⟨some ⟨false, 3, 0⟩, "B"⟩, ⟨none, "km"⟩]) :=
    toOption_eq_some_iff.mp (by decide +kernel)
  exact .intro split otherSplit pieces others (List.Perm.swap _ _ _) own (by decide)

theorem extend_reordered_lengthsAndTimes :
    lengthsAndTimes.Fresh ∧
    lengthsAndTimes.HasRoom (Clause.readText "A = 2 B; C: k; 5 C = 3 B = km").1 ∧
    ∃ larger, lengthsAndTimes.extend "A = 2 B; C: k; 5 C = 3 B = km" = .ok larger ∧
      (∃ result rename, lengthsAndTimes.extend " C: k;;A = 2 B; 5 C = 3 B = km" = .ok result ∧
        rename.Injective ∧ Renamed rename larger result) ∧
      ∃ result, lengthsAndTimes.extend "A = 2 B; C: k; 5 C = km= 3 B " = .ok result ∧
        ∀ unit : String, result.table[unit]? = larger.table[unit]? := by
  have room : lengthsAndTimes.HasRoom (Clause.readText "A = 2 B; C: k; 5 C = 3 B = km").1 := by
    decide +kernel
  have accepted : (lengthsAndTimes.extend "A = 2 B; C: k; 5 C = 3 B = km").isOk = true := by
    decide +kernel
  obtain ⟨larger, compiled⟩ := isOk_iff.mp accepted
  obtain ⟨exchange, reorder⟩ := extend_reordered compiled
  obtain ⟨result, rename, extended, injective, renamed, -⟩ :=
    exchange fresh_lengthsAndTimes room _ exchanged_lengthsAndTimes
  obtain ⟨other, otherExtended, entries, -⟩ := reorder _ reordered_lengthsAndTimes
  exact ⟨fresh_lengthsAndTimes, room, larger, compiled,
    ⟨result, rename, extended, injective, renamed⟩, other, otherExtended, entries⟩

end RuleBook

end UnitCheck
