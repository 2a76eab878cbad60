import UnitCheck.Proofs.Rules.Classes

/-!
# The scales that clauses give

The last mention of a unit in a clause states its scale, and the first unit of the clause anchors
it: if that unit is known, all scales of the clause are multiplied so that its own stays what it was.

* `Clause.stated?` is the scale that a clause states for a unit, and `RuleBook.anchor` what it is
  multiplied by.
* `getElem?_add` is the entry of every unit of a clause once that clause is folded in.
* `getElem?_addAll_of_owner?`: after all clauses a unit has the entry that its owner gave it.
-/

namespace UnitCheck

variable {α : Type}

/-! ## Scales of one clause -/

namespace Clause

theorem lookup_pair (scales : List (String × α)) (name : String) (scale : α) (unit : String) :
    ((name, scale) :: scales).lookup unit =
      if unit = name then some scale else scales.lookup unit := by
  rw [List.lookup_cons]
  by_cases same : unit = name
  · simp [same]
  · simp [same, beq_eq_false_iff_ne.mpr same]

theorem lookup_record (scales : List (String × α)) (statement : String × α) (unit : String) :
    (record scales statement).lookup unit =
      if unit = statement.1 then some statement.2 else scales.lookup unit := by
  induction scales with
  | nil => exact lookup_pair [] statement.1 statement.2 unit
  | cons head rest ih =>
      obtain ⟨name, scale⟩ := head
      rw [record, lookup_pair]
      split
      · rename_i same
        subst same
        rw [lookup_pair]
        split <;> rfl
      · rename_i different
        rw [lookup_pair, ih]
        split
        · rename_i here
          rw [if_neg (here ▸ different)]
        · rfl

theorem lookup_foldl_record (statements scales : List (String × α)) (unit : String) :
    (statements.foldl record scales).lookup unit =
      (statements.reverse.lookup unit).or (scales.lookup unit) := by
  induction statements generalizing scales with
  | nil => rfl
  | cons statement rest ih =>
      rw [List.foldl_cons, ih, lookup_record, List.reverse_cons, List.lookup_append,
        Option.or_assoc]
      congr 1
      rw [← lookup_pair, ← List.lookup_append, List.singleton_append]

theorem nodup_record {scales : List (String × α)} (statement : String × α)
    (distinct : (scales.map Prod.fst).Nodup) :
    ((record scales statement).map Prod.fst).Nodup := by
  induction scales with
  | nil => simp [record]
  | cons head rest ih =>
      rw [List.map_cons, List.nodup_cons] at distinct
      rw [record]
      split
      · exact List.nodup_cons.mpr distinct
      · rename_i different
        rw [List.map_cons, List.nodup_cons, mem_record_iff]
        exact ⟨not_or.mpr ⟨distinct.1, different⟩, ih distinct.2⟩

variable [Magnitude α]

/-- The scale that the last mention of a unit states. -/
def stated? (clause : Clause) (unit : String) : Option α :=
  (clause.statements : List (String × α)).reverse.lookup unit

theorem lookup_scales (clause : Clause) (unit : String) :
    (clause.scales : List (String × α)).lookup unit = clause.stated? unit := by
  rw [scales, lookup_foldl_record, List.lookup_nil, Option.or_none, stated?]

theorem nodup_scales (clause : Clause) :
    ((clause.scales : List (String × α)).map Prod.fst).Nodup := by
  unfold scales
  generalize (clause.statements : List (String × α)) = statements
  have grown : ∀ scales : List (String × α), (scales.map Prod.fst).Nodup →
      ((statements.foldl record scales).map Prod.fst).Nodup := by
    induction statements with
    | nil => exact fun _ distinct => distinct
    | cons statement rest ih => exact fun scales distinct => ih _ (nodup_record statement distinct)
  exact grown [] List.nodup_nil

theorem isSome_stated?_iff {clause : Clause} {unit : String} :
    (clause.stated? unit : Option α).isSome = true ↔ unit ∈ clause.units := by
  rw [← map_fst_statements (α := α), stated?, List.lookup_isSome_iff]
  simp

theorem mem_statements_of_stated? {clause : Clause} {unit : String} {scale : α}
    (stated : clause.stated? unit = some scale) :
    (unit, scale) ∈ (clause.statements : List (String × α)) := by
  obtain ⟨before, after, split, -⟩ := List.lookup_eq_some_iff.mp stated
  rw [← List.mem_reverse, split]
  exact List.mem_append_right _ List.mem_cons_self

end Clause

/-! ## Books -/

namespace RuleBook

variable [Magnitude α]

/-- What the scales of a clause are multiplied by. -/
def anchor (book : RuleBook α) (clause : Clause) : α :=
  match clause.units.head? with
  | none => 1
  | some first =>
      match book.table[first]?, (clause.stated? first : Option α) with
      | some entry, some scale => entry.scale / scale
      | _, _ => 1

theorem getElem?_enter (table : ConversionTable α) (dimension : DimensionClass) (anchor : α)
    {scales : List (String × α)} (distinct : (scales.map Prod.fst).Nodup) (unit : String) :
    (enter table dimension anchor scales)[unit]? =
      match scales.lookup unit with
      | some scale => some ⟨dimension, anchor * scale⟩
      | none => table[unit]? := by
  unfold enter
  induction scales generalizing table with
  | nil => rfl
  | cons head rest ih =>
      obtain ⟨name, scale⟩ := head
      rw [List.map_cons, List.nodup_cons] at distinct
      rw [List.foldl_cons, ih _ distinct.2, Clause.lookup_pair, Std.TreeMap.getElem?_insert]
      by_cases same : unit = name
      · subst same
        have absent : rest.lookup unit = none :=
          List.lookup_eq_none_iff.mpr fun entry member =>
            bne_iff_ne.mpr fun same => distinct.1 (List.mem_map.mpr ⟨entry, member, same.symm⟩)
        simp [absent]
      · simp [same, Ne.symm same]

variable {book : RuleBook α} {clause : Clause} {first : String}

theorem getElem?_add (head : clause.units.head? = some first) {unit : String} {scale : α}
    (stated : clause.stated? unit = some scale) :
    (book.add clause).table[unit]? =
      some ⟨(book.table.classOf? first).getD book.nextClass, book.anchor clause * scale⟩ := by
  have listed := clause.lookup_scales (α := α) unit
  rw [stated] at listed
  cases known : book.table[first]? with
  | none =>
      rw [add_of_unknown head known, getElem?_enter _ _ _ clause.nodup_scales, listed]
      simp only [ConversionTable.classOf?, known, anchor, head, Option.map_none, Option.getD_none]
  | some entry =>
      obtain ⟨own, front, added⟩ := add_of_known head known
      have ownStated : (clause.stated? first : Option α) = some own := by
        obtain ⟨rest, listed⟩ := List.head?_eq_some_iff.mp front
        rw [← Clause.lookup_scales, listed, List.lookup_cons_self]
      rw [added, getElem?_enter _ _ _ clause.nodup_scales, listed]
      simp only [ConversionTable.classOf?, known, anchor, head, ownStated, Option.map_some,
        Option.getD_some]

theorem anchor_eq (book : RuleBook α) (clause : Clause) :
    book.anchor clause = 1 ∨ ∃ (first : String) (entry : UnitEntry α) (scale : α),
      book.table[first]? = some entry ∧ clause.stated? first = some scale ∧
        book.anchor clause = entry.scale / scale := by
  unfold anchor
  split
  · exact Or.inl rfl
  · rename_i first _
    split
    · rename_i entry scale known stated
      exact Or.inr ⟨first, entry, scale, known, stated, rfl⟩
    · exact Or.inl rfl

theorem scale_add {unit : String} {entry : UnitEntry α}
    (found : (book.add clause).table[unit]? = some entry) :
    book.table[unit]? = some entry ∨ ∃ scale : α, clause.stated? unit = some scale ∧
      entry.scale = book.anchor clause * scale := by
  by_cases mentioned : unit ∈ clause.units
  · obtain ⟨first, head⟩ : ∃ first, clause.units.head? = some first :=
      ⟨_, List.head?_eq_some_head (List.ne_nil_of_mem mentioned)⟩
    obtain ⟨scale, stated⟩ := Option.isSome_iff_exists.mp
      ((Clause.isSome_stated?_iff (α := α)).mpr mentioned)
    rw [getElem?_add head stated] at found
    obtain rfl := Option.some.inj found
    exact Or.inr ⟨scale, stated, rfl⟩
  · rw [getElem?_add_of_not_mem mentioned] at found
    exact Or.inl found

theorem addAll_take_succ {clauses : List Clause} {i : Nat} (position : clauses[i]? = some clause) :
    book.addAll (clauses.take (i + 1)) = (book.addAll (clauses.take i)).add clause := by
  rw [List.take_add_one, position, Option.toList_some, addAll_append]

theorem getElem?_addAll_of_owner? (book : RuleBook α) {clauses : List Clause} {unit : String}
    {i : Nat} (owner : owner? clauses unit = some i) (position : clauses[i]? = some clause) :
    unit ∈ clause.units ∧
      (book.addAll clauses).table[unit]? = (book.addAll (clauses.take (i + 1))).table[unit]? := by
  induction clauses using List.reverseRecOn with
  | nil => cases owner
  | append_singleton clauses last ih =>
      rw [owner?_append] at owner
      split at owner
      · rename_i mentioned
        obtain rfl := Option.some.inj owner
        obtain rfl : last = clause := by simpa using position
        refine ⟨mentioned, ?_⟩
        rw [List.take_of_length_le (by simp)]
      · rename_i absent
        have inside := owner?_lt owner
        rw [List.getElem?_append_left inside] at position
        obtain ⟨mentioned, same⟩ := ih owner position
        rw [addAll_append, getElem?_add_of_not_mem absent, same,
          List.take_append_of_le_length inside]
        exact ⟨mentioned, rfl⟩

theorem exists_entry_of_owner? (book : RuleBook α) {clauses : List Clause} {unit : String} {i : Nat}
    (owner : owner? clauses unit = some i) (position : clauses[i]? = some clause) :
    ∃ (entry : UnitEntry α) (scale : α), (book.addAll clauses).table[unit]? = some entry ∧
      clause.stated? unit = some scale ∧
      entry.scale = (book.addAll (clauses.take i)).anchor clause * scale := by
  obtain ⟨mentioned, same⟩ := getElem?_addAll_of_owner? book owner position
  obtain ⟨scale, stated⟩ := Option.isSome_iff_exists.mp
    ((Clause.isSome_stated?_iff (α := α)).mpr mentioned)
  have head := List.head?_eq_some_head (List.ne_nil_of_mem mentioned)
  rw [same, addAll_take_succ position]
  exact ⟨_, scale, getElem?_add head stated, stated, rfl⟩

end RuleBook

end UnitCheck
