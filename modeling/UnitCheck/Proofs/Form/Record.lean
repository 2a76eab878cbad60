import UnitCheck.Json.Record
import UnitCheck.Proofs.Json.Reading
import UnitCheck.Proofs.Outcome

/-!
# Written records

A record is written from its `entries`: each field with its value, or without one if the field is
left out. `slots?_written` gives the entries back as slots, and the other lemmas say what reading
makes of such a slot by the rule of its field.
-/

namespace UnitCheck

namespace Json

/-- The fields of the entries that have a value. -/
def written (entries : List (String × Option Json)) : List (String × Json) :=
  entries.flatMap fun entry => optionalField entry.1 id entry.2

theorem exact_written {entries : List (String × Option Json)}
    (each : ∀ entry ∈ entries, ∀ value ∈ entry.2, value.Exact) :
    (Json.object (written entries)).Exact := by
  refine .object fun field member => ?_
  obtain ⟨⟨name, value⟩, here, fields⟩ := List.mem_flatMap.mp member
  cases value with
  | none => cases fields
  | some value =>
      obtain rfl := List.mem_singleton.mp fields
      exact each _ here value rfl

theorem filter_written_of_not_mem {entries : List (String × Option Json)} {name : String}
    (absent : name ∉ entries.map Prod.fst) :
    (written entries).filter (fun field => field.1 = name) = [] := by
  rw [List.filter_eq_nil_iff]
  intro field member
  obtain ⟨⟨other, value⟩, here, fields⟩ := List.mem_flatMap.mp member
  cases value with
  | none => cases fields
  | some value =>
      obtain rfl := List.mem_singleton.mp fields
      have apart : other ≠ name := by
        rintro rfl
        exact absent (List.mem_map_of_mem here)
      simpa using apart

theorem filter_written {entries : List (String × Option Json)}
    (distinct : (entries.map Prod.fst).Nodup) {name : String} {value : Option Json}
    (member : (name, value) ∈ entries) :
    (written entries).filter (fun field => field.1 = name) = optionalField name id value := by
  induction entries with
  | nil => cases member
  | cons entry rest ih =>
      obtain ⟨fresh, others⟩ := List.nodup_cons.mp distinct
      rw [written, List.flatMap_cons, ← written, List.filter_append]
      rcases List.mem_cons.mp member with rfl | later
      · rw [filter_written_of_not_mem fresh, List.append_nil]
        cases value <;> simp [optionalField]
      · have apart : entry.1 ≠ name := by
          rintro rfl
          exact fresh (List.mem_map.mpr ⟨(entry.1, value), later, rfl⟩)
        rw [ih others later]
        obtain ⟨other, otherValue⟩ := entry
        cases otherValue <;> simp [optionalField, apart]

theorem eq_null_of_toDocument {json : Json} (null : json.toDocument = .atom (some .null)) :
    json = .null := by
  cases json with
  | atom value => rw [Option.some.inj (Document.atom.inj null)]
  | array items => cases null
  | object fields => cases null

end Json

/-- What is written for the values of a type is given back by reading. -/
structure Document.Inverts {β : Type} (read : Document → Option β) (write : β → Json) : Prop where
  exact : ∀ value, (write value).Exact
  back : ∀ value, read (write value).toDocument = some value

theorem Document.Inverts.read?_render {β : Type} {read : Document → Option β} {write : β → Json}
    (inverts : Inverts read write) (value : β) :
    (read? (write value).render).bind read = some value := by
  rw [Document.read?_render (inverts.exact value), Option.bind_some, inverts.back]

theorem Document.Inverts.exact_map {β : Type} {read : Document → Option β} {write : β → Json}
    (inverts : Inverts read write) (value : Option β) :
    ∀ json ∈ value.map write, json.Exact := by
  cases value with
  | none => simp
  | some value => simpa using inverts.exact value

namespace Slot

/-- The slot of a written field. -/
def ofWritten : Option Json → Slot
  | none => .omitted
  | some value => .given value.toDocument

theorem required?_ofWritten {β : Type} {read : Document → Option β} {write : β → Json}
    (inverts : Document.Inverts read write) (value : β) :
    required? read (ofWritten (some (write value))) = some value :=
  inverts.back value

theorem withDefault?_ofWritten {β : Type} {read : Document → Option β} {write : β → Json}
    (inverts : Document.Inverts read write) (default value : β) :
    withDefault? default read (ofWritten (some (write value))) = some value :=
  inverts.back value

/-- A missing value stays apart from those that are written, if none of them is written as `null`. -/
theorem optional?_ofWritten {β : Type} {read : Document → Option β} {write : β → Json}
    (inverts : Document.Inverts read write) (visible : ∀ value, write value ≠ .null)
    (value : Option β) :
    optional? read (ofWritten (value.map write)) = some value := by
  cases value with
  | none => rfl
  | some value =>
      change orNull? read (write value).toDocument = some (some value)
      unfold orNull?
      split
      · rename_i null
        exact absurd (Json.eq_null_of_toDocument null) (visible value)
      · rw [inverts.back value]
        rfl

end Slot

namespace Document

/-- Each field of a written record is found again. -/
theorem slots?_written {entries : List (String × Option Json)}
    (distinct : (entries.map Prod.fst).Nodup) :
    (Json.object (Json.written entries)).toDocument.slots? (entries.map Prod.fst) =
      some (entries.map fun entry => Slot.ofWritten entry.2) := by
  let fields := (Json.written entries).map fun field => (some field.1, field.2.toDocument)
  have proper : (fields.all fun field => field.1.isSome) = true := by simp [fields]
  have found : ∀ entry ∈ entries, fieldSlot? fields entry.1 = some (Slot.ofWritten entry.2) := by
    rintro ⟨name, value⟩ member
    have kept : fields.filter (fun field => field.1 = some name) =
        (Json.optionalField name id value).map fun field => (some field.1, field.2.toDocument) := by
      rw [← Json.filter_written distinct member, List.filter_map]
      simp [Function.comp_def]
    rw [fieldSlot?, kept]
    cases value <;> rfl
  rw [Json.toDocument_object, slots?, if_pos proper, List.mapM_map]
  exact mapM_eq_some_map found

/-- A record is given back if its fields are read back from their slots. -/
theorem Inverts.record {β : Type} {read : Document → Option β} {write : β → Json}
    (names : List String) (entries : β → List (String × Option Json)) (distinct : names.Nodup)
    (named : ∀ value, (entries value).map Prod.fst = names)
    (written : ∀ value, write value = .object (Json.written (entries value)))
    (exact : ∀ value, ∀ entry ∈ entries value, ∀ json ∈ entry.2, json.Exact)
    (back : ∀ document value,
      document.slots? names = some ((entries value).map fun entry => Slot.ofWritten entry.2) →
      read document = some value) : Inverts read write where
  exact value := by
    rw [written]
    exact Json.exact_written (exact value)
  back value := by
    apply back
    rw [written, ← named value]
    exact slots?_written (by rw [named]; exact distinct)

end Document

end UnitCheck
