import UnitCheck.Json.Document

/-!
# Records

A record is read from an object, whose unknown fields are skipped, or from an array of its fields
in the order of their declaration. Each known field becomes a slot, and each slot is read by the
rule of its field: required, optional or with a default. A field may stand only once.
-/

namespace UnitCheck

/-- What a document gives for a field of a record. -/
inductive Slot where
  | given (document : Document)
  /-- The object does not have the field. -/
  | omitted
  /-- The array ends before the field. -/
  | cut

namespace Slot

/-- A field that has to be there. -/
def required? {β : Type} (read : Document → Option β) : Slot → Option β
  | given document => read document
  | _ => none

/-- An optional value: `null` stands for none. -/
def orNull? {β : Type} (read : Document → Option β) : Document → Option (Option β)
  | .atom (some .null) => some none
  | document => (read document).map some

/-- A field that an object may lack and an array may not. -/
def optional? {β : Type} (read : Document → Option β) : Slot → Option (Option β)
  | given document => orNull? read document
  | omitted => some none
  | cut => none

/-- A field with a value of its own when it is not there. -/
def withDefault? {β : Type} (default : β) (read : Document → Option β) : Slot → Option β
  | given document => read document
  | _ => some default

end Slot

namespace Document

/-- The slot of the field `name` of an object; none if the field repeats. -/
def fieldSlot? (fields : List (Option String × Document)) (name : String) : Option Slot :=
  match fields.filter fun field => field.1 = some name with
  | [] => some .omitted
  | [(_, document)] => some (.given document)
  | _ => none

/-- The slots of as many fields as there are names, from the items of an array. -/
def itemSlots? : List Document → List String → Option (List Slot)
  | [], names => some (names.map fun _ => .cut)
  | _ :: _, [] => none
  | item :: rest, _ :: names => (itemSlots? rest names).map (.given item :: ·)

/-- The slots of the named fields of a record. The name of an unknown field has to be a proper
string too. -/
def slots? (names : List String) : Document → Option (List Slot)
  | .object fields =>
      if fields.all fun field => field.1.isSome then names.mapM (fieldSlot? fields) else none
  | .array items => itemSlots? items names
  | .atom _ => none

end Document

end UnitCheck
