import UnitCheck.Json.Token

/-!
# JSON documents

A document is JSON text taken apart and not yet judged: fields keep their order and may repeat, and
leaves may lack a value. Whoever uses a part decides how strictly to read it.

* `Document.ofTokens?` reads tokens from left to right with the open arrays and objects on a stack.
* `Document.toJson?` is the value of a document. Every leaf has to have a value, arrays and objects
  may nest only so deep, and of fields with one name the last counts.
-/

namespace UnitCheck

/-- A JSON text as a tree. -/
inductive Document where
  /-- A leaf; without a value if it follows the grammar and stands for nothing. -/
  | atom (value : Option Atom)
  | array (items : List Document)
  | object (fields : List (Option String × Document))
deriving Inhabited

namespace Document

/-- An array or object that is still open. Its parts are listed from the last to the first. -/
inductive Context where
  | array (items : List Document)
  /-- The object has got the given fields, and the value of the field `name` comes next. -/
  | object (fields : List (Option String × Document)) (name : Option String)

/-- The part of a document that has been read, by what may come next. -/
inductive State where
  /-- A value. -/
  | value (stack : List Context)
  /-- The first item of an array, or the end of the array. -/
  | firstItem (stack : List Context)
  /-- A comma, or the end of an array. -/
  | afterItem (items : List Document) (stack : List Context)
  /-- The first field of an object, or the end of the object. -/
  | firstField (stack : List Context)
  /-- A further field. -/
  | field (fields : List (Option String × Document)) (stack : List Context)
  /-- The colon of a field. -/
  | colon (fields : List (Option String × Document)) (name : Option String) (stack : List Context)
  /-- A comma, or the end of an object. -/
  | afterField (fields : List (Option String × Document)) (stack : List Context)
  /-- Nothing. -/
  | done (document : Document)

/-- The state after a complete value. -/
def deliver (document : Document) : List Context → State
  | [] => .done document
  | .array items :: stack => .afterItem (document :: items) stack
  | .object fields name :: stack => .afterField ((name, document) :: fields) stack

/-- The state after the first token of a value. -/
def start (stack : List Context) : Token → Option State
  | .openArray => some (.firstItem stack)
  | .openObject => some (.firstField stack)
  | .text value => some (deliver (.atom (value.map .string)) stack)
  | .scalar value => some (deliver (.atom value) stack)
  | _ => none

/-- The state after one more token. -/
def step : State → Token → Option State
  | .value stack, token => start stack token
  | .firstItem stack, .closeArray => some (deliver (.array []) stack)
  | .firstItem stack, token => start (.array [] :: stack) token
  | .afterItem items stack, .comma => some (.value (.array items :: stack))
  | .afterItem items stack, .closeArray => some (deliver (.array items.reverse) stack)
  | .firstField stack, .closeObject => some (deliver (.object []) stack)
  | .firstField stack, .text name => some (.colon [] name stack)
  | .field fields stack, .text name => some (.colon fields name stack)
  | .colon fields name stack, .colon => some (.value (.object fields name :: stack))
  | .afterField fields stack, .comma => some (.field fields stack)
  | .afterField fields stack, .closeObject => some (deliver (.object fields.reverse) stack)
  | _, _ => none

/-- The document that a list of tokens spells. -/
def ofTokens? (tokens : List Token) : Option Document :=
  match tokens.foldlM step (.value []) with
  | some (.done document) => some document
  | _ => none

/-- The document that a text spells. -/
def read? (text : String) : Option Document :=
  (Token.lexAll? text.toList).bind ofTokens?

mutual

/-- The value of a document with arrays and objects at most `levels` deep. -/
def toJson? : Nat → Document → Option Json
  | _, .atom value => value.map .atom
  | 0, .array _ => none
  | 0, .object _ => none
  | levels + 1, .array items => (itemsToJson? levels items).map .array
  | levels + 1, .object fields => (fieldsToJson? levels [] fields).map .object

/-- The values of the items of an array. -/
def itemsToJson? (levels : Nat) : List Document → Option (List Json)
  | [] => some []
  | item :: rest => do
      let value ← item.toJson? levels
      return value :: (← itemsToJson? levels rest)

/-- The values of the fields of an object, entered after those of `before`. -/
def fieldsToJson? (levels : Nat) (before : List (String × Json)) :
    List (Option String × Document) → Option (List (String × Json))
  | [] => some before
  | (none, _) :: _ => none
  | (some name, document) :: rest => do
      let value ← document.toJson? levels
      fieldsToJson? levels (Json.setField before name value) rest

end

/-- The text of a string. -/
def string? : Document → Option String
  | .atom (some (.string text)) => some text
  | _ => none

/-- The integer of a numeral. -/
def int? : Document → Option Int
  | .atom (some (.int value)) => some value
  | _ => none

/-- The integer of a numeral in the range of an unsigned 32 bit word. -/
def uint32? (document : Document) : Option UInt32 := do
  let value ← document.int?
  if 0 ≤ value && value < UInt32.size then some (UInt32.ofNat value.toNat) else none

/-- The integer of a numeral in the range of a signed 32 bit word. -/
def int32? (document : Document) : Option Int32 := do
  let value ← document.int?
  if Int32.minValue.toInt ≤ value && value ≤ Int32.maxValue.toInt then some (Int32.ofInt value) else none

/-- The items of an array, all read the same way. -/
def list? {β : Type} (read : Document → Option β) : Document → Option (List β)
  | .array items => items.mapM read
  | _ => none

end Document

/-- The number of arrays and objects that a reader follows into each other. -/
def Json.maxLevels : Nat := 127

/-- The value that a text spells. -/
def Json.read? (text : String) : Option Json :=
  (Document.read? text).bind (·.toJson? maxLevels)

end UnitCheck
