/-!
# JSON values

A JSON value as a reader delivers it: an integer literal that fits 64 bits is an integer, every
other number is a binary64 number, and the names of an object are pairwise distinct.
-/

namespace UnitCheck

/-- A value without parts. -/
inductive Atom where
  | null
  | bool (value : Bool)
  | int (value : Int)
  | float (value : Float)
  | string (value : String)
deriving DecidableEq

/-- A JSON value. -/
inductive Json where
  | atom (value : Atom)
  | array (items : List Json)
  | object (fields : List (String × Json))
deriving Inhabited

namespace Json

/-- The value `null`. -/
@[match_pattern] abbrev null : Json := .atom .null

/-- A truth value. -/
@[match_pattern] abbrev bool (value : Bool) : Json := .atom (.bool value)

/-- An integer. -/
@[match_pattern] abbrev int (value : Int) : Json := .atom (.int value)

/-- A number that is not an integer literal. -/
@[match_pattern] abbrev float (value : Float) : Json := .atom (.float value)

/-- A string. -/
@[match_pattern] abbrev string (value : String) : Json := .atom (.string value)

/-- The value of the first field with the given name. Only objects have fields. -/
def field? (json : Json) (name : String) : Option Json :=
  match json with
  | object fields => (fields.find? (·.1 = name)).map (·.2)
  | _ => none

/-- The text of a string. -/
def string? : Json → Option String
  | string text => some text
  | _ => none

/-- The fields with one more. A name that occurs keeps its place and takes the new value. -/
def setField : List (String × Json) → String → Json → List (String × Json)
  | [], name, value => [(name, value)]
  | (other, old) :: rest, name, value =>
      if other = name then (name, value) :: rest else (other, old) :: setField rest name value

/-- The field that is written for an optional value: none for a missing one. -/
def optionalField {β : Type} (name : String) (encode : β → Json) : Option β → List (String × Json)
  | none => []
  | some value => [(name, encode value)]

end Json

end UnitCheck
