import UnitCheck.Json.Value
import UnitCheck.Number.Layout

/-!
# JSON text

Values are written without white space. A string escapes quotes, backslashes and control characters
only, so a written value never spans two lines.
-/

namespace UnitCheck.Json

/-- The characters that stand for a character within a string. -/
def escapeChar (c : Char) : List Char :=
  match c with
  | '"' => ['\\', '"']
  | '\\' => ['\\', '\\']
  | '\x08' => ['\\', 'b']
  | '\x0c' => ['\\', 'f']
  | '\n' => ['\\', 'n']
  | '\r' => ['\\', 'r']
  | '\t' => ['\\', 't']
  | c =>
      if c.toNat < 0x20 then
        ['\\', 'u', '0', '0', (c.toNat / 16).digitChar, (c.toNat % 16).digitChar]
      else [c]

/-- A string with its quotes. -/
def renderString (text : String) : List Char :=
  '"' :: text.toList.flatMap escapeChar ++ ['"']

/-- A leaf. Numbers that are not finite have no JSON text and become `null`. -/
def renderAtom : Atom → List Char
  | .null => "null".toList
  | .bool true => "true".toList
  | .bool false => "false".toList
  | .int value => (toString value).toList
  | .float value => if value.isFinite then (jsonNumberText value).toList else "null".toList
  | .string text => renderString text

mutual

/-- The characters of a value. -/
def renderChars : Json → List Char
  | .atom value => renderAtom value
  | .array items => '[' :: renderItems items
  | .object fields => '\x7b' :: renderFields fields

/-- The items of an array up to its end. -/
def renderItems : List Json → List Char
  | [] => [']']
  | [item] => renderChars item ++ [']']
  | item :: rest => renderChars item ++ ',' :: renderItems rest

/-- The fields of an object up to its end. -/
def renderFields : List (String × Json) → List Char
  | [] => ['\x7d']
  | [(name, value)] => renderString name ++ ':' :: renderChars value ++ ['\x7d']
  | (name, value) :: rest =>
      renderString name ++ ':' :: renderChars value ++ ',' :: renderFields rest

end

/-- The text of a value. -/
def render (json : Json) : String := String.ofList (renderChars json)

end UnitCheck.Json
