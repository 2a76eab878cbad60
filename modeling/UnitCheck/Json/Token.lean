import UnitCheck.Json.Numeral

/-!
# JSON tokens

The lexical grammar of JSON. A string or a number can follow the grammar and still stand for
nothing: a string whose escapes leave half of a surrogate pair, or a number beyond the range of
binary64. Such a token is kept without a value, because a reader that skips the part does not look
at its value.

* `StringUnit.lex?` and `StringUnit.decode?` read the inside of a string in two steps, escapes first
  and surrogate pairs second.
* `Token.lexAll?` is the list of tokens of a text.
-/

namespace UnitCheck

/-- A piece of a string: a character, or a code unit of UTF-16 written with `\u`. -/
inductive StringUnit where
  | char (c : Char)
  | code (unit : Nat)
deriving DecidableEq, Repr

namespace StringUnit

/-- The value of a hexadecimal digit. -/
def hexDigit? (c : Char) : Option Nat :=
  if c.isDigit then some (c.toNat - '0'.toNat)
  else if 'a' ≤ c && c ≤ 'f' then some (c.toNat - 'a'.toNat + 10)
  else if 'A' ≤ c && c ≤ 'F' then some (c.toNat - 'A'.toNat + 10)
  else none

/-- The value of four hexadecimal digits. -/
def hex4? (a b c d : Char) : Option Nat := do
  return ((← hexDigit? a) * 16 + (← hexDigit? b)) * 256 + (← hexDigit? c) * 16 + (← hexDigit? d)

/-- The character that a backslash and a letter stand for. -/
def escape? : Char → Option Char
  | '"' => some '"'
  | '\\' => some '\\'
  | '/' => some '/'
  | 'b' => some '\x08'
  | 'f' => some '\x0c'
  | 'n' => some '\n'
  | 'r' => some '\r'
  | 't' => some '\t'
  | _ => none

/-- The pieces of a string up to its closing quote, and the text after the quote. Control characters
have to be escaped. -/
def lex? : List Char → Option (List StringUnit × List Char)
  | [] => none
  | '"' :: rest => some ([], rest)
  | '\\' :: 'u' :: a :: b :: c :: d :: rest => do
      let unit ← hex4? a b c d
      let (units, rest) ← lex? rest
      return (.code unit :: units, rest)
  | '\\' :: letter :: rest => do
      let c ← escape? letter
      let (units, rest) ← lex? rest
      return (.char c :: units, rest)
  | c :: rest =>
      if c.toNat < 0x20 then none
      else do
        let (units, rest) ← lex? rest
        return (.char c :: units, rest)

/-- A code unit that opens a surrogate pair. -/
def isHigh (unit : Nat) : Bool := 0xD800 ≤ unit && unit < 0xDC00

/-- A code unit that closes a surrogate pair. -/
def isLow (unit : Nat) : Bool := 0xDC00 ≤ unit && unit < 0xE000

/-- The characters of a string, unless a surrogate stands alone. -/
def decode? : List StringUnit → Option (List Char)
  | [] => some []
  | .char c :: rest => (decode? rest).map (c :: ·)
  | .code high :: .code low :: rest =>
      if isHigh high then
        if isLow low then
          (decode? rest).map
            (Char.ofNat (0x10000 + (high - 0xD800) * 0x400 + (low - 0xDC00)) :: ·)
        else none
      else if isLow high then none
      else (decode? (.code low :: rest)).map (Char.ofNat high :: ·)
  | .code unit :: rest =>
      if isHigh unit || isLow unit then none else (decode? rest).map (Char.ofNat unit :: ·)

theorem lex?_length {text rest : List Char} {units : List StringUnit}
    (found : lex? text = some (units, rest)) : rest.length < text.length := by
  fun_induction lex? text generalizing units rest with
  | case1 => cases found
  | case2 after =>
      obtain ⟨_, rfl⟩ := Prod.mk.inj (Option.some.inj found)
      simp
  | case3 a b c d after ih =>
      simp only [Option.bind_eq_bind, Option.bind_eq_some_iff, Option.pure_def, Option.some.injEq,
        Prod.mk.injEq, Prod.exists] at found
      obtain ⟨_, _, _, _, tail, _, rfl⟩ := found
      have := ih tail
      simp only [List.length_cons]
      omega
  | case4 letter after _ ih =>
      simp only [Option.bind_eq_bind, Option.bind_eq_some_iff, Option.pure_def, Option.some.injEq,
        Prod.mk.injEq, Prod.exists] at found
      obtain ⟨_, _, _, _, tail, _, rfl⟩ := found
      have := ih tail
      simp only [List.length_cons]
      omega
  | case5 => cases found
  | case6 c after _ _ _ _ ih =>
      simp only [Option.bind_eq_bind, Option.bind_eq_some_iff, Option.pure_def, Option.some.injEq,
        Prod.mk.injEq, Prod.exists] at found
      obtain ⟨_, _, tail, _, rfl⟩ := found
      have := ih tail
      simp only [List.length_cons]
      omega

end StringUnit

/-- A token of JSON. -/
inductive Token where
  | openArray
  | closeArray
  | openObject
  | closeObject
  | comma
  | colon
  /-- A string; without a value if a surrogate stands alone in it. -/
  | text (value : Option String)
  /-- A number or a word; without a value if a number is out of range. -/
  | scalar (value : Option Atom)
deriving DecidableEq

namespace Token

/-- The characters that may stand between tokens. -/
def isSpace (c : Char) : Bool := c = ' ' || c = '\t' || c = '\n' || c = '\r'

/-- The token at the start of a text and the text after it. -/
def lex? : List Char → Option (Token × List Char)
  | '[' :: rest => some (openArray, rest)
  | ']' :: rest => some (closeArray, rest)
  | '\x7b' :: rest => some (openObject, rest)
  | '\x7d' :: rest => some (closeObject, rest)
  | ',' :: rest => some (comma, rest)
  | ':' :: rest => some (colon, rest)
  | '"' :: rest =>
      (StringUnit.lex? rest).map fun (units, rest) =>
        (text ((StringUnit.decode? units).map String.ofList), rest)
  | 't' :: 'r' :: 'u' :: 'e' :: rest => some (scalar (some (.bool true)), rest)
  | 'f' :: 'a' :: 'l' :: 's' :: 'e' :: rest => some (scalar (some (.bool false)), rest)
  | 'n' :: 'u' :: 'l' :: 'l' :: rest => some (scalar (some .null), rest)
  | other => (Numeral.lex? other).map fun (numeral, rest) => (scalar numeral.value?, rest)

theorem lex?_length {text rest : List Char} {token : Token}
    (found : lex? text = some (token, rest)) : rest.length < text.length := by
  unfold lex? at found
  split at found
  case h_7 =>
    obtain ⟨⟨units, after⟩, unitsFound, same⟩ := Option.map_eq_some_iff.1 found
    obtain ⟨_, rfl⟩ := Prod.mk.inj same
    have := StringUnit.lex?_length unitsFound
    simp only [List.length_cons]
    omega
  case h_11 =>
    obtain ⟨⟨numeral, after⟩, numeralFound, same⟩ := Option.map_eq_some_iff.1 found
    obtain ⟨_, rfl⟩ := Prod.mk.inj same
    exact Numeral.lex?_length numeralFound
  all_goals
    obtain ⟨_, rfl⟩ := Prod.mk.inj (Option.some.inj found)
    simp only [List.length_cons]
    omega

/-- The tokens of a text. -/
def lexAll? (text : List Char) : Option (List Token) :=
  match text with
  | [] => some []
  | c :: rest =>
      if isSpace c then lexAll? rest
      else
        match _found : lex? (c :: rest) with
        | none => none
        | some (token, after) => (lexAll? after).map (token :: ·)
termination_by text.length
decreasing_by
  · simp
  · exact lex?_length _found

end Token

end UnitCheck
