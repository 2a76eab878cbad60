import UnitCheck.Rules.Prefix
import UnitCheck.Text.Pieces
import UnitCheck.Unit.Name

/-!
# Rule text

Conversion rules are clauses separated by `;`. A clause has one of two forms:

* the shorthand `W: M k m` gives `W` and its prefixed forms `MW`, `kW` and `mW`;
* the chain `1 m = 1e-3 km = 100 cm` states that all its terms are the same quantity, where a term
  without a number counts as one.

`Clause.read` reads one clause and `Clause.readText` a whole text, up to the first clause that is
malformed. What a clause means for other clauses plays no part in reading it.
-/

namespace UnitCheck

/-- The ways in which a clause is malformed. -/
inductive RuleError where
  /-- The text in the place of a unit is no unit name. -/
  | invalidUnitName (unit : String)
  /-- A word of the shorthand is no SI prefix. -/
  | unknownPrefix (word : String)
  /-- A term is empty, or starts like a number and is not a regular number before a unit. -/
  | malformedTerm (term : String)
  /-- A clause has more than two colons. -/
  | prefixSyntax (clause : String)
deriving DecidableEq, Repr

/-- The wording of a malformed clause. -/
def RuleError.message : RuleError → String
  | .invalidUnitName unit => "\"" ++ unit ++ "\" unit contains unaccepted character"
  | .unknownPrefix word => "\"" ++ word ++ "\" is not SI prefix"
  | .malformedTerm term => "malformed conversion term \"" ++ term ++ "\""
  | .prefixSyntax clause => "syntax error of SI prefix in \"" ++ clause ++ "\""

/-- A quantity of a chain: a unit with an optional number. -/
structure Term where
  number : Option Decimal
  unit : String
deriving DecidableEq, Repr

/-- A conversion rule. -/
inductive Clause where
  /-- The bare unit together with its forms under the given prefixes. -/
  | shorthand (unit : String) (prefixes : List SiPrefix)
  /-- Terms that denote one quantity. -/
  | chain (terms : List Term)
deriving DecidableEq, Repr

namespace Term

/-- Whether a word has to be read as a number. -/
def looksNumeric : List Char → Bool
  | [] => false
  | c :: _ => c.isDigit || c = '.' || c = '+' || c = '-'

/-- The term of a number, if there is one, and the text in the place of its unit. -/
def named (number : Option Decimal) (unit : List Char) : Except RuleError Term :=
  if isName unit then .ok ⟨number, String.ofList unit⟩
  else .error (.invalidUnitName (String.ofList unit))

/-- The term that a text without white space at its ends spells. -/
def readTrimmed (text : List Char) : Except RuleError Term :=
  let (head, rest) := (Text.cutAt? Text.isBlank text).getD (text, [])
  let unit := Text.trim rest
  if text.isEmpty then .error (.malformedTerm (String.ofList text))
  else if !looksNumeric head then named none text
  else match Decimal.read? head with
    | some number =>
        if number.isRegular && !unit.isEmpty then named (some number) unit
        else .error (.malformedTerm (String.ofList text))
    | none => .error (.malformedTerm (String.ofList text))

/-- The term that a text between two `=` spells. -/
def read (text : List Char) : Except RuleError Term :=
  readTrimmed (Text.trim text)

end Term

namespace Clause

/-- The prefix that a word spells. -/
def readPrefix (word : List Char) : Except RuleError SiPrefix :=
  match SiPrefix.ofSymbol? (String.ofList word) with
  | some p => .ok p
  | none => .error (.unknownPrefix (String.ofList word))

/-- The shorthand with the given texts left and right of its colon. -/
def readShorthand (unit prefixes : List Char) : Except RuleError Clause :=
  let unit := Text.trim unit
  if isName unit then
    (Text.words prefixes).mapM readPrefix |>.map (.shorthand (String.ofList unit))
  else .error (.invalidUnitName (String.ofList unit))

/-- The clause that a text between two `;` spells. One colon makes it a shorthand. -/
def read (text : List Char) : Except RuleError Clause :=
  match text.splitOn ':' with
  | [unit, prefixes] => readShorthand unit prefixes
  | fields =>
      if 3 < fields.length then .error (.prefixSyntax (String.ofList (Text.trim text)))
      else (text.splitOn '=').mapM Term.read |>.map .chain

/-- The texts of the clauses of a rule text. Blank ones do not count. -/
def split (text : String) : List (List Char) :=
  (text.toList.splitOn ';').filter fun clause => !clause.all Text.isBlank

/-- The clauses before the first malformed one, and what is wrong with that one. -/
def readAll : List (List Char) → List Clause × Option RuleError
  | [] => ([], none)
  | text :: rest =>
      match read text with
      | .ok clause =>
          let (clauses, failure) := readAll rest
          (clause :: clauses, failure)
      | .error failure => ([], some failure)

/-- The clauses of a rule text before its first malformed one, and what is wrong with that one. -/
def readText (text : String) : List Clause × Option RuleError :=
  readAll (split text)

/-- The units that a clause mentions, in the order of first mention, repetitions included. -/
def units : Clause → List String
  | shorthand unit prefixes => unit :: prefixes.map fun p => p.symbol ++ unit
  | chain terms => terms.map (·.unit)

end Clause

end UnitCheck
