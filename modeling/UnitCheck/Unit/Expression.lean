import UnitCheck.Text.Pieces
import UnitCheck.Unit.Name
import UnitCheck.Unit.Vector

/-!
# Unit expressions

The notation for a unit: base units with exponents, separated by spaces, and at most one `/`, whose
right side may stand in parentheses.

* `parseProduct` reads `kg m^2 s^-2`. White space around a `^` is dropped first, then the text is
  taken apart at spaces; other white space inside it belongs to a token and spoils it.
* `parseUnit` reads `kg m^2/s^2` and `J/(mol K)`. The exponents right of `/` are negated. A blank
  text is the dimensionless unit, but neither side of `/` may be blank.
-/

namespace UnitCheck

/-- The ways in which a unit expression is malformed. -/
inductive UnitError where
  /-- There is a second `/`. -/
  | multipleDivisors
  /-- A side of `/` has no unit. -/
  | misplacedDivisor
  /-- A unit stands on both sides of `/`. -/
  | sharedUnit (unit : String)
  /-- A unit stands twice in one product. -/
  | duplicateUnit (unit : String)
  /-- A token does not start with a unit name. -/
  | invalidName (name : String)
  /-- The text after `^` is not a nonzero exponent. -/
  | invalidExponent (text : String)
  /-- A `^` lacks its name or its exponent. -/
  | danglingCaret (token : String)
deriving DecidableEq, Repr

/-- The wording of a malformed unit expression. -/
def UnitError.message : UnitError → String
  | .multipleDivisors => "only one '/' is allowed in a unit expression"
  | .misplacedDivisor => "'/' needs units on both sides"
  | .sharedUnit unit => "unit \"" ++ unit ++ "\" appears on both sides of '/'"
  | .duplicateUnit unit => "duplicate unit \"" ++ unit ++ "\""
  | .invalidName name => "\"" ++ name ++ "\" is not a valid unit name"
  | .invalidExponent text => "invalid exponent \"" ++ text ++ "\""
  | .danglingCaret token => "'^' needs a unit name and an exponent in \"" ++ token ++ "\""

namespace UnitExpression

/-- The largest magnitude of a written exponent, `2 ^ 31 - 1`. -/
def maxExponent : Nat := 2147483647

/-- The value of a run of decimal digits, if it is a magnitude of an exponent. -/
def readMagnitude? (digits : List Char) : Option Int32 :=
  if digits.isEmpty || !digits.all Char.isDigit then none
  else
    let value := Nat.ofDigitChars 10 digits 0
    if value = 0 || maxExponent < value then none else some (Int32.ofNat value)

/-- The exponent written after `^`: `2`, `-2` or `(-2)`. -/
def readExponent? : List Char → Option Int32
  | '(' :: '-' :: rest =>
      if rest.getLast? = some ')' then (readMagnitude? rest.dropLast).map (- ·) else none
  | '-' :: digits => (readMagnitude? digits).map (- ·)
  | digits => readMagnitude? digits

/-- The power that a token of a product stands for. -/
def readToken (token : List Char) : Except UnitError UnitPower :=
  match Text.cutAt? (· = '^') token with
  | none =>
      if isName token then .ok ⟨String.ofList token, 1⟩
      else .error (.invalidName (String.ofList token))
  | some (name, exponent) =>
      if name.isEmpty || exponent.isEmpty then .error (.danglingCaret (String.ofList token))
      else if !isName name then .error (.invalidName (String.ofList name))
      else match readExponent? exponent with
        | some value => .ok ⟨String.ofList name, value⟩
        | none => .error (.invalidExponent (String.ofList exponent))

/-- The text without the white space around each `^`. -/
def joinCarets (text : List Char) : List Char :=
  ['^'].intercalate ((text.splitOn '^').map Text.trim)

/-- The tokens of a product: what stands between spaces once the carets are joined. -/
def tokens (text : List Char) : List (List Char) :=
  ((joinCarets text).splitOn ' ').filter fun token => !token.isEmpty

/-- The product so far with the power of one more token. -/
def addToken (product : UnitVector) (token : List Char) : Except UnitError UnitVector := do
  let power ← readToken token
  match product.push? power with
  | some larger => .ok larger
  | none => .error (.duplicateUnit power.unit)

/-- The vector of a product of powers. -/
def parseProduct (text : List Char) : Except UnitError UnitVector :=
  (tokens text).foldlM addToken .empty

/-- The vector of one side of a quotient, which holds no further `/`. -/
def parseSide (text : List Char) : Except UnitError UnitVector :=
  if text.contains '/' then .error .multipleDivisors else parseProduct text

/-- The quotient so far divided by one more power. -/
def divideBy (quotient : UnitVector) (power : UnitPower) : Except UnitError UnitVector :=
  match quotient.push? { power with exponent := -power.exponent } with
  | some larger => .ok larger
  | none => .error (.sharedUnit power.unit)

/-- The right side of a quotient without white space and one pair of parentheses around it. -/
def denominator (text : List Char) : List Char :=
  let trimmed := Text.trim text
  (Text.unparenthesize? trimmed).getD trimmed

/-- The vector of a quotient, given the texts left and right of its first `/`. -/
def parseQuotient (left right : List Char) : Except UnitError UnitVector := do
  if left.isEmpty || right.isEmpty then
    throw .misplacedDivisor
  let quotient ← parseSide left
  let divisor ← parseSide (denominator right)
  if quotient.isEmpty || divisor.isEmpty then
    throw .misplacedDivisor
  divisor.powers.foldlM divideBy quotient

/-- The vector of a unit expression, given as characters. -/
def parse (text : List Char) : Except UnitError UnitVector :=
  match Text.cutAt? (· = '/') text with
  | none => parseProduct text
  | some (left, right) => parseQuotient left right

end UnitExpression

/-- The vector that a unit expression stands for. -/
def parseUnit (text : String) : Except UnitError UnitVector :=
  UnitExpression.parse text.toList

end UnitCheck
