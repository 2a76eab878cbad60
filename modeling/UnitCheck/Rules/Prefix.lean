import UnitCheck.Number.Magnitude

/-!
# SI prefixes

The twenty prefixes that the shorthand `unit: prefix prefix` offers, each a power of ten. Micro is
written `u`, since the Greek letter has several look-alike code points.
-/

namespace UnitCheck

/-- An SI prefix. -/
inductive SiPrefix where
  | yocto | zepto | atto | femto | pico | nano | micro | milli | centi | deci
  | deca | hecto | kilo | mega | giga | tera | peta | exa | zetta | yotta
deriving DecidableEq, Repr

namespace SiPrefix

/-- The prefixes, smallest first. -/
def all : List SiPrefix :=
  [.yocto, .zepto, .atto, .femto, .pico, .nano, .micro, .milli, .centi, .deci,
    .deca, .hecto, .kilo, .mega, .giga, .tera, .peta, .exa, .zetta, .yotta]

/-- The symbol of a prefix. -/
def symbol : SiPrefix → String
  | yocto => "y"
  | zepto => "z"
  | atto => "a"
  | femto => "f"
  | pico => "p"
  | nano => "n"
  | micro => "u"
  | milli => "m"
  | centi => "c"
  | deci => "d"
  | deca => "da"
  | hecto => "h"
  | kilo => "k"
  | mega => "M"
  | giga => "G"
  | tera => "T"
  | peta => "P"
  | exa => "E"
  | zetta => "Z"
  | yotta => "Y"

/-- The power of ten that a prefix stands for. -/
def exponent : SiPrefix → Int
  | yocto => -24
  | zepto => -21
  | atto => -18
  | femto => -15
  | pico => -12
  | nano => -9
  | micro => -6
  | milli => -3
  | centi => -2
  | deci => -1
  | deca => 1
  | hecto => 2
  | kilo => 3
  | mega => 6
  | giga => 9
  | tera => 12
  | peta => 15
  | exa => 18
  | zetta => 21
  | yotta => 24

/-- The factor that a prefix stands for. -/
def factor {α : Type} [Magnitude α] (p : SiPrefix) : α :=
  Magnitude.ofDecimal (.powerOfTen p.exponent)

/-- The prefix with the given symbol. -/
def ofSymbol? (symbol : String) : Option SiPrefix :=
  all.find? fun p => p.symbol = symbol

theorem ofSymbol?_symbol (p : SiPrefix) : ofSymbol? p.symbol = some p := by
  cases p <;> decide

theorem symbol_of_ofSymbol? {symbol : String} {p : SiPrefix} (found : ofSymbol? symbol = some p) :
    p.symbol = symbol := by
  simpa using List.find?_some found

end SiPrefix

end UnitCheck
