/-!
# Diagnostics for question authors

Whatever goes wrong in rule text, target units or presets is reported as a value with a code for
machines, a message for people, and where it is known the place and a suggestion. A malformed
answer of a student is never reported this way.

The `with` functions return a diagnostic with one component changed. Those that name a place create
the context on demand; `withContext` replaces the context as a whole.
-/

namespace UnitCheck

/-- How bad a reported problem is. -/
inductive Severity where
  /-- The settings are usable, their effect may surprise. -/
  | warning
  /-- The setting has to be mended. -/
  | error
  /-- Nothing can be checked. -/
  | fatal
deriving DecidableEq, Repr

/-- Where a problem lies. -/
structure ErrorContext where
  /-- The setting that holds the problem. -/
  field : Option String := none
  /-- The offending part of its text. -/
  clause : Option String := none
  /-- Remarks added on the way up, oldest first. -/
  notes : List String := []
deriving DecidableEq, Repr

/-- A problem reported to the author of a question. -/
structure Diagnostic where
  code : String
  message : String
  suggestion : Option String := none
  context : Option ErrorContext := none
  severity : Severity := .error
deriving DecidableEq, Repr

namespace Diagnostic

/-- The diagnostic with the given suggestion. -/
def withSuggestion (d : Diagnostic) (suggestion : String) : Diagnostic :=
  { d with suggestion := some suggestion }

/-- The diagnostic with the given context in place of its own. -/
def withContext (d : Diagnostic) (context : ErrorContext) : Diagnostic :=
  { d with context := some context }

/-- The diagnostic with its context changed, starting from an empty one if there is none. -/
def mapContext (d : Diagnostic) (change : ErrorContext → ErrorContext) : Diagnostic :=
  { d with context := some (change (d.context.getD {})) }

/-- The diagnostic placed in the given setting. -/
def inField (d : Diagnostic) (field : String) : Diagnostic :=
  d.mapContext fun context => { context with field := some field }

/-- The diagnostic with the given offending text. -/
def withClause (d : Diagnostic) (clause : String) : Diagnostic :=
  d.mapContext fun context => { context with clause := some clause }

/-- The diagnostic with one more note. -/
def withNote (d : Diagnostic) (note : String) : Diagnostic :=
  d.mapContext fun context => { context with notes := context.notes ++ [note] }

/-- The diagnostic with the given severity. -/
def withSeverity (d : Diagnostic) (severity : Severity) : Diagnostic :=
  { d with severity := severity }

/-- The setting that the diagnostic is placed in. -/
def field? (d : Diagnostic) : Option String :=
  d.context.bind (·.field)

/-- The one-line text of a diagnostic. -/
def render (d : Diagnostic) : String :=
  let head := "[" ++ d.code ++ "] " ++ d.message
  match d.suggestion with
  | some suggestion => head ++ " (suggestion: " ++ suggestion ++ ")"
  | none => head

/-! ## The problems that are reported -/

/-- A malformed unit expression. -/
def unitSyntax (details : String) : Diagnostic :=
  { code := "UNIT_SYNTAX"
    message := "Unit syntax error: " ++ details
    suggestion := "Write units as space separated 'name^exponent' tokens with at most one '/'" }

/-- A malformed clause of a target list. -/
def targetSyntax (clause details : String) : Diagnostic :=
  { code := "TARGET_SYNTAX"
    message := "Invalid target unit \"" ++ clause ++ "\": " ++ details
    suggestion := "Separate equivalent target units with '=', e.g. \"N = kg m/s^2\""
    context := some { clause } }

/-- A malformed clause of a rule text. -/
def ruleSyntax (details : String) : Diagnostic :=
  { code := "RULE_SYNTAX"
    message := "Rule syntax error: " ++ details
    suggestion := "Use 'unit: prefix prefix' or '1 unit = 100 other' clauses separated by ';'" }

/-- A word in the place of an SI prefix that is none. -/
def unknownPrefix (word : String) : Diagnostic :=
  { code := "UNKNOWN_PREFIX"
    message := "\"" ++ word ++ "\" is not an SI prefix"
    suggestion := "Known prefixes: y z a f p n u m c d da h k M G T P E Z Y"
    context := some { clause := word } }

/-- A preset number that is not registered. -/
def unknownRuleId (id : UInt32) : Diagnostic :=
  { code := "UNKNOWN_RULE_ID"
    message := "No conversion rule preset with id " ++ toString id.toNat
    suggestion := "Use list_rules to see the available presets" }

/-- A preset of the site that cannot be used; the others still can. -/
def invalidPreset (details : String) : Diagnostic :=
  { code := "INVALID_PRESET"
    message := "Invalid rule preset: " ++ details
    severity := .warning }

/-- A fault of the program itself. -/
def internal (details : String) : Diagnostic :=
  { code := "INTERNAL"
    message := "Internal error: " ++ details
    suggestion := "This is a bug, please report it"
    severity := .fatal }

end Diagnostic

end UnitCheck
