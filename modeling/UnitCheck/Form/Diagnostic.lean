import UnitCheck.Json.Record
import UnitCheck.Diagnostic

/-!
# The JSON form of diagnostics

What a diagnostic lacks is left out: the suggestion, the context and within it the setting, the
clause and an empty list of notes.
-/

namespace UnitCheck

namespace Severity

/-- The name of a severity. -/
def name : Severity → String
  | warning => "warning"
  | error => "error"
  | fatal => "fatal"

/-- The severity with the given name. -/
def ofName? : String → Option Severity
  | "warning" => some warning
  | "error" => some error
  | "fatal" => some fatal
  | _ => none

/-- The severity that a document names, either by a string or by the only field of an object, whose
value is `null`. -/
def ofDocument? : Document → Option Severity
  | .atom (some (.string name)) => ofName? name
  | .object [(some name, .atom (some .null))] => ofName? name
  | _ => none

end Severity

namespace ErrorContext

/-- The JSON form of a context. -/
def toJson (context : ErrorContext) : Json :=
  .object (Json.optionalField "field" .string context.field ++
    Json.optionalField "clause" .string context.clause ++
    if context.notes.isEmpty then [] else [("notes", .array (context.notes.map .string))])

/-- The context that a document describes. -/
def ofDocument? (document : Document) : Option ErrorContext := do
  match ← document.slots? ["field", "clause", "notes"] with
  | [field, clause, notes] =>
      return {
        field := ← field.optional? Document.string?
        clause := ← clause.optional? Document.string?
        notes := ← notes.withDefault? [] (Document.list? Document.string?) }
  | _ => none

end ErrorContext

namespace Diagnostic

/-- The JSON form of a diagnostic. -/
def toJson (d : Diagnostic) : Json :=
  .object ([("code", .string d.code), ("message", .string d.message)] ++
    Json.optionalField "suggestion" .string d.suggestion ++
    Json.optionalField "context" ErrorContext.toJson d.context ++
    [("severity", .string d.severity.name)])

/-- The diagnostic that a document describes. -/
def ofDocument? (document : Document) : Option Diagnostic := do
  match ← document.slots? ["code", "message", "suggestion", "context", "severity"] with
  | [code, message, suggestion, context, severity] =>
      return {
        code := ← code.required? Document.string?
        message := ← message.required? Document.string?
        suggestion := ← suggestion.optional? Document.string?
        context := ← context.optional? ErrorContext.ofDocument?
        severity := ← severity.required? Severity.ofDocument? }
  | _ => none

/-- The diagnostic that a JSON text describes. -/
def read? (text : String) : Option Diagnostic :=
  (Document.read? text).bind ofDocument?

end Diagnostic

end UnitCheck
