import UnitCheck.Json.Record
import UnitCheck.Json.Render

/-!
# Requests and replies

The service speaks JSON-RPC 2.0, one message a line. A request without an id, or with a null one, is
a notification and gets no reply. A reply carries the id of its request and either a result or a
fault; only the reply to a line that is no request has no id.
-/

namespace UnitCheck

/-- A message from a client. -/
structure Request where
  id : Option Json
  method : String
  params : Option Json

/-- Why a request has no result. -/
structure Fault where
  code : Int
  message : String
deriving DecidableEq, Repr

/-- The answer to a request. -/
structure Reply where
  id : Option Json
  outcome : Except Fault Json

namespace Request

/-- The value of a part of a request. The request itself is the first level of its text. -/
def part? (document : Document) : Option Json :=
  document.toJson? (Json.maxLevels - 1)

/-- The request that a document describes. -/
def ofDocument? (document : Document) : Option Request := do
  match ← document.slots? ["jsonrpc", "id", "method", "params"] with
  | [jsonrpc, id, method, params] =>
      let _ ← jsonrpc.required? Document.string?
      return {
        id := ← id.optional? part?
        method := ← method.required? Document.string?
        params := ← params.withDefault? none (Slot.orNull? part?) }
  | _ => none

/-- The request that a line spells. -/
def read? (line : String) : Option Request :=
  (Document.read? line).bind ofDocument?

end Request

namespace Fault

/-- The line is no request. The message is the constant part alone: where and why reading the line
stopped is not kept. -/
def unreadable : Fault := ⟨-32700, "Parse error"⟩

/-- The method does not exist. -/
def unknownMethod (method : String) : Fault := ⟨-32601, "Method not found: " ++ method⟩

/-- The parameters do not fit the method. -/
def invalidParams (message : String) : Fault := ⟨-32602, message⟩

/-- The JSON form of a fault. -/
def toJson (fault : Fault) : Json :=
  .object [("code", .int fault.code), ("message", .string fault.message)]

end Fault

namespace Reply

/-- The JSON form of a reply. -/
def toJson (reply : Reply) : Json :=
  .object (("jsonrpc", .string "2.0") :: Json.optionalField "id" (fun id => id) reply.id ++
    match reply.outcome with
    | .ok result => [("result", result)]
    | .error fault => [("error", fault.toJson)])

end Reply

end UnitCheck
