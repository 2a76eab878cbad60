import UnitCheck.Service.Call

/-!
# The server

The server answers lines of requests. Its registry is fixed when it starts, and one grading session
serves all calls, so that rules compiled for one call are at hand for the next.

* `Server.handleLine` answers one line.
* `Server.answers` are the replies to an input of bytes, in order, up to the first line that is not
  UTF-8.
-/

namespace UnitCheck

/-- The presets of the server and the session that all calls share. -/
structure Server where
  registry : Registry
  session : Session

/-- The registry that a server starts with. The presets of the site count only if their file can be
read, is UTF-8 and loads as a whole. -/
def Registry.atStart (file : Option ByteArray) : Registry :=
  match file.bind String.fromUTF8? with
  | none => builtin
  | some text =>
      match builtin.load text with
      | .ok registry => registry
      | .error _ => builtin

namespace Server

/-- The server before its first request. -/
def start (registry : Registry) : Server := ⟨registry, .start⟩

/-! ## Methods -/

/-- The revision of the protocol that is offered when the client names none. -/
def protocolVersion : String := "2025-11-25"

/-- What a client reads about the use of the server. -/
def instructions : String :=
  "Dimcheck compares answer units against accepted target units. Targets are '='-separated " ++
    "unit expressions such as 'J = N m = kg m^2/s^2'. Conversion rules come from a preset " ++
    "('list_rules') plus optional question rules such as 'm: k c; 2.54 cm = inch'."

/-- The answer to `initialize`: the client's revision of the protocol and the server's name. -/
def initializeResult (params : Option Json) : Json :=
  let version := (params.bind (·.field? "protocolVersion")).bind Json.string?
  .object [("protocolVersion", .string (version.getD protocolVersion)),
    ("serverInfo", .object [("name", .string "dimcheck"), ("version", .string "0.1.0"),
      ("description", .string "Unit checking for physics answers")]),
    ("capabilities", .object [("tools", .object [("listChanged", .bool false)])]),
    ("instructions", .string instructions)]

/-- The answer to `tools/list`. -/
def toolsResult : Json :=
  .object [("tools", .array (Tool.all.map Tool.toJson))]

/-- The result of calling a tool. Only a check changes the server. -/
def callTool (server : Server) (arguments : Json) : Tool → Server × Except Fault Json
  | .checkUnits =>
      match CheckCall.read arguments with
      | .error fault => (server, .error fault)
      | .ok call =>
          let (session, result) := call.run server.registry server.session
          ({ server with session }, .ok result)
  | .parseUnit => (server, (textArgument arguments "unit").map parseUnitResult)
  | .validateTargets => (server, (textArgument arguments "targets").map validateTargetsResult)
  | .validatePart => (server, (readPart arguments).map (validatePartResult server.registry))
  | .listRules => (server, .ok (listRulesResult server.registry))

/-- The answer to `tools/call`. -/
def handleCall (server : Server) (params : Option Json) : Server × Except Fault Json :=
  match params with
  | none => (server, .error (.invalidParams "Missing params"))
  | some params =>
      match (params.field? "name").bind Json.string? with
      | none => (server, .error (.invalidParams "Missing tool name"))
      | some name =>
          match Tool.ofName? name with
          | none => (server, .error (.invalidParams ("Unknown tool: " ++ name)))
          | some tool => server.callTool ((params.field? "arguments").getD (.object [])) tool

/-- The outcome of a method. -/
def handleMethod (server : Server) (params : Option Json) (method : String) :
    Server × Except Fault Json :=
  match method with
  | "initialize" => (server, .ok (initializeResult params))
  | "initialized" => (server, .ok (.object []))
  | "ping" => (server, .ok (.object []))
  | "tools/list" => (server, .ok toolsResult)
  | "tools/call" => server.handleCall params
  | _ => (server, .error (.unknownMethod method))

/-! ## Lines -/

/-- The server after a request, and the reply unless the request is a notification. -/
def handleRequest (server : Server) (request : Request) : Server × Option Reply :=
  let (server, outcome) := server.handleMethod request.params request.method
  (server, request.id.map fun id => ⟨some id, outcome⟩)

/-- The server after a line, and the reply to the line. Blank lines get none. -/
def handleLine (server : Server) (line : String) : Server × Option Reply :=
  let line := Text.trimString line
  if line.isEmpty then (server, none)
  else match Request.read? line with
    | none => (server, some ⟨none, .error .unreadable⟩)
    | some request => server.handleRequest request

/-- The lines of an input, without the newlines that end them. What follows the last newline is a
line if it is not empty. -/
def lines (input : List UInt8) : List (List UInt8) :=
  let pieces := input.splitOn '\n'.toUInt8
  if pieces.getLast? = some [] then pieces.dropLast else pieces

/-- The text of a line, if it is UTF-8. -/
def decodeLine? (line : List UInt8) : Option String :=
  String.fromUTF8? ⟨line.toArray⟩

/-- The replies to lines of bytes. The server stops at a line that is not UTF-8. -/
def answerLines (server : Server) : List (List UInt8) → List Reply
  | [] => []
  | line :: rest =>
      match decodeLine? line with
      | none => []
      | some text =>
          let (server, reply) := server.handleLine text
          reply.toList ++ server.answerLines rest

/-- The replies to an input of bytes. -/
def answers (server : Server) (input : List UInt8) : List Reply :=
  server.answerLines (lines input)

end Server

end UnitCheck
