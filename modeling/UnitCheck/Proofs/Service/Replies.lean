import UnitCheck.Proofs.Json.Line
import UnitCheck.Proofs.Service.Faults

/-!
# The kinds of replies

Which lines get a reply, and of which kind: `Server.handleLine_replies`. A line gets none if it is
blank or a notification, that is, a request whose id is missing or null. All others get one JSON
object on a line, with a result or with the code of what is wrong with the line, its method or its
parameters.

* `Request.id_eq_none_iff` traces a notification back to the document that was read.
* `handleLine_of_blank`, `handleLine_of_unread` and `handleLine_of_read` are what can become of a
  line, and the lemmas on `Reply.toJson` say how each of it is written.
-/

namespace UnitCheck

/-! ## Notifications -/

/-- The request in the document has no id, or the id `null`. -/
def Document.LacksId : Document → Prop
  | .object fields => ∀ field ∈ fields, field.1 = some "id" → field.2 = .atom (some .null)
  | .array items => items[1]? = some (.atom (some .null))
  | .atom _ => False

namespace Slot

variable {β : Type} {read : Document → Option β}

theorem orNull?_eq_some_none_iff {document : Document} :
    orNull? read document = some none ↔ document = .atom (some .null) := by
  unfold orNull?
  split
  · simp
  · rename_i notNull
    simpa using notNull

/-- An optional field reads as missing if it is left out or null. -/
theorem eq_none_iff_of_optional? {slot : Slot} {value : Option β}
    (given : slot.optional? read = some value) :
    value = none ↔ slot = .omitted ∨ slot = .given (.atom (some .null)) := by
  cases slot with
  | given document =>
      change orNull? read document = some value at given
      rw [← Option.some_inj, ← given, orNull?_eq_some_none_iff]
      simp
  | omitted => simpa using (Option.some.inj given).symm
  | cut => cases given

end Slot

namespace Document

theorem forall_field_iff_of_fieldSlot? {fields : List (Option String × Document)} {name : String}
    {slot : Slot} (found : fieldSlot? fields name = some slot) :
    (∀ field ∈ fields, field.1 = some name → field.2 = .atom (some .null)) ↔
      slot = .omitted ∨ slot = .given (.atom (some .null)) := by
  have named : (∀ field ∈ fields, field.1 = some name → field.2 = .atom (some .null)) ↔
      ∀ field ∈ fields.filter fun field => field.1 = some name,
        field.2 = .atom (some .null) := by
    simp [List.mem_filter]
  rw [named]
  unfold fieldSlot? at found
  split at found
  · rename_i absent
    cases found
    simp [absent]
  · rename_i single
    cases found
    simp [single]
  · cases found

theorem lacksId_iff_of_slots? {document : Document} {jsonrpc id method params : Slot}
    (slots : document.slots? ["jsonrpc", "id", "method", "params"] =
      some [jsonrpc, id, method, params]) (there : id ≠ .cut) :
    document.LacksId ↔ id = .omitted ∨ id = .given (.atom (some .null)) := by
  cases document with
  | atom value => cases slots
  | array items =>
      -- The id is the second item, so it is there only if two items are.
      rcases items with _ | ⟨first, _ | ⟨second, rest⟩⟩
      · cases slots
        exact absurd rfl there
      · cases slots
        exact absurd rfl there
      · obtain ⟨others, tail, same⟩ := Option.map_eq_some_iff.mp slots
        obtain ⟨more, -, rfl⟩ := Option.map_eq_some_iff.mp tail
        have second : Slot.given second = id := by
          injection same with _ same
          injection same
        simp [LacksId, ← second]
  | object fields =>
      rw [slots?] at slots
      split at slots
      · simp only [List.mapM_cons, Option.bind_eq_bind, Option.bind_eq_some_iff] at slots
        obtain ⟨_, -, _, ⟨found, foundId, _, _, rest⟩, whole⟩ := slots
        cases rest
        cases whole
        exact forall_field_iff_of_fieldSlot? foundId
      · cases slots

end Document

namespace Request

theorem id_eq_none_iff {document : Document} {request : Request}
    (read : ofDocument? document = some request) : request.id = none ↔ document.LacksId := by
  unfold ofDocument? at read
  obtain ⟨slots, found, read⟩ := Option.bind_eq_some_iff.mp read
  split at read
  · rename_i jsonrpc id method params
    obtain ⟨_, -, read⟩ := Option.bind_eq_some_iff.mp read
    obtain ⟨value, given, read⟩ := Option.bind_eq_some_iff.mp read
    obtain ⟨name, -, read⟩ := Option.bind_eq_some_iff.mp read
    obtain ⟨_, -, read⟩ := Option.bind_eq_some_iff.mp read
    obtain rfl := Option.some.inj read
    rw [Document.lacksId_iff_of_slots? found, ← Slot.eq_none_iff_of_optional? given]
    rintro rfl
    cases given
  · cases read

end Request

/-! ## Written replies -/

/-- The code of the error that a message reports. -/
def Json.errorCode? (json : Json) : Option Int :=
  match (json.field? "error").bind (·.field? "code") with
  | some (.int code) => some code
  | _ => none

namespace Reply

/-- A message is a JSON object on one line, of version 2.0 and with either a result or an error. -/
structure WellFormed (message : Json) : Prop where
  object : ∃ fields, message = .object fields ∧ (fields.map Prod.fst).Nodup
  line : OneLine message.render.toList
  version : message.field? "jsonrpc" = some (.string "2.0")
  either : (message.field? "result").isSome = !(message.field? "error").isSome

/-- What the reply to a request says of its method and its parameters. -/
structure Answers (request : Request) (message : Json) : Prop where
  id : ∃ id, request.id = some id ∧ message.field? "id" = some id
  unknownMethod : message.errorCode? = some (-32601) ↔ request.method ∉ Server.methods
  invalidParams : message.errorCode? = some (-32602) ↔
    request.method = "tools/call" ∧ BadCall request.params
  result : (message.field? "result").isSome = true ↔
    request.method ∈ Server.methods ∧ ¬(request.method = "tools/call" ∧ BadCall request.params)

theorem wellFormed_toJson (reply : Reply) : WellFormed reply.toJson := by
  obtain ⟨id, outcome⟩ := reply
  refine ⟨⟨_, rfl, ?_⟩, Json.oneLine_render _, rfl, ?_⟩
  · cases id <;> cases outcome <;> simp [Json.optionalField]
  · cases id <;> cases outcome <;> rfl

theorem field?_id (reply : Reply) : reply.toJson.field? "id" = reply.id := by
  obtain ⟨id, outcome⟩ := reply
  cases id <;> cases outcome <;> rfl

theorem isSome_result (id : Option Json) (outcome : Except Fault Json) :
    ((Reply.mk id outcome).toJson.field? "result").isSome = outcome.isOk := by
  cases id <;> cases outcome <;> rfl

theorem errorCode?_ok (id : Option Json) (result : Json) :
    (Reply.mk id (.ok result)).toJson.errorCode? = none := by
  cases id <;> rfl

theorem errorCode?_error (id : Option Json) (fault : Fault) :
    (Reply.mk id (.error fault)).toJson.errorCode? = some fault.code := by
  cases id <;> rfl

end Reply

/-! ## Lines -/

namespace Server

theorem handleLine_of_blank (server : Server) {line : String}
    (blank : Text.trimString line = "") : (server.handleLine line).2 = none := by
  simp [handleLine, blank]

theorem handleLine_of_unread (server : Server) {line : String}
    (some : Text.trimString line ≠ "") (unread : Request.read? (Text.trimString line) = none) :
    (server.handleLine line).2 = Option.some ⟨none, .error .unreadable⟩ := by
  simp [handleLine, some, unread]

theorem handleLine_of_read (server : Server) {line : String} {request : Request}
    (read : Request.read? (Text.trimString line) = some request) :
    (server.handleLine line).2 =
      request.id.map fun id =>
        ⟨some id, (server.handleMethod request.params request.method).2⟩ := by
  have visible : Text.trimString line ≠ "" := by
    intro blank
    have unread : (Request.read? "").isNone = true := by decide +kernel
    rw [blank] at read
    rw [read] at unread
    cases unread
  simp [handleLine, visible, read, handleRequest]

theorem handleLine_eq_none_iff (server : Server) (line : String) :
    (server.handleLine line).2 = none ↔
      Text.trimString line = "" ∨
        ∃ document request, Document.read? (Text.trimString line) = some document ∧
          Request.ofDocument? document = some request ∧ document.LacksId := by
  by_cases blank : Text.trimString line = ""
  · simp [server.handleLine_of_blank blank, blank]
  · cases read : Request.read? (Text.trimString line) with
    | none =>
        rw [server.handleLine_of_unread blank read]
        simp only [reduceCtorEq, blank, false_or, false_iff]
        rintro ⟨document, request, spelled, described, -⟩
        rw [Request.read?, spelled, Option.bind_some, described] at read
        cases read
    | some request =>
        rw [server.handleLine_of_read read, Option.map_eq_none_iff]
        obtain ⟨document, spelled, described⟩ := Option.bind_eq_some_iff.mp read
        simp only [blank, false_or]
        constructor
        · intro missing
          have lacks := (Request.id_eq_none_iff described).mp missing
          exact ⟨document, request, spelled, described, lacks⟩
        · rintro ⟨other, same, otherSpelled, sameDescribed, lacks⟩
          obtain rfl := Option.some.inj (spelled.symm.trans otherSpelled)
          exact (Request.id_eq_none_iff described).mpr lacks

theorem answers_of_read (server : Server) {line : String} {request : Request} {reply : Reply}
    (read : Request.read? (Text.trimString line) = some request)
    (replied : (server.handleLine line).2 = some reply) :
    Reply.Answers request reply.toJson ∧ reply.toJson.errorCode? ≠ some (-32700) := by
  rw [server.handleLine_of_read read] at replied
  obtain ⟨id, given, rfl⟩ := Option.map_eq_some_iff.mp replied
  rcases server.handleMethod_cases request.params request.method with
    ⟨unknown, outcome⟩ | ⟨call, bad, message, outcome⟩ | ⟨known, fine, result, outcome⟩
  · have notCall : request.method ≠ "tools/call" := by
      intro call
      simp [call] at unknown
    rw [outcome]
    constructor
    · constructor <;>
        simp [given, Reply.field?_id, Reply.isSome_result, Reply.errorCode?_error,
          Fault.unknownMethod, unknown, notCall]
    · simp [Reply.errorCode?_error, Fault.unknownMethod]
  · rw [outcome]
    constructor
    · constructor <;>
        simp [given, Reply.field?_id, Reply.isSome_result, Reply.errorCode?_error,
          Fault.invalidParams, call, bad]
    · simp [Reply.errorCode?_error, Fault.invalidParams]
  · rw [outcome]
    constructor
    · constructor <;>
        simp [given, Reply.field?_id, Reply.isSome_result, Reply.errorCode?_ok, known, fine]
    · simp [Reply.errorCode?_ok]

/-- A line gets no reply exactly if it is blank or a notification. Otherwise the reply is a message
on one line. It is the parse error without an id exactly if the line is no request, and else has the
id of the request, and reports a method exactly if it is unknown and parameters exactly if they are
those of a bad call. -/
theorem handleLine_replies (server : Server) (line : String) :
    ((server.handleLine line).2 = none ↔
      Text.trimString line = "" ∨
        ∃ document request, Document.read? (Text.trimString line) = some document ∧
          Request.ofDocument? document = some request ∧ document.LacksId) ∧
    ∀ reply, (server.handleLine line).2 = some reply →
      Reply.WellFormed reply.toJson ∧
      (reply.toJson.errorCode? = some (-32700) ↔
        Request.read? (Text.trimString line) = none) ∧
      (reply.toJson.field? "id" = none ↔ Request.read? (Text.trimString line) = none) ∧
      ∀ request, Request.read? (Text.trimString line) = some request →
        Reply.Answers request reply.toJson := by
  refine ⟨server.handleLine_eq_none_iff line, fun reply replied => ⟨reply.wellFormed_toJson, ?_⟩⟩
  cases read : Request.read? (Text.trimString line) with
  | none =>
      have visible : Text.trimString line ≠ "" := by
        intro blank
        rw [server.handleLine_of_blank blank] at replied
        cases replied
      rw [server.handleLine_of_unread visible read] at replied
      obtain rfl := Option.some.inj replied
      simp [Reply.field?_id, Reply.errorCode?_error, Fault.unreadable]
  | some request =>
      obtain ⟨answers, other⟩ := server.answers_of_read read replied
      obtain ⟨id, -, written⟩ := answers.id
      refine ⟨by simp [other], by simp [written], ?_⟩
      intro same read
      rw [← Option.some.inj read]
      exact answers

/-- A call of a tool without parameters. -/
def emptyCall : String := " \x7b\"jsonrpc\":\"2.0\",\"id\":7,\"method\":\"tools/call\"\x7d"

theorem handleLine_replies_emptyCall :
    ∃ reply, ((start .builtin).handleLine emptyCall).2 = some reply ∧
      Reply.WellFormed reply.toJson ∧ reply.toJson.errorCode? = some (-32602) ∧
      (reply.toJson.field? "id").isSome = true := by
  obtain ⟨-, kinds⟩ := handleLine_replies (start .builtin) emptyCall
  have method : (Request.read? (Text.trimString emptyCall)).map Request.method =
      some "tools/call" := by decide +kernel
  have params : ((Request.read? (Text.trimString emptyCall)).bind Request.params).isNone =
      true := by decide +kernel
  have replied : ((start .builtin).handleLine emptyCall).2.isSome = true := by decide +kernel
  obtain ⟨reply, replied⟩ := Option.isSome_iff_exists.mp replied
  obtain ⟨request, read, call⟩ := Option.map_eq_some_iff.mp method
  obtain ⟨wellFormed, -, -, requests⟩ := kinds reply replied
  have answers := requests request read
  rw [read, Option.bind_some, Option.isNone_iff_eq_none] at params
  obtain ⟨id, -, written⟩ := answers.id
  refine ⟨reply, replied, wellFormed, answers.invalidParams.mpr ⟨call, ?_⟩, by simp [written]⟩
  rw [params]
  exact .noParams

end Server

end UnitCheck
