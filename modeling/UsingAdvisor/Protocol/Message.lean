import UsingAdvisor.Json.Printer
import UsingAdvisor.Json.Record

/-!
# Messages

What goes over a connection, and its JSON form. A message with an identifier is a query, which gets a
reply under the same identifier, and a message without one is a notice. Everything that is sent bears
the version of the protocol. Main statement: `Identifier.ofJson?_toJson` (what an identifier is written
as is read as that identifier).
-/

namespace UsingAdvisor

/-- What a query is known by. A null is an identifier like any other. -/
inductive Identifier where
  /-- An integer of 64 bits, signed. -/
  | number (value : Int64)
  | text (value : Text)
  | null
  deriving DecidableEq, Repr

namespace Identifier

/-- The JSON form of an identifier. -/
def toJson : Identifier → Json
  | number value => .integer value.toInt
  | text value => .string value
  | null => .null

/-- The identifier that a value gives. -/
def ofJson? : Json → Option Identifier
  | .integer value =>
    if (Int64.ofInt value).toInt = value then some (number (Int64.ofInt value)) else none
  | .string value => some (text value)
  | .null => some null
  | _ => none

/-- What an identifier is written as is read as that identifier. -/
theorem ofJson?_toJson (id : Identifier) : ofJson? id.toJson = some id := by
  cases id <;> simp [ofJson?, toJson]

end Identifier

/-- A message of a client. -/
structure Message where
  /-- The identifier that the reply carries. Notices have none. -/
  id : Option Identifier
  method : Text
  /-- The parameters, if any are given. A null that is given counts. -/
  params : Option Json

/-- Why a query is not answered. -/
inductive Refusal where
  /-- What was sent is not JSON. -/
  | notJson
  /-- The client has not introduced itself. -/
  | notInitialized
  /-- The session is over, the client has introduced itself before, or what was sent is no
  message. -/
  | invalidRequest
  /-- The method is not one of the protocol's. -/
  | unknownMethod (name : Text)
  /-- The method is one that this server does not serve. -/
  | unsupportedMethod
  /-- The method needs parameters and none are given. -/
  | missingParams
  /-- The method has no parameters and some are given. -/
  | unexpectedParams (written : Text)
  | invalidParams
  | unknownCommand (name : Text)
  deriving DecidableEq, Repr

namespace Refusal

/-- The number of a refusal. -/
def code : Refusal → Int
  | notJson => -32700
  | notInitialized => -32002
  | invalidRequest => -32600
  | unknownMethod _ => -32601
  | unsupportedMethod => -32601
  | missingParams => -32602
  | unexpectedParams _ => -32602
  | invalidParams => -32602
  | unknownCommand _ => -32602

/-- What is said about a refusal. -/
def message : Refusal → Text
  | notJson => "Parse error".toList
  | notInitialized => "Server not initialized".toList
  | invalidRequest => "Invalid request".toList
  | unknownMethod _ => "Method not found".toList
  | unsupportedMethod => "Method not found".toList
  | missingParams => "Missing params field".toList
  | unexpectedParams written => "Unexpected params: ".toList ++ written
  | invalidParams => "Invalid params".toList
  | unknownCommand name => "Unknown command: ".toList ++ name

/-- What a refusal adds to its message. -/
def data : Refusal → Option Json
  | unknownMethod name => some (.string name)
  | _ => none

/-- The JSON form of a refusal. -/
def toJson (refusal : Refusal) : Json :=
  .record ([("code", .integer refusal.code), ("message", .string refusal.message)] ++
    Json.optional "data" refusal.data)

end Refusal

/-- The outcome of a query. -/
abbrev Reply := Except Refusal Json

/-- What a client sends. -/
inductive Incoming where
  | message (message : Message)
  /-- The answer to a question of the server. It has no result where the client answers with an
  error. -/
  | answer (id : Identifier) (result : Option Json)

namespace Protocol

/-- The version of the protocol. -/
def version : Text :=
  "2.0".toList

/-- A JSON form with the mark that everything sent bears. -/
def marked (fields : List (String × Json)) : Json :=
  .record (("jsonrpc", .string version) :: fields)

/-- The JSON form of a reply. -/
def reply (id : Identifier) : Reply → Json
  | .ok result => marked [("result", result), ("id", id.toJson)]
  | .error refusal => marked [("error", refusal.toJson), ("id", id.toJson)]

/-- The JSON form of a notice of the server. -/
def notice (method : String) (params : Json) : Json :=
  marked [("method", .literal method), ("params", params)]

/-- The JSON form of a question of the server. -/
def question (id : Identifier) (method : String) (params : Json) : Json :=
  marked [("method", .literal method), ("params", params), ("id", id.toJson)]

/-- Whether a value bears the version of the protocol. -/
def isMarked (value : Json) : Bool :=
  value.fieldAs? Json.toText? "jsonrpc" == some version

/-- The message that a value gives. A method that is left out is the empty one. -/
def readMessage? (value : Json) : Option Message := do
  let value ← value.named? ["jsonrpc", "method", "params", "id"] 1
  if !isMarked value then none
  let id ← match value.field? "id" with
    | none => some none
    | some id => (Identifier.ofJson? id).map some
  let method ← match value.field? "method" with
    | none => some []
    | some method => method.toText?
  return ⟨id, method, value.field? "params"⟩

/-- Whether a value tells why a question is not answered. -/
def isRefusal (value : Json) : Bool :=
  let read? : Option (Int × Text) := do
    let value ← value.named? ["code", "message", "data"] 3
    return (← value.fieldAs? Json.toInt? "code", ← value.fieldAs? Json.toText? "message")
  read?.isSome

/-- The answer to a question that a value gives. It has a result or a refusal. -/
def readAnswer? (value : Json) : Option Incoming := do
  if !isMarked value then none
  let id ← value.fieldAs? Identifier.ofJson? "id"
  match value.field? "result", value.field? "error" with
  | some result, _ => return .answer id (some result)
  | none, some refusal => if isRefusal refusal then return .answer id none else none
  | none, none => none

/-- What a client sends by a value. -/
def readIncoming? (value : Json) : Option Incoming :=
  (readAnswer? value).or ((readMessage? value).map .message)

end Protocol

end UsingAdvisor
