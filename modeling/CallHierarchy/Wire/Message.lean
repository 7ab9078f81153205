import CallHierarchy.Json.Decode
import CallHierarchy.Json.Parser
import CallHierarchy.Json.Printer
import CallHierarchy.Wire.Frame

/-! Messages of JSON-RPC: requests, notifications and responses, as JSON and as the bodies of
frames. -/

namespace CallHierarchy

/-- What ties a response to its request. -/
inductive RequestId where
  | number (n : Int64)
  | text (s : String)
  deriving DecidableEq, Repr, Inhabited

structure Request where
  version : String
  id : RequestId
  method : String
  params : Json
  deriving Inhabited

structure Notification where
  version : String
  method : String
  params : Json
  deriving Inhabited

structure ResponseError where
  code : Int64
  message : String
  data : Option Json
  deriving Inhabited

structure Response where
  version : String
  id : Option RequestId
  result : Option Json
  error : Option ResponseError
  deriving Inhabited

/-- The version of JSON-RPC that messages are written in. -/
def rpcVersion : String := "2.0"

namespace Json

def int64 (n : Int64) : Json := int n.toInt

def asInt64? (v : Json) : Option Int64 :=
  (v.asInt? (-0x8000000000000000) 0x7FFFFFFFFFFFFFFF).map Int64.ofInt

end Json

namespace RequestId

def toJson : RequestId → Json
  | number n => .int64 n
  | text s => .string s

def ofJson? (v : Json) : Option RequestId :=
  match v.asInt64? with
  | some n => some (number n)
  | none => v.asString?.map text

end RequestId

namespace Request

/-- The request with its fields in the order in which they are written. -/
def toJson (r : Request) : Json :=
  .object [
    ("jsonrpc", .string r.version),
    ("id", r.id.toJson),
    ("method", .string r.method),
    ("params", r.params)]

def ofJson? (v : Json) : Option Request := do
  match ← v.fields? ["jsonrpc", "id", "method", "params"] 1 with
  | [some version, some id, some method, params] =>
    some ⟨← version.asString?, ← RequestId.ofJson? id, ← method.asString?, params.getD .null⟩
  | _ => none

end Request

namespace Notification

def toJson (n : Notification) : Json :=
  .object [("jsonrpc", .string n.version), ("method", .string n.method), ("params", n.params)]

def ofJson? (v : Json) : Option Notification := do
  match ← v.fields? ["jsonrpc", "method", "params"] 1 with
  | [some version, some method, params] =>
    some ⟨← version.asString?, ← method.asString?, params.getD .null⟩
  | _ => none

end Notification

namespace ResponseError

def toJson (e : ResponseError) : Json :=
  .ofFields [
    ("code", some (.int64 e.code)),
    ("message", some (.string e.message)),
    ("data", e.data)]

def ofJson? (v : Json) : Option ResponseError := do
  match ← v.fields? ["code", "message", "data"] 0 with
  | [some code, some message, data] =>
    some ⟨← code.asInt64?, ← message.asString?, Json.present data⟩
  | _ => none

end ResponseError

namespace Response

/-- The response with its fields in the order in which they are written. The identity is written
even where there is none. -/
def toJson (r : Response) : Json :=
  .ofFields [
    ("jsonrpc", some (.string r.version)),
    ("id", some (match r.id with
      | some id => id.toJson
      | none => .null)),
    ("result", r.result),
    ("error", r.error.map ResponseError.toJson)]

def ofJson? (v : Json) : Option Response := do
  match ← v.fields? ["jsonrpc", "id", "result", "error"] 0 with
  | [some version, id, result, error] =>
    some {
      version := ← version.asString?
      id := ← Json.optional RequestId.ofJson? id
      result := Json.present result
      error := ← Json.optional ResponseError.ofJson? error }
  | _ => none

/-- The code of the answer to a method that the receiver does not know. -/
def methodNotFoundCode : Int64 := -32601

/-- The client's answer to a request of the server. -/
def methodNotFound (id : RequestId) (method : String) : Response :=
  ⟨rpcVersion, some id, none, some ⟨methodNotFoundCode,
    "Method '" ++ method ++ "' not supported by client", none⟩⟩

end Response

/-- A message as it arrives. -/
inductive Message where
  | request (r : Request)
  | notification (n : Notification)
  | response (r : Response)
  deriving Inhabited

namespace Message

/-- Why a body is no message. -/
inductive Fault where
  | notJson
  /-- The fields of the message do not have their types. -/
  | malformed
  /-- Neither a method nor an identity tells what the message is. -/
  | unknown (body : String)
  deriving DecidableEq, Repr

def Fault.message : Fault → Option String
  | notJson => some "Invalid JSON-RPC body"
  | malformed => none
  | unknown body => some ("Unknown message format: " ++ body)

def toJson : Message → Json
  | request r => r.toJson
  | notification n => n.toJson
  | response r => r.toJson

/-- Sorts a value into request, notification or response: a method and an identity make a request,
a method alone a notification, and an identity alone a response. -/
def ofJson (body : String) (v : Json) : Except Fault Message :=
  let hasId := (Json.present (v.get? "id")).isSome
  let sorted? : Option Message :=
    match (v.get? "method").isSome, hasId with
    | true, true => (Request.ofJson? v).map request
    | true, false => (Notification.ofJson? v).map notification
    | false, _ => (Response.ofJson? v).map response
  if (v.get? "method").isNone ∧ !hasId then .error (.unknown body)
  else
    match sorted? with
    | some message => .ok message
    | none => .error .malformed

/-- Reads the body of a frame. -/
def parse (body : String) : Except Fault Message :=
  match Json.parse? body with
  | none => .error .notJson
  | some v => ofJson body v

/-- The frame that carries a value. -/
def frame (v : Json) : List UInt8 := Frame.encode v.compact

end Message

end CallHierarchy
