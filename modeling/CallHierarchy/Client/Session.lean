import CallHierarchy.Capabilities.Basic
import CallHierarchy.Client.Failure
import CallHierarchy.Connection
import CallHierarchy.Item.Params

/-! A session with a server: its start and its end, the documents that are open in it, and the
questions that it answers. All of it goes over a transport, which carries requests and
notifications. -/

namespace CallHierarchy.Client

/-- A way to send a server requests and notifications. -/
structure Transport (m : Type → Type) where
  request : String → Json → ExceptT Failure m Json
  notify : String → Json → ExceptT Failure m Unit

namespace Transport

variable {m : Type → Type} [Monad m] (t : Transport m)

/-- Sends a request whose result is to be of a type. -/
def ask {α : Type} (read : Json → Option α) (method : String) (params : Json) :
    ExceptT Failure m α := do
  let v ← t.request method params
  match read v with
  | some x => return x
  | none => throw (.badResult method)

/-- The parameters that start a session in a workspace. -/
def greetingParams (process : Nat) (root : String) (uri : Uri) : Json :=
  let name := ((Path.fileName? root.toList).map String.ofList).getD "workspace"
  .object [
    ("capabilities", .object [("textDocument", .object [("callHierarchy", .object [
      ("dynamicRegistration", .bool false)])])]),
    ("processId", .nat process),
    ("rootUri", .null),
    ("workspaceFolders", .array [.object [("name", .string name), ("uri", uri.toJson)]])]

/-- Starts the session, in a workspace with its root at a path. -/
def greet (process : Nat) (root : String) : ExceptT Failure m Greeting := do
  match Path.toUri root with
  | .error cause => throw (.root root cause)
  | .ok uri =>
    let greeting ← t.ask Greeting.ofJson? "initialize" (greetingParams process root uri)
    t.notify "initialized" (.object [])
    return greeting

/-- Ends the session. The server leaves once it has agreed to. -/
def part : ExceptT Failure m Unit := do
  let _ ← t.request "shutdown" .null
  t.notify "exit" .null

def openDocument (d : Document) : ExceptT Failure m Unit :=
  t.notify "textDocument/didOpen" d.openParams

def closeDocument (uri : Uri) : ExceptT Failure m Unit :=
  t.notify "textDocument/didClose" (Document.closeParams uri)

/-- Asks for the symbols at a place. -/
def prepare (params : PrepareParams) : ExceptT Failure m (Option (List Item)) :=
  t.ask (Json.nullable? (Json.list? Item.ofJson?)) PrepareParams.method params.toJson

/-- Asks for the calls of a symbol. -/
def calls (direction : Direction) (params : CallsParams) : ExceptT Failure m (Option (List Call)) :=
  t.ask (Json.nullable? (Json.list? (Call.ofJson? (Call.key direction))))
    (CallsParams.method direction) params.toJson

/-- The transport as a connection that answers questions about calls. -/
def connection : Connection m Failure where
  prepare document position := t.prepare ⟨document, position, none⟩
  calls direction item := t.calls direction ⟨item, none, none⟩

end Transport

end CallHierarchy.Client
