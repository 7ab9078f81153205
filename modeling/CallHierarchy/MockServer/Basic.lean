import CallHierarchy.Json.Printer
import CallHierarchy.MockServer.Intake
import CallHierarchy.Source.CallGraph

/-! A server for trying out clients. It answers questions about calls from the texts of the open
documents. Options make it slow, silent, faulty or short-lived. -/

namespace CallHierarchy

namespace MockServer

/-- How the server behaves. -/
structure Options where
  /-- It does not say that it knows call hierarchies. -/
  hidesCalls : Bool
  /-- It says so by options and not by a plain yes. -/
  offersOptions : Bool
  /-- It answers each question about calls with null. -/
  answersNull : Bool
  /-- It asks for its configuration once it has started. -/
  asksConfiguration : Bool
  /-- The milliseconds that it waits before each response. -/
  delay : Nat
  /-- The number of responses after which it breaks down. -/
  dropAfter : Option Nat
  /-- The methods to which it does not respond. -/
  silentOn : List String
  /-- The methods to which it responds with an error. -/
  failsOn : List String
  deriving DecidableEq, Repr

/-- The server without any faults. -/
def Options.plain : Options := ⟨false, false, false, false, 0, none, [], []⟩

/-- What the server does, besides taking in messages. -/
inductive Act where
  | pause (milliseconds : Nat)
  | write (body : String)
  | exit (code : Nat)
  deriving DecidableEq, Repr

end MockServer

/-- The server between two messages. -/
structure MockServer where
  options : MockServer.Options
  documents : Source.Documents
  /-- How many responses it has written. -/
  responses : Nat
  /-- How many requests it has written. -/
  questions : Nat
  /-- The bytes that it has not taken in. -/
  unread : List UInt8
  /-- Whether it still runs. -/
  running : Bool

namespace MockServer

open Source

def start (options : Options) : MockServer := ⟨options, [], 0, 0, [], true⟩

/-! ### What it says of itself and of the documents -/

def rangeJson (line column stopLine stopColumn : Nat) : Json :=
  .object [
    ("end", .object [("character", .nat stopColumn), ("line", .nat stopLine)]),
    ("start", .object [("character", .nat column), ("line", .nat line)])]

/-- The item of a function. -/
def itemJson (f : Function) : Json :=
  .ofFields [
    ("detail", some (.string f.detail)),
    ("kind", some (.nat f.kind)),
    ("name", some (.string f.name)),
    ("range", some (rangeJson f.line f.indent f.endLine f.endColumn)),
    ("selectionRange",
      some (rangeJson f.line f.nameColumn f.line (f.nameColumn + f.nameWidth))),
    ("tags", if f.deprecated then some (.array [.nat 1]) else none),
    ("uri", some (.string f.uri))]

def siteJson (site : CallSite) : Json :=
  rangeJson site.line site.column site.line (site.column + site.callee.nameWidth)

/-- The answer with groups of calls, the function of each group at a key. -/
def groupsJson (key : String) (groups : List (Function × List CallSite)) : Json :=
  .array (groups.map fun (f, sites) =>
    .object (Dictionary.ofList [(key, itemJson f), ("fromRanges", .array (sites.map siteJson))]))

def greeting (options : Options) : Json :=
  let provider :=
    if options.hidesCalls then none
    else if options.offersOptions then some (.object [("workDoneProgress", .bool false)])
    else some (.bool true)
  .object [
    ("capabilities", .ofFields [
      ("callHierarchyProvider", provider),
      ("textDocumentSync", some (.object [("change", .nat 1), ("openClose", .bool true)]))]),
    ("serverInfo", .object [("name", .string "mockls"), ("version", .string "0.4.2")])]

/-- The member of an object within an object. -/
def within (outer key : String) (v : Json) : Option Json := (v.get? outer).bind (·.get? key)

/-- The place that a question is about. -/
def place? (params : Json) : Option (String × Nat × Nat) := do
  let uri ← (← within "textDocument" "uri" params).asString?
  let line ← (← within "position" "line" params).asNat? Decimal.max64
  let column ← (← within "position" "character" params).asNat? Decimal.max64
  some (uri, line, column)

/-- The answer to the question what stands at a place. -/
def symbolsAt (documents : Documents) (params : Json) : Json :=
  let found : Option Function := do
    let (uri, line, column) ← place? params
    let text ← documents.get? uri
    (CallGraph.build documents).atPosition? uri text line column
  match found with
  | some f => .array [itemJson f]
  | none => .null

/-- The function that the item of a question refers to. -/
def target? (g : CallGraph) (params : Json) : Option Function := do
  let item ← params.get? "item"
  let uri ← (← item.get? "uri").asString?
  let name ← (← item.get? "name").asString?
  let start ← within "selectionRange" "start" item
  let line ← (← start.get? "line").asNat? Decimal.max64
  g.find? uri name line

def callersOf (documents : Documents) (params : Json) : Json :=
  let g := CallGraph.build documents
  match target? g params with
  | some f => groupsJson "from" (g.incoming f)
  | none => .null

def calleesOf (documents : Documents) (params : Json) : Json :=
  let g := CallGraph.build documents
  match target? g params with
  | some f => groupsJson "to" (g.outgoing f)
  | none => .null

/-- The result of a method, if the server knows it. -/
def result? (s : MockServer) (method : String) (params : Json) : Option Json :=
  let ask (answer : Documents → Json → Json) : Json :=
    if s.options.answersNull then .null else answer s.documents params
  match method with
  | "initialize" => some (greeting s.options)
  | "shutdown" => some .null
  | "textDocument/prepareCallHierarchy" => some (ask symbolsAt)
  | "callHierarchy/incomingCalls" => some (ask callersOf)
  | "callHierarchy/outgoingCalls" => some (ask calleesOf)
  | _ => none

/-! ### Messages -/

/-- Writes a response, and breaks down if it was the last one. -/
def respond (s : MockServer) (id : Json) (key : String) (content : Json) : MockServer × List Act :=
  let body := Json.compact (.object [("jsonrpc", .string "2.0"), ("id", id), (key, content)])
  let s := { s with responses := s.responses + 1 }
  if s.options.dropAfter.any (· ≤ s.responses) then
    ({ s with running := false }, [.write body, .exit 1])
  else (s, [.write body])

def errorJson (code : Int) (message : String) : Json :=
  .object [("code", .int code), ("message", .string message)]

/-- Asks the client for the configuration. -/
def askConfiguration (s : MockServer) : MockServer × List Act :=
  let n := s.questions + 1
  ({ s with questions := n }, [.write (Json.compact (.object [
    ("id", .nat n),
    ("jsonrpc", .string "2.0"),
    ("method", .string "workspace/configuration"),
    ("params", .object [("items", .array [.object [("section", .string "mockls")]])])]))])

/-- Responds to a request. -/
def answer (s : MockServer) (id : Json) (method : String) (params : Json) : MockServer × List Act :=
  if method ∈ s.options.failsOn then
    s.respond id "error" (errorJson (-32603) ("mockls: configured to fail on " ++ method))
  else
    match s.result? method params with
    | none => s.respond id "error" (errorJson (-32601) ("mockls: method not found: " ++ method))
    | some result =>
      let (s, acts) := s.respond id "result" result
      if method = "initialize" ∧ s.options.asksConfiguration ∧ s.running then
        let (s, more) := s.askConfiguration
        (s, acts ++ more)
      else (s, acts)

def handleRequest (s : MockServer) (id : Json) (method : String) (params : Json) :
    MockServer × List Act :=
  if method ∈ s.options.silentOn then (s, [])
  else
    let (s, acts) := s.answer id method params
    (s, if 0 < s.options.delay then .pause s.options.delay :: acts else acts)

/-- The URI of a document that a notification is about. -/
def uriOf (document : Json) : String := ((document.get? "uri").bind Json.asString?).getD ""

/-- The text after the last change. -/
def changedText? (params : Json) : Option String := do
  let changes ← (← params.get? "contentChanges").asArray?
  (← (← changes.getLast?).get? "text").asString?

/-- The open documents after a notification. -/
def updated (documents : Documents) (method : String) (params : Json) : Documents :=
  match params.get? "textDocument" with
  | none => documents
  | some document =>
    match method with
    | "textDocument/didOpen" =>
      documents.insert (uriOf document) (((document.get? "text").bind Json.asString?).getD "")
    | "textDocument/didChange" =>
      match changedText? params with
      | some text => documents.insert (uriOf document) text
      | none => documents
    | "textDocument/didClose" => documents.erase (uriOf document)
    | _ => documents

def handleNotification (s : MockServer) (method : String) (params : Json) :
    MockServer × List Act :=
  if method = "exit" then ({ s with running := false }, [.exit 0])
  else ({ s with documents := updated s.documents method params }, [])

/-- Takes in the body of a frame. A body that is no message is passed over, and so is a reply. -/
def handleBody (s : MockServer) (body : String) : MockServer × List Act :=
  match Incoming.ofBody? body with
  | none => (s, [])
  | some ⟨_, none, _⟩ => (s, [])
  | some ⟨none, some method, params⟩ => s.handleNotification method params
  | some ⟨some id, some method, params⟩ => s.handleRequest id method params

/-- Takes frames off a buffer until there are none or the server has ended. What it leaves is kept
for later. -/
def run (s : MockServer) (buffer : List UInt8) : MockServer × List Act :=
  match _h : intake buffer with
  | .nothing => ({ s with unread := buffer }, [])
  | .overflow => ({ s with running := false }, [.exit 101])
  | .body text rest =>
    let (s, acts) := s.handleBody text
    if s.running then
      let (s, more) := s.run rest
      (s, acts ++ more)
    else (s, acts)
termination_by buffer.length
decreasing_by
  have := length_of_intake_body _h
  omega

/-- Takes in bytes from the client. -/
def feed (s : MockServer) (bytes : List UInt8) : MockServer × List Act :=
  if s.running then s.run (s.unread ++ bytes) else (s, [])

end MockServer

end CallHierarchy
