import CallHierarchy.Client.Link

/-! A server that acts by a script: each request runs the next entry, and without one it is answered
with null. -/

namespace CallHierarchy.Client.Scripted

/-- What an entry of the script tells the server to do about a request. -/
inductive Action where
  /-- Respond with a result. -/
  | result (v : Json)
  /-- Respond with an error. -/
  | error (v : Json)
  /-- Write a message with this body. -/
  | body (text : String)
  /-- Write bytes as they are. -/
  | bytes (bs : List UInt8)
  /-- Wait until the client has read everything. -/
  | settle
  | exit
  deriving Inhabited

/-- The server between two messages. -/
structure Server where
  script : List (List Action)
  /-- The messages that have come in. -/
  log : List Json
  unread : List UInt8
  running : Bool

def start (script : List (List Action)) : Server := ⟨script, [], [], true⟩

/-- The response to the request with an identity. -/
def response (id : Json) (key : String) (v : Json) : Act :=
  .write (Message.frame (.object [("id", id), ("jsonrpc", .string rpcVersion), (key, v)]))

def perform (id : Json) : Action → List Act
  | .result v => [response id "result" v]
  | .error v => [response id "error" v]
  | .body text => [.write (Frame.encode text)]
  | .bytes bs => [.write bs]
  | .settle => []
  | .exit => [.exit]

/-- The actions up to the one that ends the server. -/
def untilExit : List Act → List Act
  | [] => []
  | .exit :: _ => [.exit]
  | act :: rest => act :: untilExit rest

/-- Takes in a message. -/
def receive (s : Server) (message : Json) : Server × List Act :=
  let s := { s with log := s.log ++ [message] }
  match message.get? "id", message.get? "method" with
  | some id, some _ =>
    match s.script with
    | [] => (s, [response id "result" .null])
    | entry :: rest =>
      let acts := untilExit (entry.flatMap (perform id))
      ({ s with script := rest, running := !acts.contains .exit }, acts)
  | _, _ => (s, [])

/-- Takes in the bodies of frames, until the server ends. -/
def receiveBodies (s : Server) : List String → Server × List Act
  | [] => (s, [])
  | body :: rest =>
    if s.running then
      let (s, acts) :=
        match Json.parse? body with
        | some message => receive s message
        | none => (s, [])
      let (s, more) := receiveBodies s rest
      (s, acts ++ more)
    else (s, [])

def peer : Peer Server where
  feed s bytes :=
    let d := Frame.drain (s.unread ++ bytes)
    receiveBodies { s with unread := d.kept } d.bodies

end CallHierarchy.Client.Scripted
