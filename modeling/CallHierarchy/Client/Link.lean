import CallHierarchy.Client.Session

/-! A client and its server side by side, on a clock of their own. The server acts as soon as bytes
reach it, and its pauses put off what it does afterwards. What it writes waits until the client
gets to it. -/

namespace CallHierarchy.Client

/-- What a server does. -/
inductive Act where
  | pause (milliseconds : Nat)
  | write (bytes : List UInt8)
  | exit
  deriving DecidableEq, Repr

/-- A server: what it does when bytes reach it. -/
structure Peer (ω : Type) where
  feed : ω → List UInt8 → ω × List Act

/-- What comes from the server at a time: bytes, or the end of its output. -/
structure Arrival where
  time : Nat
  bytes : Option (List UInt8)
  deriving DecidableEq, Repr

/-- A client and a server that talk to each other. Times are in milliseconds. -/
structure Link (ω : Type) where
  state : State
  server : ω
  /-- The time of the client. -/
  clock : Nat
  /-- The time up to which the server is busy. -/
  busyUntil : Nat
  /-- When the server ended. -/
  endedAt : Option Nat
  /-- What is on its way to the client. -/
  queue : List Arrival

namespace Link

variable {ω : Type}

/-- The client and a server that has just started. -/
def start (server : ω) : Link ω := ⟨.start, server, 0, 0, none, []⟩

/-- The most bytes that the client reads at once. -/
def readSize : Nat := 4096

/-- The pieces in which the client reads bytes that were written together. -/
def readsOf (bytes : List UInt8) : List (List UInt8) :=
  (List.range ((bytes.length + readSize - 1) / readSize)).map fun i =>
    (bytes.drop (i * readSize)).take readSize

/-- The server does one thing. -/
def perform (link : Link ω) : Act → Link ω
  | .pause milliseconds => { link with busyUntil := link.busyUntil + milliseconds }
  | .write bytes =>
    { link with queue := link.queue ++ (readsOf bytes).map fun b => ⟨link.busyUntil, some b⟩ }
  | .exit =>
    { link with
      endedAt := some link.busyUntil
      queue := link.queue ++ [⟨link.busyUntil, none⟩] }

/-- Whether the server can still be written to. -/
def writable (link : Link ω) : Bool := link.endedAt.all (link.clock < ·)

/-- The client writes bytes. -/
def write (peer : Peer ω) (link : Link ω) (bytes : List UInt8) : Link ω :=
  let (server, acts) := peer.feed link.server bytes
  acts.foldl perform { link with server, busyUntil := max link.busyUntil link.clock }

/-- The client gets to one arrival, and answers the requests in it. -/
def deliver (peer : Peer ω) (link : Link ω) (a : Arrival) : Link ω :=
  let link := { link with clock := max link.clock a.time }
  match a.bytes with
  | none => { link with state := link.state.lose.clear }
  | some bytes =>
    let (state, replies) := link.state.read bytes
    replies.foldl
      (fun link r => if link.writable then link.write peer (Message.frame r.toJson) else link)
      { link with state }

/-- The client gets to the arrivals in order for as long as `goOn` holds. The others stay in the
queue, before those that have come in meanwhile. -/
def deliverWhile (peer : Peer ω) (goOn : Link ω → Arrival → Bool) : List Arrival → Link ω → Link ω
  | [], link => link
  | a :: rest, link =>
    if goOn link a then deliverWhile peer goOn rest (link.deliver peer a)
    else { link with queue := a :: rest ++ link.queue }

/-- The client gets to the arrivals that satisfy `goOn`. -/
def deliverQueue (peer : Peer ω) (goOn : Link ω → Arrival → Bool) (link : Link ω) : Link ω :=
  deliverWhile peer goOn link.queue { link with queue := [] }

/-- The client gets to everything that has arrived by now. -/
def catchUp (peer : Peer ω) (link : Link ω) : Link ω :=
  link.deliverQueue peer fun link a => a.time ≤ link.clock

/-- The client waits until the server has ended, or has nothing more to say. -/
def awaitEnd (peer : Peer ω) (link : Link ω) : Link ω :=
  link.deliverQueue peer fun link _ => link.state.alive

/-- A request takes its next step. -/
def advance (link : Link ω) (phase : Phase) : Link ω × Phase :=
  let (state, phase) := phase.advance link.writable link.state
  ({ link with state }, phase)

/-- A request takes its steps up to the one that writes it. -/
def begin (link : Link ω) : Link ω × Phase :=
  let (link, phase) := link.advance .start
  let (link, phase) := link.advance phase
  let (link, phase) := link.advance phase
  link.advance phase

/-- A request that is written waits for at most `timeout`. -/
def await (peer : Peer ω) (timeout : Nat) (link : Link ω) (phase : Phase) : Link ω × Phase :=
  let deadline := link.clock + timeout
  let waits (link : Link ω) : Bool := (link.advance phase).2.ending?.isNone
  let link := link.deliverQueue peer fun link a => waits link && a.time < deadline
  if waits link then
    let (state, phase) := phase.expire link.state
    ({ link with state, clock := deadline }, phase)
  else link.advance phase

/-- Sends a request and waits for its answer. -/
def request (peer : Peer ω) (timeout : Nat) (method : String) (params : Json) (link : Link ω) :
    Except Failure Json × Link ω :=
  let (link, phase) := (link.catchUp peer).begin
  let (link, phase) :=
    match phase.writes? with
    | none => (link, phase)
    | some id =>
      let (next, phase) := link.advance phase
      if link.writable then
        let request : Request := ⟨rpcVersion, id, method, params⟩
        (next.write peer (Message.frame request.toJson)).await peer timeout phase
      else (next, phase)
  (((phase.ending?).getD .closed).result method timeout, link.catchUp peer)

/-- Sends a notification. -/
def notify (peer : Peer ω) (method : String) (params : Json) (link : Link ω) :
    Except Failure Unit × Link ω :=
  let link := link.catchUp peer
  if link.writable then
    let notification : Notification := ⟨rpcVersion, method, params⟩
    (.ok (), (link.write peer (Message.frame notification.toJson)).catchUp peer)
  else (.error .unwritable, link)

/-- The link as a transport. -/
def transport (peer : Peer ω) (timeout : Nat) : Transport (StateM (Link ω)) where
  request method params := ExceptT.mk (request peer timeout method params)
  notify method params := ExceptT.mk (notify peer method params)

end Link

end CallHierarchy.Client
