import CallHierarchy.Client.State

/-! The life of a request, in the steps between which other requests and the reader may take theirs.
It looks whether the server is there, takes an identity, registers it, looks again, writes, and
waits for an answer, for the end of the server, or for its time to run out. -/

namespace CallHierarchy.Client

/-- How a request ends. -/
inductive Ending where
  | notRunning
  | unwritable
  | closed
  | timedOut
  | answered (r : Response)
  deriving Inhabited

/-- How far a request has come. From the second step on it has a serial. -/
inductive Phase where
  | start
  /-- The server was there at the first look. -/
  | checked
  | numbered (serial : Nat)
  | registered (serial : Nat)
  /-- The server was there at the second look. -/
  | confirmed (serial : Nat)
  /-- The request is written. -/
  | waiting (serial : Nat)
  | done (ending : Ending)
  deriving Inhabited

namespace Phase

/-- The next step of a request. Writing succeeds if `writable` holds. A request that waits goes on
once there is an answer, or once none can come any more. -/
def advance (writable : Bool) (s : State) : Phase → State × Phase
  | start => if s.alive then (s, checked) else (s, done .notRunning)
  | checked => (s.issue.2, numbered s.issue.1)
  | numbered n => (s.register n, registered n)
  | registered n =>
    if s.alive then (s, confirmed n) else (s.withdraw (State.idAfter n), done .notRunning)
  | confirmed n =>
    if writable then (s, waiting n) else (s.withdraw (State.idAfter n), done .unwritable)
  | waiting n =>
    match s.answer? n with
    | some r => (s, done (.answered r))
    | none => if s.awaits n then (s, waiting n) else (s, done .closed)
  | done ending => (s, done ending)

/-- The step of a request whose time has run out. -/
def expire (s : State) : Phase → State × Phase
  | waiting n => (s.withdraw (State.idAfter n), done .timedOut)
  | phase => (s, phase)

/-- The identity that a request is about to write under. -/
def writes? : Phase → Option RequestId
  | confirmed n => some (State.idAfter n)
  | _ => none

def ending? : Phase → Option Ending
  | done ending => some ending
  | _ => none

/-- The serial that the request has, while it is under way. -/
def serial? : Phase → Option Nat
  | numbered n | registered n | confirmed n | waiting n => some n
  | _ => none

/-- The serial under which the request has registered, while it is under way. -/
def registered? : Phase → Option Nat
  | registered n | confirmed n | waiting n => some n
  | _ => none

end Phase

end CallHierarchy.Client
