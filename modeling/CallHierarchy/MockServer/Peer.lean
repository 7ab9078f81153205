import CallHierarchy.Client.Link
import CallHierarchy.MockServer.Basic

/-! The mock server at the other end of a client. -/

namespace CallHierarchy.MockServer

def Act.toPeer : Act → Client.Act
  | pause milliseconds => .pause milliseconds
  | write body => .write (Frame.encode body)
  | exit _ => .exit

def peer : Client.Peer MockServer where
  feed s bytes :=
    let (s, acts) := s.feed bytes
    (s, acts.map Act.toPeer)

end CallHierarchy.MockServer
