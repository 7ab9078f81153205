import CallHierarchy.Json.Decode

/-! The two ways to walk a call graph. -/

namespace CallHierarchy

/-- Which way the call graph is walked: to the callers of a symbol, or to its callees. -/
inductive Direction where
  | incoming
  | outgoing
  deriving DecidableEq, Repr, Inhabited

namespace Direction

def name : Direction → String
  | .incoming => "incoming"
  | .outgoing => "outgoing"

def ofName? (s : String) : Option Direction := [incoming, outgoing].find? (·.name == s)

/-- Reads a direction from its name, or from an object that has the name as its only key with
nothing at it. -/
def ofJson? : Json → Option Direction
  | .string s => ofName? s
  | .object [(key, .null)] => ofName? key
  | _ => none

end Direction

end CallHierarchy
