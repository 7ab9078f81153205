import CallHierarchy.Node

/-! Call trees, fetched level by level down to a depth. A symbol that already stands between the
root and itself is marked and not followed again. -/

namespace CallHierarchy

/-- A symbol and the symbols one level further along the walk. -/
structure Tree where
  entry : Entry
  children : List Tree
  /-- Whether the walk went on below the entry. -/
  expanded : Bool
  /-- Whether the symbol stands on the path from the root already. -/
  recursive : Bool

namespace Tree

variable {m : Type → Type} [Monad m] {ε : Type}

/-- Whether the entry is the symbol of one of its ancestors. -/
def recurs (ancestors : List Entry) (entry : Entry) : Bool := ancestors.any (·.sameSymbol entry)

/-- The trees of a level whose entries have the given ancestors, down to `depth` levels below it.
Each entry is expanded before the next one, and the first failure ends the walk. -/
def collectBelow (c : Connection m ε) :
    Nat → List Entry → Node → ExceptT (Node.Error ε) m (List Tree)
  | 0, ancestors, node =>
    return node.entries.map fun entry => ⟨entry, [], false, recurs ancestors entry⟩
  | depth + 1, ancestors, node =>
    node.entries.zipIdx.mapM fun (entry, index) => do
      if recurs ancestors entry then return ⟨entry, [], false, true⟩
      let level ← node.itemAt c index
      let children ← collectBelow c depth (ancestors ++ [entry]) level
      return ⟨entry, children, true, false⟩

/-- The trees of a node, expanded down to `depth` levels below it. -/
def collect (c : Connection m ε) (node : Node) (depth : Nat) :
    ExceptT (Node.Error ε) m (List Tree) :=
  collectBelow c depth [] node

mutual

/-- The tree with its fields in the order in which they are shown. -/
def toJson : Tree → Json
  | ⟨entry, children, expanded, recursive⟩ =>
    .object (entry.shownFields ++ [
      ("children", .array (toJsons children)),
      ("expanded", .bool expanded),
      ("recursive", .bool recursive)])

def toJsons : List Tree → List Json
  | [] => []
  | tree :: rest => tree.toJson :: toJsons rest

end

end Tree

end CallHierarchy
