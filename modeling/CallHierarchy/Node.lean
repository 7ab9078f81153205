import CallHierarchy.Connection
import CallHierarchy.Entry
import CallHierarchy.Number.Decimal

/-! The levels of a call tree that is fetched on demand. A node holds the entries of one level, and
the level below an entry is asked for anew each time. The walk never turns: every node keeps the
direction of its root. -/

namespace CallHierarchy

/-- One level of a call tree. -/
structure Node where
  direction : Direction
  style : PathStyle
  entries : List Entry

namespace Node

/-- Why there is no node. -/
inductive Error (ε : Type) where
  /-- The node has no entry at the index. -/
  | indexOutOfRange (index length : Nat)
  /-- The connection failed. -/
  | connection (cause : ε)
  deriving DecidableEq, Repr

def Error.message {ε : Type} (cause : ε → String) : Error ε → String
  | indexOutOfRange index length =>
    "no call hierarchy item at index " ++ Decimal.text index ++ " (node has " ++
      Decimal.text length ++ ")"
  | connection e => cause e

/-- The level that the items form. -/
def ofItems (style : PathStyle) (direction : Direction) (items : List Item) : Node :=
  ⟨direction, style, items.map (Entry.ofItem style)⟩

variable {m : Type → Type} [Monad m] {ε : Type}

/-- The symbols at a place, as the root of a tree. -/
def root (c : Connection m ε) (style : PathStyle) (document : Uri) (position : Position)
    (direction : Direction) : ExceptT (Error ε) m Node := do
  let items ← (c.prepare document position).adapt .connection
  return ofItems style direction (items.getD [])

/-- The level below an item. -/
def below (c : Connection m ε) (style : PathStyle) (direction : Direction) (item : Item) :
    ExceptT (Error ε) m Node := do
  let calls ← (c.calls direction item).adapt .connection
  return ofItems style direction ((calls.getD []).map Call.item)

/-- The level below the entry at an index. -/
def itemAt (c : Connection m ε) (node : Node) (index : Nat) : ExceptT (Error ε) m Node :=
  match node.entries[index]? with
  | none => throw (.indexOutOfRange index node.entries.length)
  | some entry => below c node.style node.direction entry.item

end Node

end CallHierarchy
