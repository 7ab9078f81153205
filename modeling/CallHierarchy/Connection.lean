import CallHierarchy.Direction
import CallHierarchy.Item.Basic

/-! The requests that a server of call hierarchies answers. The effects of asking are those of a
monad of the connection's own. -/

namespace CallHierarchy

/-- A connection to a server. A server that has nothing to say answers `none`. -/
structure Connection (m : Type → Type) (ε : Type) where
  /-- The symbols at a place in a document. -/
  prepare : Uri → Position → ExceptT ε m (Option (List Item))
  /-- The callers or callees of a symbol. -/
  calls : Direction → Item → ExceptT ε m (Option (List Call))

end CallHierarchy
