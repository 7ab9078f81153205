import CallHierarchy.Client.Session
import CallHierarchy.Tree.Basic

/-! A query: a session with a server from which a call tree is asked for. Once a document is open it
is closed again, whatever comes in between. -/

namespace CallHierarchy

/-- What is asked for. -/
structure Query where
  root : String
  file : String
  position : Position
  direction : Direction
  depth : Nat

namespace Query

/-- Why there is no call tree. -/
inductive Error where
  | client (cause : Client.Failure)
  | document (cause : Document.Error)
  /-- The server of this name does not know call hierarchies. -/
  | unsupported (name : String)
  | tree (cause : Node.Error Client.Failure)

variable {m : Type → Type} [Monad m]

/-- The trees of the symbols at a place in a document that is open. -/
def trees (t : Client.Transport m) (query : Query) (document : Uri) :
    ExceptT (Node.Error Client.Failure) m (List Tree) := do
  let node ← Node.root t.connection .native document query.position query.direction
  Tree.collect t.connection node query.depth

/-- Opens the document, asks for the trees, and closes the document. -/
def withDocument (t : Client.Transport m) (query : Query) (document : Document) :
    ExceptT Error m (List Tree) := do
  (t.openDocument document).adapt .client
  let found ← (trees t query document.uri).run
  let _ ← (t.closeDocument document.uri).run
  match found with
  | .ok trees => return trees
  | .error cause => throw (.tree cause)

/-- Starts the session and, if the server knows call hierarchies, asks for the trees. -/
def run (t : Client.Transport m) (process : Nat) (read : String → m (Option (List UInt8)))
    (query : Query) : ExceptT Error m (List Tree) := do
  let greeting ← (t.greet process query.root).adapt .client
  if !greeting.capabilities.offersCalls then
    throw (.unsupported ((greeting.server.map ServerInfo.name).getD "language server"))
  match Document.ofFile query.file (← read query.file) with
  | .error cause => throw (.document cause)
  | .ok document => withDocument t query document

/-- The whole session: the query, and the end that follows it in any case. -/
def session (t : Client.Transport m) (process : Nat) (read : String → m (Option (List UInt8)))
    (query : Query) : m (Except Error (List Tree)) := do
  let found ← (run t process read query).run
  let _ ← t.part.run
  return found

end Query

end CallHierarchy
