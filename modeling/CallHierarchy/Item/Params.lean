import CallHierarchy.Direction
import CallHierarchy.Item.Basic

/-! The parameters of the requests for call hierarchies, and the methods they go with. -/

namespace CallHierarchy

/-- A mark under which a server reports how far it has come. -/
inductive Token where
  | number (n : Int32)
  | text (s : String)
  deriving DecidableEq, Repr

/-- What is asked about a place in a document. -/
structure PrepareParams where
  document : Uri
  position : Position
  workDone : Option Token

/-- What is asked about the callers or callees of a symbol. -/
structure CallsParams where
  item : Item
  workDone : Option Token
  partialResult : Option Token

namespace Token

def toJson : Token → Json
  | number n => .int32 n
  | text s => .string s

def ofJson? (v : Json) : Option Token :=
  match v.asInt32? with
  | some n => some (number n)
  | none => v.asString?.map text

/-- The token at a key of an object. -/
def at? (key : String) (members : List (String × Json)) : Option (Option Token) :=
  Json.optional ofJson? (Dictionary.get? key members)

end Token

namespace PrepareParams

def toJson (p : PrepareParams) : Json :=
  .ofFields [
    ("position", some p.position.toJson),
    ("textDocument", some (.object [("uri", p.document.toJson)])),
    ("workDoneToken", p.workDone.map Token.toJson)]

def ofJson? : Json → Option PrepareParams
  | .object members => do
    match ← (← Dictionary.get? "textDocument" members).fields? ["uri"] 0 with
    | [some uri] =>
      some {
        document := ← Uri.ofJson? uri
        position := ← Position.ofJson? (← Dictionary.get? "position" members)
        workDone := ← Token.at? "workDoneToken" members }
    | _ => none
  | _ => none

/-- The method that asks for the symbols at a place. -/
def method : String := "textDocument/prepareCallHierarchy"

end PrepareParams

namespace CallsParams

def toJson (p : CallsParams) : Json :=
  .ofFields [
    ("item", some p.item.toJson),
    ("partialResultToken", p.partialResult.map Token.toJson),
    ("workDoneToken", p.workDone.map Token.toJson)]

def ofJson? : Json → Option CallsParams
  | .object members => do
    some {
      item := ← Item.ofJson? (← Dictionary.get? "item" members)
      workDone := ← Token.at? "workDoneToken" members
      partialResult := ← Token.at? "partialResultToken" members }
  | _ => none

/-- The method that asks for the calls in a direction. -/
def method : Direction → String
  | .incoming => "callHierarchy/incomingCalls"
  | .outgoing => "callHierarchy/outgoingCalls"

end CallsParams

namespace Call

/-- The key of the symbol at the other end of a call. -/
def key : Direction → String
  | .incoming => "from"
  | .outgoing => "to"

end Call

end CallHierarchy
