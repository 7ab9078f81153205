import CallHierarchy.Capabilities.Form

/-! What a server says of itself when it starts: its name, and whether it knows call hierarchies. -/

namespace CallHierarchy

/-- How a server offers call hierarchies: by a plain yes or no, or by options. -/
inductive Provider where
  | enabled (b : Bool)
  | options
  deriving DecidableEq, Repr

structure Capabilities where
  callHierarchy : Option Provider
  deriving DecidableEq, Repr

structure ServerInfo where
  name : String
  version : Option String
  deriving DecidableEq, Repr

/-- The answer to the request that starts a server's work. -/
structure Greeting where
  capabilities : Capabilities
  server : Option ServerInfo
  deriving DecidableEq, Repr

namespace Provider

def ofJson? : Json → Option Provider
  | .bool b => some (enabled b)
  | .object members =>
    (Json.optional Json.asBool? (Dictionary.get? "workDoneProgress" members)).map fun _ => options
  | _ => none

end Provider

namespace Capabilities

/-- Whether the server offers call hierarchies. -/
def offersCalls (c : Capabilities) : Bool :=
  match c.callHierarchy with
  | some (.enabled b) => b
  | some .options => true
  | none => false

/-- Every stated capability must have its form; of them all, only one matters here. -/
def ofJson? (v : Json) : Option Capabilities := do
  let row ← Json.row? fields v
  return ⟨← Json.optional Provider.ofJson? (row.lookup "callHierarchyProvider").join⟩

end Capabilities

namespace ServerInfo

def ofJson? (v : Json) : Option ServerInfo := do
  match ← v.fields? ["name", "version"] 0 with
  | [some name, version] => some ⟨← name.asString?, ← Json.optional Json.asString? version⟩
  | _ => none

def toJson (info : ServerInfo) : Json :=
  .ofFields [("name", some (.string info.name)), ("version", info.version.map .string)]

end ServerInfo

namespace Greeting

def ofJson? (v : Json) : Option Greeting := do
  match ← v.fields? ["capabilities", "serverInfo"] 0 with
  | [some capabilities, server] =>
    some ⟨← Capabilities.ofJson? capabilities, ← Json.optional ServerInfo.ofJson? server⟩
  | _ => none

end Greeting

end CallHierarchy
