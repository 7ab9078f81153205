import CallHierarchy.Direction
import CallHierarchy.Json.Parser
import CallHierarchy.Language
import CallHierarchy.Settings.KeyPath
import CallHierarchy.Toml.Parser

/-! The settings of the program. They come in layers, each laid over the ones before: the defaults,
the user's file, a file named by the caller, and variables of the environment. Only the result has
to be well-typed, so a layer may mend what an earlier one got wrong. -/

namespace CallHierarchy

/-- How a language server is started. -/
structure ServerCommand where
  program : String
  arguments : List String
  deriving DecidableEq, Repr

structure Settings where
  /-- How many levels below the root are expanded. -/
  maxDepth : Nat
  /-- How long a request may take, in seconds. -/
  requestTimeout : Nat
  direction : Direction
  /-- The servers by the languages that they serve. -/
  servers : Dictionary ServerCommand
  deriving DecidableEq, Repr

namespace ServerCommand

/-- The first word of a command line is the program, and the others are its arguments. -/
def ofCommandLine? (line : String) : Option ServerCommand :=
  match Text.words line.toList with
  | [] => none
  | program :: arguments => some ⟨String.ofList program, arguments.map String.ofList⟩

/-- Reads a command from a table, or from an array of its fields in order. -/
def ofValue? : Value → Option ServerCommand
  | .table entries => do
    let program ← (← Dictionary.get? "command" entries).asText?
    match Dictionary.get? "args" entries with
    | none => some ⟨program, []⟩
    | some args => some ⟨program, ← args.asTexts?⟩
  | .array (program :: rest) => do
    match rest with
    | [] => some ⟨← program.asText?, []⟩
    | args :: _ => some ⟨← program.asText?, ← args.asTexts?⟩
  | _ => none

end ServerCommand

namespace Settings

/-- The language in which a file of settings is written. -/
inductive Format where
  | toml
  | json
  deriving DecidableEq, Repr

namespace Format

/-- The formats, by the extensions of the names of their files. -/
def extensions : List (String × Format) := [("toml", toml), ("json", json)]

/-- The format of the file at a path. -/
def ofPath? (path : String) : Option Format :=
  (Path.extension? path.toList).bind fun extension => extensions.lookup (String.ofList extension)

/-- The table that a text denotes. -/
def parse? : Format → String → Option (Dictionary Value)
  | toml, s => Toml.parse? s
  | json, s =>
    match (Json.parse? s).map Value.ofJson with
    | some (.table entries) => some entries
    | _ => none

/-- The table in a file. A mark of the byte order before its text does not count. -/
def read? (format : Format) (bytes : List UInt8) : Option (Dictionary Value) := do
  let text ← Utf8.decode? bytes
  format.parse? (String.ofList (Text.unmarked text.toList))

end Format

/-- Why there are no settings. -/
inductive Error where
  /-- A file is missing or cannot be read. -/
  | unreadable
  /-- A setting is missing or does not have its type. -/
  | illTyped
  deriving DecidableEq, Repr

def Error.message : Error → String
  | unreadable => "Failed to build configuration"
  | illTyped => "Failed to deserialize configuration"

/-- The layer below all others. -/
def defaults : Dictionary Value :=
  Dictionary.ofList [
    ("max_depth", .int 3),
    ("request_timeout", .int 30),
    ("direction", .text Direction.incoming.name)]

/-- Lays a table over the layers so far. Its keys may lead into tables. -/
def layOver (below : Dictionary Value) (layer : Dictionary Value) : Dictionary Value :=
  layer.foldl (fun entries (key, v) => (KeyPath.ofKey key).lay v entries) below

/-- What the names of the variables begin with. -/
def variableStart : List Char := "calltree_".toList

/-- The lower case of a name. Beyond ASCII, the one letter that becomes one of a key path is the
Kelvin sign, so no other has to. -/
def lowered (name : String) : List Char :=
  Text.lowerAscii (name.toList.map fun c => if c = '\u212A' then 'k' else c)

/-- The layer of the environment. The case of a variable's name does not count, and of two with one
name the last counts. -/
def ofEnvironment (environment : List (String × String)) : Dictionary Value :=
  Dictionary.ofList (environment.filterMap fun (name, v) =>
    (Text.after? variableStart (lowered name)).map fun key =>
      (String.ofList key, .text v))

def directionOf? : Value → Option Direction
  | .text s => Direction.ofName? s
  | .table [(key, _)] => Direction.ofName? key
  | _ => none

def serversOf? : Value → Option (Dictionary ServerCommand)
  | .table entries =>
    entries.mapM fun (language, v) => (ServerCommand.ofValue? v).map (language, ·)
  | _ => none

/-- The settings that a table holds. -/
def ofTable? (entries : Dictionary Value) : Option Settings := do
  let maxDepth ← (← entries.get? "max_depth").asNat?
  let requestTimeout ← (← entries.get? "request_timeout").asNat?
  let direction ← directionOf? (← entries.get? "direction")
  let servers ← serversOf? ((entries.get? "server").getD (.table []))
  some ⟨maxDepth, requestTimeout, direction, servers⟩

/-- The settings of files, in the order in which they are laid over the defaults, and of the
environment. -/
def ofLayers (files : List (Dictionary Value)) (environment : List (String × String)) :
    Except Error Settings :=
  let layers := files ++ [ofEnvironment environment]
  match ofTable? (layers.foldl layOver defaults) with
  | some settings => .ok settings
  | none => .error .illTyped

/-! ### Finding the files -/

variable {m : Type → Type} [Monad m]

/-- The layer in the file at a path, whose format its extension tells. -/
def layerAt (read : String → m (Option (List UInt8))) (path : String) :
    m (Option (Except Error (Dictionary Value))) := do
  match ← read path with
  | none => return none
  | some bytes =>
    match (Format.ofPath? path).bind (·.read? bytes) with
    | none => return some (.error .unreadable)
    | some entries => return some (.ok entries)

/-- The layer in the first of the files that is there. -/
def firstLayer (read : String → m (Option (List UInt8))) :
    List String → m (Except Error (Dictionary Value))
  | [] => return .error .unreadable
  | path :: rest => do
    match ← layerAt read path with
    | some layer => return layer
    | none => firstLayer read rest

/-- The paths at which a file of settings may be: the path itself, and the path with the extension
of a format behind its name. -/
def candidates (path : String) : List String :=
  path :: Format.extensions.filterMap fun (extension, _) =>
    (Path.extended? path.toList ('.' :: extension.toList)).map String.ofList

/-- Where the user's settings are, by the variables of the environment. -/
def userFile? (environment : List (String × String)) : Option String :=
  let home := (environment.lookup "HOME").map (· ++ "/.config")
  let directory := match environment.lookup "XDG_CONFIG_HOME" with
    | some directory => if directory.toList.head? = some '/' then some directory else home
    | none => home
  directory.map (· ++ "/calltree/config.toml")

/-- Reads the settings. The user's file is passed over if nothing is at its path, but one that the
caller names must be found. -/
def load (read : String → m (Option (List UInt8))) (isThere : String → m Bool)
    (explicit : Option String) (environment : List (String × String)) :
    m (Except Error Settings) := do
  let user ← (userFile? environment).toList.filterM isThere
  let layers ← (user ++ explicit.toList).mapM fun path => firstLayer read (candidates path)
  match layers.mapM id with
  | .error e => return .error e
  | .ok files => return ofLayers files environment

/-- The server for the language of the file at a path. -/
def serverFor (s : Settings) (path : String) : Option ServerCommand :=
  s.servers.get? (Language.ofPath path)

end Settings

end CallHierarchy
