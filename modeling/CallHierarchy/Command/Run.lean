import CallHierarchy.Command.Arguments
import CallHierarchy.Command.Query
import CallHierarchy.Settings.Basic
import CallHierarchy.Tree.Drawing

/-! The program: it reads its arguments and settings, starts a language server, and prints the call
tree of a symbol. What it needs of the machine that it runs on is given to it. -/

namespace CallHierarchy.Command

/-- The machine that the program runs on. -/
structure Host (m : Type → Type) where
  /-- The bytes of a file, if there is one at the path. -/
  read : String → m (Option (List UInt8))
  /-- The absolute path of a file or directory, if there is one at the path. -/
  canonical : String → m (Option String)
  /-- Starts a server, whose requests may take a number of milliseconds. -/
  spawn : ServerCommand → Nat → m (Option (Client.Transport m))
  /-- The variables of the environment. -/
  environment : List (String × String)
  /-- The number of the program's process. -/
  process : Nat
  /-- Whether the output goes to a terminal. -/
  isTerminal : Bool

/-- What a run of the program comes to. -/
structure Outcome where
  exitCode : Nat
  output : String
  errors : String
  deriving DecidableEq, Repr

/-- Why the program fails. -/
inductive Error where
  | settings (cause : Settings.Error)
  | missingFile (path : String)
  | missingRoot (path : String)
  | emptyServer
  | noServer (language : String)
  | unspawned (program : String)
  | query (cause : Query.Error)

def versionText : String := "calltree 0.4.2\n"

def usage : String := "Usage: calltree [OPTIONS] <FILE> <LINE> <CHARACTER>\n"

def clientMessage (cause : Client.Failure) : String :=
  cause.message?.getD "Broken pipe (os error 32)"

def queryMessage : Query.Error → String
  | .client cause => clientMessage cause
  | .document cause => cause.message
  | .unsupported name => name ++ " does not support call hierarchy"
  | .tree cause => cause.message clientMessage

def Error.message : Error → String
  | settings cause => cause.message
  | missingFile path => "Cannot open " ++ path
  | missingRoot path => "Invalid root " ++ path
  | emptyServer => "--server cannot be empty"
  | noServer language =>
    "No language server configured for '" ++ language ++
      "'. Pass --server or add a [server." ++ language ++ "] section to the config file"
  | unspawned program => "Failed to spawn LSP server: " ++ program
  | query cause => queryMessage cause

/-- The directory of a file. -/
def parent (path : String) : String :=
  match Path.components path.toList with
  | [] => "."
  | parts => String.ofList (Path.ofComponents parts.dropLast)

/-- The server that the arguments name, or else the one for the language of the file. -/
def serverOf (settings : Settings) (arguments : Arguments) (file : String) :
    Except Error ServerCommand :=
  match arguments.server with
  | some line =>
    match ServerCommand.ofCommandLine? line with
    | some server => .ok server
    | none => .error .emptyServer
  | none =>
    match settings.serverFor file with
    | some server => .ok server
    | none => .error (.noServer (Language.ofPath file))

/-- A position that is counted from zero, for a line and a character that are counted from one. -/
def positionOf (arguments : Arguments) : Position :=
  ⟨UInt32.ofNat (arguments.line - 1), UInt32.ofNat (arguments.character - 1)⟩

variable {m : Type → Type} [Monad m]

/-- What a look for an existing path comes to. -/
def existing (host : Host m) (path : String) (missing : String → Error) :
    ExceptT Error m String := do
  match ← host.canonical path with
  | some found => return found
  | none => throw (missing path)

/-- The output for the trees that were found. -/
def present (host : Host m) (arguments : Arguments) (file : String) (direction : Direction)
    (trees : List Tree) : Outcome :=
  if arguments.json then
    ⟨0, Json.indented (.array (Tree.toJsons trees)) ++ "\n", ""⟩
  else if trees.isEmpty then
    ⟨0, "", "No call hierarchy item at " ++ file ++ ":" ++ Decimal.text arguments.line ++ ":" ++
      Decimal.text arguments.character ++ "\n"⟩
  else
    ⟨0, Drawing.draw ⟨!arguments.plain && host.isTerminal⟩ direction trees, ""⟩

/-- Finds what the arguments are about, and asks the server. -/
def answer (host : Host m) (arguments : Arguments) : ExceptT Error m Outcome := do
  let loaded ← ExceptT.lift <|
    Settings.load host.read (fun path => return (← host.canonical path).isSome)
      arguments.config host.environment
  let settings ← match loaded with
    | .ok settings => pure settings
    | .error cause => throw (.settings cause)
  let direction := arguments.direction.getD settings.direction
  let file ← existing host arguments.file .missingFile
  let root ← match arguments.root with
    | some root => existing host root .missingRoot
    | none => pure (parent file)
  let server ← ExceptT.mk (pure (serverOf settings arguments file))
  let transport ← match ← host.spawn server (1000 * settings.requestTimeout) with
    | some transport => pure transport
    | none => throw (.unspawned server.program)
  let query : Query := {
    root, file, direction
    position := positionOf arguments
    depth := arguments.depth.getD settings.maxDepth }
  match ← ExceptT.lift (Query.session transport host.process host.read query) with
  | .ok trees => return present host arguments file direction trees
  | .error cause => throw (.query cause)

/-- Runs the program with the arguments of its command line. -/
def run (host : Host m) (commandLine : List String) : m Outcome := do
  match Arguments.ofCommandLine commandLine with
  | .error .version => return ⟨0, versionText, ""⟩
  | .error .help => return ⟨0, usage, ""⟩
  | .error .invalid => return ⟨2, "", usage⟩
  | .ok arguments =>
    match ← (answer host arguments).run with
    | .ok outcome => return outcome
    | .error e => return ⟨1, "", "Error: " ++ e.message ++ "\n"⟩

end CallHierarchy.Command
