import CallHierarchy.Command.Run
import CallHierarchy.MockServer.CommandLine
import CallHierarchy.MockServer.Peer

/-! The executable. Under the name of the mock server it is that server, on its standard input and
output. Under any other name it prints call trees, and the mock server is the one server that it has
at hand. -/

namespace CallHierarchy.Main

/-- The name of the mock server. -/
def serverName : String := "mockls"

/-! ### Printing call trees -/

/-- A run of the program, with the server that it has started. -/
abbrev Run := StateT (Client.Link MockServer) IO

def readFile (path : String) : Run (Option (List UInt8)) := do
  try
    return some (← IO.FS.readBinFile path).data.toList
  catch _ => return none

def canonical (path : String) : Run (Option String) := do
  try
    return some (← IO.FS.realPath path).toString
  catch _ => return none

/-- Starts the mock server within the program. -/
def spawn (command : ServerCommand) (timeout : Nat) :
    Run (Option (Client.Transport Run)) := do
  match command.program == serverName, MockServer.Options.ofCommandLine command.arguments with
  | true, .ok options =>
    set (Client.Link.start (MockServer.start options))
    let t := Client.Link.transport MockServer.peer timeout
    let lift {α : Type} (act : ExceptT Client.Failure (StateM (Client.Link MockServer)) α) :
        ExceptT Client.Failure Run α :=
      ExceptT.mk (modifyGet act.run)
    return some ⟨fun method params => lift (t.request method params),
      fun method params => lift (t.notify method params)⟩
  | _, _ => return none

/-- The variables of the environment, as the system lists them: each one a name, an equals sign and
a value, with a zero behind it. -/
def environment : IO (List (String × String)) := do
  try
    let bytes := (← IO.FS.readBinFile "/proc/self/environ").data.toList
    let entries := Text.pieces (· == '\x00') ((Utf8.decode? bytes).getD "").toList
    return entries.filterMap fun entry =>
      (Text.cutAt '=' entry).map fun (name, value) => (String.ofList name, String.ofList value)
  catch _ => return []

def printTrees (arguments : List String) : IO UInt32 := do
  let host : Command.Host Run := {
    read := readFile
    canonical
    spawn
    environment := ← environment
    process := 0
    isTerminal := ← (← IO.getStdout).isTty }
  let (outcome, _) ← (Command.run host arguments).run
    (Client.Link.start (MockServer.start .plain))
  IO.print outcome.output
  IO.eprint outcome.errors
  return UInt32.ofNat outcome.exitCode

/-! ### Serving -/

/-- Does what the server does. Yields the exit code once it ends. -/
def perform (output : IO.FS.Stream) : List MockServer.Act → IO (Option UInt32)
  | [] => return none
  | .exit code :: _ => return some (UInt32.ofNat code)
  | .pause milliseconds :: rest => do
    IO.sleep (UInt32.ofNat milliseconds)
    perform output rest
  | .write body :: rest => do
    output.write ⟨(Frame.encode body).toArray⟩
    output.flush
    perform output rest

/-- Serves until the input ends or the server does. -/
partial def serve (input output : IO.FS.Stream) (server : MockServer) : IO UInt32 := do
  let bytes ← input.read 4096
  if bytes.isEmpty then return 0
  let (server, acts) := server.feed bytes.data.toList
  match ← perform output acts with
  | some code => return code
  | none => serve input output server

def runServer (arguments : List String) : IO UInt32 := do
  match MockServer.Options.ofCommandLine arguments with
  | .error .help => return 0
  | .error _ => return 2
  | .ok options => serve (← IO.getStdin) (← IO.getStdout) (MockServer.start options)

end CallHierarchy.Main

def main (arguments : List String) : IO UInt32 := do
  if (← IO.appPath).fileName == some CallHierarchy.Main.serverName then
    CallHierarchy.Main.runServer arguments
  else CallHierarchy.Main.printTrees arguments
