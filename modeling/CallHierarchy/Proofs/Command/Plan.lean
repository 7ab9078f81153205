import CallHierarchy.Command.Run
import CallHierarchy.Proofs.Client.Turns
import CallHierarchy.Proofs.Settings.Files
import CallHierarchy.Proofs.Tree.Walk

/-! What the program does before it talks to a server. On a machine whose files stay as they are,
its arguments settle whether it comes to start a server, and what it asks it. It does nothing with a
server before, and afterwards it has one session with it (`answer_run`). -/

namespace CallHierarchy

open Client

variable {ω : Type}

/-! ### Runs with a state -/

section Runs

variable {σ ε α β : Type} {s s' : σ}

theorem run_lift {x : StateM σ α} {a : α} (h : x.run s = (a, s')) :
    (ExceptT.lift x : ExceptT ε (StateM σ) α).run.run s = (.ok a, s') := by
  rw [ExceptT.run_lift, StateT.run_map, h]
  rfl

/-- One run before another one, whether it fails or not. -/
theorem run_bind_of_run {x : ExceptT ε (StateM σ) α} {r : Except ε α}
    (f : α → ExceptT ε (StateM σ) β) : x.run.run s = (r, s') →
      (x >>= f).run.run s = match r with
        | .ok a => (f a).run.run s'
        | .error e => (.error e, s') := by
  cases r with
  | ok a => exact run_bind_of_ok
  | error e => exact run_bind_of_error

end Runs

/-! ### Settings -/

namespace Settings

variable (read : String → Option (List UInt8))

/-- Reads that have no effects come to the same settings in every monad. -/
theorem load_pure (isThere : String → Bool) (explicit : Option String)
    (environment : List (String × String)) (m : Type → Type) [Monad m] [LawfulMonad m] :
    load (fun path => (pure (read path) : m _)) (fun path => pure (isThere path)) explicit
        environment =
      pure (Id.run (load (fun path => pure (read path)) (fun path => pure (isThere path)) explicit
        environment)) := by
  rw [load_eq, load_eq]
  rfl

end Settings

/-! ### The program -/

namespace Client

/-- A server that has started. Before the client first says anything, it may have written something,
or have ended. -/
structure Started (peer : Peer ω) where
  server : ω
  /-- What it does on its own account. -/
  opening : List Act

def Started.link {peer : Peer ω} (s : Started peer) : Link (ω × List (List UInt8)) :=
  s.opening.foldl Link.perform (.start (s.server, []))

end Client

namespace Command

/-- What is asked about a file in a workspace. -/
def queryFor (arguments : Arguments) (settings : Settings) (file root : String) : Query where
  root := root
  file := file
  direction := arguments.direction.getD settings.direction
  position := positionOf arguments
  depth := arguments.depth.getD settings.maxDepth

/-- Starts the server for a file, and asks it. -/
def ask {m : Type → Type} [Monad m] (host : Host m) (arguments : Arguments) (settings : Settings)
    (file root : String) : ExceptT Error m Outcome := do
  let server ← ExceptT.mk (pure (serverOf settings arguments file))
  let transport ← match ← host.spawn server (1000 * settings.requestTimeout) with
    | some transport => pure transport
    | none => throw (.unspawned server.program)
  let query := queryFor arguments settings file root
  match ← ExceptT.lift (Query.session transport host.process host.read query) with
  | .ok trees => return present host arguments file query.direction trees
  | .error cause => throw (.query cause)

theorem answer_eq {m : Type → Type} [Monad m] (host : Host m) (arguments : Arguments) :
    answer host arguments = (do
      let loaded ← ExceptT.lift <|
        Settings.load host.read (fun path => return (← host.canonical path).isSome)
          arguments.config host.environment
      let settings ← match loaded with
        | .ok settings => pure settings
        | .error cause => throw (.settings cause)
      let file ← existing host arguments.file .missingFile
      let root ← match arguments.root with
        | some root => existing host root .missingRoot
        | none => pure (parent file)
      ask host arguments settings file root) := rfl

/-- A machine whose files stay as they are, with servers to start. -/
structure Machine (peer : Peer ω) where
  read : String → Option (List UInt8)
  canonical : String → Option String
  launch : ServerCommand → Nat → Option (Started peer)
  environment : List (String × String)
  process : Nat
  isTerminal : Bool

/-- What the program sets out to do: the server that it starts, the milliseconds that a request may
take, and what it asks. -/
structure Plan (peer : Peer ω) where
  started : Started peer
  timeout : Nat
  query : Query

/-- What there is to see of the server when the client first comes to it. -/
def Plan.firstLook {peer : Peer ω} (plan : Plan peer) : Look :=
  (plan.started.link.catchUp peer.taped).look

namespace Machine

variable {peer : Peer ω}

/-- Starts a server, with its turns to be kept from then on. -/
def spawn (machine : Machine peer) (command : ServerCommand) (timeout : Nat) :
    StateM (Talk ω) (Option (Transport (StateM (Talk ω)))) :=
  match machine.launch command timeout with
  | none => pure none
  | some started => do
    set (⟨started.link, []⟩ : Talk ω)
    return some (recorded peer timeout)

def host (machine : Machine peer) : Host (StateM (Talk ω)) where
  read path := pure (machine.read path)
  canonical path := pure (machine.canonical path)
  spawn := machine.spawn
  environment := machine.environment
  process := machine.process
  isTerminal := machine.isTerminal

def settings (machine : Machine peer) (arguments : Arguments) : Except Settings.Error Settings :=
  Id.run (Settings.load (fun path => pure (machine.read path))
    (fun path => pure (machine.canonical path).isSome) arguments.config machine.environment)

def found (machine : Machine peer) (path : String) (missing : String → Error) :
    Except Error String :=
  match machine.canonical path with
  | some found => .ok found
  | none => .error (missing path)

/-- What the program sets out to do with a file, if it comes to start a server. -/
def planFor (machine : Machine peer) (arguments : Arguments) (settings : Settings)
    (file root : String) : Except Error (Plan peer) := do
  let server ← serverOf settings arguments file
  let timeout := 1000 * settings.requestTimeout
  match machine.launch server timeout with
  | none => .error (.unspawned server.program)
  | some started => .ok ⟨started, timeout, queryFor arguments settings file root⟩

def plan (machine : Machine peer) (arguments : Arguments) : Except Error (Plan peer) := do
  let settings ← (machine.settings arguments).mapError .settings
  let file ← machine.found arguments.file .missingFile
  let root ← match arguments.root with
    | some root => machine.found root .missingRoot
    | none => .ok (parent file)
  machine.planFor arguments settings file root

/-- The one session of a plan, and what the program makes of it. -/
def carryOut (machine : Machine peer) (arguments : Arguments) (plan : Plan peer) :
    Except Error Outcome × Talk ω :=
  let (found, talk) := (Query.session (recorded peer plan.timeout) machine.process
    (fun path => pure (machine.read path)) plan.query).run ⟨plan.started.link, []⟩
  (match found with
    | .ok trees =>
      .ok (present machine.host arguments plan.query.file plan.query.direction trees)
    | .error cause => .error (.query cause), talk)

theorem existing_run (machine : Machine peer) (path : String) (missing : String → Error)
    (talk : Talk ω) :
    (existing machine.host path missing).run.run talk = (machine.found path missing, talk) := by
  have hcanonical : (ExceptT.lift (machine.host.canonical path) :
      ExceptT Error (StateM (Talk ω)) _).run.run talk = (.ok (machine.canonical path), talk) := rfl
  refine (run_bind_of_ok hcanonical).trans ?_
  unfold found
  cases machine.canonical path <;> rfl

theorem spawn_run (machine : Machine peer) (command : ServerCommand) (timeout : Nat)
    (talk : Talk ω) :
    (ExceptT.lift (machine.spawn command timeout) :
      ExceptT Error (StateM (Talk ω)) _).run.run talk = match machine.launch command timeout with
        | none => (.ok none, talk)
        | some started => (.ok (some (recorded peer timeout)), ⟨started.link, []⟩) := by
  unfold spawn
  cases machine.launch command timeout <;> rfl

theorem ask_run (machine : Machine peer) (arguments : Arguments) (settings : Settings)
    (file root : String) (talk : Talk ω) :
    (ask machine.host arguments settings file root).run.run talk =
      match machine.planFor arguments settings file root with
      | .error e => (.error e, talk)
      | .ok plan => machine.carryOut arguments plan := by
  have hserver : (ExceptT.mk (pure (serverOf settings arguments file)) :
      ExceptT Error (StateM (Talk ω)) _).run.run talk = (serverOf settings arguments file, talk) :=
    rfl
  unfold ask planFor
  refine (run_bind_of_run _ hserver).trans ?_
  cases serverOf settings arguments file with
  | error e => rfl
  | ok server =>
    have hspawn := spawn_run machine server (1000 * settings.requestTimeout) talk
    cases hlaunch : machine.launch server (1000 * settings.requestTimeout) with
    | none =>
      rw [hlaunch] at hspawn
      refine (run_bind_of_ok hspawn).trans ?_
      simp only [bind, Except.bind, hlaunch]
      rfl
    | some started =>
      rw [hlaunch] at hspawn
      refine (run_bind_of_ok hspawn).trans ?_
      simp only [pure_bind]
      rcases hsession : (Query.session (recorded peer (1000 * settings.requestTimeout))
        machine.process (fun path => pure (machine.read path))
        (queryFor arguments settings file root)).run ⟨started.link, []⟩ with ⟨found, talk'⟩
      refine (run_bind_of_ok (run_lift hsession)).trans ?_
      simp only [bind, Except.bind, hlaunch, carryOut, hsession]
      cases found <;> rfl

/-- The program does nothing with a server before it has a plan, and then it has one session. -/
theorem answer_run (machine : Machine peer) (arguments : Arguments) (talk : Talk ω) :
    (answer machine.host arguments).run.run talk = match machine.plan arguments with
      | .error e => (.error e, talk)
      | .ok plan => machine.carryOut arguments plan := by
  -- Looking at files has no effect here, so the settings are those of the machine.
  have hload : Settings.load machine.host.read
      (fun path => return (← machine.host.canonical path).isSome) arguments.config
      machine.host.environment = pure (machine.settings arguments) :=
    Settings.load_pure machine.read _ _ _ _
  have hsettings : (ExceptT.lift (pure (machine.settings arguments)) :
      ExceptT Error (StateM (Talk ω)) _).run.run talk = (.ok (machine.settings arguments), talk) :=
    rfl
  rw [answer_eq, hload]
  unfold plan
  refine (run_bind_of_ok hsettings).trans ?_
  cases machine.settings arguments with
  | error cause => rfl
  | ok settings =>
    simp only [pure_bind]
    refine (run_bind_of_run _ (existing_run machine arguments.file .missingFile talk)).trans ?_
    cases machine.found arguments.file .missingFile with
    | error e => rfl
    | ok file =>
      cases arguments.root with
      | none => exact ask_run machine arguments settings file (parent file) talk
      | some path =>
        refine (run_bind_of_run _ (existing_run machine path .missingRoot talk)).trans ?_
        cases hroot : machine.found path .missingRoot with
        | error e => simp only [Except.mapError, bind, Except.bind, hroot]
        | ok root => simp only [ask_run, Except.mapError, bind, Except.bind, hroot]

/-- What the program sets out to do with a command line, if it comes to start a server. -/
def planOf (machine : Machine peer) (commandLine : List String) : Option (Plan peer) :=
  match Arguments.ofCommandLine commandLine with
  | .error _ => none
  | .ok arguments => (machine.plan arguments).toOption

theorem present_exitCode {m : Type → Type} (host : Host m) (arguments : Arguments) (file : String)
    (direction : Direction) (trees : List Tree) :
    (present host arguments file direction trees).exitCode = 0 := by
  unfold present
  split
  · rfl
  · split <;> rfl

end Machine

end Command

end CallHierarchy
