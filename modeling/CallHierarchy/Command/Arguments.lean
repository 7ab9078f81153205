import CallHierarchy.Command.Line
import CallHierarchy.Direction
import CallHierarchy.Number.Decimal

/-! The arguments of the program. -/

namespace CallHierarchy

structure Arguments where
  file : String
  /-- The line of the symbol, counted from one. -/
  line : Nat
  /-- The character of the symbol, counted from one. -/
  character : Nat
  direction : Option Direction
  depth : Option Nat
  server : Option String
  root : Option String
  config : Option String
  json : Bool
  plain : Bool
  deriving DecidableEq, Repr

namespace Arguments

open CommandLine (Stop)

def flags : List CommandLine.Flag := [
  ⟨"direction", some 'd', true⟩,
  ⟨"depth", none, true⟩,
  ⟨"server", some 's', true⟩,
  ⟨"root", some 'r', true⟩,
  ⟨"config", none, true⟩,
  ⟨"json", none, false⟩,
  ⟨"nocolor", none, false⟩,
  ⟨"help", some 'h', false⟩,
  ⟨"version", some 'V', false⟩]

/-- The arguments read so far. -/
structure Progress where
  positionals : Nat
  seen : List String
  arguments : Arguments

def start : Progress := ⟨0, [], ⟨"", 0, 0, none, none, none, none, none, false, false⟩⟩

/-- A line or a character of 32 bits, counted from one. -/
def ordinal? (s : String) : Except Stop Nat :=
  match Decimal.signed? 1 0xFFFFFFFF s.toList with
  | some n => .ok n.toNat
  | none => .error .invalid

/-- A path, which is never empty. -/
def path? (s : String) : Except Stop String := if s.isEmpty then .error .invalid else .ok s

def depth? (s : String) : Except Stop Nat :=
  match Decimal.unsigned? Decimal.max64 s.toList with
  | some n => .ok n
  | none => .error .invalid

def direction? (s : String) : Except Stop Direction :=
  match Direction.ofName? s with
  | some d => .ok d
  | none => .error .invalid

def positional (a : Arguments) (index : Nat) (s : String) : Except Stop Arguments :=
  match index with
  | 0 => do return { a with file := ← path? s }
  | 1 => do return { a with line := ← ordinal? s }
  | 2 => do return { a with character := ← ordinal? s }
  | _ => .error .invalid

def option (a : Arguments) (long v : String) : Except Stop Arguments :=
  match long with
  | "direction" => do return { a with direction := some (← direction? v) }
  | "depth" => do return { a with depth := some (← depth? v) }
  | "server" => .ok { a with server := some v }
  | "root" => do return { a with root := some (← path? v) }
  | "config" => do return { a with config := some (← path? v) }
  | _ => .error .invalid

def flag (a : Arguments) (long : String) : Except Stop Arguments :=
  match long with
  | "json" => .ok { a with json := true }
  | "nocolor" => .ok { a with plain := true }
  | "help" => .error .help
  | "version" => .error .version
  | _ => .error .invalid

/-- Takes in a part of the command line. No option stands twice. -/
def Progress.take (p : Progress) : CommandLine.Item → Except Stop Progress
  | .malformed => .error .invalid
  | .positional s => do
    return { p with
      arguments := ← positional p.arguments p.positionals s
      positionals := p.positionals + 1 }
  | .option long v => do
    if long ∈ p.seen then throw .invalid
    return { p with seen := long :: p.seen, arguments := ← option p.arguments long v }
  | .flag long => do
    if long ∈ p.seen then throw .invalid
    return { p with seen := long :: p.seen, arguments := ← flag p.arguments long }

/-- Reads a command line. Its parts are taken in order, and the first one that is wrong or asks for
something else decides. -/
def ofCommandLine (arguments : List String) : Except Stop Arguments := do
  let p ← (CommandLine.items flags arguments).foldlM Progress.take start
  if p.positionals = 3 then return p.arguments else throw .invalid

end Arguments

end CallHierarchy
