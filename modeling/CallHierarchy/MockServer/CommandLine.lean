import CallHierarchy.Command.Line
import CallHierarchy.MockServer.Basic

/-! The options of the mock server as its command line gives them. -/

namespace CallHierarchy.MockServer.Options

open CommandLine (Stop)

/-- The options that the command line may have. -/
def flags : List CommandLine.Flag := [
  ⟨"no-call-hierarchy", none, false⟩,
  ⟨"call-hierarchy-options", none, false⟩,
  ⟨"null-results", none, false⟩,
  ⟨"send-configuration-request", none, false⟩,
  ⟨"response-delay", none, true⟩,
  ⟨"drop-after", none, true⟩,
  ⟨"hang-on", none, true⟩,
  ⟨"fail-on", none, true⟩,
  ⟨"help", some 'h', false⟩]

/-- The options that may stand more than once. -/
def repeatable : List String := ["hang-on", "fail-on"]

def number? (s : String) : Except Stop Nat :=
  match Decimal.unsigned? Decimal.max64 s.toList with
  | some n => .ok n
  | none => .error .invalid

def option (o : Options) (long v : String) : Except Stop Options :=
  match long with
  | "response-delay" => do return { o with delay := ← number? v }
  | "drop-after" => do return { o with dropAfter := some (← number? v) }
  | "hang-on" => .ok { o with silentOn := o.silentOn ++ [v] }
  | "fail-on" => .ok { o with failsOn := o.failsOn ++ [v] }
  | _ => .error .invalid

def flag (o : Options) (long : String) : Except Stop Options :=
  match long with
  | "no-call-hierarchy" => .ok { o with hidesCalls := true }
  | "call-hierarchy-options" => .ok { o with offersOptions := true }
  | "null-results" => .ok { o with answersNull := true }
  | "send-configuration-request" => .ok { o with asksConfiguration := true }
  | "help" => .error .help
  | _ => .error .invalid

/-- The options read so far, with the names of those that may not stand again. -/
structure Progress where
  seen : List String
  options : Options

/-- Takes in a part of the command line. -/
def Progress.take (p : Progress) : CommandLine.Item → Except Stop Progress
  | .option long v => do
    if long ∈ p.seen then throw .invalid
    let seen := if long ∈ repeatable then p.seen else long :: p.seen
    return ⟨seen, ← p.options.option long v⟩
  | .flag long => do
    if long ∈ p.seen then throw .invalid
    return ⟨long :: p.seen, ← p.options.flag long⟩
  | .positional _ | .malformed => .error .invalid

/-- Reads a command line. Its parts are taken in order, and the first one that is wrong or asks for
help decides. -/
def ofCommandLine (arguments : List String) : Except Stop Options :=
  ((CommandLine.items flags arguments).foldlM Progress.take ⟨[], plain⟩).map (·.options)

end CallHierarchy.MockServer.Options
