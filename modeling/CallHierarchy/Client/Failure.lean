import CallHierarchy.Client.Phase
import CallHierarchy.Document

/-! Why a client's request fails, and the texts that say so. -/

namespace CallHierarchy.Client

inductive Failure where
  | notRunning
  | unwritable
  | closed
  | timedOut (method : String) (milliseconds : Nat)
  /-- The server answered with an error. -/
  | rejected (code : Int64) (text : String)
  /-- The result does not have the type that the method calls for. -/
  | badResult (method : String)
  /-- The root of the workspace has no URI. -/
  | root (path : String) (cause : Path.UriError)
  deriving DecidableEq, Repr

/-- A span of time with its unit: whole milliseconds below a second, and seconds from there on. -/
def durationText (milliseconds : Nat) : String :=
  if milliseconds = 0 then "0ns"
  else if milliseconds < 1000 then Decimal.text milliseconds ++ "ms"
  else
    let thousandths := (Nat.toDigits 10 (1000 + milliseconds % 1000)).tail
    let fraction := Text.dropTail (· == '0') thousandths
    Decimal.text (milliseconds / 1000) ++
      (if fraction.isEmpty then "" else "." ++ String.ofList fraction) ++ "s"

/-- The text of a failure. -/
def Failure.message? : Failure → Option String
  | notRunning => some "LSP server is not running"
  | unwritable => none
  | closed => some "LSP server closed connection"
  | timedOut method milliseconds =>
    some ("LSP request '" ++ method ++ "' timed out after " ++ durationText milliseconds)
  | rejected code text => some ("LSP error " ++ Decimal.intText code.toInt ++ ": " ++ text)
  | badResult method => some ("Failed to parse LSP response to '" ++ method ++ "'")
  | root path cause => some (cause.message path)

/-- What a request comes to: the result of its answer, where a missing one counts as null. -/
def Ending.result (method : String) (milliseconds : Nat) : Ending → Except Failure Json
  | notRunning => .error .notRunning
  | unwritable => .error .unwritable
  | closed => .error .closed
  | timedOut => .error (.timedOut method milliseconds)
  | answered r =>
    match r.error with
    | some e => .error (.rejected e.code e.message)
    | none => .ok (r.result.getD .null)

end CallHierarchy.Client
