import CallHierarchy.Json.Decode
import CallHierarchy.Json.Parser
import CallHierarchy.Wire.Frame

/-! How the mock server takes in messages. What it cannot make sense of at the front of its buffer
stays there, so it never gets past it. Of a body it reads only the fields that it knows; the rest
need not be more than well-formed. -/

namespace CallHierarchy.MockServer

/-- What stands at the front of the server's buffer. -/
inductive Intake where
  | nothing
  | body (text : String) (rest : List UInt8)
  /-- The frame would be longer than 64 bits can count. -/
  | overflow
  deriving DecidableEq, Repr

/-- The length that a header gives: that of the last line that begins with the name. -/
def contentLength? (header : List Char) : Option Nat := do
  let start := Frame.lengthName ++ [':']
  let last ← ((Text.lines header).filter fun line =>
    start.isPrefixOf (Text.lowerAscii line)).getLast?
  let (_, value) ← Text.cutAt ':' last
  Decimal.unsigned? Decimal.max64 (Text.trim value)

/-- Looks at the front of a buffer. -/
def intake (buffer : List UInt8) : Intake :=
  match Frame.cutHeader? buffer with
  | none => .nothing
  | some (header, rest) =>
    match (Utf8.decode? header).bind fun text => contentLength? text.toList with
    | none => .nothing
    | some length =>
      if Decimal.max64 < header.length + Frame.terminator.length + length then .overflow
      else if rest.length < length then .nothing
      else
        match Utf8.decode? (rest.take length) with
        | none => .nothing
        | some body => .body body (rest.drop length)

/-- Taking a frame makes the buffer shorter by four bytes at least. -/
theorem length_of_intake_body {buffer rest : List UInt8} {text : String}
    (h : intake buffer = .body text rest) : rest.length + 4 ≤ buffer.length := by
  unfold intake at h
  split at h
  · cases h
  · next header tail hcut =>
    have hlen := Frame.length_cutHeader? hcut
    simp only [Frame.terminator, List.length_cons, List.length_nil] at hlen
    split at h
    · cases h
    · split at h
      · cases h
      · split at h
        · cases h
        · split at h
          · cases h
          · injection h with _ hrest
            rw [← hrest, List.length_drop]
            omega

/-- A message as the server sees it. Without an identity it is a notification, and without a method
a reply. -/
structure Incoming where
  id : Option Json
  method : Option String
  params : Json

namespace Incoming

open Json

def fieldNames : List String := ["jsonrpc", "id", "method", "params"]

/-- Passes over the rest of a string, up to its closing quote. -/
def skipString : List Char → Option (List Char)
  | [] => none
  | '"' :: cs => some cs
  | '\\' :: 'u' :: a :: b :: c :: d :: cs =>
    if (Reader.codeUnit? a b c d).isSome then skipString cs else none
  | '\\' :: e :: cs => if (Reader.escaped? e).isSome then skipString cs else none
  | c :: cs => if c.toNat < 0x20 then none else skipString cs

/-- Passes over a string. -/
def anyString : Reader String
  | '"' :: cs => (skipString cs).map fun rest => ("", rest)
  | _ => none

/-- Passes over a value that is neither array nor object. -/
def anyScalar : Reader Json := fun cs =>
  match cs with
  | '"' :: _ => (anyString cs).map fun (_, rest) => (.null, rest)
  | 't' :: _ => Reader.scalar cs
  | 'f' :: _ => Reader.scalar cs
  | 'n' :: _ => Reader.scalar cs
  | _ => (Literal.read? cs).map fun (_, rest) => (.null, rest)

/-- Passes over a value, however deep. -/
def anyValue : Reader Json := fun cs => Reader.nested anyString anyScalar cs.length cs

/-- The depth that is left within the message. -/
def innerDepth : Nat := Reader.maxDepth - 1

/-- Reads the value of a field that the server knows, and passes over any other. -/
def fieldValue (key : String) : Reader Json :=
  if key ∈ fieldNames then Reader.value innerDepth else anyValue

/-- The fields of a message that is an object. None stands twice. -/
def objectFields? (members : List (String × Json)) : Option (List (Option Json)) :=
  let known := members.filter fun (key, _) => key ∈ fieldNames
  if (known.map Prod.fst).Nodup then
    some (fieldNames.map fun name => Dictionary.get? name known)
  else none

/-- The fields of a message. -/
def fields : Reader (List (Option Json)) := fun cs =>
  match Reader.skipBlanks cs with
  | '\x7b' :: rest => do
    let (members, rest) ← Reader.enclosed '\x7d' (Reader.member Reader.string fieldValue) rest
    return (← objectFields? members, rest)
  | '[' :: rest => do
    let (elements, rest) ← Reader.enclosed ']' (Reader.value innerDepth) rest
    return (← (Json.array elements).fields? fieldNames 1, rest)
  | _ => none

/-- Reads the body of a frame. -/
def ofBody? (body : String) : Option Incoming := do
  match ← Reader.whole fields body.toList with
  | [some (.string _), id, method, params] =>
    some ⟨present id, ← optional asString? method, params.getD .null⟩
  | _ => none

end Incoming

end CallHierarchy.MockServer
