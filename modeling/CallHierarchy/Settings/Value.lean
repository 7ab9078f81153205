import CallHierarchy.Json.Basic
import CallHierarchy.Number.Decimal
import CallHierarchy.Text.Basic

/-! The values that settings are made from. A setting may be written as a value of another type: a
number as a text, and a text as a number. -/

namespace CallHierarchy

inductive Value where
  | nothing
  | bool (b : Bool)
  | int (n : Int)
  | real (x : Binary64)
  | infinity (negative : Bool)
  | notANumber
  | text (s : String)
  | array (elements : List Value)
  | table (entries : List (String × Value))
  deriving Inhabited

namespace Value

/-- The words that count as one and as zero. -/
def asWord? (s : String) : Option Nat :=
  let word := Text.lowerAscii s.toList
  if word ∈ ["true".toList, "on".toList, "yes".toList] then some 1
  else if word ∈ ["false".toList, "off".toList, "no".toList] then some 0
  else none

/-- The natural number of at most 64 bits that the value stands for. A real number is rounded, and
brought into range. -/
def asNat? : Value → Option Nat
  | bool b => some b.toNat
  | int (.ofNat n) => some n
  | real x => some (if x.negative then 0 else min x.nearestNat Decimal.max64)
  | infinity negative => some (if negative then 0 else Decimal.max64)
  | notANumber => some 0
  | text s => asWord? s <|> Decimal.unsigned? Decimal.max64 s.toList
  | _ => none

/-- The text that the value stands for. -/
def asText? : Value → Option String
  | bool b => some (if b then "true" else "false")
  | int n => some (Decimal.intText n)
  | real x => some x.plainText
  | infinity negative => some (if negative then "-inf" else "inf")
  | notANumber => some "NaN"
  | text s => some s
  | _ => none

def asTexts? : Value → Option (List String)
  | array elements => elements.mapM asText?
  | _ => none

/-- The value at a key of a table. -/
def get? (key : String) : Value → Option Value
  | table entries => Dictionary.get? key entries
  | _ => none

mutual

/-- One value laid over another. Tables are joined key by key, and anything else is replaced. -/
def overlay (old : Value) : Value → Value
  | table entries =>
    match old with
    | table below => table (overlayAll below entries)
    | _ => table (overlayAll [] entries)
  | new => new

def overlayAll (below : Dictionary Value) : List (String × Value) → Dictionary Value
  | [] => below
  | (key, v) :: rest =>
    overlayAll (below.insert key (overlay ((below.get? key).getD nothing) v)) rest

end

end Value

/-- A value of JSON as one of settings. -/
def Value.ofJson : Json → Value
  | .null => nothing
  | .bool b => bool b
  | .number (.integer n) => int n
  | .number (.real x) => real x
  | .string s => text s
  | .array elements => array (elements.map ofJson)
  | .object members => table (ofMembers members)
where
  ofMembers : List (String × Json) → List (String × Value)
    | [] => []
    | (key, v) :: rest => (key, ofJson v) :: ofMembers rest

end CallHierarchy
