import CallHierarchy.Settings.Value

/-! Keys that lead into tables and arrays, such as `server.rust.args[0]`. -/

namespace CallHierarchy

/-- One step of the way that a key leads. -/
inductive KeyPath.Step where
  | child (name : String)
  | index (i : Int)
  deriving DecidableEq, Repr

/-- Where a key leads: to an entry of the table, and on from there. -/
structure KeyPath where
  first : String
  steps : List KeyPath.Step
  deriving DecidableEq, Repr

namespace KeyPath

def isNameChar (c : Char) : Bool := c.isAlphanum || c == '_' || c == '-'

/-- Cuts a name off the front. -/
def name? (cs : List Char) : Option (String × List Char) :=
  let name := cs.takeWhile isNameChar
  if name.isEmpty then none else some (String.ofList name, cs.drop name.length)

/-- The index that stands between two brackets, with blanks around it or without. -/
def index? (cs : List Char) : Option Int :=
  let isSpace (c : Char) : Bool := c == ' ' || c == '\t'
  match Text.dropTail isSpace (cs.dropWhile isSpace) with
  | '+' :: _ => none
  | digits => Decimal.signed? (-0x8000000000000000) 0x7FFFFFFFFFFFFFFF digits

/-- Reads steps, of which there are at most `fuel`. -/
def steps? : Nat → List Char → Option (List Step)
  | _, [] => some []
  | 0, _ => none
  | fuel + 1, '.' :: cs => do
    let (name, rest) ← name? cs
    return .child name :: (← steps? fuel rest)
  | fuel + 1, '[' :: cs => do
    let (digits, rest) ← Text.cutAt ']' cs
    return .index (← index? digits) :: (← steps? fuel rest)
  | _, _ => none

/-- The path that a key spells. A key that spells none is a name as it stands. -/
def ofKey (key : String) : KeyPath :=
  let spelled : Option KeyPath := do
    let (first, rest) ← name? key.toList
    return ⟨first, ← steps? rest.length rest⟩
  spelled.getD ⟨key, []⟩

/-- Changes the element at an index, where a negative one counts from the end. The array is filled
up with nothing as far as needed. -/
def atIndex (elements : List Value) (i : Int) (change : Value → Value) : List Value :=
  let fill (n : Nat) := List.replicate n Value.nothing
  if 0 ≤ i ∨ i.natAbs ≤ elements.length then
    let k := if 0 ≤ i then i.toNat else elements.length - i.natAbs
    (elements ++ fill (k + 1 - elements.length)).modify k change
  else (fill (i.natAbs - elements.length) ++ elements).modify 0 change

/-- Changes what the steps lead to. What stands in the way gives way to tables and arrays. -/
def along (change : Value → Value) : List Step → Value → Value
  | [], v => change v
  | .child name :: rest, v =>
    let entries := match v with
      | .table entries => entries
      | _ => []
    .table (Dictionary.insert name
      (along change rest ((Dictionary.get? name entries).getD .nothing)) entries)
  | .index i :: rest, v =>
    let elements := match v with
      | .array elements => elements
      | _ => []
    .array (atIndex elements i (along change rest))

/-- Lays a value over what the path leads to. -/
def lay (path : KeyPath) (new : Value) (entries : Dictionary Value) : Dictionary Value :=
  entries.insert path.first
    (along (Value.overlay · new) path.steps ((entries.get? path.first).getD .nothing))

end KeyPath

end CallHierarchy
