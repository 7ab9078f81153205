import CallHierarchy.Toml.Table
import CallHierarchy.Toml.Token

/-! Reading TOML: headers and keys with values, one on each line, which together make a table. -/

namespace CallHierarchy.Toml

/-- Reads items with commas between them up to a closing bracket. There may be line breaks around
each, and a comma behind the last. -/
def items {α : Type} (close : Char) (item : Reader α) : Nat → Reader (List α)
  | 0, _ => none
  | fuel + 1, cs => do
    let cs ← skipBlanks cs.length cs
    match cs with
    | [] => none
    | c :: rest =>
      if c = close then some ([], rest)
      else
        let (x, rest) ← item cs
        match ← skipBlanks rest.length rest with
        | [] => none
        | c :: rest =>
          if c = close then some ([x], rest)
          else if c = ',' then (items close item fuel rest).map fun (xs, rest) => (x :: xs, rest)
          else none

/-- Reads a key, an equals sign, and a value. What may stand around the sign is passed over by
`skip`. -/
def assignment (skip : List Char → Option (List Char)) (value : Reader Value) :
    Reader (List String × Value) := fun cs => do
  let (parts, rest) ← key cs
  match ← skip rest with
  | '=' :: rest => (value (← skip rest)).map fun (v, rest) => ((parts, v), rest)
  | _ => none

/-- The table of assignments that stand between braces. -/
def inlineTable? (assignments : List (List String × Value)) : Option Value := do
  let entries ← assignments.foldlM (fun (es : Entries) (parts, v) => es.assign v parts) []
  some (Entry.table .header entries).toValue

/-- Reads a value in which arrays and tables stand at most `depth` deep. -/
def value (depth : Nat) : Reader Value := fun cs =>
  match cs, depth with
  | '[' :: rest, depth + 1 =>
    (items ']' (value depth) cs.length rest).map fun (vs, rest) => (.array vs, rest)
  | '\x7b' :: rest, depth + 1 => do
    let item := assignment (skipBlanks cs.length) (value depth)
    let (assignments, rest) ← items '\x7d' item cs.length rest
    (inlineTable? assignments).map (·, rest)
  | '"' :: _, _ => (string cs).map fun (s, rest) => (.text s, rest)
  | c :: _, _ => if c = quote then (string cs).map fun (s, rest) => (.text s, rest) else word cs
  | [], _ => none

/-- The table so far, and the header under which keys are set. -/
structure Progress where
  entries : Entries
  header : List String

/-- Takes in a key with its value. -/
def Progress.assign (p : Progress) (parts : List String) (v : Value) : Option Progress := do
  let entries ←
    if p.header.isEmpty then p.entries.assign v parts
    else p.entries.through (Entries.assignIn parts v) p.header
  some { p with entries }

/-- Takes in a header. -/
def Progress.enter (p : Progress) (last : Option Entry → Option Entry) (header : List String) :
    Option Progress := do
  some ⟨← p.entries.through last header, header⟩

/-- Takes in the header or assignment at the front of a line. -/
def statement (p : Progress) (cs : List Char) : Option (Progress × List Char) :=
  match cs with
  | '[' :: '[' :: rest => do
    let (header, rest) ← key rest
    match rest with
    | ']' :: ']' :: rest => some (← p.enter Entries.openRow header, rest)
    | _ => none
  | '[' :: rest => do
    let (header, rest) ← key rest
    match rest with
    | ']' :: rest => some (← p.enter Entries.openTable header, rest)
    | _ => none
  | _ => do
    let ((parts, v), rest) ← assignment (some ∘ skipSpaces) (value maxDepth) cs
    some (← p.assign parts v, rest)

/-- Takes in lines, of which there are at most `fuel`. -/
def statements : Nat → Progress → List Char → Option Progress
  | 0, _, _ => none
  | fuel + 1, p, cs => do
    match ← skipBlanks cs.length cs with
    | [] => some p
    | rest =>
      let (p, rest) ← statement p rest
      match ← skipToLineEnd rest with
      | [] => some p
      | rest =>
        match newline? rest with
        | some rest => statements fuel p rest
        | none => none

/-- The table that a text denotes. A mark of the byte order before it does not count. -/
def parse? (s : String) : Option (Dictionary Value) :=
  let cs := Text.unmarked s.toList
  (statements (cs.length + 1) ⟨[], []⟩ cs).map fun p => entriesToValues p.entries

end CallHierarchy.Toml
