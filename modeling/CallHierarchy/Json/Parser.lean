import CallHierarchy.Json.Literal
import CallHierarchy.Text.Basic

/-! Reading JSON. A value is taken off the front of the text, and `parse?` wants nothing but blanks
behind it. Arrays and objects may stand in each other up to a depth. The readers of arrays and
objects take the readers of their parts as arguments, so that a record can be read with a reader for
each of its fields. -/

namespace CallHierarchy.Json

/-- A reader takes a value off the front of a text and yields what follows it. -/
abbrev Reader (α : Type) := List Char → Option (α × List Char)

namespace Reader

/-- The blanks between the tokens of JSON. -/
def isBlank (c : Char) : Bool := c == ' ' || c == '\t' || c == '\n' || c == '\r'

def skipBlanks (cs : List Char) : List Char := cs.dropWhile isBlank

/-- The value of a hexadecimal digit. -/
def hexDigit? (c : Char) : Option Nat :=
  if c.isDigit then some (c.toNat - '0'.toNat)
  else if 'a' ≤ c ∧ c ≤ 'f' then some (c.toNat - 'a'.toNat + 10)
  else if 'A' ≤ c ∧ c ≤ 'F' then some (c.toNat - 'A'.toNat + 10)
  else none

/-- The value of four hexadecimal digits. -/
def codeUnit? (a b c d : Char) : Option Nat := do
  return ((← hexDigit? a) * 16 + (← hexDigit? b)) * 256 + (← hexDigit? c) * 16 + (← hexDigit? d)

/-- The character that a letter behind a backslash stands for. -/
def escaped? (c : Char) : Option Char :=
  match c with
  | '"' => some '"'
  | '\\' => some '\\'
  | '/' => some '/'
  | 'b' => some '\x08'
  | 'f' => some '\x0c'
  | 'n' => some '\n'
  | 'r' => some '\r'
  | 't' => some '\t'
  | _ => none

def isHighSurrogate (n : Nat) : Bool := 0xD800 ≤ n && n ≤ 0xDBFF

def isLowSurrogate (n : Nat) : Bool := 0xDC00 ≤ n && n ≤ 0xDFFF

/-- Reads the rest of a string, up to its closing quote. Two code units that form a pair are one
character, and half of a pair is refused. -/
def stringRest : List Char → Option (List Char × List Char)
  | [] => none
  | c :: cs =>
    if c = '"' then some ([], cs)
    else if c = '\\' then
      match cs with
      | 'u' :: h1 :: h2 :: h3 :: h4 :: rest =>
        match codeUnit? h1 h2 h3 h4 with
        | none => none
        | some n =>
          if isHighSurrogate n then
            match rest with
            | '\\' :: 'u' :: l1 :: l2 :: l3 :: l4 :: rest =>
              match codeUnit? l1 l2 l3 l4 with
              | none => none
              | some m =>
                if isLowSurrogate m then
                  (stringRest rest).map fun (s, rest) =>
                    (Char.ofNat (0x10000 + (n - 0xD800) * 0x400 + (m - 0xDC00)) :: s, rest)
                else none
            | _ => none
          else if isLowSurrogate n then none
          else (stringRest rest).map fun (s, rest) => (Char.ofNat n :: s, rest)
      | e :: rest =>
        match escaped? e with
        | none => none
        | some x => (stringRest rest).map fun (s, rest) => (x :: s, rest)
      | [] => none
    else if c.toNat < 0x20 then none
    else (stringRest cs).map fun (s, rest) => (c :: s, rest)

def string : Reader String
  | '"' :: cs => (stringRest cs).map fun (s, rest) => (String.ofList s, rest)
  | _ => none

def number : Reader Json := fun cs => do
  let (l, rest) ← Literal.read? cs
  return (.number (← l.number?), rest)

/-- Reads a word that stands for a value. -/
def word (w : String) (v : Json) : Reader Json := fun cs =>
  (Text.after? w.toList cs).map fun rest => (v, rest)

/-- Reads a value that is neither array nor object. -/
def scalar : Reader Json := fun cs =>
  match cs with
  | '"' :: _ => (string cs).map fun (s, rest) => (.string s, rest)
  | 't' :: _ => word "true" (.bool true) cs
  | 'f' :: _ => word "false" (.bool false) cs
  | 'n' :: _ => word "null" .null cs
  | _ => number cs

/-- Reads one or more elements with commas between them, and the closing bracket. -/
def sequence {α : Type} (close : Char) (element : Reader α) : Nat → Reader (List α)
  | 0, _ => none
  | fuel + 1, cs => do
    let (x, cs) ← element cs
    match skipBlanks cs with
    | [] => none
    | c :: rest =>
      if c = close then some ([x], rest)
      else if c = ',' then (sequence close element fuel rest).map fun (xs, rest) => (x :: xs, rest)
      else none

/-- Reads what stands behind an opening bracket: elements, or none, and the closing bracket. Each
element takes at least one character, which bounds their number. -/
def enclosed {α : Type} (close : Char) (element : Reader α) : Reader (List α) := fun cs =>
  match skipBlanks cs with
  | [] => none
  | c :: rest =>
    if c = close then some ([], rest) else sequence close element (c :: rest).length (c :: rest)

/-- Reads a key, a colon, and the value that the key calls for. -/
def member {α : Type} (name : Reader String) (value : String → Reader α) : Reader (String × α) :=
  fun cs => do
    let (key, cs) ← name (skipBlanks cs)
    match skipBlanks cs with
    | ':' :: rest => (value key rest).map fun (v, rest) => ((key, v), rest)
    | _ => none

/-- Reads a value in which arrays and objects stand at most `depth` deep. Its keys and its scalar
values are read by `name` and `leaf`. -/
def nested (name : Reader String) (leaf : Reader Json) : Nat → Reader Json
  | 0, cs =>
    match skipBlanks cs with
    | '[' :: _ => none
    | '\x7b' :: _ => none
    | cs => leaf cs
  | depth + 1, cs =>
    match skipBlanks cs with
    | '[' :: rest =>
      (enclosed ']' (nested name leaf depth) rest).map fun (vs, rest) => (.array vs, rest)
    | '\x7b' :: rest =>
      (enclosed '\x7d' (member name fun _ => nested name leaf depth) rest).map fun (ms, rest) =>
        (.object (Dictionary.ofList ms), rest)
    | cs => leaf cs

/-- Reads a value in which arrays and objects stand at most `depth` deep. -/
def value (depth : Nat) : Reader Json := nested string scalar depth

/-- How deep arrays and objects may stand in each other. -/
def maxDepth : Nat := 127

/-- Reads the whole text. -/
def whole {α : Type} (reader : Reader α) (cs : List Char) : Option α :=
  match reader cs with
  | some (x, rest) => if (skipBlanks rest).isEmpty then some x else none
  | none => none

end Reader

/-- The value that a text denotes. -/
def parse? (s : String) : Option Json := Reader.whole (Reader.value Reader.maxDepth) s.toList

end CallHierarchy.Json
