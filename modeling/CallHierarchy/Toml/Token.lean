import CallHierarchy.Settings.Value

/-! The smallest parts of TOML: blanks and comments, keys, strings, numbers, dates and times. Each
reader takes its part off the front of a text and yields what follows. -/

namespace CallHierarchy.Toml

/-- A reader takes a part off the front of a text and yields what follows it. -/
abbrev Reader (α : Type) := List Char → Option (α × List Char)

/-! ### Blanks and comments -/

def isSpace (c : Char) : Bool := c == ' ' || c == '\t'

def skipSpaces (cs : List Char) : List Char := cs.dropWhile isSpace

/-- Whether a comment or a string may not hold the character. -/
def isControl (c : Char) : Bool := (c.toNat < 0x20 && c != '\t') || c.toNat == 0x7F

/-- The text behind a line break. -/
def newline? : List Char → Option (List Char)
  | '\n' :: cs => some cs
  | '\r' :: '\n' :: cs => some cs
  | _ => none

/-- Passes over a comment, up to the end of its line. -/
def skipComment : List Char → Option (List Char)
  | [] => some []
  | c :: cs =>
    if (newline? (c :: cs)).isSome then some (c :: cs)
    else if isControl c then none
    else skipComment cs

/-- Passes over spaces and a comment. -/
def skipToLineEnd (cs : List Char) : Option (List Char) :=
  match skipSpaces cs with
  | '#' :: rest => skipComment rest
  | rest => some rest

/-- Passes over spaces, line breaks and comments, of which there are at most `fuel`. -/
def skipBlanks : Nat → List Char → Option (List Char)
  | 0, cs => some cs
  | fuel + 1, cs => do
    let rest ← skipToLineEnd cs
    match newline? rest with
    | some rest => skipBlanks fuel rest
    | none => some rest

/-! ### Strings -/

def hexValue? (ds : List Char) : Option Nat :=
  ds.foldlM (fun n c =>
    if c.isDigit then some (16 * n + (c.toNat - 48))
    else if 'a' ≤ c ∧ c ≤ 'f' then some (16 * n + (c.toNat - 87))
    else if 'A' ≤ c ∧ c ≤ 'F' then some (16 * n + (c.toNat - 55))
    else none) 0

/-- The character with a code of `count` digits. -/
def coded (count : Nat) (cs : List Char) : Option (Char × List Char) := do
  if cs.length < count then none
  let n ← hexValue? (cs.take count)
  if h : n.isValidChar then some (Char.ofNatAux n h, cs.drop count) else none

/-- Reads an escape behind its backslash. -/
def escape : Reader Char
  | 'b' :: cs => some ('\x08', cs)
  | 't' :: cs => some ('\t', cs)
  | 'n' :: cs => some ('\n', cs)
  | 'f' :: cs => some ('\x0c', cs)
  | 'r' :: cs => some ('\r', cs)
  | 'e' :: cs => some ('\x1b', cs)
  | '"' :: cs => some ('"', cs)
  | '\\' :: cs => some ('\\', cs)
  | 'x' :: cs => coded 2 cs
  | 'u' :: cs => coded 4 cs
  | 'U' :: cs => coded 8 cs
  | _ => none

/-- The single quote. -/
def quote : Char := Char.ofNat 39

/-- Reads the rest of a string in double quotes. -/
def basicRest : Nat → Reader (List Char)
  | 0, _ => none
  | _, [] => none
  | fuel + 1, c :: cs =>
    if c = '"' then some ([], cs)
    else if c = '\\' then do
      let (x, rest) ← escape cs
      (basicRest fuel rest).map fun (s, rest) => (x :: s, rest)
    else if isControl c then none
    else (basicRest fuel cs).map fun (s, rest) => (c :: s, rest)

/-- Reads the rest of a string in single quotes. -/
def literalRest : Reader (List Char)
  | [] => none
  | c :: cs =>
    if c = quote then some ([], cs)
    else if isControl c then none
    else (literalRest cs).map fun (s, rest) => (c :: s, rest)

/-- Passes over the blanks behind a backslash at the end of a line. -/
def skipContinuation (cs : List Char) : Option (List Char) :=
  match newline? (skipSpaces cs) with
  | none => none
  | some rest => some (rest.dropWhile fun c => isSpace c || c == '\n' || c == '\r')

/-- The quotes that stand at the front, if they end a string: three, with up to two more that belong
to the string. -/
def closing? (q : Char) (cs : List Char) : Option (List Char × List Char) :=
  let count := min 5 (cs.takeWhile (· == q)).length
  if 3 ≤ count then some (List.replicate (count - 3) q, cs.drop count) else none

/-- Reads the rest of a string of several lines. In double quotes it has escapes. -/
def linesRest (q : Char) : Nat → Reader (List Char)
  | 0, _ => none
  | _, [] => none
  | fuel + 1, c :: cs =>
    match closing? q (c :: cs) with
    | some end? => some end?
    | none =>
      if c = '\\' ∧ q = '"' then
        match skipContinuation cs with
        | some rest => linesRest q fuel rest
        | none => do
          let (x, rest) ← escape cs
          (linesRest q fuel rest).map fun (s, rest) => (x :: s, rest)
      else
        match newline? (c :: cs) with
        | some rest => (linesRest q fuel rest).map fun (s, rest) => ('\n' :: s, rest)
        | none =>
          if isControl c then none
          else (linesRest q fuel cs).map fun (s, rest) => (c :: s, rest)

/-- Reads the rest of a string of several lines, whose first line break does not count. -/
def lines (q : Char) (cs : List Char) : Option (List Char × List Char) :=
  let cs := (newline? cs).getD cs
  linesRest q cs.length cs

/-- Reads a string of one line, which a key may be. -/
def shortString : Reader String
  | '"' :: cs => (basicRest cs.length cs).map fun (s, rest) => (String.ofList s, rest)
  | c :: cs =>
    if c = quote then (literalRest cs).map fun (s, rest) => (String.ofList s, rest) else none
  | [] => none

def string : Reader String
  | a :: b :: c :: cs =>
    if a = b ∧ b = c ∧ (a = '"' ∨ a = quote) then
      (lines a cs).map fun (s, rest) => (String.ofList s, rest)
    else shortString (a :: b :: c :: cs)
  | cs => shortString cs

/-! ### Keys -/

def isKeyChar (c : Char) : Bool := c.isAlphanum || c == '_' || c == '-'

/-- Reads one part of a key. -/
def keyPart (cs : List Char) : Option (String × List Char) :=
  match shortString cs with
  | some found => some found
  | none =>
    let name := cs.takeWhile isKeyChar
    if name.isEmpty then none else some (String.ofList name, cs.drop name.length)

/-- Reads parts of a key, of which there are at most `count`, with points between them. -/
def keyParts : Nat → Reader (List String)
  | 0, _ => none
  | count + 1, cs => do
    let (part, rest) ← keyPart (skipSpaces cs)
    match skipSpaces rest with
    | '.' :: rest => (keyParts count rest).map fun (parts, rest) => (part :: parts, rest)
    | rest => some ([part], rest)

/-- How deep tables and arrays may stand in each other, and how many parts a key may have. -/
def maxDepth : Nat := 80

/-- Reads a key. -/
def key : Reader (List String) := keyParts maxDepth

/-! ### Numbers, dates and times -/

/-- The digits of a number, where an underscore may stand between two digits. -/
def digits? (isDigit : Char → Bool) (cs : List Char) : Option (List Char) :=
  let parts := Text.pieces (· == '_') cs
  if parts.all fun part => !part.isEmpty && part.all isDigit then some parts.flatten else none

def sign (cs : List Char) : Bool × List Char :=
  match cs with
  | '-' :: rest => (true, rest)
  | '+' :: rest => (false, rest)
  | rest => (false, rest)

/-- Decimal digits of which a zero is not the first of several. -/
def wholeDigits? (cs : List Char) : Option (List Char) := do
  let ds ← digits? Char.isDigit cs
  if ds.head? = some '0' ∧ ds.length ≠ 1 then none else some ds

def inRange? (n : Int) : Option Value :=
  if -0x8000000000000000 ≤ n ∧ n ≤ 0x7FFFFFFFFFFFFFFF then some (.int n) else none

/-- Digits in a base that is a power of two. -/
def inBase? (base : Nat) (cs : List Char) : Option Nat := do
  let ds ← digits? (fun c => ((hexValue? [c]).getD 16) < base) cs
  some (ds.foldl (fun n c => base * n + (hexValue? [c]).getD 0) 0)

def integer? (cs : List Char) : Option Value :=
  match cs with
  | '0' :: 'x' :: ds => do inRange? (← inBase? 16 ds)
  | '0' :: 'o' :: ds => do inRange? (← inBase? 8 ds)
  | '0' :: 'b' :: ds => do inRange? (← inBase? 2 ds)
  | _ => do
    let (negative, ds) := sign cs
    let n := Decimal.value (← wholeDigits? ds)
    inRange? (if negative then -n else n)

/-- The exponent of a number, and what stands before it. -/
def cutExponent? (cs : List Char) : Option (List Char × Int) :=
  let before := cs.takeWhile fun c => c != 'e' && c != 'E'
  match cs.drop before.length with
  | [] => some (before, 0)
  | _ :: rest => do
    let (negative, ds) := sign rest
    let n := Decimal.value (← digits? Char.isDigit ds)
    some (before, if negative then -n else n)

def real? (cs : List Char) : Option Value := do
  let (negative, body) := sign cs
  if body = "inf".toList then some (.infinity negative)
  else if body = "nan".toList then some .notANumber
  else if !body.any fun c => c == '.' || c == 'e' || c == 'E' then none
  else
    let (before, exponent) ← cutExponent? body
    let (whole, fraction) ←
      match Text.cutAt '.' before with
      | none => some (before, [])
      | some (whole, fraction) => (digits? Char.isDigit fraction).map (whole, ·)
    let ds ← wholeDigits? whole
    let n := Decimal.value (ds ++ fraction)
    -- An exponent this far out leaves zero or no number at all, whatever the digits are.
    let bounded : Int := max (-2000 - (ds ++ fraction).length) (min 2000 exponent)
    (Binary64.ofDecimal negative n (bounded - fraction.length)).map .real

/-- A number of exactly `count` digits that lies between two bounds. -/
def part? (count low high : Nat) (cs : List Char) : Option Nat := do
  let n ← Decimal.nat? cs
  if cs.length = count ∧ low ≤ n ∧ n ≤ high then some n else none

def isLeap (year : Nat) : Bool := year % 4 == 0 && (year % 100 != 0 || year % 400 == 0)

def daysIn (year month : Nat) : Nat :=
  if month = 2 then (if isLeap year then 29 else 28)
  else if month ∈ [4, 6, 9, 11] then 30
  else 31

def date? (cs : List Char) : Option (List Char) := do
  match Text.pieces (· == '-') cs with
  | [y, m, d] =>
    let year ← part? 4 0 9999 y
    let month ← part? 2 1 12 m
    let _ ← part? 2 1 (daysIn year month) d
    some cs
  | _ => none

/-- A fraction of a second, cut to nine digits, without needless zeros at its end. -/
def fraction? (cs : List Char) : Option (List Char) :=
  if cs.isEmpty ∨ !cs.all Char.isDigit then none
  else
    let ds := Text.dropTail (· == '0') (cs.take 9)
    some ('.' :: (if ds.isEmpty then ['0'] else ds))

/-- A time. It may leave out its seconds, but then has no fraction of one. -/
def time? (cs : List Char) : Option (List Char) := do
  let (main, fraction) ←
    match Text.cutAt '.' cs with
    | none => some (cs, [])
    | some (main, ds) => (fraction? ds).map (main, ·)
  match Text.pieces (· == ':') main with
  | h :: m :: rest =>
    let _ ← part? 2 0 23 h
    let _ ← part? 2 0 59 m
    match rest with
    | [] => if fraction.isEmpty then some main else none
    | [s] => (part? 2 0 60 s).map fun _ => main ++ fraction
    | _ => none
  | _ => none

/-- A time with the offset of its zone, or without. No offset is negative and zero. -/
def zoned? (cs : List Char) : Option (List Char) := do
  let main := cs.takeWhile fun c => !(c == 'Z' || c == 'z' || c == '+' || c == '-')
  let time ← time? main
  match cs.drop main.length with
  | [] => some time
  | c :: rest =>
    if c = 'Z' ∨ c = 'z' then (if rest.isEmpty then some (time ++ ['Z']) else none)
    else
      match Text.pieces (· == ':') rest with
      | [h, m] =>
        let hours ← part? 2 0 23 h
        let minutes ← part? 2 0 59 m
        some (time ++ (if hours = 0 ∧ minutes = 0 then '+' else c) :: rest)
      | _ => none

/-- A date, a time, or both, as the text that it is a setting by. -/
def moment? (cs : List Char) : Option Value := do
  let text ←
    match date? cs, time? cs with
    | some date, _ => some date
    | _, some time => some time
    | _, _ => do
      let date ← date? (cs.take 10)
      match cs.drop 10 with
      | c :: rest =>
        if c = 'T' ∨ c = 't' ∨ c = ' ' then (zoned? rest).map fun time => date ++ 'T' :: time
        else none
      | [] => none
  some (.text (String.ofList text))

/-- Whether a value that is not in quotes ends before the character. -/
def endsWord (c : Char) : Bool := isSpace c || "\n\r,]#=\x7d".toList.contains c

/-- Cuts off a value that is not in quotes. A space may stand between a date and a time. -/
def cutWord (cs : List Char) : List Char × List Char :=
  let word := cs.takeWhile (!endsWord ·)
  let rest := cs.drop word.length
  match rest with
  | ' ' :: d :: more =>
    if (date? word).isSome ∧ d.isDigit then
      let second := (d :: more).takeWhile (!endsWord ·)
      (word ++ ' ' :: second, (d :: more).drop second.length)
    else (word, rest)
  | _ => (word, rest)

/-- Reads a value that is neither string, array nor table. -/
def word : Reader Value := fun cs =>
  let (w, rest) := cutWord cs
  let v :=
    if w = "true".toList then some (.bool true)
    else if w = "false".toList then some (.bool false)
    else integer? w <|> real? w <|> moment? w
  v.map (·, rest)

end CallHierarchy.Toml
