import CallHierarchy.Json.Basic
import CallHierarchy.Number.Decimal
import CallHierarchy.Text.Basic

/-! Writing JSON, without blanks or with one member or element on each line. -/

namespace CallHierarchy

/-- The decimal text of a floating-point number: positional from `1e-5` up to `1e16`, and with a
signed exponent beyond. A whole number has the fraction `.0`. -/
def Json.realText (x : Binary64) : List Char :=
  let (d, k) := x.shortest
  let ds := Nat.toDigits 10 d
  let point : Int := ds.length + k
  let body :=
    if x.isZero then "0.0".toList
    else if 0 ≤ k ∧ point ≤ 16 then ds ++ List.replicate k.toNat '0' ++ ".0".toList
    else if 0 < point ∧ point ≤ 16 then ds.take point.toNat ++ '.' :: ds.drop point.toNat
    else if -5 < point ∧ point ≤ 0 then
      "0.".toList ++ List.replicate (-point).toNat '0' ++ ds
    else
      let digits := match ds with
        | [] => []
        | [c] => [c]
        | c :: rest => c :: '.' :: rest
      digits ++ 'e' :: (if 0 < point then ['+'] else []) ++ (Decimal.intText (point - 1)).toList
  if x.negative then '-' :: body else body

namespace Json

/-- One of the sixteen hexadecimal digits. -/
def hexDigit (n : Nat) : Char := if n < 10 then Char.ofNat (48 + n) else Char.ofNat (87 + n)

/-- How a character is written in a string. -/
def escape (c : Char) : List Char :=
  if c = '"' then ['\\', '"']
  else if c = '\\' then ['\\', '\\']
  else if c = '\x08' then ['\\', 'b']
  else if c = '\x0c' then ['\\', 'f']
  else if c = '\n' then ['\\', 'n']
  else if c = '\r' then ['\\', 'r']
  else if c = '\t' then ['\\', 't']
  else if c.toNat < 0x20 then
    ['\\', 'u', '0', '0', hexDigit (c.toNat / 16), hexDigit (c.toNat % 16)]
  else [c]

def printString (s : String) : List Char := '"' :: s.toList.flatMap escape ++ ['"']

def printNumber : Number → List Char
  | .integer n => (Decimal.intText n).toList
  | .real x => realText x

/-- Writes a scalar value. Arrays and objects are written by the printers below. -/
def printScalar : Json → List Char
  | .null => "null".toList
  | .bool true => "true".toList
  | .bool false => "false".toList
  | .number n => printNumber n
  | .string s => printString s
  | .array _ => []
  | .object _ => []

mutual

/-- The text of a value, without blanks. -/
def print : Json → List Char
  | .array vs => '[' :: printElements vs ++ [']']
  | .object ms => '\x7b' :: printMembers ms ++ ['\x7d']
  | v => printScalar v

def printElements : List Json → List Char
  | [] => []
  | [v] => print v
  | v :: rest => print v ++ ',' :: printElements rest

def printMembers : List (String × Json) → List Char
  | [] => []
  | [(k, v)] => printString k ++ ':' :: print v
  | (k, v) :: rest => printString k ++ ':' :: print v ++ ',' :: printMembers rest

end

/-- The line break before a line that stands `depth` levels deep. -/
def newline (depth : Nat) : List Char := '\n' :: List.replicate (2 * depth) ' '

mutual

/-- The text of a value with each element and member on a line of its own. -/
def printIndented (depth : Nat) : Json → List Char
  | .array [] => "[]".toList
  | .object [] => ['\x7b', '\x7d']
  | .array vs => '[' :: indentedElements (depth + 1) vs ++ newline depth ++ [']']
  | .object ms => '\x7b' :: indentedMembers (depth + 1) ms ++ newline depth ++ ['\x7d']
  | v => printScalar v

def indentedElements (depth : Nat) : List Json → List Char
  | [] => []
  | [v] => newline depth ++ printIndented depth v
  | v :: rest => newline depth ++ printIndented depth v ++ ',' :: indentedElements depth rest

def indentedMembers (depth : Nat) : List (String × Json) → List Char
  | [] => []
  | [(k, v)] => newline depth ++ printString k ++ ": ".toList ++ printIndented depth v
  | (k, v) :: rest =>
    newline depth ++ printString k ++ ": ".toList ++ printIndented depth v ++
      ',' :: indentedMembers depth rest

end

def compact (v : Json) : String := String.ofList (print v)

def indented (v : Json) : String := String.ofList (printIndented 0 v)

end Json

end CallHierarchy
