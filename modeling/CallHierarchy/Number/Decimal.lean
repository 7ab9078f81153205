/-! Whole numbers in decimal digits: reading them within a bound, and their text. -/

namespace CallHierarchy.Decimal

/-- The value of one decimal digit. -/
def digit (c : Char) : Nat := c.toNat - '0'.toNat

/-- The number that a row of decimal digits denotes. -/
def value (ds : List Char) : Nat := ds.foldl (fun n c => 10 * n + digit c) 0

/-- The text of a natural number. -/
def text (n : Nat) : String := String.ofList (Nat.toDigits 10 n)

/-- The text of an integer: a minus sign where it is negative. -/
def intText (n : Int) : String :=
  match n with
  | .ofNat n => text n
  | .negSucc n => "-" ++ text (n + 1)

/-- Reads a row of one or more digits and nothing else. -/
def nat? (cs : List Char) : Option Nat :=
  if cs ≠ [] ∧ cs.all Char.isDigit then some (value cs) else none

/-- Reads an unsigned number up to `limit`. A plus sign may stand before it. -/
def unsigned? (limit : Nat) (cs : List Char) : Option Nat := do
  let n ← nat? (match cs with
    | '+' :: ds => ds
    | ds => ds)
  if n ≤ limit then some n else none

/-- Reads a number between `low` and `high`. Either sign may stand before it. -/
def signed? (low high : Int) (cs : List Char) : Option Int := do
  let n ← match cs with
    | '-' :: ds => (nat? ds).map fun n => -(n : Int)
    | '+' :: ds => (nat? ds).map fun n => (n : Int)
    | ds => (nat? ds).map fun n => (n : Int)
  if low ≤ n ∧ n ≤ high then some n else none

/-- The greatest unsigned number of 64 bits. -/
def max64 : Nat := 0xFFFFFFFFFFFFFFFF

end CallHierarchy.Decimal
