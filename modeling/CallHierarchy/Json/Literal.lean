import CallHierarchy.Json.Basic
import CallHierarchy.Number.Decimal

/-! Number literals of JSON: the parts in which they are written, and the numbers they denote. A
whole number that 64 bits can hold stays exact. Any other literal denotes a floating-point number,
which is found from at most 64 bits of its digits and one power of ten. -/

namespace CallHierarchy.Json

/-- A number as it is written. -/
structure Literal where
  negative : Bool
  /-- The digits before the point. -/
  whole : List Char
  /-- The digits behind the point, if there is one. -/
  fraction : Option (List Char)
  /-- The sign and the digits of the exponent, if there is one. -/
  exponent : Option (Bool × List Char)

namespace Literal

/-- Takes one or more digits. -/
def digits? (cs : List Char) : Option (List Char × List Char) :=
  match cs.span Char.isDigit with
  | ([], _) => none
  | (ds, rest) => some (ds, rest)

/-- Takes the digits before the point: no zero stands before another digit. -/
def whole? (cs : List Char) : Option (List Char × List Char) := do
  let (ds, rest) ← digits? cs
  if ds.head? = some '0' ∧ ds.length ≠ 1 then none else some (ds, rest)

def fraction? : List Char → Option (Option (List Char) × List Char)
  | '.' :: cs => (digits? cs).map fun (ds, rest) => (some ds, rest)
  | cs => some (none, cs)

/-- Takes the exponent behind its letter. -/
def power? : List Char → Option ((Bool × List Char) × List Char)
  | '-' :: cs => (digits? cs).map fun (ds, rest) => ((true, ds), rest)
  | '+' :: cs => (digits? cs).map fun (ds, rest) => ((false, ds), rest)
  | cs => (digits? cs).map fun (ds, rest) => ((false, ds), rest)

def exponent? : List Char → Option (Option (Bool × List Char) × List Char)
  | c :: cs =>
    if c = 'e' ∨ c = 'E' then (power? cs).map fun (e, rest) => (some e, rest)
    else some (none, c :: cs)
  | [] => some (none, [])

/-- Takes a literal off the front. -/
def read? (cs : List Char) : Option (Literal × List Char) := do
  let (negative, cs) := match cs with
    | '-' :: rest => (true, rest)
    | rest => (false, rest)
  let (whole, cs) ← whole? cs
  let (fraction, cs) ← fraction? cs
  let (exponent, cs) ← exponent? cs
  some (⟨negative, whole, fraction, exponent⟩, cs)

/-- Appends digits to a number for as long as it fits in 64 bits, and yields the digits left. -/
def absorb : Nat → List Char → Nat × List Char
  | n, [] => (n, [])
  | n, c :: cs =>
    let longer := 10 * n + Decimal.digit c
    if longer ≤ Decimal.max64 then absorb longer cs else (n, c :: cs)

/-- The greatest power of ten that is a floating-point number. -/
def maxPower : Nat := 308

def power (n : Nat) : Binary64 := (Binary64.ofDecimal false 1 n).getD (.zero false)

/-- Divides by a power of ten that may be too great for one step. Three steps take every number of
64 bits to zero. -/
def divide : Nat → Binary64 → Nat → Option Binary64
  | 0, x, _ => some x
  | fuel + 1, x, n =>
    if n ≤ maxPower then x.div (power n)
    else if x.isZero then some x
    else do divide fuel (← x.div (power maxPower)) (n - maxPower)

/-- `significand * 10 ^ exponent`, rounded once for the significand and once for each step. There
is none beyond the greatest number. -/
def scale (significand : Nat) (exponent : Int) : Option Binary64 :=
  let x := Binary64.ofNat significand
  match exponent with
  | .ofNat n => if n ≤ maxPower then x.mul (power n) else if x.isZero then some x else none
  | .negSucc n => divide 4 x (n + 1)

/-- The greatest exponent that is looked at. -/
def maxExponent : Nat := 0x7FFFFFFF

/-- The floating-point number that a literal denotes. -/
def real? (l : Literal) : Option Binary64 := do
  let (significand, dropped) := absorb 0 l.whole
  let fraction := l.fraction.getD []
  let (significand, unused) := absorb significand fraction
  let shift : Int := (dropped.length : Int) - (fraction.length - unused.length : Nat)
  let x ← match l.exponent with
    | none => scale significand shift
    | some (negative, ds) =>
      let e := Decimal.value ds
      if maxExponent < e then
        if significand ≠ 0 ∧ !negative then none else some (.zero false)
      else scale significand (if negative then shift - e else shift + e)
  some (x.withSign l.negative)

/-- The number that a literal denotes. There is none beyond the greatest floating-point number. A
zero with a minus sign is a floating-point number, as is each whole number out of range. -/
def number? (l : Literal) : Option Number :=
  let n := Decimal.value l.whole
  if l.fraction.isNone ∧ l.exponent.isNone ∧
      (if l.negative then 0 < n ∧ n ≤ 0x8000000000000000 else n ≤ Decimal.max64) then
    some (.integer (if l.negative then -n else n))
  else l.real?.map .real

end Literal

end CallHierarchy.Json
