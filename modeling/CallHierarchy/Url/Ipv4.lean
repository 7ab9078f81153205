import CallHierarchy.Number.Decimal
import CallHierarchy.Text.Basic

/-! Internet addresses of version 4, in the forms that a host may take: one to four numbers, each
decimal, octal behind a zero or hexadecimal behind `0x`, the last of which fills all bytes that the
others leave. -/

namespace CallHierarchy.Ipv4

/-- The value of a digit in bases up to sixteen. -/
def digit? (c : Char) : Option Nat :=
  if c.isDigit then some (c.toNat - 48)
  else if 'a' ≤ c ∧ c ≤ 'f' then some (c.toNat - 87)
  else if 'A' ≤ c ∧ c ≤ 'F' then some (c.toNat - 55)
  else none

/-- The number that digits denote in a base. No digits denote zero. -/
def inBase? (base : Nat) (cs : List Char) : Option Nat :=
  cs.foldlM (fun n c => do
    let d ← digit? c
    if d < base then some (base * n + d) else none) 0

/-- The number that one part of an address denotes. -/
def number? : List Char → Option Nat
  | [] => none
  | '0' :: 'x' :: ds => inBase? 16 ds
  | '0' :: 'X' :: ds => inBase? 16 ds
  | '0' :: d :: ds => inBase? 8 (d :: ds)
  | ds => inBase? 10 ds

/-- The parts between the points. A point at the end closes the last part. -/
def parts (host : List Char) : List (List Char) :=
  let ps := Text.pieces (· == '.') host
  if 1 < ps.length ∧ ps.getLast? = some [] then ps.dropLast else ps

/-- Whether the last part is a number: such a host must be an address. -/
def endsInNumber (host : List Char) : Bool :=
  match (parts host).getLast? with
  | none => false
  | some last => (!last.isEmpty && last.all Char.isDigit) || (number? last).isSome

/-- The address that a host denotes, a number of 32 bits. -/
def parse? (host : List Char) : Option Nat := do
  let ps := parts host
  if 4 < ps.length then none
  let ns ← ps.mapM number?
  let last ← ns.getLast?
  let others := ns.dropLast
  if others.any (255 < ·) ∨ 1 <<< (8 * (4 - others.length)) ≤ last then none
  some (others.foldr (fun n (sum, weight) => (sum + n * weight, weight * 256))
    (last, 1 <<< (8 * (4 - others.length)))).1

/-- The address as four decimal numbers. -/
def text (address : Nat) : List Char :=
  Text.join ['.'] ([3, 2, 1, 0].map fun i => Nat.toDigits 10 ((address >>> (8 * i)) % 256))

/-- The number of a byte, written without needless zeros. -/
def byte? (cs : List Char) : Option Nat := do
  let n ← Decimal.nat? cs
  if n ≤ 255 ∧ (cs.length = 1 ∨ cs.head? ≠ some '0') then some n else none

/-- An address in its plain form of four decimal bytes. -/
def plain? (cs : List Char) : Option (List Nat) := do
  let ns ← (Text.pieces (· == '.') cs).mapM byte?
  if ns.length = 4 then some ns else none

end CallHierarchy.Ipv4
