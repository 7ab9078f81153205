import CallHierarchy.Text.Basic

/-! Punycode: text of any script written with ASCII characters. First come the ASCII characters of
the text. The others follow as numbers, which say where each is inserted, from the lowest character
to the highest. The size of a digit adapts to the numbers before it. -/

namespace CallHierarchy.Punycode

def isAscii (c : Char) : Bool := c.toNat < 0x80

/-- The digit of a value below 36. -/
def digit (n : Nat) : Char := Char.ofNat (if n < 26 then 0x61 + n else 0x30 + (n - 26))

def digitValue? (c : Char) : Option Nat :=
  let c := c.toLower
  if 'a' ≤ c ∧ c ≤ 'z' then some (c.toNat - 0x61)
  else if '0' ≤ c ∧ c ≤ '9' then some (c.toNat - 0x30 + 26)
  else none

/-- The least value of a digit that is not the last one of its number. Positions count in steps of
36. -/
def threshold (bias position : Nat) : Nat := max 1 (min 26 (position - bias))

theorem threshold_bounds (bias position : Nat) :
    1 ≤ threshold bias position ∧ threshold bias position ≤ 26 := by
  unfold threshold
  omega

/-- Scales a number down to the range in which the bias is taken from it. -/
def scaleDown (n bias : Nat) : Nat :=
  if n ≤ 455 then bias + 36 * n / (n + 38) else scaleDown (n / 35) (bias + 36)
termination_by n

/-- The bias after a number. It depends on how many characters there are then, and on whether the
number is the first one. -/
def adapt (number count : Nat) (first : Bool) : Nat :=
  let n := if first then number / 700 else number / 2
  scaleDown (n + n / count) 0

/-- The digits of a number, the lowest one first. -/
def digits (bias position n : Nat) : List Char :=
  let t := threshold bias position
  if n < t then [digit n]
  else digit (t + (n - t) % (36 - t)) :: digits bias (position + 36) ((n - t) / (36 - t))
termination_by n
decreasing_by
  have h := threshold_bounds bias position
  exact Nat.lt_of_le_of_lt (Nat.div_le_self _ _) (by omega)

/-- Writes numbers after a text of `count` characters. -/
def write (bias count : Nat) (first : Bool) : List Nat → List Char
  | [] => []
  | n :: rest => digits bias 36 n ++ write (adapt n (count + 1) first) (count + 1) false rest

/-- Reads numbers. The digits of the first one that are read already give `sum`, and its next digit
counts `weight` times. -/
def read (bias count : Nat) (first : Bool) (position weight sum : Nat) :
    List Char → Option (List Nat)
  | [] => if weight = 1 then some [] else none
  | c :: cs => do
    let value ← digitValue? c
    let t := threshold bias position
    let sum := sum + value * weight
    if value < t then
      let rest ← read (adapt sum (count + 1) first) (count + 1) false 36 1 0 cs
      some (sum :: rest)
    else read bias count first (position + 36) (weight * (36 - t)) sum cs

/-- The numbers that insert one character wherever it stands in a text, and what the next number
begins with. A number counts the lower characters that are passed. -/
def steps (code : Nat) (passed : Nat) : List Char → List Nat × Nat
  | [] => ([], passed)
  | c :: cs =>
    if c.toNat < code then steps code (passed + 1) cs
    else if c.toNat = code then
      let (rest, last) := steps code 0 cs
      (passed :: rest, last)
    else steps code passed cs

/-- The numbers that insert the characters with the given codes, in increasing order, into a text of
which `count` characters are lower than `next`. -/
def numbers (cs : List Char) (next count passed : Nat) : List Nat → List Nat
  | [] => []
  | code :: codes =>
    let (now, passed) := steps code (passed + (code - next) * (count + 1)) cs
    now ++ numbers cs (code + 1) (count + now.length) (passed + 1) codes

/-- The codes of the characters beyond ASCII, each once, in increasing order. -/
def codes (cs : List Char) : List Nat :=
  ((cs.filter (!isAscii ·)).map Char.toNat).mergeSort.eraseDups

def encode (cs : List Char) : List Char :=
  let plain := cs.filter isAscii
  plain ++ (if plain.isEmpty then [] else ['-']) ++
    write 72 plain.length true (numbers cs 0x80 plain.length 0 (codes cs))

/-- Inserts a character for each number. Numbers count on from the last place, through all places of
all characters from `code` on. -/
def insertAll (code place : Nat) (cs : List Char) : List Nat → Option (List Char)
  | [] => some cs
  | n :: rest =>
    let size := cs.length + 1
    let code := code + (place + n) / size
    let place := (place + n) % size
    if code.isValidChar then
      insertAll code (place + 1) (cs.take place ++ Char.ofNat code :: cs.drop place) rest
    else none

/-- Reads what `encode` writes. -/
def decode? (cs : List Char) : Option (List Char) :=
  if cs.all isAscii then do
    let tail := (cs.reverse.takeWhile (· != '-')).reverse
    let plain := (cs.take (cs.length - tail.length)).dropLast
    let tail := if plain.isEmpty then cs else tail
    let numbers ← read 72 plain.length true 36 1 0 tail
    insertAll 0x80 0 plain numbers
  else none

end CallHierarchy.Punycode
