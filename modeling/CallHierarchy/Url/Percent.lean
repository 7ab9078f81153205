import CallHierarchy.Text.Utf8

/-! Percent encoding: a byte written as a percent sign and two hexadecimal digits. Text is decoded
by way of its bytes, so the result need not be text. -/

namespace CallHierarchy.Percent

/-- The value of a hexadecimal digit. -/
def nibble? (b : UInt8) : Option UInt8 :=
  if 48 ≤ b ∧ b ≤ 57 then some (b - 48)
  else if 65 ≤ b ∧ b ≤ 70 then some (b - 55)
  else if 97 ≤ b ∧ b ≤ 102 then some (b - 87)
  else none

/-- One of the sixteen upper-case hexadecimal digits. -/
def digit (n : UInt8) : UInt8 := if n < 10 then n + 48 else n + 55

/-- The percent sign. -/
def sign : UInt8 := 37

/-- The byte that three bytes encode. -/
def byte? (a h l : UInt8) : Option UInt8 :=
  if a = sign then do return (← nibble? h) * 16 + (← nibble? l) else none

/-- Puts the bytes in place of their encodings. A percent sign without two digits stands for
itself. -/
def decodeBytes : List UInt8 → List UInt8
  | [] => []
  | [a] => [a]
  | [a, b] => [a, b]
  | a :: h :: l :: rest =>
    match byte? a h l with
    | some x => x :: decodeBytes rest
    | none => a :: decodeBytes (h :: l :: rest)

/-- The decoded text, where it is one. -/
def decode? (cs : List Char) : Option (List Char) :=
  (Utf8.decode? (decodeBytes (Utf8.encode (String.ofList cs)))).map String.toList

/-- The encoding of one byte. -/
def encodeByte (b : UInt8) : List Char :=
  ['%', Char.ofNat (digit (b / 16)).toNat, Char.ofNat (digit (b % 16)).toNat]

/-- Encodes the characters that `keep` does not hold of. -/
def encode (keep : Char → Bool) (cs : List Char) : List Char :=
  cs.flatMap fun c => if keep c then [c] else (Utf8.encode (String.singleton c)).flatMap encodeByte

end CallHierarchy.Percent
