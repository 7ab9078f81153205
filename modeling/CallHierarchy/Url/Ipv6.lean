import CallHierarchy.Url.Ipv4

/-! Internet addresses of version 6: eight groups of up to four hexadecimal digits, of which a
double colon stands for a run of zeros. The last two groups may be written as an address of
version 4. -/

namespace CallHierarchy.Ipv6

/-- The value of a group. -/
def group? (cs : List Char) : Option Nat :=
  if cs ≠ [] ∧ cs.length ≤ 4 then Ipv4.inBase? 16 cs else none

/-- The groups between single colons. The last one may stand for two. -/
def groups? : List (List Char) → Option (List Nat)
  | [] => some []
  | [last] =>
    match Ipv4.plain? last with
    | some [a, b, c, d] => some [256 * a + b, 256 * c + d]
    | _ => (group? last).map ([·])
  | g :: rest => do return (← group? g) :: (← groups? rest)

/-- The groups of a text that has no double colon, or that stands on one side of it. -/
def side? (cs : List Char) : Option (List Nat) :=
  if cs.isEmpty then some [] else groups? (Text.pieces (· == ':') cs)

/-- The parts before and behind the first double colon. -/
def cutDouble : List Char → Option (List Char × List Char)
  | [] => none
  | ':' :: ':' :: cs => some ([], cs)
  | c :: cs => (cutDouble cs).map fun (a, b) => (c :: a, b)

/-- The eight groups of an address. -/
def parse? (cs : List Char) : Option (List Nat) :=
  match cutDouble cs with
  | none => do
    let gs ← groups? (Text.pieces (· == ':') cs)
    if gs.length = 8 then some gs else none
  | some (before, behind) => do
    if before.contains '.' then none
    let a ← side? before
    let b ← side? behind
    if a.length + b.length ≤ 7 then
      some (a ++ List.replicate (8 - a.length - b.length) 0 ++ b)
    else none

/-- How many zeros the list begins with. -/
def zeros (gs : List Nat) : Nat := (gs.takeWhile (· == 0)).length

/-- Where the first of the longest runs of zeros begins, and its length. -/
def longestZeros (gs : List Nat) : Nat × Nat :=
  (List.range gs.length).foldl (fun best i =>
    let n := zeros (gs.drop i)
    if best.2 < n then (i, n) else best) (0, 0)

def groupText (n : Nat) : List Char := Nat.toDigits 16 n

/-- The address in its shortest form. -/
def text (gs : List Nat) : List Char :=
  let side (part : List Nat) := Text.join [':'] (part.map groupText)
  let (start, count) := longestZeros gs
  if count < 2 then side gs
  else side (gs.take start) ++ "::".toList ++ side (gs.drop (start + count))

end CallHierarchy.Ipv6
