import CallHierarchy.Text.CombiningClass
import CallHierarchy.Text.Composition

/-! The normal form of text: every character is taken apart, marks on the same base are ordered by
class, and bases and marks are put together again. Texts that look alike have one normal form. -/

namespace CallHierarchy.Text

/-- Takes a character apart, and the first of its parts in turn, down to the given depth. -/
def takeApart : Nat → Char → List Char
  | 0, c => [c]
  | depth + 1, c =>
    match parts? c with
    | some (first, rest) => takeApart depth first ++ rest
    | none => [c]

/-- Puts a character in front of a text, behind the marks of lower classes that the text begins
with. -/
def settle (c : Char) : List Char → List Char
  | [] => [c]
  | d :: ds =>
    if 0 < combiningClass d ∧ combiningClass d < combiningClass c then d :: settle c ds
    else c :: d :: ds

/-- Orders the marks on each base by class. Marks of one class stay in order. -/
def orderMarks (cs : List Char) : List Char := cs.foldr settle []

/-- Puts a base together with the marks that follow it. The marks that have not found a place in the
base are given with the last one first. A mark reaches the base if none of these has its class. -/
def gather (base : Char) (held : List Char) : List Char → List Char
  | [] => base :: held.reverse
  | c :: cs =>
    let reaches := match held with
      | [] => true
      | last :: _ => decide (combiningClass last < combiningClass c)
    match if reaches then composite? base c else none with
    | some whole => gather whole held cs
    | none =>
      if combiningClass c = 0 then base :: held.reverse ++ gather c [] cs
      else gather base (c :: held) cs

/-- Puts bases and marks together. Marks without a base stay as they are. -/
def gatherAll : List Char → List Char
  | [] => []
  | c :: cs => if combiningClass c = 0 then gather c [] cs else c :: gatherAll cs

/-- The normal form. No character comes apart more than three times. -/
def normalize (cs : List Char) : List Char :=
  gatherAll (orderMarks (cs.flatMap (takeApart 3)))

end CallHierarchy.Text
