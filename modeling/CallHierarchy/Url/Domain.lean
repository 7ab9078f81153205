import CallHierarchy.Text.Normal
import CallHierarchy.Url.Domain.Directionality
import CallHierarchy.Url.Domain.Joining
import CallHierarchy.Url.Domain.Mapping
import CallHierarchy.Url.Punycode

/-! Domain names of any script, and their ASCII form. A name is a list of labels. In the ASCII form,
a label with other characters is written in Punycode after `xn--`. -/

namespace CallHierarchy.Domain

/-- The characters that no host name may hold. -/
def isForbidden (c : Char) : Bool :=
  c.toNat ≤ 0x20 || c.toNat == 0x7F || "%#/:<>?@[\\]^|".toList.contains c

/-- What the ASCII form of a label with other characters begins with. -/
def mark : List Char := "xn--".toList

/-- How long the ASCII form of a label with other characters may be after its beginning, when it is
read. -/
def readLimit : Nat := 2000

/-- How many characters a label may have that is written in Punycode. -/
def writeLimit : Nat := 1000

/-- The normal form of a name: its characters replaced and put together. -/
def normalize? (cs : List Char) : Option (List Char) :=
  (cs.mapM image?).map fun images => Text.normalize images.flatten

/-- Reads the ASCII form of a label after its beginning. It must be the form of a label that needs
it, in normal form. -/
def decodeLabel? (cs : List Char) : Option (List Char) := do
  let label ← if cs.length ≤ readLimit then Punycode.decode? cs else none
  if !label.all Punycode.isAscii && normalize? label == some label then some label else none

/-- Whether a label begins with no mark, and joiners in it have an effect. -/
def isLabel (label : List Char) : Bool := !label.head?.any isMark && joinersUseful [] label

/-- The label that a part of a name in normal form stands for. -/
def label? (cs : List Char) : Option (List Char) := do
  let label ← match Text.after? mark cs with
    | some rest => decodeLabel? rest
    | none => some cs
  if isLabel label then some label else none

/-- The labels of a name. If any of them is written from right to left, all of them must be
steady. -/
def labels? (cs : List Char) : Option (List (List Char)) := do
  let labels ← (Text.pieces (· == '.') (← normalize? cs)).mapM label?
  if labels.any (·.any isLeftward) && !labels.all isSteady then none else some labels

/-- The ASCII form of a label. -/
def asciiLabel? (label : List Char) : Option (List Char) :=
  if label.all Punycode.isAscii then some label
  else if label.length ≤ writeLimit then some (mark ++ Punycode.encode label)
  else none

/-- The ASCII form of a name. -/
def toAscii? (cs : List Char) : Option (List Char) := do
  let name := Text.join ['.'] (← (← labels? cs).mapM asciiLabel?)
  if name.any isForbidden then none else some name

theorem isForbidden_of_toAscii? {cs name : List Char} (h : toAscii? cs = some name) {c : Char}
    (hc : c ∈ name) : isForbidden c = false := by
  obtain ⟨labels, _, h⟩ := Option.bind_eq_some_iff.1 h
  obtain ⟨parts, _, h⟩ := Option.bind_eq_some_iff.1 h
  dsimp only at h
  split at h
  · cases h
  · next hany =>
    obtain rfl := Option.some.inj h
    simpa using fun hf => hany (List.any_eq_true.2 ⟨c, hc, hf⟩)

end CallHierarchy.Domain
