import CallHierarchy.Url.Ipv6

/-! The grammar of URI references: which texts are URIs or relative references. -/

namespace CallHierarchy.Reference

def isHexDigit (c : Char) : Bool := (Ipv4.digit? c).isSome

/-- The characters that stand for themselves everywhere. -/
def isUnreserved (c : Char) : Bool :=
  c.isAlphanum || c == '-' || c == '.' || c == '_' || c == '~'

/-- The characters that may delimit parts of a component. -/
def isDelimiter (c : Char) : Bool := "!$&()*+,;=".toList.contains c || c.toNat == 39

/-- The characters of a host name. -/
def isNameChar (c : Char) : Bool := isUnreserved c || isDelimiter c

/-- The characters of a path, the slash among them. -/
def isPathChar (c : Char) : Bool := isNameChar c || c == ':' || c == '@' || c == '/'

/-- The characters of a query and of a fragment. -/
def isQueryChar (c : Char) : Bool := isPathChar c || c == '?'

/-- Whether each character is allowed or part of the encoding of a byte. -/
def consistsOf (allowed : Char → Bool) : List Char → Bool
  | [] => true
  | '%' :: h :: l :: cs => isHexDigit h && isHexDigit l && consistsOf allowed cs
  | c :: cs => allowed c && consistsOf allowed cs

/-- Whether the text is a name, alone or before a colon and digits. -/
def isNamedHost (cs : List Char) : Bool :=
  match Text.cutAt ':' cs with
  | none => consistsOf isNameChar cs
  | some (name, digits) => consistsOf isNameChar name && digits.all Char.isDigit

/-- Whether the text is a host, alone or before a colon and digits. -/
def isHost : List Char → Bool
  | '[' :: cs =>
    match Text.cutAt ']' cs with
    | none => false
    | some (address, rest) =>
      (Ipv6.parse? address).isSome &&
        match rest with
        | [] => true
        | c :: ds => c == ':' && ds.all Char.isDigit
  | cs => isNamedHost cs

def isAuthority (cs : List Char) : Bool :=
  match Text.cutAt '@' cs with
  | none => isHost cs
  | some (user, host) => consistsOf (fun c => isNameChar c || c == ':') user && isHost host

/-- Whether the text is an authority and a path, or a path alone. -/
def isHierarchy : List Char → Bool
  | '/' :: '/' :: cs =>
    let authority := cs.takeWhile (· != '/')
    isAuthority authority && consistsOf isPathChar (cs.drop authority.length)
  | cs => consistsOf isPathChar cs

def isScheme : List Char → Bool
  | [] => false
  | c :: cs => c.isAlpha && cs.all fun c => c.isAlphanum || c == '+' || c == '-' || c == '.'

/-- Whether the text without query and fragment is in the grammar. A colon in the first segment
ends a scheme. -/
def isMain (cs : List Char) : Bool :=
  let first := cs.takeWhile (· != '/')
  match Text.cutAt ':' first with
  | none => isHierarchy cs
  | some (scheme, _) => isScheme scheme && isHierarchy (cs.drop (scheme.length + 1))

/-- The part before a character and the part behind it, if the character occurs. -/
def cutOff (sep : Char) (cs : List Char) : List Char × Option (List Char) :=
  match Text.cutAt sep cs with
  | none => (cs, none)
  | some (a, b) => (a, some b)

/-- Whether the text is a URI or a relative reference. -/
def accepts (cs : List Char) : Bool :=
  let (cs, fragment) := cutOff '#' cs
  let (cs, query) := cutOff '?' cs
  isMain cs && consistsOf isQueryChar (query.getD []) && consistsOf isQueryChar (fragment.getD [])

end CallHierarchy.Reference
