import CallHierarchy.Url.Domain
import CallHierarchy.Url.Ipv6
import CallHierarchy.Url.Percent

/-! URLs with the scheme `file`: reading them as leniently as a browser does, into a host and the
segments of a path. Backslashes count as slashes, dot segments are resolved, drive letters take the
place of a host, and tabs and line breaks do not count, save that one behind a drive divides it from
what follows. -/

namespace CallHierarchy

/-- A URL of a file. The segments are still percent-encoded, and there is at least one. -/
structure FileUrl where
  host : Option (List Char)
  segments : List (List Char)
  deriving DecidableEq, Repr

namespace FileUrl

def isSlash (c : Char) : Bool := c == '/' || c == '\\'

/-- Whether the path ends before this character. -/
def endsPath (c : Char) : Bool := c == '?' || c == '#'

/-- Whether the character is a tab or ends a line. -/
def isBlank (c : Char) : Bool := c == '\t' || c == '\n' || c == '\r'

/-- The characters that count. -/
def solid (cs : List Char) : List Char := cs.filter (!isBlank ·)

/-- The text behind its first characters that count. -/
def dropSolid : Nat → List Char → List Char
  | 0, cs => cs
  | _ + 1, [] => []
  | n + 1, c :: cs => if isBlank c then dropSolid (n + 1) cs else dropSolid n cs

/-- Whether the text is a letter and a colon or bar. -/
def isDrive : List Char → Bool
  | [c, d] => c.isAlpha && (d == ':' || d == '|')
  | _ => false

/-- A dot in its plain form or encoded, and what follows it. -/
def afterDot? : List Char → Option (List Char)
  | '.' :: cs => some cs
  | '%' :: '2' :: 'e' :: cs => some cs
  | '%' :: '2' :: 'E' :: cs => some cs
  | _ => none

def isDot (segment : List Char) : Bool := afterDot? segment == some []

def isDoubleDot (segment : List Char) : Bool := (afterDot? segment).any isDot

/-- A path that is being resolved: the segments so far, the last one first, and whether a drive
letter has displaced the host. -/
structure Progress where
  segments : List (List Char)
  displaced : Bool

/-- Takes one level off the path. A drive stays. -/
def Progress.up (p : Progress) : Progress :=
  match p.segments with
  | [] => p
  | last :: rest => if isDrive last then p else { p with segments := rest }

/-- Appends a segment. A drive in the first place is written with a colon. -/
def Progress.push (p : Progress) (segment : List Char) : Progress :=
  if p.segments.isEmpty ∧ isDrive segment then
    { segments := [segment.take 1 ++ [':']], displaced := true }
  else { p with segments := segment :: p.segments }

/-- The drive, written with a colon, and the rest of a segment that has a blank between the two. -/
def dividedDrive? (segment : List Char) : Option (List Char × List Char) :=
  let drive := (solid segment).take 2
  let behind := dropSolid 2 segment
  if isDrive drive ∧ drive.getLast? = some ':' ∧ behind.head?.any isBlank ∧ solid behind ≠ [] then
    some (drive, solid behind)
  else none

/-- Takes in a segment. A dot segment that is the last one leaves an empty segment, and in the
first place a drive is divided from what follows, which is taken as it stands. -/
def Progress.add (p : Progress) (segment : List Char) (isLast : Bool) : Progress :=
  let close (p : Progress) : Progress :=
    if isLast then { p with segments := [] :: p.segments } else p
  match if p.segments.isEmpty then dividedDrive? segment else none with
  | some (drive, rest) => { p with segments := [rest, drive] }
  | none =>
    let segment := solid segment
    if isDoubleDot segment then close p.up
    else if isDot segment then close p
    else p.push segment

/-- Resolves the segments in order. -/
def Progress.resolve (p : Progress) : List (List Char) → Progress
  | [] => p
  | segment :: rest => (p.add segment rest.isEmpty).resolve rest

/-- The segments without the empty ones that the path begins with. At least one stays. -/
def dropEmpty : List (List Char) → List (List Char)
  | [] => [[]]
  | [last] => [last]
  | [] :: rest => dropEmpty rest
  | first :: rest => first :: rest

/-- The URL with a host and the text of a path. -/
def ofPath (host : Option (List Char)) (path : List Char) : FileUrl :=
  let text := path.takeWhile (!endsPath ·)
  let done := Progress.resolve ⟨[], false⟩ (Text.pieces isSlash text)
  ⟨if done.displaced then none else host, dropEmpty done.segments.reverse⟩

/-- The host that a text names, in its normal form. -/
def host? (cs : List Char) : Option (List Char) :=
  match cs with
  | '[' :: rest =>
    if rest.getLast? = some ']' then
      (Ipv6.parse? rest.dropLast).map fun groups => '[' :: Ipv6.text groups ++ [']']
    else none
  | _ => do
    let name ← Domain.toAscii? (← Percent.decode? cs)
    if name.isEmpty then none
    else if Ipv4.endsInNumber name then (Ipv4.parse? name).map Ipv4.text
    else some name

/-- The slash that a text begins with, and what follows it. -/
def afterSlash? (cs : List Char) : Option (List Char) :=
  match cs.dropWhile isBlank with
  | c :: rest => if isSlash c then some rest else none
  | [] => none

/-- The URL with a host before its path. The machine itself counts as no host, and neither does a
drive, which is part of the path. -/
def ofAuthority? (cs : List Char) : Option FileUrl :=
  let text := cs.takeWhile fun c => !(isSlash c || endsPath c)
  let name := solid text
  let path := cs.drop text.length
  if isDrive name then some (ofPath none cs)
  else if name.isEmpty then some (ofPath none path)
  else do
    let host ← host? name
    if host = "localhost".toList then some (ofPath none path)
    else some (ofPath (some host) ((afterSlash? path).getD path))

/-- The URL with what follows the colon of the scheme. -/
def ofRest? (cs : List Char) : Option FileUrl :=
  match afterSlash? cs with
  | none => some (ofPath none cs)
  | some path =>
    match afterSlash? path with
    | none => some (ofPath none path)
    | some rest => ofAuthority? rest

/-- Drops the control characters and spaces around a text. -/
def trim (cs : List Char) : List Char :=
  let isEdge (c : Char) : Bool := c.toNat ≤ 0x20
  Text.dropTail isEdge (cs.dropWhile isEdge)

/-- Reads a URL of a file. -/
def parse? (cs : List Char) : Option FileUrl :=
  match Text.cutAt ':' (trim cs) with
  | none => none
  | some (scheme, rest) =>
    if Text.sameAscii (solid scheme) "file".toList then ofRest? rest else none

/-- The path of the URL, percent-encoded. -/
def path (url : FileUrl) : List Char := url.segments.flatMap ('/' :: ·)

end FileUrl

end CallHierarchy
