import CallHierarchy.Url.File
import CallHierarchy.Url.Reference

/-! Paths of files: their components, file name and extension, and their passage to URIs and back.
A URI that names no file stands for itself. -/

namespace CallHierarchy

/-- Which separators a path is written with. The native style is that of the platform. -/
inductive PathStyle where
  | posix
  | windows
  | native
  deriving DecidableEq, Repr, Inhabited

namespace PathStyle

def name : PathStyle → String
  | .posix => "posix"
  | .windows => "windows"
  | .native => "native"

def ofName? (s : String) : Option PathStyle := [posix, windows, native].find? (·.name == s)

/-- The style itself, with that of the platform in place of the native one. -/
def resolve : PathStyle → PathStyle
  | .native => .posix
  | style => style

end PathStyle

/-- A text that is a URI reference. -/
structure Uri where
  text : String
  isReference : Reference.accepts text.toList = true
  deriving DecidableEq

namespace Uri

def ofString? (s : String) : Option Uri :=
  if h : Reference.accepts s.toList then some ⟨s, h⟩ else none

end Uri

namespace Path

/-- Whether the text begins with a letter and a colon. -/
def startsWithDrive : List Char → Bool
  | c :: ':' :: _ => c.isAlpha
  | _ => false

/-- The path with its leading backslash taken off where a drive follows it. -/
def stripDriveSlash : List Char → List Char
  | '\\' :: rest => if startsWithDrive rest then rest else '\\' :: rest
  | path => path

def toBackslashes (cs : List Char) : List Char := cs.map fun c => if c = '/' then '\\' else c

/-- Writes a path, and the host that it is on, in a style. -/
def render (style : PathStyle) (host : Option (List Char)) (path : List Char) : List Char :=
  if style.resolve = .windows then
    match host with
    | none => stripDriveSlash (toBackslashes path)
    | some host => '\\' :: '\\' :: host ++ toBackslashes path
  else
    match host with
    | none => path
    | some host => '/' :: '/' :: host ++ path

/-- The path that the URI of a file names. -/
def ofFileUri? (style : PathStyle) (uri : List Char) : Option (List Char) := do
  let url ← FileUrl.parse? uri
  let path ← Percent.decode? url.path
  some (render style url.host path)

/-- The path that a URI names; the URI itself if it names none. -/
def ofUri (style : PathStyle) (uri : String) : String :=
  match ofFileUri? style uri.toList with
  | some path => String.ofList path
  | none => uri

/-- The components of a path: empty ones and single dots do not count. -/
def components (path : List Char) : List (List Char) :=
  (Text.pieces (· == '/') path).filter fun c => c ≠ [] ∧ c ≠ ['.']

/-- The path from the root through components. -/
def ofComponents (parts : List (List Char)) : List Char := '/' :: Text.join ['/'] parts

/-- The slashes that an absolute path begins with. Exactly two are kept, as they may mean something;
more are one. -/
def rootOf : List Char → List Char
  | '/' :: '/' :: '/' :: _ => ['/']
  | '/' :: '/' :: _ => ['/', '/']
  | _ => ['/']

/-- The path in its plain form, from the root. A relative path counts from the root too, and a slash
at the end stays. -/
def absolute (path : List Char) : List Char :=
  let parts := components path
  let isOpen := path.getLast? = some '/' ∧ parts ≠ []
  rootOf path ++ Text.join ['/'] parts ++ (if isOpen then ['/'] else [])

/-- The last component, unless it leads up. -/
def fileName? (path : List Char) : Option (List Char) :=
  match (components path).getLast? with
  | some last => if last = ['.', '.'] then none else some last
  | none => none

/-- Drops, from the end of a path that is given backwards, what is no part of a component's name. -/
def dropClosing : List Char → List Char
  | '/' :: rest => dropClosing rest
  | '.' :: '/' :: rest => dropClosing rest
  | rest => rest

/-- The path with something appended to its file name. -/
def extended? (path suffix : List Char) : Option (List Char) :=
  (fileName? path).map fun _ => (dropClosing path.reverse).reverse ++ suffix

/-- What follows the last point of a name, if something stands before that point. -/
def extensionOf? (name : List Char) : Option (List Char) :=
  match Text.cutAt '.' name.reverse with
  | some (behind, before) => if before.isEmpty then none else some behind.reverse
  | none => none

def extension? (path : List Char) : Option (List Char) := (fileName? path).bind extensionOf?

/-- The characters that stay as they are when a component goes into a URI. -/
def staysInUri (c : Char) : Bool :=
  0x20 < c.toNat && c.toNat < 0x7F && !("\"#<>?/%\\\x7b\x7d".toList.contains c) &&
    c.toNat != 96

/-- The URI of a path, before it is checked. -/
def uriText (path : List Char) : List Char :=
  "file://".toList ++
    match components path with
    | [] => ['/']
    | parts => parts.flatMap fun part => '/' :: Percent.encode staysInUri part

/-- Why a path has no URI. -/
inductive UriError where
  /-- The path is empty. -/
  | unresolved
  /-- The URI would have a character out of place at a byte. -/
  | badCharacter (path : String) (index : Nat)
  deriving DecidableEq, Repr

/-- Where the first character stands that no path in a URI may have. -/
def badIndex (uri : List Char) : Nat :=
  Utf8.width (uri.takeWhile fun c => Reference.isPathChar c || c == '%')

/-- The URI of a path. -/
def toUri (path : String) : Except UriError Uri :=
  if path.isEmpty then .error .unresolved
  else
    let text := uriText path.toList
    match Uri.ofString? (String.ofList text) with
    | some uri => .ok uri
    | none => .error (.badCharacter (String.ofList (absolute path.toList)) (badIndex text))

end Path

end CallHierarchy
