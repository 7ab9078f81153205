import CallHierarchy.Text.Basic
import CallHierarchy.Text.Letter
import CallHierarchy.Text.Utf8

/-! The functions that a source text defines. A line that begins with a keyword and a name defines a
function, whose body runs up to the next definition. Columns count bytes. -/

namespace CallHierarchy.Source

/-- The characters of names. -/
def isNameChar (c : Char) : Bool := Text.isLetterOrDigit c || c == '_'

/-- A definition as its line gives it. -/
structure Definition where
  name : List Char
  /-- The bytes before the text of the line. -/
  indent : Nat
  /-- The bytes before the name. -/
  nameColumn : Nat
  /-- The text of the line, without what opens the body. -/
  detail : List Char
  deriving DecidableEq, Repr

namespace Definition

/-- The words that begin a definition. -/
def keywords : List (List Char) := ["fn ".toList, "function ".toList, "def ".toList]

/-- The word that makes a definition visible to others. -/
def visibility : List Char := "pub ".toList

/-- The definition that a line begins. -/
def ofLine? (line : List Char) : Option Definition := do
  let text := Text.trimStart line
  let plain := (Text.after? visibility text).getD text
  let rest ← keywords.findSome? (Text.after? · plain)
  let name := rest.takeWhile isNameChar
  if name.isEmpty then none
  else some {
    name
    indent := Utf8.width line - Utf8.width text
    nameColumn := Utf8.width line - Utf8.width rest
    detail := Text.trimEnd (Text.dropTail (fun c => c == '\x7b' || c == ':') (Text.trimEnd text)) }

end Definition

/-- A function of a document. -/
structure Function where
  uri : String
  name : String
  deprecated : Bool
  detail : String
  line : Nat
  indent : Nat
  nameColumn : Nat
  /-- The last line of the body. -/
  endLine : Nat
  /-- The bytes in that line. -/
  endColumn : Nat
  deriving DecidableEq, Repr

namespace Function

/-- The kind of the symbol: a method where the definition is indented, and else a function. -/
def kind (f : Function) : Nat := if f.indent = 0 then 12 else 6

/-- The number of bytes of the name. -/
def nameWidth (f : Function) : Nat := f.name.utf8ByteSize

end Function

def isBlankLine (line : List Char) : Bool := (Text.trim line).isEmpty

/-- Whether the line says that the next definition is deprecated. -/
def isDeprecation (line : List Char) : Bool :=
  let text := Text.trim line
  "#[deprecated".toList.isPrefixOf text || "@deprecated".toList.isPrefixOf text

def isComment (line : List Char) : Bool :=
  let text := Text.trimStart line
  "//".toList.isPrefixOf text || ['#'].isPrefixOf text

/-- Whether the last line before a place that is not blank says that what follows is deprecated. -/
def endsInDeprecation (lines : List (List Char)) : Bool :=
  (lines.reverse.find? (!isBlankLine ·)).any isDeprecation

/-- The index of the last line that belongs to a body: it is neither blank nor a deprecation. -/
def lastOfBody (lines : List (List Char)) : Nat :=
  ((lines.zipIdx.filter fun (line, _) => !isBlankLine line && !isDeprecation line).getLast?.map
    Prod.snd).getD 0

/-- The lines that begin a definition. -/
def definitions (lines : List (List Char)) : List (Definition × Nat) :=
  lines.zipIdx.filterMap fun (line, index) => (Definition.ofLine? line).map (·, index)

/-- The function of a definition whose body ends before the line `next`. -/
def toFunction (uri : String) (lines : List (List Char)) (d : Definition) (index next : Nat) :
    Function :=
  let body := (lines.drop index).take (next - index)
  let last := lastOfBody body
  { uri
    name := String.ofList d.name
    deprecated := endsInDeprecation (lines.take index)
    detail := String.ofList d.detail
    line := index
    indent := d.indent
    nameColumn := d.nameColumn
    endLine := index + last
    endColumn := Utf8.width (body[last]?.getD []) }

/-- The functions of definitions in the order of their lines, each body ending before the next. -/
def close (uri : String) (lines : List (List Char)) : List (Definition × Nat) → List Function
  | [] => []
  | [(d, index)] => [toFunction uri lines d index lines.length]
  | (d, index) :: (d', next) :: rest =>
    toFunction uri lines d index next :: close uri lines ((d', next) :: rest)

/-- The functions that a text defines, in the order of their lines. -/
def functions (uri text : String) : List Function :=
  let lines := Text.lines text.toList
  close uri lines (definitions lines)

end CallHierarchy.Source
