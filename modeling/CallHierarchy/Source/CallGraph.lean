import CallHierarchy.Json.Basic
import CallHierarchy.Source.Function

/-! The calls between the functions of the open documents. A name with an opening parenthesis behind
it, in a body, calls every function of that name. -/

namespace CallHierarchy.Source

/-- The open documents: their texts by their URIs, in the order of the URIs. -/
abbrev Documents := Dictionary String

/-- A call: where it stands, in which function, and of which function. -/
structure CallSite where
  caller : Function
  callee : Function
  line : Nat
  column : Nat
  deriving DecidableEq, Repr

structure CallGraph where
  functions : List Function
  calls : List CallSite

/-- The characters of the words that positions are looked up in. -/
def isWordByte (b : UInt8) : Bool :=
  (48 ≤ b && b ≤ 57) || (65 ≤ b && b ≤ 90) || (97 ≤ b && b ≤ 122) || b == 95

/-- The columns at which a pattern is found from the left, where the characters begin at `column`.
One that is found is passed over before the next is looked for, and so are the first `skip`
characters. -/
def matchColumns (pattern : List Char) (skip column : Nat) : List Char → List Nat
  | [] => []
  | c :: cs =>
    match skip with
    | skip + 1 => matchColumns pattern skip (column + c.utf8Size) cs
    | 0 =>
      if pattern.isPrefixOf (c :: cs) then
        column :: matchColumns pattern (pattern.length - 1) (column + c.utf8Size) cs
      else matchColumns pattern 0 (column + c.utf8Size) cs

/-- The columns in a line at which a function of the name is called: the name with a parenthesis
behind it, and no byte of a word before it. -/
def callColumns (name : String) (line : List Char) : List Nat :=
  let bytes := Utf8.encode (String.ofList line)
  (matchColumns (name.toList ++ "(".toList) 0 0 line).filter fun column =>
    column = 0 || !bytes[column - 1]?.any isWordByte

/-- The word that covers a column of the bytes of a line. -/
def wordAt? (bytes : List UInt8) (column : Nat) : Option (List UInt8) :=
  if bytes[column]?.any isWordByte then
    some (((bytes.take column).reverse.takeWhile isWordByte).reverse ++
      (bytes.drop column).takeWhile isWordByte)
  else none

/-- The word that covers a column of a line of a text. -/
def wordIn? (text : String) (line column : Nat) : Option String := do
  let chars ← (Text.lines text.toList)[line]?
  Utf8.decode? (← wordAt? (Utf8.encode (String.ofList chars)) column)

namespace CallGraph

/-- The calls in one line of a body. In the line of the definition the name defined is no call. -/
def callsInLine (functions : List Function) (caller : Function) (line : List Char) (index : Nat) :
    List CallSite :=
  if isComment line then []
  else
    let first := if index = caller.line then caller.nameColumn + caller.nameWidth else 0
    functions.flatMap fun callee =>
      ((callColumns callee.name line).filter (first ≤ ·)).map (⟨caller, callee, index, ·⟩)

/-- The calls in the body of a function. -/
def callsIn (functions : List Function) (caller : Function) (lines : List (List Char)) :
    List CallSite :=
  ((lines.zipIdx.take (caller.endLine + 1)).drop caller.line).flatMap fun (line, index) =>
    callsInLine functions caller line index

/-- The functions and calls of the open documents. -/
def build (documents : Documents) : CallGraph :=
  let functions := documents.flatMap fun (uri, text) => Source.functions uri text
  let calls := functions.flatMap fun caller =>
    match documents.get? caller.uri with
    | none => []
    | some text => callsIn functions caller (Text.lines text.toList)
  ⟨functions, calls⟩

/-- The function that is defined at a place, or else the first one with the name at the place. -/
def atPosition? (g : CallGraph) (uri text : String) (line column : Nat) : Option Function := do
  let word ← wordIn? text line column
  let defined := g.functions.find? fun f => f.uri == uri && f.name == word && f.line == line
  defined <|> g.functions.find? fun f => f.name == word

/-- The function with a name that is defined in a line of a document. -/
def find? (g : CallGraph) (uri name : String) (line : Nat) : Option Function :=
  g.functions.find? fun f => f.uri == uri && f.name == name && f.line == line

/-- Puts a call into the group of a function. A new group stands behind the others. -/
def addTo (key : Function) (site : CallSite) :
    List (Function × List CallSite) → List (Function × List CallSite)
  | [] => [(key, [site])]
  | (k, sites) :: rest =>
    if k = key then (k, sites ++ [site]) :: rest else (k, sites) :: addTo key site rest

/-- The calls that `select` picks, in groups by the function that it picks for them. -/
def group (g : CallGraph) (select : CallSite → Option Function) :
    List (Function × List CallSite) :=
  g.calls.foldl (fun groups site =>
    match select site with
    | some key => addTo key site groups
    | none => groups) []

/-- The calls of a function, by their callers. -/
def incoming (g : CallGraph) (target : Function) : List (Function × List CallSite) :=
  g.group fun site => if site.callee = target then some site.caller else none

/-- The calls in a function, by their callees. -/
def outgoing (g : CallGraph) (source : Function) : List (Function × List CallSite) :=
  g.group fun site => if site.caller = source then some site.callee else none

end CallGraph

end CallHierarchy.Source
