import CallHierarchy.Item.Basic
import CallHierarchy.Language

/-! Text documents as a server is told of them: opened with their text, and closed again. -/

namespace CallHierarchy

/-- A document with its text. -/
structure Document where
  uri : Uri
  language : String
  version : Int32
  text : String

namespace Document

/-- Why a file cannot be opened as a document. -/
inductive Error where
  | unreadable (path : String)
  | uri (path : String) (cause : Path.UriError)
  deriving DecidableEq, Repr

/-- The document of a file, from the bytes that were read at its path. -/
def ofFile (path : String) (bytes : Option (List UInt8)) : Except Error Document :=
  match bytes.bind Utf8.decode? with
  | none => .error (.unreadable path)
  | some text =>
    match Path.toUri path with
    | .error cause => .error (.uri path cause)
    | .ok uri => .ok ⟨uri, Language.ofPath path, 1, text⟩

/-- The parameters of the notification that the document is open. -/
def openParams (d : Document) : Json :=
  .object [("textDocument", .object [
    ("languageId", .string d.language),
    ("text", .string d.text),
    ("uri", d.uri.toJson),
    ("version", .int32 d.version)])]

/-- The document that such parameters are about. -/
def ofOpenParams? (v : Json) : Option Document := do
  match ← v.fields? ["textDocument"] 0 with
  | [some document] =>
    match ← document.fields? ["uri", "languageId", "version", "text"] 0 with
    | [some uri, some language, some version, some text] =>
      some ⟨← Uri.ofJson? uri, ← language.asString?, ← version.asInt32?, ← text.asString?⟩
    | _ => none
  | _ => none

/-- The parameters of the notification that the document at a URI is closed. -/
def closeParams (uri : Uri) : Json := .object [("textDocument", .object [("uri", uri.toJson)])]

end Document

/-- What is wrong with a path that has no URI. -/
def Path.UriError.message (path : String) : Path.UriError → String
  | unresolved => "Cannot resolve path: " ++ path
  | badCharacter absolute index =>
    "Invalid path for URI: " ++ absolute ++ ": unexpected character at index " ++ Decimal.text index

def Document.Error.message : Document.Error → String
  | unreadable path => "Failed to read " ++ path
  | uri path cause => cause.message path

end CallHierarchy
