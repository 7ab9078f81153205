import CallHierarchy.Json.Decode
import CallHierarchy.Path

/-! The items of a call hierarchy: symbols with their place in a document, and the calls between
them. Their JSON forms are those of the Language Server Protocol. -/

namespace CallHierarchy

/-- A place in a document: a line and a character in it, both counted from zero. -/
structure Position where
  line : UInt32
  character : UInt32
  deriving DecidableEq, Repr, Inhabited

/-- The characters from `start` up to `stop`. -/
structure Range where
  start : Position
  stop : Position
  deriving DecidableEq, Repr, Inhabited

/-- A symbol. The data are the server's own, and go back to it unchanged. -/
structure Item where
  name : String
  kind : Int32
  tags : Option (List Int32)
  detail : Option String
  uri : Uri
  range : Range
  selectionRange : Range
  data : Option Json

namespace Json

def word32 (n : UInt32) : Json := nat n.toNat

def asWord32? (v : Json) : Option UInt32 := (v.asNat? 0xFFFFFFFF).map UInt32.ofNat

def int32 (n : Int32) : Json := int n.toInt

def asInt32? (v : Json) : Option Int32 := (v.asInt? (-0x80000000) 0x7FFFFFFF).map Int32.ofInt

end Json

namespace Position

/-- Order by line, and by character within a line. -/
def compare (a b : Position) : Ordering :=
  (Ord.compare a.line b.line).then (Ord.compare a.character b.character)

def toJson (p : Position) : Json :=
  .object [("character", .word32 p.character), ("line", .word32 p.line)]

def ofJson? (v : Json) : Option Position := do
  match ← v.fields? ["line", "character"] 0 with
  | [some line, some character] => some ⟨← line.asWord32?, ← character.asWord32?⟩
  | _ => none

end Position

namespace Range

def toJson (r : Range) : Json := .object [("end", r.stop.toJson), ("start", r.start.toJson)]

def ofJson? (v : Json) : Option Range := do
  match ← v.fields? ["start", "end"] 0 with
  | [some start, some stop] => some ⟨← Position.ofJson? start, ← Position.ofJson? stop⟩
  | _ => none

end Range

namespace Uri

def toJson (uri : Uri) : Json := .string uri.text

def ofJson? (v : Json) : Option Uri := v.asString?.bind ofString?

end Uri

namespace Item

/-- The item as an object, its keys in increasing order. -/
def toJson (item : Item) : Json :=
  .ofFields [
    ("data", item.data),
    ("detail", item.detail.map .string),
    ("kind", some (.int32 item.kind)),
    ("name", some (.string item.name)),
    ("range", some item.range.toJson),
    ("selectionRange", some item.selectionRange.toJson),
    ("tags", item.tags.map fun tags => .array (tags.map .int32)),
    ("uri", some item.uri.toJson)]

def fieldNames : List String :=
  ["name", "kind", "tags", "detail", "uri", "range", "selectionRange", "data"]

def ofJson? (v : Json) : Option Item := do
  match ← v.fields? fieldNames 0 with
  | [some name, some kind, tags, detail, some uri, some range, some selection, data] =>
    some {
      name := ← name.asString?
      kind := ← kind.asInt32?
      tags := ← Json.optional (Json.list? Json.asInt32?) tags
      detail := ← Json.optional Json.asString? detail
      uri := ← Uri.ofJson? uri
      range := ← Range.ofJson? range
      selectionRange := ← Range.ofJson? selection
      data := Json.present data }
  | _ => none

end Item

/-- A symbol at the other end of calls, and the places of the calls. -/
structure Call where
  item : Item
  ranges : List Range

namespace Call

/-- Reads a call. The name of the field with the symbol differs by direction. -/
def ofJson? (key : String) (v : Json) : Option Call := do
  match ← v.fields? [key, "fromRanges"] 0 with
  | [some item, some ranges] => some ⟨← Item.ofJson? item, ← Json.list? Range.ofJson? ranges⟩
  | _ => none

end Call

end CallHierarchy
