import CallHierarchy.Item.Basic
import CallHierarchy.Item.Symbol

/-! Entries of a call tree: items in the form in which they are shown. -/

namespace CallHierarchy

/-- An item ready to be shown, with the item as the server sent it. -/
structure Entry where
  path : String
  name : String
  icon : String
  tags : List String
  /-- Empty where the server gave none. -/
  detail : String
  range : Range
  selectionRange : Range
  item : Item

namespace Entry

/-- The entry of an item, its path written in a style. -/
def ofItem (style : PathStyle) (item : Item) : Entry where
  path := Path.ofUri style item.uri.text
  name := item.name
  icon := Symbol.icon item.kind
  tags := (item.tags.getD []).map Symbol.label
  detail := item.detail.getD ""
  range := item.range
  selectionRange := item.selectionRange
  item := item

def isDeprecated (entry : Entry) : Bool := entry.tags.contains Symbol.deprecated

/-- Whether two entries are the same symbol: one name at one place. -/
def sameSymbol (a b : Entry) : Bool :=
  a.name == b.name && a.path == b.path && a.selectionRange == b.selectionRange

end Entry

/-- A place as entries show it. -/
def Position.toRowColumn (p : Position) : Json :=
  .object [("row", .word32 p.line), ("column", .word32 p.character)]

def Range.toRowColumn (r : Range) : Json :=
  .object [("start", r.start.toRowColumn), ("end", r.stop.toRowColumn)]

/-- The fields of an item in the order in which they are shown. -/
def Item.shownFields (item : Item) : List (String × Option Json) := [
  ("name", some (.string item.name)),
  ("kind", some (.int32 item.kind)),
  ("tags", item.tags.map fun tags => .array (tags.map .int32)),
  ("detail", item.detail.map .string),
  ("uri", some item.uri.toJson),
  ("range", some (shownRange item.range)),
  ("selectionRange", some (shownRange item.selectionRange)),
  ("data", item.data)]
where
  shownPosition (p : Position) : Json :=
    .object [("line", .word32 p.line), ("character", .word32 p.character)]
  shownRange (r : Range) : Json :=
    .object [("start", shownPosition r.start), ("end", shownPosition r.stop)]

/-- The fields of an entry in the order in which they are shown. -/
def Entry.shownFields (entry : Entry) : List (String × Json) := [
  ("path", .string entry.path),
  ("name", .string entry.name),
  ("icon", .string entry.icon),
  ("tags", .array (entry.tags.map .string)),
  ("detail", .string entry.detail),
  ("range", entry.range.toRowColumn),
  ("selectionRange", entry.selectionRange.toRowColumn),
  ("rawData", .ofFields entry.item.shownFields)]

def Entry.toJson (entry : Entry) : Json := .object entry.shownFields

end CallHierarchy
