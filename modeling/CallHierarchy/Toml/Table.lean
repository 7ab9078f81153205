import CallHierarchy.Settings.Value

/-! Tables while they are being written down. A table may come to be by a header, by a longer header
that leads through it, or by a key with points. What may be added to it later depends on that. -/

namespace CallHierarchy.Toml

/-- How a table came to be. -/
inductive Origin where
  /-- By a header of its own. -/
  | header
  /-- By a header of a table within it. -/
  | implied
  /-- By a key with points. -/
  | dotted
  deriving DecidableEq, Repr

/-- What stands at a key. -/
inductive Entry where
  | value (v : Value)
  | table (origin : Origin) (entries : List (String × Entry))
  /-- A row of tables, the last one first. -/
  | tables (rows : List (List (String × Entry)))
  deriving Inhabited

/-- A table, its keys in the order in which they came. -/
abbrev Entries := List (String × Entry)

namespace Entries

def find? (key : String) (es : Entries) : Option Entry := es.lookup key

/-- Puts an entry in the place of the one at its key, or behind all others. -/
def put (key : String) (e : Entry) : Entries → Entries
  | [] => [(key, e)]
  | (k, old) :: rest => if k = key then (k, e) :: rest else (k, old) :: put key e rest

/-- Sets the value at a key, whose parts lead through tables that keys with points made. -/
def assign (v : Value) : List String → Entries → Option Entries
  | [], _ => none
  | [key], es => if (es.find? key).isSome then none else some (es.put key (.value v))
  | key :: rest, es =>
    match es.find? key with
    | none => (assign v rest []).map fun sub => es.put key (.table .dotted sub)
    | some (.table .dotted sub) =>
      (assign v rest sub).map fun sub => es.put key (.table .dotted sub)
    | some _ => none

/-- Changes the table that a header leads to by what `last` does to the entry at its last key. -/
def through (last : Option Entry → Option Entry) : List String → Entries → Option Entries
  | [], _ => none
  | [key], es => (last (es.find? key)).map (es.put key)
  | key :: rest, es =>
    match es.find? key with
    | none => (through last rest []).map fun sub => es.put key (.table .implied sub)
    | some (.table origin sub) =>
      (through last rest sub).map fun sub => es.put key (.table origin sub)
    | some (.tables (row :: rows)) =>
      (through last rest row).map fun row => es.put key (.tables (row :: rows))
    | some _ => none

/-- The table of a header, which must be new. -/
def openTable : Option Entry → Option Entry
  | none => some (.table .header [])
  | some (.table .implied sub) => some (.table .header sub)
  | some _ => none

/-- A further table of the row of a header. -/
def openRow : Option Entry → Option Entry
  | none => some (.tables [[]])
  | some (.tables rows) => some (.tables ([] :: rows))
  | some _ => none

/-- Sets a value in the table that was opened last. -/
def assignIn (key : List String) (v : Value) : Option Entry → Option Entry
  | some (.table origin sub) => (assign v key sub).map (.table origin)
  | some (.tables (row :: rows)) => (assign v key row).map fun row => .tables (row :: rows)
  | _ => none

end Entries

mutual

/-- The value that has been written down. -/
def Entry.toValue : Entry → Value
  | .value v => v
  | .table _ entries => .table (entriesToValues entries)
  | .tables rows => .array (rowsToValues rows).reverse

def rowsToValues : List (List (String × Entry)) → List Value
  | [] => []
  | row :: rest => .table (entriesToValues row) :: rowsToValues rest

def entriesToValues : List (String × Entry) → List (String × Value)
  | [] => []
  | (key, e) :: rest => Dictionary.insert key e.toValue (entriesToValues rest)

end

end CallHierarchy.Toml
