import CallHierarchy.Json.Decode

/-! The forms that JSON values may have. A form is a test, and forms are put together from smaller
ones as the values are. -/

namespace CallHierarchy.Json

/-- A form that a value may have. -/
abbrev Form := Json → Bool

/-- A field of a record: its name, and what may stand for it, be it a value or nothing. -/
structure Field where
  name : String
  admits : Option Json → Bool

/-- The fields of a record by name: of an object that has the fields, with whatever else, or of an
array of just the fields in order. -/
def row? (fields : List Field) (v : Json) : Option (List (String × Option Json)) := do
  let names := fields.map (·.name)
  let values ← v.fields? names 0
  guard ((fields.zip values).all fun (field, value) => field.admits value)
  return names.zip values

namespace Form

def anything : Form := fun _ => true

def flag : Form := fun v => v.asBool?.isSome

def text : Form := fun v => v.asString?.isSome

/-- An integer of 32 bits. -/
def code : Form := fun v => (v.asInt? (-0x80000000) 0x7FFFFFFF).isSome

/-- An array of values of one form. -/
def listOf (form : Form) : Form := fun v => v.asArray?.any (·.all form)

/-- A value of one of several forms. -/
def either (forms : List Form) : Form := fun v => forms.any (· v)

/-- One of a few words, or an object whose only key is such a word and has no value. -/
def wordOf (words : List String) : Form
  | .string s => words.contains s
  | .object [(key, .null)] => words.contains key
  | _ => false

/-- An object that has the fields, with whatever else. -/
def group (fields : List Field) : Form
  | .object members => fields.all fun field => field.admits (Dictionary.get? field.name members)
  | _ => false

/-- A record, as an object or as an array. -/
def record (fields : List Field) : Form := fun v => (row? fields v).isSome

end Form

namespace Field

/-- A field that is always there. -/
def required (name : String) (form : Form) : Field := ⟨name, fun v => v.any form⟩

/-- A field that may be absent or `null`. -/
def optional (name : String) (form : Form) : Field := ⟨name, fun v => (present v).all form⟩

end Field

end CallHierarchy.Json
