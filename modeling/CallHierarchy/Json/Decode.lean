import CallHierarchy.Json.Basic

/-! Records as JSON. A record is written as an object, and is read from an object by the names of
its fields or from an array of its fields in order. -/

namespace CallHierarchy.Json

/-- The values of a record's fields, in order. The last `spare` fields may be left out of an array;
in an object each may be left out. -/
def fields? (names : List String) (spare : Nat) : Json → Option (List (Option Json))
  | .object members => some (names.map fun name => Dictionary.get? name members)
  | .array elements =>
    if elements.length ≤ names.length ∧ names.length ≤ elements.length + spare then
      some (elements.map some ++ List.replicate (names.length - elements.length) none)
    else none
  | _ => none

/-- A field that may be absent or `null`. -/
def optional {α : Type} (read : Json → Option α) (field : Option Json) : Option (Option α) :=
  match present field with
  | none => some none
  | some v => (read v).map some

@[simp] theorem optional_none {α : Type} (read : Json → Option α) :
    optional read none = some none := rfl

/-- An array of values of one kind. -/
def list? {α : Type} (read : Json → Option α) : Json → Option (List α)
  | .array elements => elements.mapM read
  | _ => none

/-- A list, or `null` for none. -/
def nullable? {α : Type} (read : Json → Option α) : Json → Option (Option α)
  | .null => some none
  | v => (read v).map some

end CallHierarchy.Json
