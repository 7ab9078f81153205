/-! The words for the kinds and tags of symbols. Kinds and tags without a word of their own have a
common one. -/

namespace CallHierarchy.Symbol

/-- The icons of the kinds that have one. -/
def icons : List (Int32 × String) := [
  (1, "type-file"),
  (2, "type-module"),
  (3, "type-namespace"),
  (4, "type-package"),
  (5, "type-class"),
  (6, "type-method"),
  (7, "type-property"),
  (8, "type-field"),
  (9, "type-constructor"),
  (10, "type-enum"),
  (11, "type-interface"),
  (12, "type-function"),
  (13, "type-variable"),
  (14, "type-constant"),
  (15, "type-string"),
  (16, "type-number"),
  (17, "type-boolean"),
  (18, "type-array"),
  (22, "type-constant"),
  (23, "type-class")]

/-- The icon of a kind. -/
def icon (kind : Int32) : String := (icons.lookup kind).getD "type-symbol"

def deprecated : String := "deprecated"

/-- The label of a tag. -/
def label (tag : Int32) : String := if tag = 1 then deprecated else "unknown"

end CallHierarchy.Symbol
