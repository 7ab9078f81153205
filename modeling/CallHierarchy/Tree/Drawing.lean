import CallHierarchy.Color
import CallHierarchy.Text.Ellipsis
import CallHierarchy.Tree.Basic

/-! Call trees drawn as text, one symbol on each line. The lines below a symbol are indented, and
branches show to which symbol they belong. -/

namespace CallHierarchy.Drawing

/-- The lines and branches before a symbol. For each ancestor below the root, and for the symbol
itself, it says whether it is the last of its siblings. -/
def branch (ancestorsLast : List Bool) (isLast : Bool) : String :=
  String.join (ancestorsLast.map fun last => if last then "    " else "│   ") ++
    (if isLast then "└── " else "├── ")

/-- The greatest length of a detail. -/
def detailWidth : Nat := 60

/-- A line or column as readers count it, from one. -/
def ordinal (n : UInt32) : String := Decimal.text (min (n.toNat + 1) 0xFFFFFFFF)

def location (entry : Entry) : String :=
  entry.path ++ ":" ++ ordinal entry.selectionRange.start.line ++ ":" ++
    ordinal entry.selectionRange.start.character

/-- The text of one symbol. -/
def symbolText (color : Color) (direction : Direction) (tree : Tree) : String :=
  let entry := tree.entry
  color.symbol direction entry.name ++ " " ++ color.dim ("(" ++ entry.icon ++ ")") ++
    (if entry.isDeprecated then " " ++ color.red "[deprecated]" else "") ++
    "  " ++ color.dim (location entry) ++
    (if entry.detail.isEmpty then ""
      else "  " ++ color.dim (String.ofList (Ellipsis.truncate detailWidth entry.detail.toList))) ++
    (if tree.recursive then " " ++ color.dim "(recursive)" else "")

mutual

/-- The lines below a symbol. -/
def below (color : Color) (direction : Direction) (ancestorsLast : List Bool) :
    List Tree → String
  | [] => ""
  | tree :: rest =>
    let path := ancestorsLast ++ [rest.isEmpty]
    branch ancestorsLast rest.isEmpty ++ whole color direction path tree ++
      below color direction ancestorsLast rest

/-- The line of a symbol, behind its branch, and the lines below it. -/
def whole (color : Color) (direction : Direction) (path : List Bool) : Tree → String
  | ⟨entry, children, expanded, recursive⟩ =>
    symbolText color direction ⟨entry, children, expanded, recursive⟩ ++ "\n" ++
      below color direction path children

end

/-- The text of a row of trees. -/
def draw (color : Color) (direction : Direction) (trees : List Tree) : String :=
  String.join (trees.map (whole color direction []))

end CallHierarchy.Drawing
