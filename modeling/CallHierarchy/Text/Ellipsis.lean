/-! Shortening a text to a number of characters, with three dots for what is left out. -/

namespace CallHierarchy.Ellipsis

def dots (n : Nat) : List Char := List.replicate n '.'

/-- The text itself if it has at most `limit` characters, and else a text of `limit` characters
that ends in dots. -/
def truncate (limit : Nat) (cs : List Char) : List Char :=
  if cs.length ≤ limit then cs
  else if limit ≤ 3 then dots limit
  else cs.take (limit - 3) ++ dots 3

end CallHierarchy.Ellipsis
