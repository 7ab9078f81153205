import CallHierarchy.Direction

/-! Colors on a terminal, switched on and off by escape sequences. -/

namespace CallHierarchy

/-- Whether text is colored. -/
structure Color where
  enabled : Bool
  deriving DecidableEq, Repr

namespace Color

/-- The escape sequence with a code. -/
def sequence (code : String) : String := "\x1b[" ++ code ++ "m"

def paint (color : Color) (code text : String) : String :=
  if color.enabled then sequence code ++ text ++ sequence "0" else text

def green (color : Color) : String → String := color.paint "32"

def blue (color : Color) : String → String := color.paint "34"

def red (color : Color) : String → String := color.paint "31"

def dim (color : Color) : String → String := color.paint "2"

/-- Callers are green and callees blue. -/
def symbol (color : Color) : Direction → String → String
  | .incoming => color.green
  | .outgoing => color.blue

end Color

end CallHierarchy
