/-!
# Coloured text

A styled text stands between the sequence of its style and the reset sequence. A reset inside the
text would end the style early, so the style is set again after each one. Without colours a styled
text is the text itself.
-/

namespace TypedQuery

/-- The styles in use. -/
inductive Style where
  | cyan
  | green
  | yellow
  | purple
  | dimmed
  | boldRed
deriving DecidableEq, Repr

namespace Style

/-- The parameters of a style's sequence. -/
def parameters : Style → String
  | cyan => "36"
  | green => "32"
  | yellow => "33"
  | purple => "35"
  | dimmed => "2"
  | boldRed => "1;31"

/-- The sequence that sets a style. -/
def sequence (style : Style) : List Char := '\x1b' :: '[' :: style.parameters.toList ++ ['m']

/-- The sequence that ends every style. -/
def reset : List Char := ['\x1b', '[', '0', 'm']

/-- A text with a sequence after each of its resets. -/
def setAgain (sequence : List Char) : List Char → List Char
  | '\x1b' :: '[' :: '0' :: 'm' :: rest => reset ++ sequence ++ setAgain sequence rest
  | c :: rest => c :: setAgain sequence rest
  | [] => []

/-- A text in a style, if colours are on. -/
def paint (style : Style) (color : Bool) (text : String) : String :=
  if color then
    String.ofList (style.sequence ++ setAgain style.sequence text.toList ++ reset)
  else text

end Style

end TypedQuery
