import TypedQuery.Text.CodePoints

/-!
# White space

The Unicode property `White_Space`, and the text left when it is taken off both ends.
-/

namespace TypedQuery.Text

/-- The white space code points. -/
def blankRanges : List (Nat × Nat) := [
  (0x9, 0xD), (0x20, 0x20), (0x85, 0x85), (0xA0, 0xA0), (0x1680, 0x1680), (0x2000, 0x200A),
  (0x2028, 0x2029), (0x202F, 0x202F), (0x205F, 0x205F), (0x3000, 0x3000)]

/-- Whether a character is white space. -/
def isBlank (c : Char) : Bool :=
  inRanges blankRanges c

/-- A text without the white space at its ends. -/
def trimmed (s : String) : String :=
  String.ofList ((s.toList.dropWhile isBlank).reverse.dropWhile isBlank).reverse

end TypedQuery.Text
