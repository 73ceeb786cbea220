import TypedQuery.Number.Shortest

/-!
# Numbers of a JSON text

A number is an integer of at most 64 bits or a binary64 number, and the two kinds stay apart: `1`
and `1.0` are different values.
-/

namespace TypedQuery

/-- A number as JSON holds it. -/
inductive Number where
  /-- An integer between `-2 ^ 63` and `2 ^ 64 - 1`. -/
  | integer (value : Int)
  | float (value : Binary64)
deriving DecidableEq, Repr

namespace Number

/-- Equality of values within one kind. -/
def same : Number → Number → Bool
  | integer a, integer b => a == b
  | float a, float b => a.same b
  | _, _ => false

/-- The text of an integer. -/
def integerText (n : Int) : List Char :=
  (if n < 0 then ['-'] else []) ++ Nat.toDigits 10 n.natAbs

/-- The text of a number. -/
def text : Number → String
  | integer n => String.ofList (integerText n)
  | float x => String.ofList x.text

end Number

end TypedQuery
