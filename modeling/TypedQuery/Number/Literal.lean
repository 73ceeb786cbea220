import TypedQuery.Number.Basic

/-!
# The value of a number literal

A literal is a sign, the digits before the point, and perhaps digits after it and an exponent.
Without point and exponent it is an integer if 64 bits hold it, except that `-0` is the negative
zero of binary64.

Any other literal is a binary64 number. Its digits are read into a significand of 64 bits as long as
they fit; the digits before the point that no longer fit count as zeros, and those after it are left
out. The significand is rounded to binary64 and then scaled by a power of ten which is itself
rounded, so a literal with many digits need not give the nearest number. Powers of ten end at `10 ^
308`; a smaller number is reached by two divisions.
-/

namespace TypedQuery

/-- The parts of a number literal. -/
structure Literal where
  negative : Bool
  whole : List Nat
  fraction : List Nat := []
  /-- The sign and the digits after `e`. -/
  exponent : Option (Bool × List Nat) := none
  /-- Whether the literal has a point. -/
  hasPoint : Bool := false
deriving DecidableEq, Repr

namespace Literal

/-- The greatest significand. -/
def maxSignificand : Nat := Nat.pow 2 64 - 1

/-- Appends digits to a significand as long as it fits. The second result is the digits that were
left over. -/
def appendDigits (significand : Nat) : List Nat → Nat × List Nat
  | [] => (significand, [])
  | digit :: rest =>
    if significand * 10 + digit ≤ maxSignificand then appendDigits (significand * 10 + digit) rest
    else (significand, digit :: rest)

/-- The largest power of ten that one scaling step uses. -/
def maxPower : Nat := 308

/-- The binary64 number nearest to a power of ten. -/
def powerOfTen (k : Nat) : Option Magnitude := Magnitude.ofNat? (Nat.pow 10 k)

/-- The significand times the power of ten, each step rounded. A number below `10 ^ -616` is zero,
since the significand has 64 bits. -/
def scale (significand : Magnitude) (exponent : Int) : Option Magnitude :=
  if significand.isZero then some significand
  else if exponent > maxPower then none
  else if 0 ≤ exponent then do significand.mul? (← powerOfTen exponent.toNat)
  else if -exponent ≤ maxPower then do significand.div? (← powerOfTen (-exponent).toNat)
  else if -exponent ≤ 2 * maxPower then do
    let once ← significand.div? (← powerOfTen maxPower)
    once.div? (← powerOfTen (-exponent - maxPower).toNat)
  else some Magnitude.zero

/-- The integer that a list of digits writes. -/
def digitsValue (digits : List Nat) : Nat :=
  digits.foldl (fun value digit => value * 10 + digit) 0

/-- The exponent after `e`. -/
def exponentValue (l : Literal) : Int :=
  match l.exponent with
  | none => 0
  | some (negative, digits) => if negative then -(digitsValue digits : Int) else digitsValue digits

/-- The magnitude of a literal as a binary64 number, if it is finite. -/
def magnitude? (l : Literal) : Option Magnitude := do
  let (head, dropped) := appendDigits 0 l.whole
  let (significand, cut) := appendDigits head l.fraction
  let places : Int := (dropped.length : Int) - ((l.fraction.length - cut.length : Nat) : Int)
  scale (← Magnitude.ofNat? significand) (places + l.exponentValue)

/-- The integer that a literal writes, if it is one. -/
def integer? (l : Literal) : Option Int :=
  if l.hasPoint || l.exponent.isSome then none
  else
    let n := digitsValue l.whole
    if l.negative then
      if 0 < n && n ≤ Nat.pow 2 63 then some (-(n : Int)) else none
    else if n ≤ maxSignificand then some n else none

/-- The number that a literal writes, unless it is beyond the largest finite one. -/
def value? (l : Literal) : Option Number :=
  match l.integer? with
  | some n => some (.integer n)
  | none => l.magnitude?.map fun m => .float ⟨l.negative, m⟩

end Literal

end TypedQuery
