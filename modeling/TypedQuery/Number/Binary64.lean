/-!
# Binary floating point numbers of 64 bits

A finite binary64 number is a sign and a magnitude `significand · 2 ^ exponent`. Magnitudes are kept
in the one form that the format gives them: the significand has 53 bits, or fewer when the exponent
is the least one. Zero is the magnitude with significand 0.

Every operation computes the exact quotient of two naturals and rounds it once, to the nearest
magnitude and on a tie to the even significand, so nothing here depends on the arithmetic of the
machine. A result beyond the largest finite magnitude has no value.
-/

namespace TypedQuery

/-- A finite binary64 magnitude, `significand · 2 ^ exponent`. -/
structure Magnitude where
  significand : Nat
  exponent : Int
deriving DecidableEq, Repr

/-- A finite binary64 number. -/
structure Binary64 where
  negative : Bool
  magnitude : Magnitude
deriving DecidableEq, Repr

namespace Magnitude

/-- The least exponent, that of zero and of the subnormal magnitudes. -/
def minExponent : Int := -1074

/-- The exponent of the largest finite magnitudes. -/
def maxExponent : Int := 971

/-- The number of bits of a normal significand. -/
def precision : Nat := 53

/-- The magnitude zero. -/
def zero : Magnitude := ⟨0, minExponent⟩

/-- Whether a magnitude is zero. -/
def isZero (m : Magnitude) : Bool := m.significand == 0

/-- The numerator of `significand · 2 ^ exponent` as a quotient of naturals. -/
def numerator (m : Magnitude) : Nat := m.significand * Nat.pow 2 m.exponent.toNat

/-- The denominator of `significand · 2 ^ exponent` as a quotient of naturals. -/
def denominator (m : Magnitude) : Nat := Nat.pow 2 (-m.exponent).toNat

/-- The natural nearest to a quotient; a tie goes to the even one. -/
def nearest (num den : Nat) : Nat :=
  let quotient := num / den
  let remainder := num % den
  if 2 * remainder < den then quotient
  else if 2 * remainder > den then quotient + 1
  else if quotient % 2 == 0 then quotient
  else quotient + 1

/-- The greatest `k` with `2 ^ k ≤ num / den`, for positive `num` and `den`. The bit lengths fix it
up to one. -/
def floorLog2 (num den : Nat) : Int :=
  let k : Int := (num.log2 : Int) - den.log2
  if den * Nat.pow 2 k.toNat ≤ num * Nat.pow 2 (-k).toNat then k else k - 1

/-- The magnitude nearest to the quotient of two naturals, if it is finite. Rounding up may carry
into one more bit, which moves the result to the next exponent. -/
def ofQuotient (num den : Nat) : Option Magnitude :=
  if num == 0 then some zero
  else
    let exponent := max (floorLog2 num den - (precision - 1)) minExponent
    let significand := nearest (num * Nat.pow 2 (-exponent).toNat) (den * Nat.pow 2 exponent.toNat)
    let rounded : Magnitude :=
      if significand == Nat.pow 2 precision then ⟨Nat.pow 2 (precision - 1), exponent + 1⟩
      else ⟨significand, exponent⟩
    if rounded.exponent ≤ maxExponent then some rounded else none

/-- The magnitude nearest to a natural. -/
def ofNat? (n : Nat) : Option Magnitude := ofQuotient n 1

/-- The rounded product. -/
def mul? (a b : Magnitude) : Option Magnitude :=
  ofQuotient (a.numerator * b.numerator) (a.denominator * b.denominator)

/-- The rounded quotient, for a divisor other than zero. -/
def div? (a b : Magnitude) : Option Magnitude :=
  ofQuotient (a.numerator * b.denominator) (a.denominator * b.numerator)

end Magnitude

namespace Binary64

/-- Whether a number is `0.0` or `-0.0`. -/
def isZero (x : Binary64) : Bool := x.magnitude.isZero

/-- Equality of values: the two zeros are equal, and every other value has one form. -/
def same (x y : Binary64) : Bool := x == y || (x.isZero && y.isZero)

end Binary64

end TypedQuery
