import TypedQuery.Number.Binary64

/-!
# The shortest decimal of a binary64 number

The decimals that read back as a magnitude are those of an interval around it, whose ends lie half
way to its neighbours and belong to it when the significand is even. The shortest decimal is the one
with the fewest digits in that interval; of two with equally many, the one nearer to the magnitude,
and of two equally near the one whose last digit is even.

For each number of digits it is enough to look at the two points of that decimal grid on either side
of the magnitude: if any point of the grid lies in the interval, so does one of these. All
comparisons are made on naturals, in a unit of a quarter of the last binary place.

A decimal is written positionally when its first digit stands between the fifth place after the
point and the sixteenth before it, always with a point; elsewhere it is written with an exponent
that carries its sign.
-/

namespace TypedQuery

/-- The decimal `digits · 10 ^ exponent`. -/
structure Decimal where
  digits : Nat
  exponent : Int
deriving DecidableEq, Repr

namespace Magnitude

/-- The greatest `k` with `10 ^ k` at most a magnitude other than zero. Its binary logarithm fixes
it up to one. -/
def floorLog10 (m : Magnitude) : Int :=
  let num := m.numerator
  let den := m.denominator
  let guess : Int := floorLog2 num den * 30103 / 100000
  let atLeast (k : Int) : Bool := den * Nat.pow 10 k.toNat ≤ num * Nat.pow 10 (-k).toNat
  if atLeast (guess + 1) then guess + 1
  else if atLeast guess then guess
  else guess - 1

/-- The decimal with the given exponent that reads back as the magnitude, the nearest if there are
several. -/
def decimalAt? (m : Magnitude) (exponent : Int) : Option Decimal :=
  -- `step` is one point of the grid and `unit` a quarter of the last binary place, on one scale.
  let place := m.exponent - 2
  let step := Nat.pow 10 exponent.toNat * Nat.pow 2 (-place).toNat
  let unit := Nat.pow 2 place.toNat * Nat.pow 10 (-exponent).toNat
  let value := 4 * m.significand * unit
  let lowGap :=
    if m.significand == Nat.pow 2 (precision - 1) && m.exponent > minExponent then 1 else 2
  let low := (4 * m.significand - lowGap) * unit
  let high := (4 * m.significand + 2) * unit
  let closed := m.significand % 2 == 0
  let inside (point : Nat) : Bool :=
    if closed then low ≤ point && point ≤ high else low < point && point < high
  let below := value / step
  let above := below + 1
  match inside (below * step), inside (above * step) with
  | false, false => none
  | true, false => some ⟨below, exponent⟩
  | false, true => some ⟨above, exponent⟩
  | true, true =>
    let down := value - below * step
    let up := above * step - value
    if down < up || (down == up && below % 2 == 0) then some ⟨below, exponent⟩
    else some ⟨above, exponent⟩

/-- The first grid, from one digit to seventeen, with a decimal that reads back. Seventeen digits
always suffice. -/
def shortest (m : Magnitude) : Decimal :=
  let top := m.floorLog10
  let grids := (List.range 17).map fun (count : Nat) => top - (count : Int)
  (grids.findSome? m.decimalAt?).getD ⟨0, 0⟩

end Magnitude

namespace Decimal

/-- The digits without the zeros at their end, and the place of the first digit: 0 for units, 1 for
tens, -1 for tenths. -/
def leading (d : Decimal) : List Char × Int :=
  let digits := Nat.toDigits 10 d.digits
  ((digits.reverse.dropWhile (· == '0')).reverse, d.exponent + (digits.length - 1 : Nat))

/-- A fraction part, which has at least one digit. -/
private def fraction (digits : List Char) : List Char :=
  '.' :: if digits.isEmpty then ['0'] else digits

/-- A decimal in positional notation, given its digits and the place of the first. -/
def positional (digits : List Char) (place : Int) : List Char :=
  if place < 0 then
    '0' :: fraction (List.replicate (-place - 1).toNat '0' ++ digits)
  else
    let whole := place.toNat + 1
    digits.take whole ++ List.replicate (whole - digits.length) '0' ++ fraction (digits.drop whole)

/-- A decimal with one digit before the point and an exponent. -/
def scientific (digits : List Char) (place : Int) : List Char :=
  digits.take 1 ++ (if digits.length ≤ 1 then [] else '.' :: digits.drop 1) ++
    ['e', if place < 0 then '-' else '+'] ++ Nat.toDigits 10 place.natAbs

/-- The text of a decimal other than zero. -/
def text (d : Decimal) : List Char :=
  let (digits, place) := d.leading
  if -5 ≤ place && place ≤ 15 then positional digits place else scientific digits place

end Decimal

/-- The text of a binary64 number: the shortest decimal that reads back, with its sign. -/
def Binary64.text (x : Binary64) : List Char :=
  (if x.negative then ['-'] else []) ++
    if x.isZero then ['0', '.', '0'] else x.magnitude.shortest.text

end TypedQuery
