import EntitySearch.Number.Binary64

/-!
# The shortest decimal text of a double-precision number

A number is written with the fewest digits that read back to it, and of those with the digits
nearest to it. A text reads back to a magnitude if its value lies between the midpoints to the
two neighbouring magnitudes, the midpoints included exactly when the magnitude is even.

* `Decimal.shortest`: the digits and the position of the point.
* `Decimal.layout`: where the point is written, and when an exponent is.
* `Binary64.text`: the whole text.
-/

namespace EntitySearch

/-- The positive number `0.DIGITS * 10 ^ point`, where `digits` has no zero at its ends. -/
structure Decimal where
  digits : List Char
  point : Int

namespace Decimal

open Binary64

/-- The decimal digits of a natural number, most significant first; none for zero. -/
def digitsOf (n : Nat) : List Char := if n = 0 then [] else Nat.toDigits 10 n

/-- The least `j` with `1 ≤ num * 10 ^ j / den`, searched from `j` on through `fuel` values. -/
def leadingZeros (num den : Nat) : Nat → Nat → Nat
  | 0, j => j
  | fuel + 1, j => if den ≤ num * Nat.pow 10 j then j else leadingZeros num den fuel (j + 1)

/-- The position of the point of a positive magnitude: the least `k` with value below
`10 ^ k`. -/
def pointOf (magnitude : Nat) : Int :=
  let whole := units magnitude / one
  if whole = 0 then 1 - (leadingZeros (units magnitude) one 324 1 : Nat)
  else (digitsOf whole).length

/-- `num / den` divided by `10 ^ scale`, as a quotient of natural numbers. -/
def downscale (num den : Nat) (scale : Int) : Nat × Nat :=
  if 0 ≤ scale then (num, den * Nat.pow 10 scale.toNat)
  else (num * Nat.pow 10 scale.natAbs, den)

/-- Whether `n * 10 ^ scale` reads back to the magnitude. -/
def readsBack (magnitude : Nat) (scale : Int) (n : Nat) : Bool :=
  let low := units (magnitude - 1) + units magnitude
  let high := units magnitude + units (magnitude + 1)
  let (lowNum, lowDen) := downscale low (2 * one) scale
  let (highNum, highDen) := downscale high (2 * one) scale
  if magnitude % 2 = 0 then lowNum ≤ n * lowDen && n * highDen ≤ highNum
  else lowNum < n * lowDen && n * highDen < highNum

/-- Of the two multiples of `10 ^ scale` next to the value, the one that reads back; of two the
nearer, and of two equally near the even one. -/
def onGrid? (magnitude : Nat) (scale : Int) : Option Nat :=
  let (num, den) := downscale (units magnitude) one scale
  let below := num / den
  match readsBack magnitude scale below, readsBack magnitude scale (below + 1) with
  | true, true => some (roundDiv num den)
  | true, false => some below
  | false, true => some (below + 1)
  | false, false => none

/-- The first grid with a multiple that reads back, from `count` digits on through `fuel`
grids. -/
def search (magnitude : Nat) (point : Int) : Nat → Nat → Nat × Int
  | 0, count => (units magnitude / one, point - count)
  | fuel + 1, count =>
    match onGrid? magnitude (point - count) with
    | some n => (n, point - count)
    | none => search magnitude point fuel (count + 1)

/-- The shortest decimal of a positive magnitude; seventeen digits always read back. -/
def shortest (magnitude : Nat) : Decimal :=
  let (n, scale) := search magnitude (pointOf magnitude) 17 1
  let digits := digitsOf n
  ⟨(digits.reverse.dropWhile (· == '0')).reverse, digits.length + scale⟩

/-- Positions of the point that are written without an exponent. -/
def isPlain (point : Int) : Bool := -4 ≤ point && point ≤ 16

/-- The text of a decimal: with a point and at least one digit on either side if the position
allows, else with one digit before the point, no empty fraction, and a signed exponent. -/
def layout (d : Decimal) : List Char :=
  if isPlain d.point then
    if d.point ≤ 0 then
      '0' :: '.' :: (List.replicate d.point.natAbs '0' ++ d.digits)
    else
      let cut := d.point.toNat
      let whole := d.digits.take cut ++ List.replicate (cut - d.digits.length) '0'
      let fraction := d.digits.drop cut
      whole ++ '.' :: (if fraction.isEmpty then ['0'] else fraction)
  else
    let exponent := d.point - 1
    let fraction := d.digits.drop 1
    d.digits.take 1 ++ (if fraction.isEmpty then [] else '.' :: fraction) ++
      'e' :: (if exponent < 0 then '-' else '+') :: Nat.toDigits 10 exponent.natAbs

end Decimal

/-- The shortest text that reads back to a number. -/
def Binary64.text (x : Binary64) : List Char :=
  let unsigned := if x.isZero then ['0', '.', '0'] else (Decimal.shortest x.magnitude).layout
  if x.negative then '-' :: unsigned else unsigned

end EntitySearch
