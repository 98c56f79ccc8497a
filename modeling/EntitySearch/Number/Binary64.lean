/-!
# Double-precision numbers

A finite binary64 number, kept as its sign and its *magnitude*: the 63 bits below the sign bit,
read as a natural number. Magnitudes are ordered as the numbers they stand for, and the number
next above magnitude `m` has magnitude `m + 1`. Every finite number is a whole multiple of the
smallest one, `2 ^ -1074`; `units` counts these multiples, so that all arithmetic is exact
arithmetic on natural numbers followed by one rounding.

* `units`: the value of a magnitude, as a multiple of `2 ^ -1074`.
* `nearest`: the magnitude nearest to a quotient, ties to the even one.
* `Binary64`: the finite numbers, with comparison and correctly rounded arithmetic.
* `Extended`: the finite numbers, the two infinities and the undefined one.
* `Binary64.ofScaled?`: the number read from a decimal significand and a power of ten.
-/

namespace EntitySearch

/-- A quotient rounded to the nearest natural number, a tie to the even one. -/
def roundDiv (num den : Nat) : Nat :=
  let floor := num / den
  let rest := num % den
  if 2 * rest < den then floor
  else if den < 2 * rest then floor + 1
  else floor + floor % 2

namespace Binary64

/-- How many magnitudes lie between two powers of two. -/
def binade : Nat := Nat.pow 2 52

/-- The magnitude that follows those of the finite numbers. -/
def top : Nat := 2047 * binade

/-- How many of the smallest positive numbers make up one. -/
def one : Nat := Nat.pow 2 1074

/-- The value of a magnitude, as a multiple of the smallest positive number. -/
def units (magnitude : Nat) : Nat :=
  if magnitude < binade then magnitude
  else (binade + magnitude % binade) * Nat.pow 2 (magnitude / binade - 1)

/-- The magnitude nearest to the value of `num / den` units; `top` if that is beyond the finite
numbers. Below `2 ^ 53` units the magnitudes are the units themselves; above, each further
binary digit doubles the distance between neighbours. -/
def nearest (num den : Nat) : Nat :=
  let whole := num / den
  let magnitude :=
    if whole < 2 * binade then roundDiv num den
    else
      let spare := Nat.log2 whole - 52
      spare * binade + roundDiv num (den * Nat.pow 2 spare)
  min magnitude top

end Binary64

/-- A finite binary64 number. -/
structure Binary64 where
  negative : Bool
  magnitude : Nat
  finite : magnitude < Binary64.top
deriving DecidableEq

namespace Binary64

/-- The number of a sign and a magnitude, if that is finite. -/
def ofMagnitude? (negative : Bool) (magnitude : Nat) : Option Binary64 :=
  if h : magnitude < top then some ⟨negative, magnitude, h⟩ else none

/-- The number nearest to `num / den` units, if it is finite. -/
def ofUnits? (negative : Bool) (num den : Nat) : Option Binary64 :=
  ofMagnitude? negative (nearest num den)

/-- Zero, with a sign. -/
def zero (negative : Bool) : Binary64 := ⟨negative, 0, by decide⟩

instance : Inhabited Binary64 := ⟨zero false⟩

/-- The number nearest to a natural number, if it is finite. -/
def ofNat? (n : Nat) : Option Binary64 := ofUnits? false (n * one) 1

/-- The number nearest to an integer, if it is finite. -/
def ofInt? (z : Int) : Option Binary64 := ofUnits? (z < 0) (z.natAbs * one) 1

/-- The value of a number, as a multiple of the smallest positive one. -/
def value (x : Binary64) : Int := if x.negative then -(units x.magnitude) else units x.magnitude

/-- The order of the values; the two zeros are equal. -/
def compare (x y : Binary64) : Ordering := Ord.compare x.value y.value

/-- The 64 bits of a number. -/
def toBits (x : Binary64) : Nat := (if x.negative then Nat.pow 2 63 else 0) + x.magnitude

/-- Whether a number is one of the two zeros. -/
def isZero (x : Binary64) : Bool := x.magnitude == 0

/-- The sum of two numbers that are not negative. -/
def addMagnitudes (x y : Binary64) : Option Binary64 :=
  ofUnits? false (units x.magnitude + units y.magnitude) 1

/-- The product, if it is finite. -/
def mul? (x y : Binary64) : Option Binary64 :=
  ofUnits? (x.negative != y.negative) (units x.magnitude * units y.magnitude) one

/-- The quotient, if it is finite and the divisor is not zero. -/
def div? (x y : Binary64) : Option Binary64 :=
  if y.isZero then none
  else ofUnits? (x.negative != y.negative) (units x.magnitude * one) (units y.magnitude)

/-- The largest power of ten that is a finite number. -/
def largestPowerOfTen : Nat := 308

/-- `x * 10 ^ exponent`, with the power of ten rounded before it is applied. A power below
`10 ^ -308` is applied in two divisions; a third would find nothing left of any significand of 64
bits. There is no answer if the product is not finite. -/
def scaleByTen? (x : Binary64) (exponent : Int) : Option Binary64 :=
  if x.isZero then some x
  else if 0 ≤ exponent then
    if exponent.toNat ≤ largestPowerOfTen then
      (ofNat? (Nat.pow 10 exponent.toNat)).bind x.mul?
    else none
  else
    let down := exponent.natAbs
    if down ≤ largestPowerOfTen then (ofNat? (Nat.pow 10 down)).bind x.div?
    else if down ≤ 2 * largestPowerOfTen then do
      let once ← (ofNat? (Nat.pow 10 largestPowerOfTen)).bind x.div?
      (ofNat? (Nat.pow 10 (down - largestPowerOfTen))).bind once.div?
    else some (zero x.negative)

/-- The number read from a decimal significand and a power of ten. -/
def ofScaled? (negative : Bool) (significand : Nat) (exponent : Int) : Option Binary64 := do
  let x ← ofNat? significand
  let y ← x.scaleByTen? exponent
  return { y with negative := negative }

/-- The numbers together with the results that are not finite. -/
inductive Extended where
  | undefined
  | infinite (negative : Bool)
  | finite (x : Binary64)

namespace Extended

/-- The product, with the usual rules for infinities. -/
def mul : Extended → Extended → Extended
  | .finite x, .finite y =>
    match x.mul? y with
    | some z => .finite z
    | none => .infinite (x.negative != y.negative)
  | .infinite s, .finite y => if y.isZero then .undefined else .infinite (s != y.negative)
  | .finite x, .infinite s => if x.isZero then .undefined else .infinite (x.negative != s)
  | .infinite s, .infinite t => .infinite (s != t)
  | .undefined, _ => .undefined
  | _, .undefined => .undefined

/-- One. -/
def one : Extended := .finite ((ofNat? 1).getD default)

/-- Multiplies `r` by the `n`-th power of `a`: for every binary digit of `n`, lowest first, `a` is
multiplied in if the digit is one, and squared if digits are left. `fuel` bounds the digits. -/
def mulPow : Nat → Nat → Extended → Extended → Extended
  | 0, _, r, _ => r
  | fuel + 1, n, r, a =>
    let r := if n % 2 = 1 then r.mul a else r
    if n / 2 = 0 then r else mulPow fuel (n / 2) r (a.mul a)

/-- The `n`-th power by repeated squaring, every product rounded. -/
def pow (a : Extended) (n : Nat) : Extended := mulPow (n + 1) n one a

end Extended

end Binary64

end EntitySearch
