import EntitySearch.Number.Binary64

/-!
# Durations

Time spans in whole nanoseconds. They are measured by the clocks of this library, written into
messages, and scaled by a backoff factor.

* `Duration.text`: the largest unit that keeps the number at least one, with the exact fraction.
* `Duration.limited`: how long somebody waits who means to wait for a span.
* `Duration.scale?`: the product with a number, rounded to the nearest nanosecond.
-/

namespace EntitySearch

/-- A time span in nanoseconds. -/
structure Duration where
  nanos : Nat
deriving DecidableEq, Inhabited

namespace Duration

/-- The nanoseconds of a millisecond. -/
def nanosPerMilli : Nat := 1000000

/-- The nanoseconds of a second. -/
def nanosPerSecond : Nat := 1000000000

/-- A span has fewer seconds than this. -/
def secondsBound : Nat := 18446744073709551616

/-- No time at all. -/
def zero : Duration := ⟨0⟩

/-- A number of milliseconds. -/
def ofMillis (ms : Nat) : Duration := ⟨ms * nanosPerMilli⟩

/-- The whole milliseconds of a span. -/
def millis (d : Duration) : Nat := d.nanos / nanosPerMilli

/-- A span rounded up to whole milliseconds. -/
def upToMilli (d : Duration) : Duration :=
  .ofMillis ((d.nanos + (nanosPerMilli - 1)) / nanosPerMilli)

/-- Nobody waits longer than this: thirty years of 365 days. -/
def longestWait : Duration := .ofMillis 946080000000

instance : Add Duration := ⟨fun a b => ⟨a.nanos + b.nanos⟩⟩

/-- How far `b` lies after `a`; nothing if it lies before. -/
instance : Sub Duration := ⟨fun b a => ⟨b.nanos - a.nanos⟩⟩

instance : LE Duration := ⟨fun a b => a.nanos ≤ b.nanos⟩

instance : LT Duration := ⟨fun a b => a.nanos < b.nanos⟩

instance (a b : Duration) : Decidable (a ≤ b) := inferInstanceAs (Decidable (a.nanos ≤ b.nanos))

instance (a b : Duration) : Decidable (a < b) := inferInstanceAs (Decidable (a.nanos < b.nanos))

instance : Min Duration := ⟨fun a b => if a ≤ b then a else b⟩

instance : Max Duration := ⟨fun a b => if a ≤ b then b else a⟩

/-- How long somebody waits who means to wait for a span. -/
def limited (d : Duration) : Duration := min d longestWait

/-- The digits of a fraction with `places` places, without the zeros at its end. -/
def fractionDigits (places fraction : Nat) : List Char :=
  let digits := Nat.toDigits 10 fraction
  let padded := List.replicate (places - digits.length) '0' ++ digits
  (padded.reverse.dropWhile (· == '0')).reverse

/-- A number of units of `10 ^ places` nanoseconds, with its exact fraction. -/
def inUnit (nanos places : Nat) (unit : String) : String :=
  let fraction := fractionDigits places (nanos % Nat.pow 10 places)
  let point := if fraction.isEmpty then "" else "."
  toString (nanos / Nat.pow 10 places) ++ point ++ String.ofList fraction ++ unit

/-- A span in seconds if it is one second or more, else in milliseconds, else in microseconds,
else in nanoseconds. -/
def text (d : Duration) : String :=
  if nanosPerSecond ≤ d.nanos then inUnit d.nanos 9 "s"
  else if nanosPerMilli ≤ d.nanos then inUnit d.nanos 6 "ms"
  else if 1000 ≤ d.nanos then inUnit d.nanos 3 "µs"
  else inUnit d.nanos 0 "ns"

open Binary64 in
/-- The seconds of a span: the rounded sum of its whole seconds and of the rounded quotient of
the nanoseconds left over and those of a second. -/
def seconds? (d : Duration) : Option Binary64 := do
  let whole ← ofNat? (d.nanos / nanosPerSecond)
  let rest ← ofNat? (d.nanos % nanosPerSecond)
  let fraction ← rest.div? (← ofNat? nanosPerSecond)
  whole.addMagnitudes fraction

open Binary64 in
/-- The span of a number of seconds, to the nearest nanosecond, ties to the even one. There is
none below zero and none from `2 ^ 64` seconds on. -/
def ofSeconds? (x : Binary64) : Option Duration :=
  if x.negative && !x.isZero then none
  else if secondsBound * one ≤ units x.magnitude then none
  else some ⟨roundDiv (units x.magnitude * nanosPerSecond) one⟩

open Binary64 in
/-- The product of a span, in seconds, and a number. There is none if the number or the product
is not finite, is negative, or reaches `2 ^ 64` seconds. -/
def scale? (d : Duration) : Extended → Option Duration
  | .finite factor => do
    let seconds ← d.seconds?
    let product ← seconds.mul? factor
    ofSeconds? product
  | _ => none

end Duration

end EntitySearch
