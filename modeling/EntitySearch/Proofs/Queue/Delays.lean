import EntitySearch.Proofs.Number.Integers
import EntitySearch.Proofs.Queue.Backoff

/-!
# Growing delays

Each delay is the initial one times a power of two, cut to the maximum. All four roundings on the way
respect the order: a larger factor is not rounded below a smaller one, neither as a number of seconds
nor as a number of nanoseconds, and the cut keeps that. A delay that exists has all earlier ones below
it, since a smaller factor reaches the limit of time spans later. From retry 33 on the factor stays
the same.

* `roundDiv_mono`: larger quotients are not rounded below smaller ones.
* `Duration.scale?_eq_some`: the rounding of a product.
* `Duration.scale?_twoPow_mono`: products with powers of two are ordered as the powers.
* `RetryPolicy.delayFor_grows`: delays grow up to the maximum, until retry 33.
-/

namespace EntitySearch

theorem roundDiv_mono {num other den : Nat} (hd : 0 < den) (le : num ≤ other) :
    roundDiv num den ≤ roundDiv other den := by
  by_contra above
  have passed := (lt_roundDiv_iff hd).mp (Nat.lt_of_not_le above)
  have passes : roundDiv other den < roundDiv other den := (lt_roundDiv_iff hd).mpr (by omega)
  exact Nat.lt_irrefl _ passes

namespace Duration

open Binary64

/-! ## The order of spans -/

theorem min_le_min {a b : Duration} (le : a ≤ b) (limit : Duration) : min a limit ≤ min b limit := by
  show (if a ≤ limit then a else limit).nanos ≤ (if b ≤ limit then b else limit).nanos
  have nanos : a.nanos ≤ b.nanos := le
  have sides (d : Duration) : d ≤ limit ↔ d.nanos ≤ limit.nanos := Iff.rfl
  split_ifs <;> simp only [sides] at * <;> omega

theorem min_le_right (a limit : Duration) : min a limit ≤ limit := by
  show (if a ≤ limit then a else limit).nanos ≤ limit.nanos
  split_ifs with within
  · exact within
  · exact Nat.le_refl _

/-! ## Products -/

theorem nanos_of_ofSeconds? {x : Binary64} {d : Duration} (h : ofSeconds? x = some d) :
    d.nanos = roundDiv (units x.magnitude * nanosPerSecond) Binary64.one := by
  unfold ofSeconds? at h
  by_cases negative : (x.negative && !x.isZero) = true
  · rw [if_pos negative] at h
    cases h
  · by_cases large : secondsBound * Binary64.one ≤ units x.magnitude
    · rw [if_neg negative, if_pos large] at h
      cases h
    · rw [if_neg negative, if_neg large] at h
      rw [← Option.some.inj h]

/-- The product of a span and a number is that of its seconds and the number, rounded to a number and
then to nanoseconds. -/
theorem scale?_eq_some {d scaled : Duration} {factor : Binary64}
    (h : d.scale? (.finite factor) = some scaled) : ∃ seconds, d.seconds? = some seconds ∧
      scaled.nanos = roundDiv (units (nearest (units seconds.magnitude * units factor.magnitude)
        Binary64.one) * nanosPerSecond) Binary64.one := by
  unfold scale? at h
  obtain ⟨seconds, found, h⟩ := Option.bind_eq_some_iff.mp h
  obtain ⟨product, multiplied, h⟩ := Option.bind_eq_some_iff.mp h
  refine ⟨seconds, found, ?_⟩
  rw [← (of_ofUnits?_eq_some multiplied).2]
  exact nanos_of_ofSeconds? h

/-- **Products with powers of two** are ordered as the powers. -/
theorem scale?_twoPow_mono {d less more : Duration} {a b : Nat} {ha : a < 1024} {hb : b < 1024}
    (le : a ≤ b) (hl : d.scale? (Extended.twoPow a ha) = some less)
    (hm : d.scale? (Extended.twoPow b hb) = some more) : less ≤ more := by
  obtain ⟨seconds, found, small⟩ := scale?_eq_some hl
  obtain ⟨same, again, large⟩ := scale?_eq_some hm
  obtain rfl : seconds = same := Option.some.inj (found.symm.trans again)
  have powers : units (powerOfTwo a) ≤ units (powerOfTwo b) := by
    rw [units_powerOfTwo, units_powerOfTwo]
    exact Nat.mul_le_mul_right _ (Nat.pow_le_pow_right Nat.two_pos le)
  have rounded := nearest_mono Binary64.one_pos (Nat.mul_le_mul_left (units seconds.magnitude) powers)
  have nanos := Nat.mul_le_mul_right nanosPerSecond (units_strictMono.monotone rounded)
  have ordered := roundDiv_mono Binary64.one_pos nanos
  exact (small.trans_le ordered).trans_eq large.symm

end Duration

namespace RetryPolicy

open Binary64

variable (maxAttempts : Nat) (initial maximum : Duration)

/-! ## Delays that double -/

/-- A delay that exists is not above the maximum, and every earlier delay exists and is not above
it. -/
theorem delayFor_le {retry next : Nat} (le : retry ≤ next) {later : Duration}
    (h : (doubling maxAttempts initial maximum).delayFor next = some later) :
    ∃ delay, (doubling maxAttempts initial maximum).delayFor retry = some delay ∧
      delay ≤ later ∧ later ≤ maximum := by
  have exponents : min (retry - 1) 32 ≤ min (next - 1) 32 := by omega
  have found : ((doubling maxAttempts initial maximum).delayFor retry).isSome = true := by
    have last := (isSome_delayFor_doubling maxAttempts initial maximum next).mp (by rw [h]; rfl)
    have powers := Nat.mul_le_mul_left initial.nanos (Nat.pow_le_pow_right Nat.two_pos exponents)
    exact (isSome_delayFor_doubling maxAttempts initial maximum retry).mpr (powers.trans_lt last)
  obtain ⟨delay, hd⟩ := Option.isSome_iff_exists.mp found
  refine ⟨delay, hd, ?_⟩
  rw [delayFor_doubling] at hd h
  obtain ⟨less, small, rfl⟩ := Option.map_eq_some_iff.mp hd
  obtain ⟨more, large, rfl⟩ := Option.map_eq_some_iff.mp h
  exact ⟨Duration.min_le_min (Duration.scale?_twoPow_mono exponents small large) maximum,
    Duration.min_le_right more maximum⟩

theorem delayFor_of_ge {retry : Nat} (h : 33 ≤ retry) :
    (doubling maxAttempts initial maximum).delayFor retry =
      (doubling maxAttempts initial maximum).delayFor 33 := by
  have exponent : min (retry - 1) 32 = 32 := by omega
  rw [delayFor_doubling, delayFor_doubling]
  exact congrArg (fun growth => (initial.scale? growth).map fun delay => min delay maximum)
    (Extended.twoPow_congr (by omega) (by omega) exponent)

/-- **Delays grow up to the maximum.** Whatever the initial and the longest delay are: before a retry
for which there is a delay, there is one before the retry that precedes it, which is not longer, and
neither exceeds the longest delay; and before all retries from the 33rd on the delay is the same. -/
theorem delayFor_grows :
    (∀ retry later, 1 ≤ retry →
      (doubling maxAttempts initial maximum).delayFor (retry + 1) = some later →
        ∃ delay, (doubling maxAttempts initial maximum).delayFor retry = some delay ∧
          delay ≤ later ∧ later ≤ maximum) ∧
    ∀ retry, 33 ≤ retry → (doubling maxAttempts initial maximum).delayFor retry =
      (doubling maxAttempts initial maximum).delayFor 33 :=
  ⟨fun retry _ _ h => delayFor_le maxAttempts initial maximum (Nat.le_succ retry) h,
    fun _ h => delayFor_of_ge maxAttempts initial maximum h⟩

/-- The sixth delay between bulk requests would be the longest one, and the fifth is shorter. -/
theorem delayFor_grows_bulk : bulk.delayFor 6 = some (.ofMillis 5000) ∧
    bulk.delayFor 5 = some (.ofMillis 3200) ∧
    ∃ delay, bulk.delayFor 5 = some delay ∧ delay ≤ .ofMillis 5000 ∧
      Duration.ofMillis 5000 ≤ .ofMillis 5000 := by
  have longest : bulk.delayFor 6 = some (.ofMillis 5000) := by decide +kernel
  have before : bulk.delayFor 5 = some (.ofMillis 3200) := by decide +kernel
  exact ⟨longest, before,
    (delayFor_grows 5 (.ofMillis 200) (.ofMillis 5000)).1 5 _ (by decide) longest⟩

end RetryPolicy

end EntitySearch
