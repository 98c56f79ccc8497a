import EntitySearch.Duration
import EntitySearch.Proofs.Number.Rounding

/-!
# Durations times powers of two

A span is scaled in four roundings: its whole seconds, the part of a second that is left, their
sum, and the product. A product with a power of two is not rounded any further than the sum, so the
sum decides whether `2 ^ 64` seconds are reached, and it reaches a power of two from the midpoint on
that lies below. Where that midpoint is below `2 ^ 54` seconds the whole seconds are not rounded,
and what is left to the midpoint has few binary digits; a part of a second reaches such a number
exactly if its rounded value does, since a nanosecond is worth more than the last digit of that
value (`le_fraction_iff`). From `2 ^ 54` seconds on the part of a second does not count.

* `Extended.twoPow_pow`: the powers of a power of two.
* `Duration.le_fraction_iff`: a part of a second among numbers with few binary digits.
* `Duration.seconds?_eq`, `Duration.isSome_scale?_iff`: the roundings.
* `Duration.isSome_scale?_twoPow`: which spans are scaled.
-/

namespace EntitySearch

namespace Binary64

/-! ## Rounded numbers -/

theorem ofUnits?_eq_some (negative : Bool) {num den magnitude : Nat} (h : magnitude < top)
    (near : nearest num den = magnitude) :
    ofUnits? negative num den = some ⟨negative, magnitude, h⟩ := by
  rw [ofUnits?, near, ofMagnitude?, dif_pos h]

theorem of_ofUnits?_eq_some {negative : Bool} {num den : Nat} {x : Binary64}
    (h : ofUnits? negative num den = some x) :
    x.negative = negative ∧ x.magnitude = nearest num den := by
  rw [ofUnits?, ofMagnitude?] at h
  split_ifs at h
  cases h
  exact ⟨rfl, rfl⟩

theorem exists_ofUnits?_lt {negative : Bool} {num den magnitude : Nat} (finite : magnitude < top) :
    (∃ x, ofUnits? negative num den = some x ∧ x.magnitude < magnitude) ↔
      nearest num den < magnitude := by
  constructor
  · rintro ⟨x, hx, less⟩
    rwa [← (of_ofUnits?_eq_some hx).2]
  · exact fun less => ⟨_, ofUnits?_eq_some negative (less.trans finite) rfl, less⟩

/-! ## Powers of two -/

/-- A power of two. -/
def twoPow (power : Nat) (h : power < 1024) : Binary64 :=
  ⟨false, powerOfTwo power, powerOfTwo_lt_top h⟩

theorem ofNat?_two_pow {power : Nat} (h : power < 1024) :
    ofNat? (2 ^ power) = some (twoPow power h) := by
  have near : nearest (2 ^ power * one) 1 = powerOfTwo power := by
    rw [← units_powerOfTwo, ← Nat.mul_one (units _)]
    exact nearest_exact Nat.one_pos (powerOfTwo_lt_top h).le
  rw [ofNat?, ofUnits?_eq_some false (powerOfTwo_lt_top h) near, twoPow]

theorem units_powerOfTwo_mul (a b : Nat) :
    units (powerOfTwo a) * units (powerOfTwo b) = units (powerOfTwo (a + b)) * one := by
  rw [units_powerOfTwo, units_powerOfTwo, units_powerOfTwo, Nat.pow_add]
  ring

theorem twoPow_mul {a b : Nat} (ha : a < 1024) (hb : b < 1024) (h : a + b < 1024) :
    (twoPow a ha).mul? (twoPow b hb) = some (twoPow (a + b) h) := by
  have near := nearest_exact one_pos (powerOfTwo_lt_top h).le
  rw [← units_powerOfTwo_mul] at near
  rw [mul?, twoPow, twoPow, bne_self_eq_false, ofUnits?_eq_some false (powerOfTwo_lt_top h) near,
    twoPow]

/-- A product with a power of two is rounded to less than a power of two if the other factor is
smaller by that. -/
theorem nearest_mul_lt_iff {magnitude a b : Nat} (h : a + b < 1024) :
    nearest (units magnitude * units (powerOfTwo b)) one < powerOfTwo (a + b) ↔
      magnitude < powerOfTwo a := by
  have pos : 0 < powerOfTwo (a + b) := Nat.mul_pos binade_pos (Nat.succ_pos _)
  constructor
  · intro less
    by_contra large
    have grows := units_strictMono.monotone (Nat.le_of_not_lt large)
    have reached := (units_powerOfTwo_mul a b).symm.trans_le (Nat.mul_le_mul_right _ grows)
    exact Nat.not_lt.mpr (le_nearest one_pos (powerOfTwo_lt_top h).le reached) less
  · intro less
    have below := units_strictMono.monotone (Nat.le_sub_one_of_lt less)
    have shift : 2 ^ (a + b + 1021) = 2 ^ (a + 1021) * 2 ^ b := by
      rw [← Nat.pow_add, Nat.add_right_comm]
    have short : units magnitude * units (powerOfTwo b) ≤ units (powerOfTwo (a + b) - 1) * one := by
      refine (Nat.mul_le_mul_right _ below).trans_eq ?_
      rw [units_below, units_below, units_powerOfTwo, shift, ← Nat.mul_assoc, ← Nat.mul_assoc]
    exact Nat.lt_of_le_pred pos (nearest_le one_pos short)

namespace Extended

/-- A power of two. -/
def twoPow (power : Nat) (h : power < 1024) : Extended := .finite (Binary64.twoPow power h)

theorem twoPow_mul {a b : Nat} (ha : a < 1024) (hb : b < 1024) (h : a + b < 1024) :
    (twoPow a ha).mul (twoPow b hb) = twoPow (a + b) h := by
  rw [twoPow, twoPow, mul, Binary64.twoPow_mul ha hb h, twoPow]

theorem twoPow_congr {a b : Nat} (ha : a < 1024) (hb : b < 1024) (h : a = b) :
    twoPow a ha = twoPow b hb := by
  subst h
  rfl

/-- Repeated squaring of a power of two takes place without rounding. -/
theorem mulPow_twoPow : ∀ {fuel n r a : Nat} (_ : n < fuel) (hr : r < 1024) (ha : a < 1024)
    (h : r + a * n < 1024), mulPow fuel n (twoPow r hr) (twoPow a ha) = twoPow (r + a * n) h
  | fuel + 1, n, r, a, hf, hr, ha, h => by
    have digits : a * n = (a + a) * (n / 2) + a * (n % 2) := by
      calc a * n
        _ = a * (2 * (n / 2) + n % 2) := by rw [Nat.div_add_mod]
        _ = (a + a) * (n / 2) + a * (n % 2) := by ring
    have taken : r + a * (n % 2) < 1024 := by omega
    have first : (if n % 2 = 1 then (twoPow r hr).mul (twoPow a ha) else twoPow r hr) =
        twoPow (r + a * (n % 2)) taken := by
      rcases Nat.mod_two_eq_zero_or_one n with even | odd
      · rw [if_neg (by omega)]
        exact twoPow_congr _ _ (by rw [even, Nat.mul_zero, Nat.add_zero])
      · have sum : r + a < 1024 := by rwa [odd, Nat.mul_one] at taken
        rw [if_pos odd, twoPow_mul hr ha sum]
        exact twoPow_congr _ _ (by rw [odd, Nat.mul_one])
    unfold mulPow
    dsimp only
    rw [first]
    split_ifs with last
    · exact twoPow_congr _ _ (by rw [digits, last, Nat.mul_zero, Nat.zero_add])
    · have more := Nat.le_mul_of_pos_right (a + a) (Nat.pos_of_ne_zero last)
      rw [twoPow_mul ha ha (by omega), mulPow_twoPow (by omega) taken _ (by omega)]
      exact twoPow_congr _ _ (by omega)

/-- **A power of a power of two** is computed without rounding. -/
theorem twoPow_pow {power n : Nat} (hp : power < 1024) (h : power * n < 1024) :
    (twoPow power hp).pow n = twoPow (power * n) h := by
  have unit : one = twoPow 0 (by decide) := by
    rw [one, ← Nat.pow_zero 2, ofNat?_two_pow (by decide), Option.getD_some, twoPow]
  rw [pow, unit, mulPow_twoPow (Nat.lt_succ_self n) _ hp (by omega)]
  exact twoPow_congr _ _ (Nat.zero_add _)

end Extended

/-! ## Numbers with a few binary digits -/

theorem exists_binary {n j : Nat} (h : n < 2 * binade) (hj : j ≤ 1074) :
    ∃ magnitude < top, 2 ^ j * units magnitude = n * one := by
  obtain ⟨places, hp⟩ := Nat.exists_eq_add_of_le hj
  obtain ⟨magnitude, bound, value⟩ := exists_units h places
  have digits : 2 ^ 0 * one = 2 ^ j * 2 ^ places := two_pow_mul_one (by omega)
  refine ⟨magnitude, bound.trans_le (Nat.mul_le_mul_right _ (by omega)), ?_⟩
  calc 2 ^ j * units magnitude
    _ = n * (2 ^ j * 2 ^ places) := by
      rw [value]
      ring
    _ = n * one := by rw [← digits, Nat.pow_zero, Nat.one_mul]

theorem exists_ofNat {n : Nat} (h : n < 2 * binade) :
    ∃ magnitude, ∃ finite : magnitude < top,
      ofNat? n = some ⟨false, magnitude, finite⟩ ∧ units magnitude = n * one := by
  obtain ⟨magnitude, finite, value⟩ := exists_binary h (Nat.zero_le _)
  rw [Nat.pow_zero, Nat.one_mul] at value
  refine ⟨magnitude, finite, ?_, value⟩
  rw [ofNat?, ← value, ← Nat.mul_one (units magnitude)]
  exact ofUnits?_eq_some false finite (nearest_exact Nat.one_pos finite.le)

end Binary64

namespace Duration

open Binary64

/-! ## A part of a second -/

/-- The magnitude of a number of nanoseconds, in seconds. -/
def fraction (rest : Nat) : Nat := nearest (rest * one * one) (nanosPerSecond * one)

theorem nanosPerSecond_pos : 0 < nanosPerSecond := by decide

section Fraction

variable {rest c j : Nat} (hr : rest < nanosPerSecond) (hj : j ≤ 22)

include hr hj

theorem le_fraction_of_le (h : c * nanosPerSecond ≤ 2 ^ j * rest) :
    c * one ≤ 2 ^ j * units (fraction rest) := by
  have few : c < 2 ^ 22 := by
    have below := Nat.mul_lt_mul_of_pos_left hr (Nat.two_pow_pos j)
    have digits : 2 ^ j ≤ 2 ^ 22 := Nat.pow_le_pow_right Nat.two_pos hj
    exact (Nat.lt_of_mul_lt_mul_right (h.trans_lt below)).trans_le digits
  have fits : 2 ^ 22 < 2 * binade := by decide
  obtain ⟨magnitude, finite, value⟩ := exists_binary (few.trans fits) (hj.trans (by omega))
  have reached : units magnitude * (nanosPerSecond * one) ≤ rest * one * one := by
    refine Nat.le_of_mul_le_mul_left ?_ (Nat.two_pow_pos j)
    calc 2 ^ j * (units magnitude * (nanosPerSecond * one))
      _ = 2 ^ j * units magnitude * (nanosPerSecond * one) := (Nat.mul_assoc ..).symm
      _ = c * nanosPerSecond * (one * one) := by
        rw [value]
        ring
      _ ≤ 2 ^ j * rest * (one * one) := Nat.mul_le_mul_right _ h
      _ = 2 ^ j * (rest * one * one) := by ring
  have places := Nat.mul_pos nanosPerSecond_pos Binary64.one_pos
  rw [← value]
  exact Nat.mul_le_mul_left _ (units_strictMono.monotone (le_nearest places finite.le reached))

/-- A part of a second that lies below a number with few binary digits stays below it, since a
nanosecond is worth more than the last of 53 binary digits. -/
theorem fraction_lt_of_lt_of_le (few : c ≤ 2 ^ j) (h : 2 ^ j * rest < c * nanosPerSecond) :
    2 ^ j * units (fraction rest) < c * one := by
  obtain ⟨digits, hd⟩ : ∃ digits, c * 2 ^ 30 = digits + 1 := by
    refine Nat.exists_eq_add_of_le' (Nat.mul_pos ?_ (Nat.two_pow_pos 30))
    exact Nat.pos_of_mul_pos_right (Nat.zero_lt_of_lt h)
  have fits : digits < 2 * binade := by
    have all : 2 ^ j ≤ 2 ^ 22 := Nat.pow_le_pow_right Nat.two_pos hj
    have room : 2 ^ 22 * 2 ^ 30 = binade := rfl
    have := Nat.mul_le_mul_right (2 ^ 30) (few.trans all)
    omega
  obtain ⟨magnitude, -, value⟩ := exists_binary fits (show j + 30 ≤ 1074 by omega)
  have short : 2 ^ 30 * (2 ^ j * rest) ≤ digits * nanosPerSecond := by
    have gap := Nat.mul_le_mul_left (2 ^ 30) (Nat.succ_le_of_lt h)
    have second : nanosPerSecond ≤ 2 ^ 30 := by decide
    have product : 2 ^ 30 * (c * nanosPerSecond) = digits * nanosPerSecond + nanosPerSecond := by
      rw [← Nat.succ_mul, Nat.succ_eq_add_one, ← hd]
      ring
    omega
  have reached : rest * one * one ≤ units magnitude * (nanosPerSecond * one) := by
    refine Nat.le_of_mul_le_mul_left ?_ (Nat.two_pow_pos (j + 30))
    calc 2 ^ (j + 30) * (rest * one * one)
      _ = 2 ^ 30 * (2 ^ j * rest) * (one * one) := by
        rw [Nat.pow_add]
        ring
      _ ≤ digits * nanosPerSecond * (one * one) := Nat.mul_le_mul_right _ short
      _ = 2 ^ (j + 30) * units magnitude * (nanosPerSecond * one) := by
        rw [value]
        ring
      _ = 2 ^ (j + 30) * (units magnitude * (nanosPerSecond * one)) := Nat.mul_assoc ..
  have places := Nat.mul_pos nanosPerSecond_pos Binary64.one_pos
  have least := units_strictMono.monotone (nearest_le places reached)
  refine Nat.lt_of_mul_lt_mul_left (a := 2 ^ 30) ?_
  calc 2 ^ 30 * (2 ^ j * units (fraction rest))
    _ ≤ 2 ^ (j + 30) * units magnitude := by
      rw [← Nat.mul_assoc, ← Nat.pow_add, Nat.add_comm 30]
      exact Nat.mul_le_mul_left _ least
    _ = digits * one := value
    _ < c * 2 ^ 30 * one := Nat.mul_lt_mul_of_pos_right (by omega) Binary64.one_pos
    _ = 2 ^ 30 * (c * one) := by ring

/-- **The numbers with few binary digits** that a part of a second reaches are those that it reaches
when it is rounded. -/
theorem le_fraction_iff :
    c * one ≤ 2 ^ j * units (fraction rest) ↔ c * nanosPerSecond ≤ 2 ^ j * rest := by
  refine ⟨fun h => ?_, le_fraction_of_le hr hj⟩
  have whole := Nat.mul_lt_mul_of_pos_left hr (Nat.two_pow_pos j)
  by_contra below
  rcases Nat.le_total c (2 ^ j) with few | many
  · exact absurd (fraction_lt_of_lt_of_le hr hj few (Nat.lt_of_not_le below)) (Nat.not_lt.mpr h)
  · have unit := Nat.mul_le_mul_right one many
    exact absurd (fraction_lt_of_lt_of_le hr hj (Nat.le_refl _) whole)
      (Nat.not_lt.mpr (unit.trans h))

end Fraction

/-! ## Seconds -/

theorem nanosPerSecond_lt : nanosPerSecond < 2 * binade := by decide

theorem fraction_lt_one {rest : Nat} (h : rest < nanosPerSecond) : units (fraction rest) < one := by
  have below := not_congr (le_fraction_iff (c := 1) (j := 0) h (Nat.zero_le _))
  rw [Nat.pow_zero, Nat.one_mul, Nat.one_mul, Nat.one_mul, Nat.one_mul, Nat.not_le,
    Nat.not_le] at below
  exact below.mpr h

theorem fraction_lt_top {rest : Nat} (h : rest < nanosPerSecond) : fraction rest < top := by
  have second : units (powerOfTwo 0) = one := by rw [units_powerOfTwo, Nat.pow_zero, Nat.one_mul]
  have below := fraction_lt_one h
  rw [← second] at below
  exact (units_strictMono.lt_iff_lt.mp below).trans (powerOfTwo_lt_top (by decide))

theorem div?_eq_fraction {rest : Nat} (h : rest < nanosPerSecond) {x y : Binary64}
    (hx : ofNat? rest = some x) (hy : ofNat? nanosPerSecond = some y) :
    x.div? y = some ⟨false, fraction rest, fraction_lt_top h⟩ := by
  obtain ⟨_, _, ex, vx⟩ := exists_ofNat (h.trans nanosPerSecond_lt)
  obtain ⟨magnitude, _, ey, vy⟩ := exists_ofNat nanosPerSecond_lt
  cases hx.symm.trans ex
  cases hy.symm.trans ey
  have some : magnitude ≠ 0 := by
    rintro rfl
    rw [units_small binade_pos] at vy
    exact (Nat.mul_pos nanosPerSecond_pos Binary64.one_pos).ne vy
  rw [div?, isZero, if_neg (by simpa using some), vx, vy, bne_self_eq_false]
  exact ofUnits?_eq_some false (fraction_lt_top h) rfl

/-- The seconds of a span are those of its whole seconds and those of the rest, both rounded, added
and rounded again. -/
theorem seconds?_eq (d : Duration) :
    d.seconds? = (ofNat? (d.nanos / nanosPerSecond)).bind fun whole =>
      ofUnits? false (units whole.magnitude + units (fraction (d.nanos % nanosPerSecond))) 1 := by
  have small := Nat.mod_lt d.nanos nanosPerSecond_pos
  obtain ⟨_, _, rest, -⟩ := exists_ofNat (small.trans nanosPerSecond_lt)
  obtain ⟨_, _, second, -⟩ := exists_ofNat nanosPerSecond_lt
  have quotient := div?_eq_fraction small rest second
  unfold seconds?
  rw [rest, second]
  refine Option.bind_congr fun whole _ => ?_
  rw [Option.bind_eq_bind, Option.bind_some, Option.bind_some, quotient, Option.bind_some,
    addMagnitudes]

theorem isSome_ofSeconds? {x : Binary64} (h : x.negative = false) :
    (ofSeconds? x).isSome = true ↔ x.magnitude < powerOfTwo 64 := by
  have limit : secondsBound = 2 ^ 64 := rfl
  have reached : secondsBound * one ≤ units x.magnitude ↔ powerOfTwo 64 ≤ x.magnitude := by
    rw [limit, ← units_powerOfTwo]
    exact units_strictMono.le_iff_le
  rw [ofSeconds?, h, Bool.false_and, if_neg Bool.false_ne_true]
  split_ifs with large
  · exact iff_of_false Bool.false_ne_true (Nat.not_lt.mpr (reached.mp large))
  · exact iff_of_true rfl (Nat.lt_of_not_le (mt reached.mpr large))

theorem isSome_bind_ofSeconds? {num den : Nat} :
    ((ofUnits? false num den).bind ofSeconds?).isSome = true ↔ nearest num den < powerOfTwo 64 := by
  by_cases finite : nearest num den < top
  · rw [ofUnits?_eq_some false finite rfl, Option.bind_some, isSome_ofSeconds? rfl]
  · have last : powerOfTwo 64 < top := powerOfTwo_lt_top (by decide)
    rw [ofUnits?, ofMagnitude?, dif_neg finite]
    exact iff_of_false Bool.false_ne_true fun less => finite (less.trans last)

/-- A span is scaled by a power of two if its seconds are fewer than `2 ^ 64` by that. -/
theorem isSome_scale?_iff (d : Duration) {t e : Nat} (sum : t + e = 64) (h : e < 1024) :
    (d.scale? (Extended.twoPow e h)).isSome = true ↔
      ∃ seconds, d.seconds? = some seconds ∧ seconds.magnitude < powerOfTwo t := by
  rw [Extended.twoPow, scale?]
  cases hs : d.seconds? with
  | none => exact iff_of_false Bool.false_ne_true nofun
  | some seconds =>
    have sign : seconds.negative = false := by
      rw [seconds?_eq] at hs
      obtain ⟨whole, -, total⟩ := Option.bind_eq_some_iff.mp hs
      exact (of_ofUnits?_eq_some total).1
    have less := @nearest_mul_lt_iff seconds.magnitude t e (by omega)
    rw [sum, ← isSome_bind_ofSeconds?] at less
    rw [Option.bind_eq_bind, Option.bind_some, mul?, sign]
    refine less.trans ⟨fun within => ⟨seconds, rfl, within⟩, ?_⟩
    rintro ⟨_, ⟨⟩, within⟩
    exact within

/-! ## The spans that can be scaled -/

/-- The seconds of a span are fewer than a power of two if the sum of its rounded whole seconds and
of the rounded rest lies below the midpoint below that power. -/
theorem exists_seconds_iff (d : Duration) {t : Nat} (h : t < 1024) :
    (∃ seconds, d.seconds? = some seconds ∧ seconds.magnitude < powerOfTwo t) ↔
      ∃ whole, ofNat? (d.nanos / nanosPerSecond) = some whole ∧
        2 * (units whole.magnitude + units (fraction (d.nanos % nanosPerSecond))) <
          (2 ^ 54 - 1) * 2 ^ (t + 1021) := by
  rw [seconds?_eq]
  cases hw : ofNat? (d.nanos / nanosPerSecond) with
  | none => exact iff_of_false nofun nofun
  | some whole =>
    rw [Option.bind_some, exists_ofUnits?_lt (powerOfTwo_lt_top h), ← Nat.not_le,
      powerOfTwo_le_nearest_iff Nat.one_pos h, Nat.mul_one, Nat.not_le]
    refine ⟨fun below => ⟨whole, rfl, below⟩, ?_⟩
    rintro ⟨_, ⟨⟩, below⟩
    exact below

theorem two_pow_eq_double {n power : Nat} (h : n = power + 1075) :
    2 ^ n = 2 * (2 ^ power * one) := by
  have digits : 2 ^ power * one = 2 ^ 0 * 2 ^ (power + 1074) := two_pow_mul_one (by omega)
  have next : n = power + 1074 + 1 := by omega
  rw [digits, Nat.pow_zero, Nat.one_mul, next, Nat.pow_succ']

/-- At `2 ^ 54` seconds and above, the rest of a second does not count. -/
theorem exists_total_lt_iff_of_large {whole rest k : Nat} (h : rest < nanosPerSecond)
    (hk : k < 64) :
    (∃ x, ofNat? whole = some x ∧
      2 * (units x.magnitude + units (fraction rest)) < (2 ^ 54 - 1) * 2 ^ (54 + k + 1021)) ↔
      whole < (2 ^ 54 - 1) * 2 ^ k := by
  have finite : powerOfTwo (54 + k) < top := powerOfTwo_lt_top (by omega)
  have half : 2 ^ (54 + k + 1021) = 2 * (2 ^ k * one) := two_pow_eq_double (by omega)
  have part : units (fraction rest) < 2 ^ k * one :=
    (fraction_lt_one h).trans_le (Nat.le_mul_of_pos_left _ (Nat.two_pow_pos k))
  have less : nearest (whole * one) 1 < powerOfTwo (54 + k) ↔ whole < (2 ^ 54 - 1) * 2 ^ k := by
    have double : (2 ^ 54 - 1) * (2 * (2 ^ k * one)) = 2 * ((2 ^ 54 - 1) * 2 ^ k * one) := by ring
    rw [← Nat.not_le, powerOfTwo_le_nearest_iff Nat.one_pos (by omega), Nat.mul_one, half,
      Nat.not_le, double, Nat.mul_lt_mul_left Nat.two_pos, Nat.mul_lt_mul_right Binary64.one_pos]
  rw [half, ← less]
  constructor
  · rintro ⟨x, hx, below⟩
    rw [← (of_ofUnits?_eq_some hx).2]
    by_contra large
    have reached := units_strictMono.monotone (Nat.le_of_not_lt large)
    rw [units_powerOfTwo, Nat.pow_add, Nat.mul_assoc] at reached
    generalize 2 ^ k * one = unit at *
    omega
  · intro less
    refine ⟨_, ofUnits?_eq_some false (less.trans finite) rfl, ?_⟩
    have short := units_strictMono.monotone (Nat.le_sub_one_of_lt less)
    rw [units_below, half] at short
    dsimp only
    generalize 2 ^ k * one = unit at *
    omega

section Small

variable {whole rest t j : Nat} (sum : t + j = 54) (pos : 0 < j)

include sum

theorem two_pow_mul_midpoint :
    2 ^ j * ((2 ^ 54 - 1) * 2 ^ (t + 1021)) = 2 * ((2 ^ 54 - 1) * one) := by
  have digits : 2 ^ (j + (t + 1021)) = 2 * (2 ^ 0 * one) := two_pow_eq_double (by omega)
  rw [Nat.mul_left_comm, ← Nat.pow_add, digits, Nat.pow_zero, Nat.one_mul, Nat.mul_left_comm]

include pos

/-- Below `2 ^ 54` seconds the whole seconds are not rounded, and the rest counts. -/
theorem exists_total_lt_iff_of_exact (hw : whole < 2 ^ t) (hr : rest < nanosPerSecond)
    (hj : j ≤ 22) :
    (∃ x, ofNat? whole = some x ∧
      2 * (units x.magnitude + units (fraction rest)) < (2 ^ 54 - 1) * 2 ^ (t + 1021)) ↔
      2 ^ j * (nanosPerSecond * whole + rest) < (2 ^ 54 - 1) * nanosPerSecond := by
  have all : 2 ^ j * 2 ^ t = 2 ^ 54 := by rw [← Nat.pow_add, Nat.add_comm, sum]
  have fits : whole < 2 * binade := by
    have digits : 2 ^ t ≤ 2 ^ 53 := Nat.pow_le_pow_right Nat.two_pos (by omega)
    exact hw.trans_le digits
  -- what is left to the midpoint has few binary digits
  obtain ⟨left, hl⟩ : ∃ left, 2 ^ 54 - 1 = 2 ^ j * whole + left := by
    have next := Nat.mul_le_mul_left (2 ^ j) (Nat.succ_le_of_lt hw)
    have some := Nat.two_pow_pos j
    rw [all, Nat.mul_succ] at next
    exact Nat.exists_eq_add_of_le (by omega)
  obtain ⟨magnitude, finite, hx, value⟩ := exists_ofNat fits
  have total : 2 * (units magnitude + units (fraction rest)) < (2 ^ 54 - 1) * 2 ^ (t + 1021) ↔
      2 ^ j * units (fraction rest) < left * one := by
    have product : 2 ^ j * (2 * (whole * one + units (fraction rest))) =
        2 * (2 ^ j * whole * one + 2 ^ j * units (fraction rest)) := by ring
    rw [← Nat.mul_lt_mul_left (Nat.two_pow_pos j), two_pow_mul_midpoint sum, value, product, hl,
      Nat.mul_lt_mul_left Nat.two_pos, Nat.add_mul, Nat.add_lt_add_iff_left]
  have span : 2 ^ j * (nanosPerSecond * whole + rest) < (2 ^ 54 - 1) * nanosPerSecond ↔
      2 ^ j * rest < left * nanosPerSecond := by
    have product : 2 ^ j * (nanosPerSecond * whole + rest) =
        2 ^ j * whole * nanosPerSecond + 2 ^ j * rest := by ring
    rw [hl, product, Nat.add_mul, Nat.add_lt_add_iff_left]
  rw [span, ← Nat.not_le, ← le_fraction_iff hr hj, Nat.not_le, ← total, hx]
  refine ⟨?_, fun below => ⟨_, rfl, below⟩⟩
  rintro ⟨_, ⟨⟩, below⟩
  exact below

theorem exists_total_lt_iff_of_small (hr : rest < nanosPerSecond) (hj : j ≤ 22) :
    (∃ x, ofNat? whole = some x ∧
      2 * (units x.magnitude + units (fraction rest)) < (2 ^ 54 - 1) * 2 ^ (t + 1021)) ↔
      2 ^ j * (nanosPerSecond * whole + rest) < (2 ^ 54 - 1) * nanosPerSecond := by
  rcases Nat.lt_or_ge whole (2 ^ t) with few | many
  · exact exists_total_lt_iff_of_exact sum pos few hr hj
  · have all : 2 ^ j * 2 ^ t = 2 ^ 54 := by rw [← Nat.pow_add, Nat.add_comm, sum]
    refine iff_of_false ?_ ?_
    · rintro ⟨x, hx, below⟩
      have reached : powerOfTwo t ≤ x.magnitude := by
        rw [(of_ofUnits?_eq_some hx).2]
        refine le_nearest Nat.one_pos (powerOfTwo_lt_top (by omega)).le ?_
        rw [Nat.mul_one, units_powerOfTwo]
        exact Nat.mul_le_mul_right one many
      have grows := Nat.mul_le_mul_left (2 ^ j) (units_strictMono.monotone reached)
      rw [units_powerOfTwo, ← Nat.mul_assoc, all] at grows
      have scaled := Nat.mul_lt_mul_of_pos_left below (Nat.two_pow_pos j)
      rw [two_pow_mul_midpoint sum, Nat.mul_left_comm, Nat.mul_add] at scaled
      have some := Binary64.one_pos
      generalize one = unit at *
      omega
    · have product : 2 ^ j * (nanosPerSecond * whole + rest) =
          2 ^ j * whole * nanosPerSecond + 2 ^ j * rest := by ring
      have grows := Nat.mul_le_mul_right nanosPerSecond (Nat.mul_le_mul_left (2 ^ j) many)
      have some := nanosPerSecond_pos
      rw [all] at grows
      omega

end Small

theorem limit_eq : nanosPerSecond * (2 ^ 64 - 2 ^ 10) = (2 ^ 54 - 1) * nanosPerSecond * 2 ^ 10 := by
  have digits : 2 ^ 64 - 2 ^ 10 = (2 ^ 54 - 1) * 2 ^ 10 := by norm_num
  rw [digits]
  ring

/-- **A span is scaled by a power of two** if the product is less than `2 ^ 64 - 2 ^ 10` seconds,
which is the midpoint between `2 ^ 64` and the number below it. -/
theorem isSome_scale?_twoPow (d : Duration) {e : Nat} (he : e ≤ 32) (h : e < 1024) :
    (d.scale? (Extended.twoPow e h)).isSome = true ↔
      d.nanos * 2 ^ e < nanosPerSecond * (2 ^ 64 - 2 ^ 10) := by
  have small := Nat.mod_lt d.nanos nanosPerSecond_pos
  have parts := Nat.div_add_mod d.nanos nanosPerSecond
  rw [limit_eq]
  rcases Nat.lt_or_ge 10 e with exact | large
  · obtain ⟨j, rfl⟩ := Nat.exists_eq_add_of_lt exact
    have shift : d.nanos * 2 ^ (10 + j + 1) = 2 ^ (j + 1) * d.nanos * 2 ^ 10 := by
      rw [Nat.add_assoc, Nat.pow_add]
      ring
    rw [shift, Nat.mul_lt_mul_right (Nat.two_pow_pos 10),
      isSome_scale?_iff d (show 53 - j + (10 + j + 1) = 64 by omega),
      exists_seconds_iff d (by omega),
      exists_total_lt_iff_of_small (show 53 - j + (j + 1) = 54 by omega) (Nat.succ_pos j) small
        (by omega), parts]
  · obtain ⟨k, hk⟩ := Nat.exists_eq_add_of_le large
    rw [isSome_scale?_iff d (show 54 + k + e = 64 by omega), exists_seconds_iff d (by omega),
      exists_total_lt_iff_of_large small (by omega), Nat.div_lt_iff_lt_mul nanosPerSecond_pos]
    have shift : (2 ^ 54 - 1) * nanosPerSecond * 2 ^ 10 =
        (2 ^ 54 - 1) * 2 ^ k * nanosPerSecond * 2 ^ e := by
      rw [hk, Nat.pow_add]
      ring
    rw [shift, Nat.mul_lt_mul_right (Nat.two_pow_pos e)]

end Duration

end EntitySearch
