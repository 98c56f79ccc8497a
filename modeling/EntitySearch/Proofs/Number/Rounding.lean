import EntitySearch.Proofs.Number.Spacing

/-!
# Rounding to the nearest magnitude

The magnitude nearest to a quotient lies above a given magnitude exactly if the quotient lies above
the midpoint between that magnitude and the next one, or on it, if the next one is even
(`lt_nearest_iff`). So rounding keeps every order between a quotient and a magnitude, and a value
that is a magnitude is left as it is.

* `units_scaled`: the magnitudes around a power of two.
* `lt_nearest_iff`: which magnitudes a rounded quotient lies above.
* `le_nearest`, `nearest_le`, `nearest_exact`: what follows for quotients that are compared with the
  value of a magnitude.
* `exists_units`: the numbers with a few binary digits are values of magnitudes.
* `powerOfTwo`, `powerOfTwo_le_nearest_iff`: the powers of two, and what is rounded up to one.
-/

namespace EntitySearch

/-! ## Rounding to a natural number -/

/-- A rounded quotient lies above a number if the quotient lies above the number and a half, or on
it, if the number is odd. -/
theorem lt_roundDiv_iff {num den n : Nat} (h : 0 < den) : n < roundDiv num den ↔
    (2 * n + 1) * den < 2 * num ∨ n % 2 = 1 ∧ (2 * n + 1) * den = 2 * num := by
  have whole := Nat.div_add_mod num den
  have small := Nat.mod_lt num h
  unfold roundDiv
  dsimp only
  generalize num / den = floor at *
  generalize num % den = rest at *
  rcases Nat.lt_trichotomy n floor with below | rfl | above
  · have gap := Nat.mul_le_mul_right (2 * den) below
    have product : (2 * n + 1) * den < 2 * num := by linarith
    refine iff_of_true ?_ (.inl product)
    split_ifs <;> omega
  · have product : (2 * n + 1) * den = 2 * num - 2 * rest + den := by
      have double : 2 * num - 2 * rest = 2 * (den * n) := by omega
      rw [double]
      ring
    rw [product]
    split_ifs <;> omega
  · have gap := Nat.mul_le_mul_right (2 * den) above
    have product : 2 * num < (2 * n + 1) * den := by linarith
    refine iff_of_false ?_ (by omega)
    split_ifs <;> omega

namespace Binary64

/-! ## Magnitudes around a power of two -/

theorem binade_even : binade % 2 = 0 := by decide

theorem units_scaled (spare n : Nat) (low : spare = 0 ∨ binade ≤ n) (high : n ≤ 2 * binade) :
    units (spare * binade + n) = n * 2 ^ spare := by
  have pos := binade_pos
  rcases Nat.lt_or_ge n binade with small | large
  · obtain rfl := low.resolve_right (Nat.not_le.mpr small)
    rw [Nat.zero_mul, Nat.zero_add, units_small small, Nat.pow_zero, Nat.mul_one]
  · rcases Nat.lt_or_eq_of_le high with inside | rfl
    · obtain ⟨offset, rfl⟩ := Nat.exists_eq_add_of_le large
      have place : spare * binade + (binade + offset) = binade * (spare + 1) + offset := by ring
      rw [place, units_binade (by omega)]
    · have place : spare * binade + 2 * binade = binade * (spare + 1 + 1) + 0 := by ring
      rw [place, units_binade pos]
      ring

/-! ## Rounding to a magnitude -/

/-- Rounding takes place around some power of two, with 53 binary digits, or below all of them. -/
theorem exists_spare (num : Nat) {den : Nat} (h : 0 < den) : ∃ spare,
    nearest num den = min (spare * binade + roundDiv num (den * 2 ^ spare)) top ∧
      num < 2 * binade * (den * 2 ^ spare) ∧ (spare = 0 ∨ binade * (den * 2 ^ spare) ≤ num) := by
  unfold nearest
  dsimp only
  split_ifs with small
  · refine ⟨0, by simp, ?_, .inl rfl⟩
    rw [Nat.pow_zero, Nat.mul_one]
    exact (Nat.div_lt_iff_lt_mul h).mp small
  · have some : num / den ≠ 0 := by
      have := binade_pos
      omega
    have digits : 53 ≤ Nat.log2 (num / den) := (Nat.le_log2 some).mpr (Nat.le_of_not_lt small)
    obtain ⟨spare, hs⟩ := Nat.exists_eq_add_of_le (Nat.le_trans (by decide : 52 ≤ 53) digits)
    have low : binade * 2 ^ spare ≤ num / den := by
      have floor := Nat.log2_self_le some
      rwa [hs, Nat.pow_add] at floor
    have high : num / den < 2 * binade * 2 ^ spare := by
      have ceiling := Nat.lt_log2_self (n := num / den)
      rw [hs, Nat.add_right_comm, Nat.pow_add] at ceiling
      exact ceiling
    refine ⟨spare, ?_, ?_, .inr ?_⟩
    · rw [hs, Nat.add_sub_cancel_left, Nat.pow_eq]
    · rw [Nat.mul_comm den, ← Nat.mul_assoc]
      exact (Nat.div_lt_iff_lt_mul h).mp high
    · rw [Nat.mul_comm den, ← Nat.mul_assoc]
      exact (Nat.le_div_iff_mul_le h).mp low

/-- Whether a quotient lies above the midpoint between a magnitude and the next one, or on it, if
the next one is even. -/
def Passes (num den magnitude : Nat) : Prop :=
  (units magnitude + units (magnitude + 1)) * den < 2 * num ∨
    magnitude % 2 = 1 ∧ (units magnitude + units (magnitude + 1)) * den = 2 * num

/-- A quotient that is at least the value of a magnitude lies above the midpoint below it. -/
theorem passes_of_le {num den magnitude : Nat} (hd : 0 < den)
    (h : units (magnitude + 1) * den ≤ num) : Passes num den magnitude := by
  have less := Nat.mul_lt_mul_of_pos_right (units_strictMono (Nat.lt_add_one magnitude)) hd
  refine .inl ?_
  rw [Nat.add_mul]
  omega

theorem not_passes_of_le {num den magnitude : Nat} (hd : 0 < den)
    (h : num ≤ units magnitude * den) : ¬ Passes num den magnitude := by
  have less := Nat.mul_lt_mul_of_pos_right (units_strictMono (Nat.lt_add_one magnitude)) hd
  unfold Passes
  rw [Nat.add_mul]
  omega

section Spare

variable {num den spare : Nat} (hd : 0 < den)

theorem mul_two_pow_mul (n : Nat) : n * 2 ^ spare * den = n * (den * 2 ^ spare) := by ring

include hd

theorem lt_rounded_iff {n : Nat} (low : spare = 0 ∨ binade ≤ n) (high : n < 2 * binade) :
    spare * binade + n < spare * binade + roundDiv num (den * 2 ^ spare) ↔
      Passes num den (spare * binade + n) := by
  have own := units_scaled spare n low high.le
  have next := units_scaled spare (n + 1) (by omega) high
  have parity : (spare * binade + n) % 2 = n % 2 := by
    rw [Nat.add_mod, Nat.mul_mod, binade_even, Nat.mul_zero, Nat.zero_mod, Nat.zero_add,
      Nat.mod_mod]
  have middle : n + (n + 1) = 2 * n + 1 := by ring
  rw [Nat.add_lt_add_iff_left, lt_roundDiv_iff (Nat.mul_pos hd (Nat.two_pow_pos spare)), Passes,
    Nat.add_assoc, own, next, ← Nat.add_mul, mul_two_pow_mul, parity, middle]

theorem lt_rounded_of_lt {magnitude : Nat} (low : binade * (den * 2 ^ spare) ≤ num)
    (h : magnitude < spare * binade + binade) :
    magnitude < spare * binade + roundDiv num (den * 2 ^ spare) ∧ Passes num den magnitude := by
  have step : 0 < den * 2 ^ spare := Nat.mul_pos hd (Nat.two_pow_pos spare)
  constructor
  · have first : binade - 1 < roundDiv num (den * 2 ^ spare) := by
      have product : 2 * (binade - 1) + 1 < 2 * binade := by
        have := binade_pos
        omega
      have below := Nat.mul_lt_mul_of_pos_right product step
      rw [Nat.mul_assoc 2 binade] at below
      exact (lt_roundDiv_iff step).mpr (.inl (by omega))
    omega
  · have base := units_scaled spare binade (.inr (Nat.le_refl _)) (by omega)
    have grows := units_strictMono.monotone (Nat.succ_le_of_lt h)
    rw [base] at grows
    refine passes_of_le hd ?_
    calc units (magnitude + 1) * den
      _ ≤ binade * 2 ^ spare * den := Nat.mul_le_mul_right den grows
      _ ≤ num := (mul_two_pow_mul binade).trans_le low

/-- A quotient does not lie above the magnitudes from the next power of two on. -/
theorem not_lt_rounded_of_le {magnitude : Nat} (high : num < 2 * binade * (den * 2 ^ spare))
    (h : spare * binade + 2 * binade ≤ magnitude) :
    ¬ magnitude < spare * binade + roundDiv num (den * 2 ^ spare) ∧ ¬ Passes num den magnitude := by
  have step : 0 < den * 2 ^ spare := Nat.mul_pos hd (Nat.two_pow_pos spare)
  constructor
  · have last : ¬ 2 * binade < roundDiv num (den * 2 ^ spare) := by
      have double := Nat.mul_assoc 2 (2 * binade) (den * 2 ^ spare)
      rw [lt_roundDiv_iff step, Nat.add_mul]
      omega
    omega
  · have base := units_scaled spare (2 * binade) (by omega) (Nat.le_refl _)
    have grows := units_strictMono.monotone h
    rw [base] at grows
    refine not_passes_of_le hd ?_
    calc num
      _ ≤ 2 * binade * 2 ^ spare * den := high.le.trans_eq (mul_two_pow_mul _).symm
      _ ≤ units magnitude * den := Nat.mul_le_mul_right den grows

end Spare

/-- **Which magnitudes a rounded quotient lies above.** -/
theorem lt_nearest_iff {num den magnitude : Nat} (hd : 0 < den) (finite : magnitude < top) :
    magnitude < nearest num den ↔ Passes num den magnitude := by
  obtain ⟨spare, he, high, low⟩ := exists_spare num hd
  rw [he, Nat.lt_min, and_iff_left finite]
  -- between the power of two and the next one, magnitudes are as far apart as what is rounded to
  rcases Nat.lt_or_ge magnitude (spare * binade + 2 * binade) with inside | above
  · by_cases within : spare = 0 ∨ spare * binade + binade ≤ magnitude
    · have start : spare * binade ≤ magnitude := by
        rcases within with rfl | within <;> omega
      obtain ⟨n, rfl⟩ := Nat.exists_eq_add_of_le start
      exact lt_rounded_iff hd (by omega) (by omega)
    · obtain ⟨some, below⟩ := not_or.mp within
      obtain ⟨less, passes⟩ := lt_rounded_of_lt hd (low.resolve_left some) (Nat.lt_of_not_le below)
      exact iff_of_true less passes
  · obtain ⟨less, passes⟩ := not_lt_rounded_of_le hd high above
    exact iff_of_false less passes

/-! ## Quotients compared with magnitudes -/

theorem nearest_le_top (num den : Nat) : nearest num den ≤ top := Nat.min_le_right _ _

/-- A quotient that is at least the value of a magnitude is not rounded to one below it. -/
theorem le_nearest {num den magnitude : Nat} (hd : 0 < den) (finite : magnitude ≤ top)
    (h : units magnitude * den ≤ num) : magnitude ≤ nearest num den := by
  cases magnitude with
  | zero => exact Nat.zero_le _
  | succ magnitude => exact (lt_nearest_iff hd finite).mpr (passes_of_le hd h)

/-- A quotient that is at most the value of a magnitude is not rounded to one above it. -/
theorem nearest_le {num den magnitude : Nat} (hd : 0 < den) (h : num ≤ units magnitude * den) :
    nearest num den ≤ magnitude := by
  by_contra above
  have finite := Nat.lt_of_lt_of_le (Nat.lt_of_not_le above) (nearest_le_top num den)
  exact not_passes_of_le hd h ((lt_nearest_iff hd finite).mp (Nat.lt_of_not_le above))

/-- The value of a magnitude is not rounded. -/
theorem nearest_exact {den magnitude : Nat} (hd : 0 < den) (finite : magnitude ≤ top) :
    nearest (units magnitude * den) den = magnitude :=
  Nat.le_antisymm (nearest_le hd (Nat.le_refl _)) (le_nearest hd finite (Nat.le_refl _))

/-! ## Numbers with a few binary digits -/

theorem exists_double (magnitude : Nat) :
    ∃ other ≤ magnitude + binade, units other = 2 * units magnitude := by
  rcases Nat.lt_or_ge magnitude binade with small | large
  · refine ⟨2 * magnitude, by omega, ?_⟩
    have same := units_scaled 0 (2 * magnitude) (.inl rfl) (by omega)
    rw [Nat.zero_mul, Nat.zero_add, Nat.pow_zero, Nat.mul_one] at same
    rw [same, units_small small]
  · obtain ⟨binades, offset, ho, rfl⟩ := exists_binade large
    have place : binade * (binades + 1) + offset + binade =
        binade * (binades + 1 + 1) + offset := by ring
    refine ⟨_, Nat.le_refl _, ?_⟩
    rw [place, units_binade ho, units_binade ho]
    ring

/-- **A number of at most 53 binary digits**, times a power of two, is the value of a magnitude. -/
theorem exists_units {n : Nat} (h : n < 2 * binade) (power : Nat) :
    ∃ magnitude < (power + 2) * binade, units magnitude = n * 2 ^ power := by
  induction power with
  | zero =>
    have same := units_scaled 0 n (.inl rfl) h.le
    rw [Nat.zero_mul, Nat.zero_add] at same
    exact ⟨n, by omega, same⟩
  | succ power ih =>
    obtain ⟨magnitude, bound, value⟩ := ih
    obtain ⟨other, near, double⟩ := exists_double magnitude
    refine ⟨other, by linarith, ?_⟩
    rw [double, value]
    ring

/-! ## Powers of two -/

/-- The magnitude of a power of two. -/
def powerOfTwo (power : Nat) : Nat := binade * (power + 1023)

theorem powerOfTwo_lt_top {power : Nat} (h : power < 1024) : powerOfTwo power < top := by
  unfold powerOfTwo top
  rw [Nat.mul_comm]
  exact Nat.mul_lt_mul_of_pos_right (by omega) binade_pos

theorem two_pow_mul {a b c d : Nat} (h : a + b = c + d) : 2 ^ a * 2 ^ b = 2 ^ c * 2 ^ d := by
  rw [← Nat.pow_add, ← Nat.pow_add, h]

theorem two_pow_mul_one {power a b : Nat} (h : a + b = power + 1074) :
    2 ^ power * one = 2 ^ a * 2 ^ b := by
  unfold one
  generalize 1074 = places at *
  exact two_pow_mul h.symm

theorem units_powerOfTwo (power : Nat) : units (powerOfTwo power) = 2 ^ power * one := by
  have place : powerOfTwo power = binade * (power + 1022 + 1) + 0 := by
    unfold powerOfTwo
    ring
  have leading : binade + 0 = 2 ^ 52 := rfl
  rw [place, units_binade binade_pos, leading]
  exact (two_pow_mul_one (by omega)).symm

theorem units_below (power : Nat) :
    units (powerOfTwo power - 1) = (2 ^ 53 - 1) * 2 ^ (power + 1021) := by
  have pos := binade_pos
  have place : powerOfTwo power - 1 = binade * (power + 1021 + 1) + (binade - 1) := by
    have last : binade * (power + 1023) = binade * (power + 1021 + 1) + binade := by ring
    rw [powerOfTwo, last]
    omega
  have digits : binade + (binade - 1) = 2 ^ 53 - 1 := rfl
  rw [place, units_binade (by omega), digits]

theorem units_below_add (power : Nat) :
    units (powerOfTwo power - 1) + units (powerOfTwo power) =
      (2 ^ 54 - 1) * 2 ^ (power + 1021) := by
  have whole : 2 ^ power * one = 2 ^ 53 * 2 ^ (power + 1021) := two_pow_mul_one (by omega)
  have ones : 2 ^ 53 - 1 + 2 ^ 53 = 2 ^ 54 - 1 := by norm_num
  rw [units_below, units_powerOfTwo, whole, ← Nat.add_mul, ones]

/-- **A power of two is reached** from the midpoint on that lies below it. -/
theorem powerOfTwo_le_nearest_iff {num den power : Nat} (hd : 0 < den) (h : power < 1024) :
    powerOfTwo power ≤ nearest num den ↔ (2 ^ 54 - 1) * 2 ^ (power + 1021) * den ≤ 2 * num := by
  have pos : 0 < powerOfTwo power := Nat.mul_pos binade_pos (Nat.succ_pos _)
  have odd : (powerOfTwo power - 1) % 2 = 1 := by
    have even : powerOfTwo power % 2 = 0 := by
      rw [powerOfTwo, Nat.mul_mod, binade_even, Nat.zero_mul]
    omega
  have next : powerOfTwo power - 1 + 1 = powerOfTwo power := Nat.sub_add_cancel pos
  have finite : powerOfTwo power - 1 < top := by
    have := powerOfTwo_lt_top h
    omega
  have below : powerOfTwo power ≤ nearest num den ↔ powerOfTwo power - 1 < nearest num den := by
    omega
  rw [below, lt_nearest_iff hd finite, Passes, next, units_below_add, and_iff_right odd,
    Nat.le_iff_lt_or_eq]

end Binary64

end EntitySearch
