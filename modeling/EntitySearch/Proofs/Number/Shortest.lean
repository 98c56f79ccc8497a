import EntitySearch.Number.Decimal
import EntitySearch.Proofs.Number.Spacing
import Mathlib.Algebra.Order.Field.Power
import Mathlib.Data.List.TakeWhile
import Mathlib.Data.Nat.Cast.Order.Field
import Mathlib.Tactic.NormNum

/-!
# The shortest decimal of a magnitude

The search for a short decimal looks at coarse grids first and takes the first that has a multiple
which reads back, that is one that belongs to the magnitude. A positive magnitude is at least
`10 ^ 16` times as large as its grid of seventeen digits, so the nearest multiple on that grid is too
near not to belong to it, and the search always finds a decimal. The zeros at the end of the digits
count for nothing once the point is kept in its place.

* `Decimal.readsBack_iff`: what the test on natural numbers says.
* `Decimal.le_valueOf`: a magnitude has a digit just after its point.
* `Decimal.belongs_shortest`: the shortest decimal of a magnitude belongs to it.
-/

namespace EntitySearch

namespace Decimal

open Binary64

/-- The value of a decimal. -/
def value (d : Decimal) : ℚ := Nat.ofDigitChars 10 d.digits 0 * 10 ^ (d.point - d.digits.length)

/-! ## Grids -/

section Grids

variable {num den n : Nat} {scale : Int}

theorem ten_pow_pos (scale : Int) : (0 : ℚ) < 10 ^ scale := zpow_pos (by norm_num) scale

theorem downscale_pos (num : Nat) (scale : Int) (h : 0 < den) : 0 < (downscale num den scale).2 := by
  unfold downscale
  split
  · exact Nat.mul_pos h (Nat.pow_pos (by decide))
  · exact h

theorem downscale_quotient (num den : Nat) (scale : Int) :
    ((downscale num den scale).1 : ℚ) / (downscale num den scale).2 = num / den / 10 ^ scale := by
  unfold downscale
  split
  · next up =>
    obtain ⟨power, rfl⟩ := Int.eq_ofNat_of_zero_le up
    rw [Int.toNat_natCast, zpow_natCast, div_div, Nat.pow_eq]
    push_cast
    rfl
  · next down =>
    obtain ⟨power, hp⟩ := Int.exists_eq_neg_ofNat (Int.le_of_not_le down)
    rw [hp, Int.natAbs_neg, Int.natAbs_natCast, zpow_neg, zpow_natCast, div_inv_eq_mul,
      div_mul_eq_mul_div, Nat.pow_eq]
    push_cast
    rfl

theorem downscale_le_iff (h : 0 < den) :
    (downscale num den scale).1 ≤ n * (downscale num den scale).2 ↔
      (num : ℚ) / den ≤ n * 10 ^ scale := by
  have some : (0 : ℚ) < (downscale num den scale).2 := by exact_mod_cast downscale_pos num scale h
  rw [← div_le_iff₀ (ten_pow_pos scale), ← downscale_quotient, div_le_iff₀ some]
  exact_mod_cast Iff.rfl

theorem le_downscale_iff (h : 0 < den) :
    n * (downscale num den scale).2 ≤ (downscale num den scale).1 ↔
      n * 10 ^ scale ≤ (num : ℚ) / den := by
  have some : (0 : ℚ) < (downscale num den scale).2 := by exact_mod_cast downscale_pos num scale h
  rw [← le_div_iff₀ (ten_pow_pos scale), ← downscale_quotient, le_div_iff₀ some]
  exact_mod_cast Iff.rfl

end Grids

theorem readsBack_iff {magnitude : Nat} {scale : Int} {n : Nat} :
    readsBack (magnitude + 1) scale n = true ↔ Belongs (n * 10 ^ scale) (magnitude + 1) := by
  have twice : 0 < 2 * one := Nat.mul_pos Nat.two_pos Binary64.one_pos
  unfold readsBack Belongs halfway
  simp only [Nat.add_sub_cancel]
  split
  · rw [Bool.and_eq_true, decide_eq_true_iff, decide_eq_true_iff, downscale_le_iff twice,
      le_downscale_iff twice]
  · rw [Bool.and_eq_true, decide_eq_true_iff, decide_eq_true_iff, ← not_le, ← not_le, ← not_le,
      ← not_le, le_downscale_iff twice, downscale_le_iff twice]

theorem roundDiv_eq (num den : Nat) :
    roundDiv num den = num / den ∨ roundDiv num den = num / den + 1 := by
  unfold roundDiv
  dsimp only
  split
  · exact .inl rfl
  · split
    · exact .inr rfl
    · rcases Nat.mod_two_eq_zero_or_one (num / den) with even | odd
      · exact .inl (by rw [even, Nat.add_zero])
      · exact .inr (by rw [odd])

section Search

variable {magnitude : Nat} {scale : Int}

/-- The multiple just below the value, counted in steps of the grid. -/
def below (magnitude : Nat) (scale : Int) : Nat :=
  (downscale (units magnitude) one scale).1 / (downscale (units magnitude) one scale).2

theorem readsBack_of_onGrid {n : Nat} (h : onGrid? magnitude scale = some n) :
    readsBack magnitude scale n = true := by
  have nearer := roundDiv_eq (downscale (units magnitude) one scale).1
    (downscale (units magnitude) one scale).2
  unfold onGrid? at h
  dsimp only at h
  split at h
  · next first second =>
    cases h
    rcases nearer with eq | eq <;> rw [eq] <;> assumption
  · next first _ => exact Option.some.inj h ▸ first
  · next second => exact Option.some.inj h ▸ second
  · cases h

theorem onGrid_of_readsBack
    (h : readsBack magnitude scale (below magnitude scale) = true ∨
      readsBack magnitude scale (below magnitude scale + 1) = true) :
    (onGrid? magnitude scale).isSome := by
  unfold below at h
  unfold onGrid?
  dsimp only
  split
  · rfl
  · rfl
  · rfl
  · next neither nor =>
    rw [neither, nor] at h
    rcases h with h | h <;> cases h

/-- The search finds a multiple that reads back if one of its grids has any. -/
theorem readsBack_search (magnitude : Nat) (point : Int) (fuel count : Nat)
    (h : ∃ last, count ≤ last ∧ last < count + fuel ∧
      (onGrid? magnitude (point - last)).isSome) :
    readsBack magnitude (search magnitude point fuel count).2
      (search magnitude point fuel count).1 = true := by
  induction fuel generalizing count with
  | zero =>
    obtain ⟨last, low, high, -⟩ := h
    omega
  | succ fuel ih =>
    unfold search
    split
    · next n found => exact readsBack_of_onGrid found
    · next none =>
      obtain ⟨last, low, high, found⟩ := h
      refine ih (count + 1) ⟨last, ?_, by omega, found⟩
      rcases Nat.eq_or_lt_of_le low with rfl | later
      · rw [none] at found
        cases found
      · exact later

end Search

/-! ## Seventeen digits -/

theorem le_leadingZeros {num den : Nat} (fuel first : Nat) (h : den ≤ num * 10 ^ (first + fuel)) :
    den ≤ num * 10 ^ leadingZeros num den fuel first := by
  induction fuel generalizing first with
  | zero => exact h
  | succ fuel ih =>
    unfold leadingZeros
    split
    · next reached => exact reached
    · refine ih (first + 1) ?_
      rwa [Nat.add_assoc, Nat.add_comm 1]

theorem one_le_ten_pow : one ≤ 10 ^ (1 + 324) := by decide +kernel

theorem ten_pow_le_of_digits {n : Nat} (h : n ≠ 0) : 10 ^ ((digitsOf n).length - 1) ≤ n := by
  rw [digitsOf, if_neg h]
  by_contra short
  rcases Nat.eq_zero_or_pos ((Nat.toDigits 10 n).length - 1) with single | more
  · rw [single] at short
    omega
  · have fits := (Nat.length_toDigits_le_iff (by decide) more).mpr (Nat.lt_of_not_le short)
    omega

/-- A positive magnitude has a digit other than zero right after its point. -/
theorem le_valueOf {magnitude : Nat} (h : 0 < magnitude) :
    (10 : ℚ) ^ (pointOf magnitude - 1) ≤ valueOf magnitude := by
  have some := units_pos h
  have ones : (0 : ℚ) < one := by exact_mod_cast Binary64.one_pos
  unfold pointOf valueOf
  dsimp only
  split
  · have enough : one ≤ units magnitude * 10 ^ (1 + 324) :=
      one_le_ten_pow.trans (Nat.le_mul_of_pos_left _ some)
    have reached := le_leadingZeros 324 1 enough
    rw [sub_sub_cancel_left, zpow_neg, zpow_natCast, inv_le_iff_one_le_mul₀ (by positivity),
      div_mul_eq_mul_div, one_le_div ones]
    exact_mod_cast reached
  · next whole =>
    have digits := ten_pow_le_of_digits whole
    have length : ((digitsOf (units magnitude / one)).length : Int) - 1 =
        ((digitsOf (units magnitude / one)).length - 1 : Nat) := by
      have filled : (digitsOf (units magnitude / one)).length ≠ 0 := by
        rw [digitsOf, if_neg whole]
        exact fun none => Nat.toDigits_ne_nil (List.eq_nil_of_length_eq_zero none)
      omega
    rw [length, zpow_natCast, le_div_iff₀ ones]
    exact_mod_cast Nat.mul_le_of_le_div _ _ _ digits

theorem near_or_next {quotient : ℚ} {floor : Nat} (low : (floor : ℚ) ≤ quotient)
    (high : quotient < floor + 1) :
    |(floor : ℚ) - quotient| ≤ 1 / 2 ∨ |((floor + 1 : Nat) : ℚ) - quotient| ≤ 1 / 2 := by
  push_cast
  rw [abs_le, abs_le]
  rcases le_total quotient (floor + 1 / 2) with near | far
  · exact .inl ⟨by linarith, by linarith⟩
  · exact .inr ⟨by linarith, by linarith⟩

/-- The grid of seventeen digits has a multiple that reads back. -/
theorem onGrid_seventeen (magnitude : Nat) :
    (onGrid? (magnitude + 1) (pointOf (magnitude + 1) - (17 : Nat))).isSome := by
  have size := le_valueOf (Nat.succ_pos magnitude)
  generalize pointOf (magnitude + 1) = point at size
  obtain ⟨scale, hs⟩ : ∃ scale, scale = point - (17 : Nat) := ⟨_, rfl⟩
  have step := ten_pow_pos scale
  have steps : (10 : ℚ) ^ (point - 1) = 10 ^ 16 * 10 ^ scale := by
    rw [show point - 1 = 16 + scale by omega, zpow_add₀ (by norm_num)]
    norm_num
  rw [steps] at size
  -- a multiple that is half a step away at most is near enough to belong to the magnitude
  have belongs {n : Nat} (h : |(n : ℚ) - valueOf (magnitude + 1) / 10 ^ scale| ≤ 1 / 2) :
      readsBack (magnitude + 1) scale n = true := by
    refine readsBack_iff.mpr (belongs_of_near ?_)
    have distance : |(n : ℚ) * 10 ^ scale - valueOf (magnitude + 1)| =
        |(n : ℚ) - valueOf (magnitude + 1) / 10 ^ scale| * 10 ^ scale := by
      rw [← abs_of_pos step, ← abs_mul, abs_of_pos step, sub_mul, div_mul_cancel₀ _ step.ne']
    have half := mul_le_mul_of_nonneg_right h step.le
    rw [← distance] at half
    linarith
  rw [← hs]
  have quotient := downscale_quotient (units (magnitude + 1)) one scale
  have some : (0 : ℚ) < (downscale (units (magnitude + 1)) one scale).2 := by
    exact_mod_cast downscale_pos _ _ Binary64.one_pos
  have low : (below (magnitude + 1) scale : ℚ) ≤ valueOf (magnitude + 1) / 10 ^ scale := by
    rw [valueOf, ← quotient]
    exact Nat.cast_div_le
  have high : valueOf (magnitude + 1) / 10 ^ scale < below (magnitude + 1) scale + 1 := by
    rw [valueOf, ← quotient, div_lt_iff₀ some]
    exact_mod_cast Nat.lt_mul_of_div_lt (Nat.lt_succ_self _) (downscale_pos _ _ Binary64.one_pos)
  exact onGrid_of_readsBack ((near_or_next low high).imp belongs belongs)

/-! ## The digits -/

theorem ofDigitChars_digitsOf (n : Nat) : Nat.ofDigitChars 10 (digitsOf n) 0 = n := by
  unfold digitsOf
  split
  · next none => rw [none, Nat.ofDigitChars_nil]
  · exact Nat.ofDigitChars_ten_toDigits

theorem isDigit_of_mem_digitsOf {n : Nat} {c : Char} (h : c ∈ digitsOf n) : c.isDigit := by
  unfold digitsOf at h
  split at h
  · cases h
  · exact Nat.isDigit_of_mem_toDigits (by decide) (by decide) h

theorem exists_zeros (digits : List Char) : ∃ zeros,
    digits = (digits.reverse.dropWhile (· == '0')).reverse ++ List.replicate zeros '0' := by
  refine ⟨(digits.reverse.takeWhile (· == '0')).length, ?_⟩
  have zeros : digits.reverse.takeWhile (· == '0') =
      List.replicate (digits.reverse.takeWhile (· == '0')).length '0' := by
    refine List.eq_replicate_of_mem fun c hc => ?_
    simpa using List.mem_takeWhile_imp hc
  rw [← List.reverse_replicate, ← zeros, ← List.reverse_append, List.takeWhile_append_dropWhile,
    List.reverse_reverse]

theorem shortest_value (magnitude : Nat) :
    (shortest magnitude).value = (search magnitude (pointOf magnitude) 17 1).1 *
      10 ^ (search magnitude (pointOf magnitude) 17 1).2 := by
  unfold shortest value
  dsimp only
  generalize search magnitude (pointOf magnitude) 17 1 = found
  have number := ofDigitChars_digitsOf found.1
  generalize digitsOf found.1 = digits at number
  obtain ⟨zeros, split⟩ := exists_zeros digits
  generalize (digits.reverse.dropWhile (· == '0')).reverse = kept at split
  subst split
  rw [Nat.ofDigitChars_append, Nat.ofDigitChars_replicate_zero] at number
  have scale : ((kept ++ List.replicate zeros '0').length : Int) + found.2 - kept.length =
      zeros + found.2 := by
    rw [List.length_append, List.length_replicate]
    omega
  rw [scale, zpow_add₀ (by norm_num), zpow_natCast, ← number]
  push_cast
  ring

/-- **The shortest decimal of a positive magnitude belongs to it.** -/
theorem belongs_shortest {magnitude : Nat} (h : 0 < magnitude) :
    Belongs (shortest magnitude).value magnitude := by
  obtain ⟨below, rfl⟩ := Nat.exists_eq_add_one_of_ne_zero h.ne'
  rw [shortest_value]
  exact readsBack_iff.mp
    (readsBack_search _ _ _ _ ⟨17, by decide, by decide, onGrid_seventeen below⟩)

theorem isDigit_of_mem_shortest {magnitude : Nat} {c : Char}
    (h : c ∈ (shortest magnitude).digits) : c.isDigit := by
  have kept := List.mem_reverse.mp h
  exact isDigit_of_mem_digitsOf
    (List.mem_reverse.mp ((List.dropWhile_sublist _).mem kept))

theorem shortest_digits_ne_nil {magnitude : Nat} (h : 0 < magnitude) :
    (shortest magnitude).digits ≠ [] := by
  intro none
  have positive := (belongs_shortest h).pos
  rw [value, none, Nat.ofDigitChars_nil, Nat.cast_zero, zero_mul] at positive
  exact positive.false

end Decimal

end EntitySearch
