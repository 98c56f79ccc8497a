import EntitySearch.Json.Basic
import EntitySearch.Proofs.Number.Scaling

/-!
# Integers among double-precision numbers

An integer of 64 bits, with a sign or without one, has a nearest double-precision number. To round to
it never changes the sides of two integers, and up to `2 ^ 53` it changes nothing; beyond, different
integers may have the same nearest number.

* `Number.IsWord`: integers of 64 bits.
* `Binary64.nearest_mono`: larger quotients are not rounded below smaller ones.
* `Binary64.rounded`, `exists_ofInt`: the value of the number nearest to an integer.
* `Binary64.rounded_mono`, `rounded_exact`: the order of such values, and where nothing is rounded.
* `Binary64.rounded_eq_iff`: integers with the same nearest number.
-/

namespace EntitySearch

/-- Whether an integer has 64 bits, with a sign or without one. -/
def Number.IsWord (z : Int) : Prop := -intBound ≤ z ∧ z < natBound

instance (z : Int) : Decidable (Number.IsWord z) := inferInstanceAs (Decidable (_ ∧ _))

theorem Number.isWord_of_natAbs_le {z : Int} (few : z.natAbs ≤ 2 ^ 53) : Number.IsWord z := by
  unfold IsWord intBound natBound
  omega

namespace Binary64

/-! ## Rounding respects the order -/

theorem Passes.mono {num other den magnitude : Nat} (h : Passes num den magnitude)
    (le : num ≤ other) : Passes other den magnitude := by
  unfold Passes at *
  omega

/-- **Larger quotients are not rounded below smaller ones.** -/
theorem nearest_mono {num other den : Nat} (hd : 0 < den) (le : num ≤ other) :
    nearest num den ≤ nearest other den := by
  by_contra above
  have less := Nat.lt_of_not_le above
  have finite := Nat.lt_of_lt_of_le less (nearest_le_top num den)
  have passed := ((lt_nearest_iff hd finite).mp less).mono le
  exact Nat.lt_irrefl _ ((lt_nearest_iff hd finite).mpr passed)

/-! ## Integers -/

/-- The magnitude nearest to a natural number. -/
def magnitudeOf (n : Nat) : Nat := nearest (n * one) 1

theorem magnitudeOf_mono {m n : Nat} (le : m ≤ n) : magnitudeOf m ≤ magnitudeOf n :=
  nearest_mono Nat.one_pos (Nat.mul_le_mul_right one le)

theorem magnitudeOf_le {n power : Nat} (le : n ≤ 2 ^ power) : magnitudeOf n ≤ powerOfTwo power := by
  refine nearest_le Nat.one_pos ?_
  rw [units_powerOfTwo, Nat.mul_one]
  exact Nat.mul_le_mul_right one le

/-- A natural number of at most 53 binary digits, or the first one of more, is not rounded. -/
theorem units_magnitudeOf {n : Nat} (le : n ≤ 2 ^ 53) : units (magnitudeOf n) = n * one := by
  have same : ∃ magnitude ≤ top, units magnitude = n * one := by
    rcases Nat.lt_or_ge n (2 * binade) with few | first
    · obtain ⟨magnitude, finite, -, value⟩ := exists_ofNat few
      exact ⟨magnitude, finite.le, value⟩
    · have digits : 2 * binade = 2 ^ 53 := rfl
      refine ⟨powerOfTwo 53, (powerOfTwo_lt_top (by decide)).le, ?_⟩
      rw [units_powerOfTwo, Nat.le_antisymm le (digits ▸ first)]
  obtain ⟨magnitude, finite, value⟩ := same
  have exact_ : magnitudeOf n = magnitude := by
    rw [magnitudeOf, ← value, ← Nat.mul_one (units magnitude)]
    exact nearest_exact Nat.one_pos finite
  rw [exact_, value]

theorem magnitudeOf_pos {n : Nat} (pos : 0 < n) : 0 < magnitudeOf n := by
  have one_le := magnitudeOf_mono (Nat.succ_le_of_lt pos)
  have first : units (magnitudeOf 1) = 1 * one := units_magnitudeOf (by decide)
  have lowest : 0 < magnitudeOf 1 := by
    refine Nat.pos_of_ne_zero fun none => ?_
    have nothing : units 0 = 0 := units_small binade_pos
    rw [none, nothing, Nat.one_mul] at first
    exact one_pos.ne first
  exact Nat.lt_of_lt_of_le lowest one_le

/-- The value of the number nearest to an integer. -/
def rounded (z : Int) : Int :=
  if z < 0 then -(units (magnitudeOf z.natAbs) : Int) else units (magnitudeOf z.natAbs)

theorem value_of_ofInt? {z : Int} {x : Binary64} (h : ofInt? z = some x) : x.value = rounded z := by
  obtain ⟨sign, near⟩ := of_ofUnits?_eq_some h
  simp only [value, rounded, sign, near, decide_eq_true_eq, magnitudeOf]

/-- Integers of 64 bits have a nearest number. -/
theorem exists_ofInt {z : Int} (word : Number.IsWord z) : ∃ x, ofInt? z = some x := by
  have few : z.natAbs ≤ 2 ^ 64 := by
    unfold Number.IsWord Number.intBound Number.natBound at word
    omega
  have finite := (magnitudeOf_le few).trans_lt (powerOfTwo_lt_top (by decide))
  exact ⟨_, ofUnits?_eq_some _ finite rfl⟩

theorem units_magnitudeOf_mono {m n : Nat} (le : m ≤ n) :
    units (magnitudeOf m) ≤ units (magnitudeOf n) :=
  units_strictMono.monotone (magnitudeOf_mono le)

/-- **To round changes no sides.** -/
theorem rounded_mono {z w : Int} (le : z ≤ w) : rounded z ≤ rounded w := by
  unfold rounded
  split_ifs
  · have less : units (magnitudeOf w.natAbs) ≤ units (magnitudeOf z.natAbs) :=
      units_magnitudeOf_mono (by omega)
    omega
  · omega
  · omega
  · have less : units (magnitudeOf z.natAbs) ≤ units (magnitudeOf w.natAbs) :=
      units_magnitudeOf_mono (by omega)
    omega

/-- **Up to `2 ^ 53` nothing is rounded.** -/
theorem rounded_exact {z : Int} (few : z.natAbs ≤ 2 ^ 53) : rounded z = z * one := by
  unfold rounded
  rw [units_magnitudeOf few, Int.natCast_mul, ← Int.neg_mul]
  split_ifs
  · rw [Int.ofNat_natAbs_of_nonpos (by omega), Int.neg_neg]
  · rw [Int.natAbs_of_nonneg (by omega)]

theorem rounded_neg_iff {z : Int} : rounded z < 0 ↔ z < 0 := by
  by_cases negative : z < 0
  · have pos := units_pos (magnitudeOf_pos (n := z.natAbs) (by omega))
    rw [rounded, if_pos negative]
    omega
  · rw [rounded, if_neg negative]
    omega

/-- **Integers with the same nearest number**, of which one is of 64 bits. -/
theorem rounded_eq_iff {z w : Int} (word : Number.IsWord z) :
    rounded z = rounded w ↔ ofInt? z = ofInt? w := by
  constructor
  · intro same
    have sign : z < 0 ↔ w < 0 := by rw [← rounded_neg_iff, same, rounded_neg_iff]
    have sizes : units (magnitudeOf z.natAbs) = units (magnitudeOf w.natAbs) := by
      simp only [rounded, sign] at same
      split_ifs at same <;> omega
    have near : magnitudeOf z.natAbs = magnitudeOf w.natAbs := units_strictMono.injective sizes
    unfold magnitudeOf at near
    rw [ofInt?, ofInt?, ofUnits?, ofUnits?, near, decide_eq_decide.mpr sign]
  · intro same
    obtain ⟨x, hz⟩ := exists_ofInt word
    rw [← value_of_ofInt? hz, ← value_of_ofInt? (same.symm.trans hz)]

end Binary64

end EntitySearch
