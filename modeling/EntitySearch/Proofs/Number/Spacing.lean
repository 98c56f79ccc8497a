import EntitySearch.Number.Binary64
import Mathlib.Algebra.Order.Field.Basic
import Mathlib.Algebra.Order.Field.Rat
import Mathlib.Order.Monotone.Basic
import Mathlib.Tactic.FieldSimp
import Mathlib.Tactic.Linarith
import Mathlib.Tactic.Positivity
import Mathlib.Tactic.Ring

/-!
# The distances between magnitudes

A magnitude and the next one are a power of two apart, which is the same for all magnitudes of a
binade. Measured by the distance to either neighbour, no magnitude is larger than `2 ^ 53`. A number
*belongs* to a magnitude if it lies between the midpoints to the two neighbours, where a midpoint
itself belongs to the even one; so every number belongs to one magnitude at most.

* `Binary64.spacing`, `Binary64.units_succ`: the distance to the next magnitude.
* `Binary64.units_succ_le`: the size of a magnitude by these distances.
* `Binary64.Belongs`, `Binary64.Belongs.unique`: the numbers that belong to a magnitude.
* `Binary64.belongs_of_near`: those that are near enough do.
-/

namespace EntitySearch

namespace Binary64

theorem binade_pos : 0 < binade := by decide

theorem one_pos : 0 < one := by
  unfold one
  generalize 1074 = places
  exact Nat.two_pow_pos places

/-! ## The next magnitude -/

/-- The distance from a magnitude to the next one. -/
def spacing (magnitude : Nat) : Nat := 2 ^ (magnitude / binade - 1)

theorem spacing_pos (magnitude : Nat) : 0 < spacing magnitude := Nat.two_pow_pos _

section Binades

variable {magnitude binades offset : Nat}

theorem units_small (h : magnitude < binade) : units magnitude = magnitude := if_pos h

theorem spacing_small (h : magnitude < binade) : spacing magnitude = 1 := by
  rw [spacing, Nat.div_eq_of_lt h]
  rfl

theorem exists_binade (h : binade ≤ magnitude) : ∃ binades offset,
    offset < binade ∧ magnitude = binade * (binades + 1) + offset := by
  obtain ⟨binades, hb⟩ := Nat.exists_eq_add_of_lt (Nat.div_pos h binade_pos)
  refine ⟨binades, magnitude % binade, Nat.mod_lt _ binade_pos, ?_⟩
  rw [← Nat.zero_add binades, ← hb, Nat.div_add_mod]

theorem units_binade (h : offset < binade) :
    units (binade * (binades + 1) + offset) = (binade + offset) * 2 ^ binades := by
  have large : ¬ binade * (binades + 1) + offset < binade := by
    rw [Nat.mul_add, Nat.mul_one]
    omega
  rw [units, if_neg large, Nat.mul_add_mod, Nat.mod_eq_of_lt h, Nat.mul_add_div binade_pos,
    Nat.div_eq_of_lt h]
  rfl

theorem spacing_binade (h : offset < binade) :
    spacing (binade * (binades + 1) + offset) = 2 ^ binades := by
  rw [spacing, Nat.mul_add_div binade_pos, Nat.div_eq_of_lt h]
  rfl

end Binades

theorem units_succ (magnitude : Nat) :
    units (magnitude + 1) = units magnitude + spacing magnitude := by
  rcases Nat.lt_or_ge magnitude binade with small | large
  · rw [units_small small, spacing_small small]
    rcases Nat.lt_or_ge (magnitude + 1) binade with small' | large
    · exact units_small small'
    · have next : magnitude + 1 = binade * (0 + 1) + 0 := by omega
      rw [next, units_binade binade_pos]
      omega
  · obtain ⟨binades, offset, ho, rfl⟩ := exists_binade large
    rw [units_binade ho, spacing_binade ho, ← Nat.succ_mul]
    rcases Nat.lt_or_ge (offset + 1) binade with same | next
    · exact units_binade same
    · have last : offset + 1 = binade := by omega
      rw [Nat.add_assoc, last, ← Nat.mul_succ, ← Nat.add_zero (binade * _),
        units_binade binade_pos, Nat.pow_succ, ← Nat.add_succ, Nat.succ_eq_add_one, last]
      ring

theorem units_strictMono : StrictMono units :=
  strictMono_nat_of_lt_succ fun magnitude => by
    rw [units_succ]
    exact Nat.lt_add_of_pos_right (spacing_pos magnitude)

theorem units_pos {magnitude : Nat} (h : 0 < magnitude) : 0 < units magnitude := by
  have := units_strictMono h
  omega

/-- No magnitude is larger than `2 ^ 53` times the distance to the one below it. -/
theorem units_succ_le (magnitude : Nat) :
    units (magnitude + 1) ≤ 2 ^ 53 * spacing magnitude := by
  have double : 2 ^ 53 = 2 * binade := rfl
  rw [double]
  rcases Nat.lt_or_ge magnitude binade with small | large
  · rw [units_succ, units_small small, spacing_small small]
    omega
  · obtain ⟨binades, offset, ho, rfl⟩ := exists_binade large
    rw [units_succ, units_binade ho, spacing_binade ho, ← Nat.succ_mul]
    exact Nat.mul_le_mul_right _ (by omega)

/-! ## The numbers of a magnitude -/

/-- The midpoint between a magnitude and the one above it. -/
def halfway (magnitude : Nat) : ℚ := (units magnitude + units (magnitude + 1) : Nat) / (2 * one : Nat)

/-- The value of a magnitude. -/
def valueOf (magnitude : Nat) : ℚ := (units magnitude : ℚ) / (one : Nat)

/-- Whether a number is nearest to a positive magnitude; of two magnitudes equally near it is the
even one. -/
def Belongs (number : ℚ) (magnitude : Nat) : Prop :=
  if magnitude % 2 = 0 then
    halfway (magnitude - 1) ≤ number ∧ number ≤ halfway magnitude
  else halfway (magnitude - 1) < number ∧ number < halfway magnitude

theorem halfway_strictMono : StrictMono halfway := by
  intro first second lt
  have twice : (0 : ℚ) < (2 * one : Nat) := by
    exact_mod_cast Nat.mul_pos Nat.two_pos one_pos
  refine div_lt_div_of_pos_right ?_ twice
  have low := units_strictMono lt
  have high := units_strictMono (Nat.succ_lt_succ lt)
  exact_mod_cast Nat.add_lt_add low high

theorem halfway_pos {magnitude : Nat} : 0 < halfway magnitude := by
  have some := units_pos (Nat.succ_pos magnitude)
  have twice := Nat.mul_pos Nat.two_pos one_pos
  unfold halfway
  refine div_pos ?_ ?_
  · exact_mod_cast Nat.add_pos_right _ some
  · exact_mod_cast twice

namespace Belongs

variable {number : ℚ} {magnitude other : Nat}

theorem bounds (h : Belongs number magnitude) :
    halfway (magnitude - 1) ≤ number ∧ number ≤ halfway magnitude := by
  unfold Belongs at h
  split at h
  · exact h
  · exact ⟨h.1.le, h.2.le⟩

/-- A midpoint belongs to no odd magnitude. -/
theorem even (h : Belongs number magnitude)
    (edge : number = halfway (magnitude - 1) ∨ number = halfway magnitude) :
    magnitude % 2 = 0 := by
  unfold Belongs at h
  by_contra odd
  rw [if_neg odd] at h
  rcases edge with rfl | rfl
  · exact h.1.false
  · exact h.2.false

theorem pos (h : Belongs number magnitude) : 0 < number := lt_of_lt_of_le halfway_pos h.bounds.1

theorem not_lt (h : Belongs number magnitude) (ho : Belongs number other) : ¬ magnitude < other := by
  intro lt
  have below : halfway magnitude ≤ halfway (other - 1) :=
    halfway_strictMono.monotone (Nat.le_sub_one_of_lt lt)
  have same : halfway magnitude = halfway (other - 1) :=
    le_antisymm below (ho.bounds.1.trans h.bounds.2)
  have next := halfway_strictMono.injective same
  have edge : number = halfway magnitude :=
    le_antisymm h.bounds.2 (same ▸ ho.bounds.1)
  -- the midpoint between two neighbours would belong to the odd one
  have first := h.even (.inr edge)
  have second := ho.even (.inl (edge.trans same))
  omega

/-- **A number belongs to one magnitude** at most. -/
theorem unique (h : Belongs number magnitude) (ho : Belongs number other) : magnitude = other :=
  Nat.le_antisymm (Nat.le_of_not_lt (ho.not_lt h)) (Nat.le_of_not_lt (h.not_lt ho))

end Belongs

/-- Half the distance to the next magnitude, as a number. -/
def halfSpacing (magnitude : Nat) : ℚ := (spacing magnitude : ℚ) / (2 * one : Nat)

theorem halfway_eq_add (magnitude : Nat) :
    halfway magnitude = valueOf magnitude + halfSpacing magnitude := by
  have some : (one : ℚ) ≠ 0 := by exact_mod_cast one_pos.ne'
  rw [halfway, valueOf, halfSpacing, units_succ]
  push_cast
  field_simp
  ring

theorem halfway_eq_sub (magnitude : Nat) :
    halfway magnitude = valueOf (magnitude + 1) - halfSpacing magnitude := by
  have some : (one : ℚ) ≠ 0 := by exact_mod_cast one_pos.ne'
  rw [halfway, valueOf, halfSpacing, units_succ]
  push_cast
  field_simp
  ring

theorem valueOf_succ_le (magnitude : Nat) :
    valueOf (magnitude + 1) ≤ 2 ^ 54 * halfSpacing magnitude := by
  have some : (0 : ℚ) < one := by exact_mod_cast one_pos
  have size : (units (magnitude + 1) : ℚ) ≤ 2 ^ 53 * spacing magnitude := by
    exact_mod_cast units_succ_le magnitude
  have halves : 2 ^ 54 * halfSpacing magnitude = 2 ^ 53 * spacing magnitude / one := by
    rw [halfSpacing]
    push_cast
    field_simp
  rw [halves, valueOf]
  gcongr

/-- A number belongs to a magnitude if it is nearer to it than by one part in `2 ^ 54`. -/
theorem belongs_of_near {number : ℚ} {magnitude : Nat}
    (near : |number - valueOf (magnitude + 1)| * 2 ^ 54 < valueOf (magnitude + 1)) :
    Belongs number (magnitude + 1) := by
  have grows : valueOf (magnitude + 1) ≤ valueOf (magnitude + 2) := by
    unfold valueOf
    gcongr
    exact units_strictMono.monotone (Nat.le_succ _)
  have below := near.trans_le (valueOf_succ_le magnitude)
  have above := near.trans_le (grows.trans (valueOf_succ_le (magnitude + 1)))
  rw [mul_comm] at below above
  obtain ⟨low, -⟩ := abs_lt.mp (lt_of_mul_lt_mul_left below (by positivity))
  obtain ⟨-, high⟩ := abs_lt.mp (lt_of_mul_lt_mul_left above (by positivity))
  have lower : halfway magnitude < number := by
    rw [halfway_eq_sub]
    linarith
  have upper : number < halfway (magnitude + 1) := by
    rw [halfway_eq_add]
    linarith
  unfold Belongs
  split
  · exact ⟨lower.le, upper.le⟩
  · exact ⟨lower, upper⟩

end Binary64

end EntitySearch
