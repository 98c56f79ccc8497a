import EntitySearch.Proofs.Number.Text
import EntitySearch.Search.Identifier
import Mathlib.Data.List.Induction
import Mathlib.Data.Nat.Digits.Defs

/-!
# Numerals

A numeral is an optional sign and one or more decimal digits. Every integer has many of them, since
zeros may stand in front, a plus sign may be written or left out, and zero may have either sign; but
it has one without anything needless, and this is the one that is printed.

* `Numeral`: the numerals with their values; `Numeral.unique`.
* `parseInt?_eq_some_iff`: the texts that are read as integers.
* `Plain`: the numerals without anything needless.
* `Numeral.eq_intChars_iff`: a numeral is the printed one of its value exactly if it is plain.
-/

namespace EntitySearch

open Decimal (Digits)

/-! ## Digits -/

/-- The number of which some digits are the decimal notation. -/
def digitsNumber (digits : List Char) : Nat :=
  Nat.ofDigits 10 (digits.reverse.map fun digit => digit.toNat - '0'.toNat)

theorem digitsNumber_eq_foldl (digits : List Char) :
    digitsNumber digits =
      digits.foldl (fun n digit => 10 * n + (digit.toNat - '0'.toNat)) 0 := by
  rw [digitsNumber, Nat.ofDigits_eq_foldr, List.foldr_map, List.foldr_reverse]
  simp only [Nat.cast_id, Nat.add_comm]

theorem digitsNumber_concat (digits : List Char) (last : Char) :
    digitsNumber (digits ++ [last]) =
      10 * digitsNumber digits + (last.toNat - '0'.toNat) := by
  rw [digitsNumber_eq_foldl, digitsNumber_eq_foldl, List.foldl_append]
  rfl

theorem digitsValue?_eq_some_iff {digits : List Char} {n : Nat} :
    digitsValue? digits = some n ↔ digits ≠ [] ∧ Digits digits ∧ n = digitsNumber digits := by
  unfold digitsValue?
  rw [← digitsNumber_eq_foldl]
  split
  · next none =>
    refine iff_of_false nofun ?_
    rintro ⟨some, all, -⟩
    rw [Bool.or_eq_true, List.isEmpty_iff, Bool.not_eq_true', ← Bool.not_eq_true,
      List.all_eq_true] at none
    exact none.elim some (absurd all)
  · next valid =>
    rw [Bool.or_eq_true, List.isEmpty_iff, not_or, Bool.not_eq_true', Bool.not_eq_false,
      List.all_eq_true] at valid
    rw [Option.some.injEq, eq_comm]
    exact ⟨fun h => ⟨valid.1, valid.2, h⟩, fun h => h.2.2⟩

/-! ## Numerals -/

/-- The numerals with their values: an optional sign and one or more decimal digits. -/
inductive Numeral : List Char → Int → Prop
  | unsigned {digits : List Char} (some : digits ≠ []) (all : Digits digits) :
    Numeral digits (digitsNumber digits)
  | plus {digits : List Char} (some : digits ≠ []) (all : Digits digits) :
    Numeral ('+' :: digits) (digitsNumber digits)
  | minus {digits : List Char} (some : digits ≠ []) (all : Digits digits) :
    Numeral ('-' :: digits) (-digitsNumber digits)

theorem not_digits_cons {sign : Char} {digits : List Char} (h : sign.isDigit = false) :
    ¬ Digits (sign :: digits) := fun all => by
  have digit := all sign List.mem_cons_self
  rw [h] at digit
  cases digit

namespace Numeral

variable {digits text : List Char} {n : Int}

theorem plus_iff : Numeral ('+' :: digits) n ↔
    digits ≠ [] ∧ Digits digits ∧ n = digitsNumber digits := by
  constructor
  · intro h
    cases h with
    | unsigned _ all => exact absurd all (not_digits_cons rfl)
    | plus some all => exact ⟨some, all, rfl⟩
  · rintro ⟨some, all, rfl⟩
    exact .plus some all

theorem minus_iff : Numeral ('-' :: digits) n ↔
    digits ≠ [] ∧ Digits digits ∧ n = -digitsNumber digits := by
  constructor
  · intro h
    cases h with
    | unsigned _ all => exact absurd all (not_digits_cons rfl)
    | minus some all => exact ⟨some, all, rfl⟩
  · rintro ⟨some, all, rfl⟩
    exact .minus some all

theorem unsigned_iff (noPlus : ∀ digits, text ≠ '+' :: digits)
    (noMinus : ∀ digits, text ≠ '-' :: digits) :
    Numeral text n ↔ text ≠ [] ∧ Digits text ∧ n = digitsNumber text := by
  constructor
  · intro h
    cases h with
    | unsigned some all => exact ⟨some, all, rfl⟩
    | plus => exact absurd rfl (noPlus _)
    | minus => exact absurd rfl (noMinus _)
  · rintro ⟨some, all, rfl⟩
    exact .unsigned some all

end Numeral

/-- **The texts that are read as integers** are the numerals of integers of 64 bits. -/
theorem parseInt?_eq_some_iff {text : List Char} {n : Int} :
    parseInt? text = some n ↔ Numeral text n ∧ -2 ^ 63 ≤ n ∧ n < 2 ^ 63 := by
  have bound : (Number.intBound : Int) = 2 ^ 63 := by decide
  have read : ∀ {digits : List Char} {sign : Int → Int},
      ((digitsValue? digits).bind fun value => some (value : Int)).map sign = some n ↔
        digits ≠ [] ∧ Digits digits ∧ n = sign (digitsNumber digits) := by
    intro digits sign
    rw [Option.map_eq_some_iff]
    constructor
    · rintro ⟨_, hv, rfl⟩
      obtain ⟨value, hd, ⟨⟩⟩ := Option.bind_eq_some_iff.mp hv
      obtain ⟨some, all, rfl⟩ := digitsValue?_eq_some_iff.mp hd
      exact ⟨some, all, rfl⟩
    · rintro ⟨some, all, rfl⟩
      exact ⟨_, Option.bind_eq_some_iff.mpr ⟨_, digitsValue?_eq_some_iff.mpr ⟨some, all, rfl⟩, rfl⟩,
        rfl⟩
  unfold parseInt?
  dsimp only
  rw [Option.filter_eq_some_iff, bound, Bool.and_eq_true, decide_eq_true_iff, decide_eq_true_iff]
  refine and_congr_left fun _ => ?_
  split
  · exact read.trans Numeral.minus_iff.symm
  · exact read.trans Numeral.plus_iff.symm
  · next noMinus noPlus => exact read.trans (Numeral.unsigned_iff noPlus noMinus).symm

/-- A numeral has one value. -/
theorem Numeral.unique {text : List Char} {n m : Int} (hn : Numeral text n) (hm : Numeral text m) :
    n = m := by
  cases hn with
  | unsigned some all =>
    cases hm with
    | unsigned => rfl
    | plus => exact absurd all (not_digits_cons rfl)
    | minus => exact absurd all (not_digits_cons rfl)
  | plus => exact (plus_iff.mp hm).2.2.symm
  | minus => exact (minus_iff.mp hm).2.2.symm

/-! ## The printed numeral -/

/-- The numerals without anything needless: no plus sign, no zeros in front, and no sign of zero. -/
inductive Plain : List Char → Prop
  | zero : Plain ['0']
  | positive {first : Char} {rest : List Char} (lead : first ≠ '0') (all : Digits (first :: rest)) :
    Plain (first :: rest)
  | negative {first : Char} {rest : List Char} (lead : first ≠ '0') (all : Digits (first :: rest)) :
    Plain ('-' :: first :: rest)

theorem digitChar_of_isDigit {digit : Char} (h : digit.isDigit = true) :
    digit.toNat - '0'.toNat < 10 ∧ Nat.digitChar (digit.toNat - '0'.toNat) = digit := by
  have zero : '0'.toNat = 48 := rfl
  rw [Char.isDigit, Bool.and_eq_true, decide_eq_true_iff, decide_eq_true_iff] at h
  have lower : 48 ≤ digit.toNat := h.1
  have upper : digit.toNat ≤ 57 := h.2
  have small : digit.toNat - '0'.toNat < 10 := by omega
  refine ⟨small, Char.toNat_inj.mp ?_⟩
  rw [Nat.toNat_digitChar_of_lt_ten small]
  omega

theorem exists_lead_toDigits (n : Nat) : 0 < n →
    ∃ first rest, Nat.toDigits 10 n = first :: rest ∧ first ≠ '0' := by
  induction n using Nat.strong_induction_on with
  | _ n ih =>
    intro positive
    rw [Nat.toDigits_eq_if (by decide)]
    split
    · exact ⟨_, [], rfl, fun zero => positive.ne' (Nat.digitChar_eq_zero.mp zero)⟩
    · obtain ⟨first, rest, digits, lead⟩ := ih (n / 10) (by omega) (by omega)
      rw [digits]
      exact ⟨first, _, rfl, lead⟩

/-- Digits of which the first one is not zero are printed as they are. -/
theorem toDigits_digitsNumber {first : Char} {rest : List Char} (lead : first ≠ '0') :
    Digits (first :: rest) → 0 < digitsNumber (first :: rest) ∧
      Nat.toDigits 10 (digitsNumber (first :: rest)) = first :: rest := by
  induction rest using List.reverseRecOn with
  | nil =>
    intro all
    obtain ⟨small, printed⟩ := digitChar_of_isDigit (all first List.mem_cons_self)
    have single : digitsNumber [first] = first.toNat - '0'.toNat := Nat.ofDigits_singleton
    rw [single, Nat.toDigits_of_lt_base small, printed]
    refine ⟨Nat.pos_of_ne_zero fun zero => lead ?_, rfl⟩
    rw [← printed, zero]
    rfl
  | append_singleton rest last ih =>
    intro all
    rw [← List.cons_append] at all ⊢
    obtain ⟨positive, printed⟩ := ih fun c hc => all c (List.mem_append_left _ hc)
    obtain ⟨small, own⟩ :=
      digitChar_of_isDigit (all last (List.mem_append_right _ List.mem_cons_self))
    rw [digitsNumber_concat]
    refine ⟨by omega, ?_⟩
    rw [← Nat.toDigits_append_toDigits (by decide) positive small, printed,
      Nat.toDigits_of_lt_base small, own]

theorem digitsNumber_toDigits (n : Nat) : digitsNumber (Nat.toDigits 10 n) = n := by
  rw [digitsNumber_eq_foldl, ← Nat.ofDigitChars_eq_foldl, Nat.ofDigitChars_ten_toDigits]

theorem numeral_intChars (n : Int) : Numeral (intChars n) n := by
  have digits := Decimal.digits_toDigits n.natAbs
  have number := digitsNumber_toDigits n.natAbs
  unfold intChars
  split
  · exact Numeral.minus_iff.mpr ⟨Nat.toDigits_ne_nil, digits, by omega⟩
  · have numeral := Numeral.unsigned Nat.toDigits_ne_nil digits
    rwa [number, Int.natAbs_of_nonneg (by omega)] at numeral

theorem plain_intChars (n : Int) : Plain (intChars n) := by
  have digits := Decimal.digits_toDigits n.natAbs
  unfold intChars
  split
  · obtain ⟨first, rest, printed, lead⟩ := exists_lead_toDigits n.natAbs (by omega)
    rw [printed] at digits ⊢
    exact .negative lead digits
  · rcases Nat.eq_zero_or_pos n.natAbs with zero | positive
    · rw [zero]
      exact .zero
    · obtain ⟨first, rest, printed, lead⟩ := exists_lead_toDigits n.natAbs positive
      rw [printed] at digits ⊢
      exact .positive lead digits

theorem Plain.eq_intChars {text : List Char} (plain : Plain text) {n : Int} (h : Numeral text n) :
    text = intChars n := by
  cases plain with
  | zero =>
    have unsigned := Numeral.unsigned (List.cons_ne_nil '0' []) (Decimal.digits_zeros 1)
    rw [h.unique unsigned]
    rfl
  | @positive first rest lead all =>
    rw [h.unique (.unsigned (List.cons_ne_nil first rest) all), intChars, if_neg (by omega),
      Int.natAbs_natCast, (toDigits_digitsNumber lead all).2]
  | negative lead all =>
    obtain ⟨-, -, rfl⟩ := Numeral.minus_iff.mp h
    obtain ⟨positive, printed⟩ := toDigits_digitsNumber lead all
    rw [intChars, if_pos (by omega), Int.natAbs_neg, Int.natAbs_natCast, printed]

/-- **A numeral is the printed one** exactly if it is plain. -/
theorem Numeral.eq_intChars_iff {text : List Char} {n : Int} (h : Numeral text n) :
    text = intChars n ↔ Plain text :=
  ⟨fun printed => printed ▸ plain_intChars n, fun plain => plain.eq_intChars h⟩

end EntitySearch
