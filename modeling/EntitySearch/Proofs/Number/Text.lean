import EntitySearch.Json.Printer
import EntitySearch.Proofs.Number.Shortest

/-!
# The texts of numbers

A text with a point, an exponent or both has one value, whatever wrote it: the number of its digits
times a power of ten. The text of a double-precision number has the value of its shortest decimal,
which belongs to one magnitude only, so a text is the text of one number. An integer is told apart
from it by having neither point nor exponent.

* `Decimal.Written`: the forms of a text, with its value.
* `Decimal.Written.textValue_eq`: the value can be read off the text.
* `Binary64.text_injective`: numbers of one text are the same.
* `Number.render_injective`: this holds for integers, too.
-/

namespace EntitySearch

namespace Decimal

/-- Digits only. -/
def Digits (cs : List Char) : Prop := ∀ c ∈ cs, c.isDigit

theorem Digits.append {first second : List Char} (hf : Digits first) (hs : Digits second) :
    Digits (first ++ second) :=
  List.forall_mem_append.mpr ⟨hf, hs⟩

theorem digits_toDigits (n : Nat) : Digits (Nat.toDigits 10 n) :=
  fun _ h => Nat.isDigit_of_mem_toDigits (by decide) (by decide) h

theorem digits_zeros (count : Nat) : Digits (List.replicate count '0') :=
  fun _ h => (List.eq_of_mem_replicate h) ▸ rfl

theorem digits_shortest (magnitude : Nat) : Digits (shortest magnitude).digits :=
  fun _ => isDigit_of_mem_shortest

/-- An exponent with its sign. -/
def exponentChars (exponent : Int) : List Char :=
  (if exponent < 0 then '-' else '+') :: Nat.toDigits 10 exponent.natAbs

/-- A point and the digits after it, or nothing if there are none. -/
def fractionChars (fraction : List Char) : List Char :=
  if fraction.isEmpty then [] else '.' :: fraction

/-- The value of digits around a point, times a power of ten. -/
def valueOfDigits (whole fraction : List Char) (exponent : Int) : ℚ :=
  Nat.ofDigitChars 10 (whole ++ fraction) 0 * 10 ^ (exponent - fraction.length)

/-- The unsigned texts with their values: digits around a point, and digits with an exponent. -/
inductive Written : List Char → ℚ → Prop
  | plain {whole fraction : List Char} (some : whole ≠ []) (digits : Digits whole)
      (places : Digits fraction) :
      Written (whole ++ '.' :: fraction) (valueOfDigits whole fraction 0)
  | scaled {whole fraction : List Char} (exponent : Int) (some : whole ≠ [])
      (digits : Digits whole) (places : Digits fraction) :
      Written (whole ++ fractionChars fraction ++ 'e' :: exponentChars exponent)
        (valueOfDigits whole fraction exponent)

/-! ## The value of a text -/

/-- The exponent after its letter, and none if there is no letter. -/
def exponentOf : List Char → Int
  | '-' :: digits => -Nat.ofDigitChars 10 digits 0
  | '+' :: digits => Nat.ofDigitChars 10 digits 0
  | _ => 0

/-- The value of an unsigned text. -/
def textValue (cs : List Char) : ℚ :=
  let mantissa := cs.takeWhile (· ≠ 'e')
  valueOfDigits (mantissa.takeWhile (· ≠ '.')) (mantissa.dropWhile (· ≠ '.')).tail
    (exponentOf (cs.dropWhile (· ≠ 'e')).tail)

theorem exponentOf_exponentChars (exponent : Int) :
    exponentOf (exponentChars exponent) = exponent := by
  unfold exponentChars
  split
  · rw [exponentOf, Nat.ofDigitChars_ten_toDigits]
    omega
  · rw [exponentOf, Nat.ofDigitChars_ten_toDigits]
    omega

section Cuts

variable {p : Char → Bool} {mark : Char} {cs rest : List Char}

theorem takeWhile_exact (inside : ∀ c ∈ cs, p c) (stop : ∀ c ∈ rest.head?, p c = false) :
    (cs ++ rest).takeWhile p = cs := by
  rw [List.takeWhile_append_of_pos inside]
  cases rest with
  | nil => exact List.append_nil _
  | cons c rest => rw [List.takeWhile_cons_of_neg (by simp [stop c rfl]), List.append_nil]

theorem dropWhile_exact (inside : ∀ c ∈ cs, p c) (stop : ∀ c ∈ rest.head?, p c = false) :
    (cs ++ rest).dropWhile p = rest := by
  rw [List.dropWhile_append_of_pos inside]
  cases rest with
  | nil => rfl
  | cons c rest => rw [List.dropWhile_cons_of_neg (by simp [stop c rfl])]

theorem Digits.not_mem (h : Digits cs) (stop : mark.isDigit = false) : mark ∉ cs := by
  intro mem
  have digit := h mark mem
  rw [stop] at digit
  cases digit

theorem forall_ne (h : mark ∉ cs) : ∀ c ∈ cs, decide (c ≠ mark) = true := by
  intro c hc
  rw [decide_eq_true_iff]
  rintro rfl
  exact h hc

theorem head_eq (h : ∀ c ∈ rest.head?, c = mark) :
    ∀ c ∈ rest.head?, decide (c ≠ mark) = false := by
  intro c hc
  rw [h c hc]
  exact decide_eq_false (not_not_intro rfl)

end Cuts

/-- The value of a text in three parts: digits, a point with digits, a letter with an exponent. The
last two may be missing. -/
theorem textValue_parts {whole point letter : List Char} (digits : Digits whole)
    (places : Digits point.tail) (hp : ∀ c ∈ point.head?, c = '.')
    (hl : ∀ c ∈ letter.head?, c = 'e') :
    textValue (whole ++ point ++ letter) =
      valueOfDigits whole point.tail (exponentOf letter.tail) := by
  have mantissa : 'e' ∉ whole ++ point := by
    rw [List.mem_append]
    rintro (mem | mem)
    · exact digits.not_mem rfl mem
    · cases point with
      | nil => cases mem
      | cons c point =>
        rcases List.mem_cons.mp mem with eq | mem
        · cases eq.trans (hp c rfl)
        · exact places.not_mem rfl mem
  have inside := forall_ne (show '.' ∉ whole from digits.not_mem rfl)
  unfold textValue
  dsimp only
  rw [takeWhile_exact (forall_ne mantissa) (head_eq hl),
    dropWhile_exact (forall_ne mantissa) (head_eq hl),
    takeWhile_exact inside (head_eq hp), dropWhile_exact inside (head_eq hp)]

theorem head_marked (mark : Char) (cs : List Char) : ∀ c ∈ (mark :: cs).head?, c = mark := by
  intro c hc
  cases hc
  rfl

theorem tail_fractionChars (fraction : List Char) : (fractionChars fraction).tail = fraction := by
  cases fraction <;> rfl

theorem head_fractionChars (fraction : List Char) :
    ∀ c ∈ (fractionChars fraction).head?, c = '.' := by
  cases fraction with
  | nil => exact fun c hc => nomatch hc
  | cons place places => exact head_marked '.' _

/-- **The value can be read off a text.** -/
theorem Written.textValue_eq {cs : List Char} {number : ℚ} (h : Written cs number) :
    textValue cs = number := by
  cases h with
  | @plain whole fraction some digits places =>
    have read := @textValue_parts whole ('.' :: fraction) [] digits places (head_marked '.' _)
      (fun c hc => nomatch hc)
    rwa [List.append_nil] at read
  | @scaled whole fraction exponent some digits places =>
    rw [textValue_parts digits (by rwa [tail_fractionChars]) (head_fractionChars fraction)
      (head_marked 'e' _), tail_fractionChars, List.tail_cons, exponentOf_exponentChars]

/-! ## The characters of a text -/

/-- The characters of the texts of numbers. -/
def isNumeric (c : Char) : Bool := c.isDigit || c = '-' || c = '+' || c = '.' || c = 'e'

theorem Digits.numeric {cs : List Char} (h : Digits cs) : ∀ c ∈ cs, isNumeric c := by
  intro c hc
  simp [isNumeric, h c hc]

namespace Written

variable {cs : List Char} {number : ℚ}

theorem numeric (h : Written cs number) : ∀ c ∈ cs, isNumeric c := by
  cases h with
  | plain some digits places =>
    rw [List.forall_mem_append, List.forall_mem_cons]
    exact ⟨digits.numeric, rfl, places.numeric⟩
  | scaled exponent some digits places =>
    rw [List.forall_mem_append, List.forall_mem_append, List.forall_mem_cons]
    refine ⟨⟨digits.numeric, ?_⟩, rfl, ?_⟩
    · unfold fractionChars
      split
      · exact List.forall_mem_nil _
      · exact List.forall_mem_cons.mpr ⟨rfl, places.numeric⟩
    · refine List.forall_mem_cons.mpr ⟨?_, (digits_toDigits _).numeric⟩
      split <;> rfl

theorem head (h : Written cs number) : ∃ digit rest, cs = digit :: rest ∧ digit.isDigit := by
  cases h with
  | plain some digits =>
    obtain ⟨digit, rest, rfl⟩ := List.exists_cons_of_ne_nil some
    exact ⟨digit, _, rfl, digits digit List.mem_cons_self⟩
  | scaled exponent some digits =>
    obtain ⟨digit, rest, rfl⟩ := List.exists_cons_of_ne_nil some
    exact ⟨digit, _, rfl, digits digit List.mem_cons_self⟩

theorem marked (h : Written cs number) : '.' ∈ cs ∨ 'e' ∈ cs := by
  cases h with
  | plain => exact .inl (List.mem_append_right _ List.mem_cons_self)
  | scaled => exact .inr (List.mem_append_right _ List.mem_cons_self)

theorem unique {other : ℚ} (h : Written cs number) (ho : Written cs other) : number = other :=
  h.textValue_eq.symm.trans ho.textValue_eq

end Written

/-! ## The text of a decimal -/

section Layouts

variable {d : Decimal}

theorem value_eq (d : Decimal) (exponent : Int) (zeros : Nat) (fraction : List Char)
    (point : d.point - d.digits.length = zeros + exponent - fraction.length) :
    d.value = Nat.ofDigitChars 10 (d.digits ++ List.replicate zeros '0') 0 *
      10 ^ (exponent - fraction.length) := by
  rw [value, point, Nat.ofDigitChars_append, Nat.ofDigitChars_replicate_zero, add_sub_assoc,
    zpow_add₀ (by norm_num), zpow_natCast]
  push_cast
  ring

theorem written_small (digits : Digits d.digits) (small : d.point ≤ 0) :
    Written ('0' :: '.' :: (List.replicate d.point.natAbs '0' ++ d.digits)) d.value := by
  have text : Written (['0'] ++ '.' :: (List.replicate d.point.natAbs '0' ++ d.digits)) _ :=
    .plain (by simp) (digits_zeros 1) ((digits_zeros _).append digits)
  have same : valueOfDigits ['0'] (List.replicate d.point.natAbs '0' ++ d.digits) 0 = d.value := by
    have zero : Nat.ofDigitChars 10 ['0'] 0 = 0 := rfl
    rw [valueOfDigits, value, Nat.ofDigitChars_append, zero, Nat.ofDigitChars_append,
      Nat.ofDigitChars_replicate_zero, Nat.mul_zero, List.length_append, List.length_replicate]
    congr 2
    omega
  exact same ▸ text

theorem written_large (digits : Digits d.digits) (some : d.digits ≠ []) (large : 0 < d.point) :
    Written (d.digits.take d.point.toNat ++
      List.replicate (d.point.toNat - d.digits.length) '0' ++
      '.' :: (if (d.digits.drop d.point.toNat).isEmpty then ['0']
        else d.digits.drop d.point.toNat)) d.value := by
  obtain ⟨cut, hc⟩ := Int.eq_ofNat_of_zero_le large.le
  rw [hc, Int.toNat_natCast]
  have length := List.length_pos_of_ne_nil some
  rcases Nat.lt_or_ge cut d.digits.length with inside | beyond
  · have places : d.digits.drop cut ≠ [] := fun none => by
      rw [List.drop_eq_nil_iff] at none
      omega
    rw [Nat.sub_eq_zero_of_le inside.le, List.replicate_zero, List.append_nil,
      if_neg (by rwa [List.isEmpty_iff])]
    have same : valueOfDigits (d.digits.take cut) (d.digits.drop cut) 0 = d.value := by
      rw [valueOfDigits, List.take_append_drop, value, List.length_drop]
      congr 2
      omega
    refine same ▸ .plain (fun none => ?_) (fun c h => digits c (List.mem_of_mem_take h))
      (fun c h => digits c (List.mem_of_mem_drop h))
    rcases List.take_eq_nil_iff.mp none with none | none
    · omega
    · exact some none
  · rw [List.drop_of_length_le beyond, if_pos List.isEmpty_nil, List.take_of_length_le beyond]
    have same : valueOfDigits (d.digits ++ List.replicate (cut - d.digits.length) '0') ['0'] 0 =
        d.value := by
      rw [valueOfDigits, value_eq d 0 (cut - d.digits.length + 1) ['0'] (by simp; omega),
        List.append_assoc, List.replicate_succ']
    refine same ▸ .plain (fun none => some (List.append_eq_nil_iff.mp none).1)
      (digits.append (digits_zeros _)) (digits_zeros 1)

theorem written_scaled (digits : Digits d.digits) (some : d.digits ≠ []) :
    Written (d.digits.take 1 ++ fractionChars (d.digits.drop 1) ++
      'e' :: exponentChars (d.point - 1)) d.value := by
  obtain ⟨first, rest, hd⟩ := List.exists_cons_of_ne_nil some
  have same : valueOfDigits (d.digits.take 1) (d.digits.drop 1) (d.point - 1) = d.value := by
    rw [valueOfDigits, List.take_append_drop, value, List.length_drop, hd]
    congr 2
    rw [List.length_cons]
    omega
  refine same ▸ .scaled _ ?_ (fun c h => digits c (List.mem_of_mem_take h))
    (fun c h => digits c (List.mem_of_mem_drop h))
  rw [hd]
  simp

theorem written_layout (digits : Digits d.digits) (some : d.digits ≠ []) :
    Written d.layout d.value := by
  unfold layout
  split
  · split
    · next small => exact written_small digits small
    · next large => exact written_large digits some (Int.lt_of_not_ge large)
  · exact written_scaled digits some

end Layouts

end Decimal

/-! ## Double-precision numbers -/

namespace Binary64

open Decimal

/-- The text without its sign. -/
def unsigned (x : Binary64) : List Char :=
  if x.isZero then ['0', '.', '0'] else (Decimal.shortest x.magnitude).layout

/-- The value that the text has without its sign. -/
def unsignedValue (x : Binary64) : ℚ :=
  if x.isZero then 0 else (Decimal.shortest x.magnitude).value

theorem text_eq (x : Binary64) :
    x.text = if x.negative then '-' :: x.unsigned else x.unsigned :=
  rfl

theorem written_unsigned (x : Binary64) : Written x.unsigned x.unsignedValue := by
  unfold unsigned unsignedValue
  split
  · have text : Written (['0'] ++ '.' :: ['0']) _ := .plain (by simp) (digits_zeros 1) (digits_zeros 1)
    have zero : valueOfDigits ['0'] ['0'] 0 = 0 := zero_mul _
    exact zero ▸ text
  · next some =>
    have positive : 0 < x.magnitude := Nat.pos_of_ne_zero (by simpa [isZero] using some)
    exact written_layout (digits_shortest _) (shortest_digits_ne_nil positive)

theorem unsignedValue_pos {x : Binary64} (h : 0 < x.magnitude) :
    x.unsignedValue = (Decimal.shortest x.magnitude).value :=
  if_neg (by simp [isZero, h.ne'])

theorem unsignedValue_zero {x : Binary64} (h : x.magnitude = 0) : x.unsignedValue = 0 :=
  if_pos (by simp [isZero, h])

theorem belongs_unsignedValue {x : Binary64} (h : 0 < x.magnitude) :
    Belongs x.unsignedValue x.magnitude :=
  unsignedValue_pos h ▸ belongs_shortest h

theorem magnitude_eq {x y : Binary64} (h : x.unsignedValue = y.unsignedValue) :
    x.magnitude = y.magnitude := by
  rcases Nat.eq_zero_or_pos x.magnitude with zero | some
  · rcases Nat.eq_zero_or_pos y.magnitude with zero' | some
    · rw [zero, zero']
    · have positive := (belongs_unsignedValue some).pos
      rw [← h, unsignedValue_zero zero] at positive
      exact absurd positive (lt_irrefl _)
  · have belongs := belongs_unsignedValue some
    rcases Nat.eq_zero_or_pos y.magnitude with zero | some'
    · have positive := belongs.pos
      rw [h, unsignedValue_zero zero] at positive
      exact absurd positive (lt_irrefl _)
    · exact (h ▸ belongs).unique (belongs_unsignedValue some')

theorem unsigned_ne_sign (x y : Binary64) : x.unsigned ≠ '-' :: y.unsigned := by
  intro same
  obtain ⟨digit, rest, head, isDigit⟩ := x.written_unsigned.head
  rw [head] at same
  rw [(List.cons.inj same).1] at isDigit
  cases isDigit

/-- **Numbers of one text are the same.** -/
theorem text_injective : Function.Injective text := by
  intro x y h
  rw [text_eq, text_eq] at h
  have parts : x.negative = y.negative ∧ x.unsigned = y.unsigned := by
    cases hx : x.negative <;> cases hy : y.negative <;> simp only [hx, hy, if_true] at h
    · exact ⟨rfl, h⟩
    · exact absurd h (unsigned_ne_sign x y)
    · exact absurd h.symm (unsigned_ne_sign y x)
    · exact ⟨rfl, List.tail_eq_of_cons_eq h⟩
  have value := x.written_unsigned.unique (parts.2 ▸ y.written_unsigned)
  have magnitude := magnitude_eq value
  cases x
  cases y
  obtain ⟨rfl, -⟩ := parts
  cases magnitude
  rfl

theorem numeric_text (x : Binary64) : ∀ c ∈ x.text, isNumeric c := by
  rw [text_eq]
  split
  · exact List.forall_mem_cons.mpr ⟨rfl, x.written_unsigned.numeric⟩
  · exact x.written_unsigned.numeric

theorem marked_text (x : Binary64) : '.' ∈ x.text ∨ 'e' ∈ x.text := by
  have marked := x.written_unsigned.marked
  rw [text_eq]
  split
  · exact marked.imp (List.mem_cons_of_mem _) (List.mem_cons_of_mem _)
  · exact marked

theorem text_ne_nil (x : Binary64) : x.text ≠ [] := by
  intro none
  have marked := x.marked_text
  rw [none] at marked
  rcases marked with mem | mem <;> cases mem

end Binary64

/-! ## Integers -/

theorem mem_intChars {z : Int} {c : Char} (h : c ∈ intChars z) : c = '-' ∨ c.isDigit := by
  unfold intChars at h
  split at h
  · exact (List.mem_cons.mp h).imp_right (Decimal.digits_toDigits _ _)
  · exact .inr (Decimal.digits_toDigits _ _ h)

theorem toDigits_injective : Function.Injective (Nat.toDigits 10) := by
  intro first second h
  have read := congrArg (Nat.ofDigitChars 10 · 0) h
  simpa only [Nat.ofDigitChars_ten_toDigits] using read

theorem toDigits_ne_sign (first second : Nat) :
    Nat.toDigits 10 first ≠ '-' :: Nat.toDigits 10 second := by
  intro same
  have digit : ('-').isDigit := Decimal.digits_toDigits first '-' (same ▸ List.mem_cons_self)
  cases digit

theorem intChars_injective : Function.Injective intChars := by
  intro first second h
  unfold intChars at h
  split at h <;> split at h
  · have size := toDigits_injective (List.cons.inj h).2
    omega
  · exact absurd h.symm (toDigits_ne_sign _ _)
  · exact absurd h (toDigits_ne_sign _ _)
  · have size := toDigits_injective h
    omega

namespace Number

open Decimal

theorem numeric_render (n : Number) : ∀ c ∈ n.render, isNumeric c := by
  cases n with
  | integer z =>
    intro c hc
    rcases mem_intChars hc with rfl | digit
    · rfl
    · simp [isNumeric, digit]
  | real x => exact x.numeric_text

theorem render_ne_nil (n : Number) : n.render ≠ [] := by
  cases n with
  | integer z =>
    rw [render, intChars]
    split
    · exact List.cons_ne_nil _ _
    · exact Nat.toDigits_ne_nil
  | real x => exact x.text_ne_nil

theorem intChars_ne_text (z : Int) (x : Binary64) : intChars z ≠ x.text := by
  intro same
  rcases x.marked_text with mem | mem
  all_goals
    rw [← same] at mem
    rcases mem_intChars mem with eq | digit
    · cases eq
    · cases digit

/-- **The text of a number tells which it is.** -/
theorem render_injective : Function.Injective Number.render := by
  intro first second h
  cases first <;> cases second
  · exact congrArg integer (intChars_injective h)
  · exact absurd h (intChars_ne_text _ _)
  · exact absurd h.symm (intChars_ne_text _ _)
  · exact congrArg real (Binary64.text_injective h)

end Number

end EntitySearch
