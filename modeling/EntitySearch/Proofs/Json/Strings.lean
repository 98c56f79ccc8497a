import EntitySearch.Json.Parser
import EntitySearch.Json.Printer
import Mathlib.Tactic.Common

/-!
# Strings between quotes

A character is written in one of three ways, and each of them is read as just that character,
whatever follows. So a text between quotes reads back to itself, and where it ends can be seen. A line
break is written with a letter, so no text between quotes has any.

* `Json.escape_cases`: the three ways to write a character.
* `Json.newline_not_mem_quoted`: no line break between quotes.
* `Json.stringAt_quoted`: a text is read up to its closing quote.
* `Json.quoted_append_inj`: a quoted text is told apart from what follows.
-/

namespace EntitySearch

namespace Json

/-- A character is written with a letter of its own, by its number, or as itself. -/
theorem escape_cases (c : Char) :
    (∃ letter, escape c = ['\\', letter] ∧ shortEscape? letter = some c ∧ letter ≠ 'u') ∨
    (c.toNat < 32 ∧ escape c =
      ['\\', 'u', '0', '0', hexDigit (c.toNat / 16), hexDigit (c.toNat % 16)]) ∨
    (escape c = [c] ∧ c ≠ '"' ∧ c ≠ '\\' ∧ ¬ c.toNat < 32) := by
  unfold escape
  split_ifs with quote slash newline ret tab back feed control
  · exact .inl ⟨'"', rfl, congrArg some quote.symm, by decide⟩
  · exact .inl ⟨'\\', rfl, congrArg some slash.symm, by decide⟩
  · exact .inl ⟨'n', rfl, congrArg some newline.symm, by decide⟩
  · exact .inl ⟨'r', rfl, congrArg some ret.symm, by decide⟩
  · exact .inl ⟨'t', rfl, congrArg some tab.symm, by decide⟩
  · exact .inl ⟨'b', rfl, congrArg some back.symm, by decide⟩
  · exact .inl ⟨'f', rfl, congrArg some feed.symm, by decide⟩
  · exact .inr (.inl ⟨control, rfl⟩)
  · exact .inr (.inr ⟨rfl, quote, slash, control⟩)

/-! ## Line breaks -/

theorem hexDigit_ne_newline : ∀ n < 16, hexDigit n ≠ '\n' := by decide

theorem newline_not_mem_escape (c : Char) : '\n' ∉ escape c := by
  rcases escape_cases c with ⟨letter, eq, short, -⟩ | ⟨control, eq⟩ | ⟨eq, -, -, printed⟩
  · have break_ : letter ≠ '\n' := by
      rintro rfl
      cases short
    simp [eq, break_.symm]
  · have high := hexDigit_ne_newline (c.toNat / 16) (by omega)
    have low := hexDigit_ne_newline (c.toNat % 16) (by omega)
    simp [eq, high.symm, low.symm]
  · rw [eq, List.mem_singleton]
    rintro rfl
    exact printed (by decide)

theorem newline_not_mem_quoted (s : String) : '\n' ∉ quoted s := by
  unfold quoted
  rw [List.mem_cons, List.mem_append, List.mem_flatMap]
  rintro (eq | ⟨c, -, mem⟩ | mem)
  · cases eq
  · exact newline_not_mem_escape c mem
  · cases List.mem_singleton.mp mem

/-! ## Reading back -/

theorem hexValue_hexDigit : ∀ n < 16, hexValue? (hexDigit n) = some n := by decide

theorem codePointAt_control {c : Char} (h : c.toNat < 32) (rest : List Char) :
    codePointAt? ('0' :: '0' :: hexDigit (c.toNat / 16) :: hexDigit (c.toNat % 16) :: rest) =
      some (c, rest) := by
  have high := hexValue_hexDigit (c.toNat / 16) (by omega)
  have low := hexValue_hexDigit (c.toNat % 16) (by omega)
  have zero : hexValue? '0' = some 0 := by decide
  have number : ((0 * 16 + 0) * 16 + c.toNat / 16) * 16 + c.toNat % 16 = c.toNat := by omega
  have unit : unitAt? ('0' :: '0' :: hexDigit (c.toNat / 16) :: hexDigit (c.toNat % 16) :: rest) =
      some (c.toNat, rest) := by
    simp only [unitAt?, zero, high, low, number, Option.bind_eq_bind, Option.bind_some]
    rfl
  rw [codePointAt?, unit, Option.bind_eq_bind, Option.bind_some]
  dsimp only
  rw [if_neg (by omega), if_neg (by omega), Char.ofNat_toNat]

theorem charsAt_escape (fuel : Nat) (c : Char) (rest : List Char) :
    charsAt? (fuel + 1) (escape c ++ rest) =
      (charsAt? fuel rest).map fun (chars, rest) => (c :: chars, rest) := by
  rw [Option.map_eq_bind]
  rcases escape_cases c with ⟨letter, eq, short, plain⟩ | ⟨control, eq⟩ | ⟨eq, quote, slash, printed⟩
  · rw [eq, List.cons_append, List.cons_append, List.nil_append, charsAt?, short]
    · rfl
    · exact plain
  · rw [eq]
    simp only [List.cons_append, List.nil_append, charsAt?, codePointAt_control control]
    rfl
  · rw [eq, List.cons_append, List.nil_append, charsAt?, if_neg (by simp [printed, slash])]
    · rfl
    · exact quote
    · exact fun rest eq => absurd eq slash
    · exact fun letter rest eq => absurd eq slash

theorem charsAt_flatMap (cs rest : List Char) {fuel : Nat} (h : cs.length < fuel) :
    charsAt? fuel (cs.flatMap escape ++ '"' :: rest) = some (cs, rest) := by
  induction cs generalizing fuel with
  | nil =>
    obtain ⟨fuel, rfl⟩ := Nat.exists_eq_add_one_of_ne_zero (Nat.ne_zero_of_lt h)
    rfl
  | cons c cs ih =>
    obtain ⟨fuel, rfl⟩ := Nat.exists_eq_add_one_of_ne_zero (Nat.ne_zero_of_lt h)
    rw [List.flatMap_cons, List.append_assoc, charsAt_escape, ih (Nat.lt_of_succ_lt_succ h)]
    rfl

/-- A text is read up to its closing quote. -/
theorem stringAt_quoted (s : String) (rest : List Char) {fuel : Nat} (h : s.length < fuel) :
    stringAt? fuel (s.toList.flatMap escape ++ '"' :: rest) = some (s, rest) := by
  rw [stringAt?, charsAt_flatMap _ _ (String.length_toList ▸ h), Option.map_some]
  dsimp only
  rw [String.ofList_toList]

theorem quoted_append (s : String) (rest : List Char) :
    quoted s ++ rest = '"' :: (s.toList.flatMap escape ++ '"' :: rest) := by
  rw [quoted, List.cons_append, List.append_assoc]
  rfl

/-- **A quoted text is told apart from what follows.** -/
theorem quoted_append_inj {first second : String} {rest others : List Char}
    (h : quoted first ++ rest = quoted second ++ others) : first = second ∧ rest = others := by
  rw [quoted_append, quoted_append] at h
  have same := (List.cons.inj h).2
  have read := stringAt_quoted first rest (Nat.lt_succ_of_le (Nat.le_add_right _ second.length))
  rw [same, stringAt_quoted second others
    (Nat.lt_succ_of_le (Nat.le_add_left _ first.length))] at read
  exact ⟨(Prod.mk.inj (Option.some.inj read)).1.symm, (Prod.mk.inj (Option.some.inj read)).2.symm⟩

end Json

end EntitySearch
