import EntitySearch.Proofs.Engine.Wildcards
import Mathlib.Data.PFun

/-!
# The loop of a match

A match is a loop over two places, one in the pattern and one in the text, and on a mismatch both
of them may move back. Written as such a loop, nothing bounds its passes, a list has no character
outside it (`characterAt`) and no rest behind its end (`restFrom`): `loop` has no value if it does
not come to an end, and a fault if it asks for what a list does not have.

That a pass has no fault is seen from what it asks before it reads: the pattern is read only where
it has a character, the text only where the loop goes on (`pass_eq`). The rest of the pattern is
read without a question. There it matters that the place in the pattern never gets behind the end,
which holds after a mismatch because the last star was inside the pattern and what it has taken
was inside the text (`Cursor.Within`). That the loop ends is seen from the measure of the steps of
a match: first what the last star can still take, then what is left of the pattern
(`Cursor.left`).

* `loop`: the loop of a match; `Visits`: the cursors it comes to.
* `Cursor.Within.next?`: every pass keeps both places inside.
* `loop_ends_within`: the loop ends with the verdict of the match, without a fault.
-/

namespace EntitySearch.Glob

/-- What a list cannot give. -/
inductive Fault where
  /-- The character at a place that is not strictly inside. -/
  | character
  /-- The characters from a place on that lies behind the end. -/
  | rest
deriving DecidableEq

/-- The character at a place. -/
def characterAt (characters : List Char) (place : Nat) : Except Fault Char :=
  if inside : place < characters.length then .ok characters[place] else .error .character

/-- The characters from a place on; the end is such a place, too. -/
def restFrom (characters : List Char) (place : Nat) : Except Fault (List Char) :=
  if place ≤ characters.length then .ok (characters.drop place) else .error .rest

/-! ## The loop -/

/-- Whether the character at a place passes a test. Where there is none, it does not. -/
def meets (characters : List Char) (place : Nat) (test : Char → Except Fault Bool) :
    Except Fault Bool :=
  if place < characters.length then characterAt characters place >>= test else .ok false

/-- Whether a character of a pattern, not read as a star, stands for the text's at a place, which
is not read for a question mark. -/
def stands (text : List Char) (place : Nat) (c : Char) : Except Fault Bool :=
  if c = '?' then return true else return decide (c = (← characterAt text place))

section Loop

variable (pattern text : List Char)

/-- A pass of the loop: the next cursor, or none if the text does not fit. -/
def pass (cursor : Cursor) : Except Fault (Option Cursor) := do
  if ← meets pattern cursor.pattern (stands text cursor.text) then
    return some { cursor with pattern := cursor.pattern + 1, text := cursor.text + 1 }
  else if ← meets pattern cursor.pattern fun c => return c = '*' then
    return some ⟨cursor.pattern + 1, cursor.text, some (cursor.pattern, cursor.text)⟩
  else return retry? cursor

/-- A turn of the loop: how the match ends here, or the cursor it goes on from. -/
def turn (cursor : Cursor) : Except Fault Bool ⊕ Cursor :=
  if cursor.text < text.length then
    match pass pattern text cursor with
    | .ok (some next) => .inr next
    | .ok none => .inl (.ok false)
    | .error fault => .inl (.error fault)
  else .inl ((restFrom pattern cursor.pattern).map fun rest => rest.all (· == '*'))

/-- The loop from a cursor on: it takes turns until the match ends, and has no value if it never
does. -/
def loop : Cursor →. Except Fault Bool := PFun.fix fun cursor => .some (turn pattern text cursor)

/-- The cursors that the loop comes to. -/
inductive Visits : Cursor → Prop
  | start : Visits {}
  | turn {cursor next : Cursor} : Visits cursor → turn pattern text cursor = .inr next →
    Visits next

end Loop

variable {pattern text : List Char} {cursor next : Cursor} {x : Char}

/-! ## No fault in a pass -/

theorem characterAt_of_getElem? {characters : List Char} {place : Nat}
    (h : characters[place]? = some x) : characterAt characters place = .ok x := by
  obtain ⟨inside, rfl⟩ := List.getElem?_eq_some_iff.mp h
  exact dif_pos inside

/-- A place is asked for first, so a fault is the test's. -/
theorem meets_eq (characters : List Char) (place : Nat) (test : Char → Except Fault Bool) :
    meets characters place test = characters[place]?.elim (.ok false) test := by
  unfold meets
  cases h : characters[place]? with
  | none => exact if_neg (Nat.not_lt.mpr (List.getElem?_eq_none_iff.mp h))
  | some c =>
    rw [if_pos (List.getElem?_eq_some_iff.mp h).1, characterAt_of_getElem? h]
    rfl

theorem stands_eq {place : Nat} (hx : text[place]? = some x) (c : Char) :
    stands text place c = .ok (c = '?' || c = x) := by
  unfold stands
  rw [characterAt_of_getElem? hx]
  by_cases mark : c = '?'
  · rw [if_pos mark, decide_eq_true mark, Bool.true_or]
    rfl
  · rw [if_neg mark, decide_eq_false mark, Bool.false_or]
    rfl

/-- **A pass has no fault** where the text has a character: it is a step of the match. -/
theorem pass_eq (hx : text[cursor.text]? = some x) :
    pass pattern text cursor = .ok (next? pattern x cursor) := by
  unfold pass next?
  rw [meets_eq, meets_eq]
  cases pattern[cursor.pattern]? with
  | none => rfl
  | some c =>
    rw [Option.elim_some, Option.elim_some, stands_eq hx]
    simp only [bind, Except.bind, pure, Except.pure, decide_eq_true_eq]
    split_ifs <;> rfl

/-! ## Both places stay inside -/

/-- A cursor within a pattern and a text. The last star is a character of the pattern, and what it
has taken lies before the cursor. -/
structure Cursor.Within (pattern text : List Char) (cursor : Cursor) : Prop where
  pattern_le : cursor.pattern ≤ pattern.length
  text_le : cursor.text ≤ text.length
  star_lt : ∀ star start, cursor.star = some (star, start) →
    star < pattern.length ∧ start ≤ cursor.text

namespace Cursor.Within

theorem start : Within pattern text {} where
  pattern_le := Nat.zero_le _
  text_le := Nat.zero_le _
  star_lt := nofun

/-- After a mismatch the match goes on behind the last star, one character further than before. -/
theorem retry (h : cursor.Within pattern text) (more : cursor.text < text.length)
    (hn : retry? cursor = some next) : next.Within pattern text := by
  unfold retry? at hn
  cases hstar : cursor.star with
  | none => simp [hstar] at hn
  | some place =>
    obtain ⟨star, start⟩ := place
    obtain ⟨inside, before⟩ := h.star_lt star start hstar
    obtain rfl : ⟨star + 1, start + 1, some (star, start + 1)⟩ = next := by simpa [hstar] using hn
    refine ⟨inside, Nat.lt_of_le_of_lt before more, ?_⟩
    rintro _ _ ⟨⟩
    exact ⟨inside, Nat.le_refl _⟩

/-- A step of a match keeps both places inside. -/
theorem next? (h : cursor.Within pattern text) (hx : text[cursor.text]? = some x)
    (hn : Glob.next? pattern x cursor = some next) : next.Within pattern text := by
  have more := (List.getElem?_eq_some_iff.mp hx).1
  unfold Glob.next? at hn
  cases hc : pattern[cursor.pattern]? with
  | none => exact h.retry more (by simpa only [hc] using hn)
  | some c =>
    have inside := (List.getElem?_eq_some_iff.mp hc).1
    simp only [hc] at hn
    split_ifs at hn
    · cases hn
      refine ⟨inside, more, fun star start hstar => ?_⟩
      obtain ⟨hlt, hle⟩ := h.star_lt star start hstar
      exact ⟨hlt, Nat.le_succ_of_le hle⟩
    · cases hn
      refine ⟨inside, h.text_le, ?_⟩
      rintro _ _ ⟨⟩
      exact ⟨inside, Nat.le_refl _⟩
    · exact h.retry more hn

end Cursor.Within

/-! ## Turns -/

theorem turn_of_character (hx : text[cursor.text]? = some x) :
    turn pattern text cursor = (next? pattern x cursor).elim (.inl (.ok false)) .inr := by
  rw [turn, if_pos (List.getElem?_eq_some_iff.mp hx).1, pass_eq hx]
  cases next? pattern x cursor <;> rfl

theorem Cursor.Within.turn_of_end (h : cursor.Within pattern text)
    (hx : text[cursor.text]? = none) : turn pattern text cursor =
      .inl (.ok ((pattern.drop cursor.pattern).all (· == '*'))) := by
  rw [turn, if_neg (Nat.not_lt.mpr (List.getElem?_eq_none_iff.mp hx)), restFrom,
    if_pos h.pattern_le]
  rfl

/-- **Both places are inside at any time.** -/
theorem Visits.within (h : Visits pattern text cursor) : cursor.Within pattern text := by
  induction h with
  | start => exact .start
  | @turn cursor next _ hn ih =>
    cases hx : text[cursor.text]? with
    | none => simp [ih.turn_of_end hx] at hn
    | some x =>
      rw [turn_of_character hx] at hn
      cases hs : next? pattern x cursor with
      | none => simp [hs] at hn
      | some step =>
        obtain rfl : step = next := by simpa [hs] using hn
        exact ih.next? hx hs

/-! ## The end of the loop -/

theorem loop_of_ended {outcome : Except Fault Bool} (h : turn pattern text cursor = .inl outcome) :
    loop pattern text cursor = .some outcome :=
  Part.eq_some_iff.mpr (PFun.fix_stop (Part.mem_some_iff.mpr h.symm))

theorem loop_of_goes_on (h : turn pattern text cursor = .inr next) :
    loop pattern text cursor = loop pattern text next :=
  PFun.fix_fwd_eq (Part.mem_some_iff.mpr h.symm)

/-- A match that comes to an end within some steps is the loop's. -/
theorem Cursor.Within.loop_eq {fuel : Nat} {verdict : Bool} (h : cursor.Within pattern text)
    (hr : run pattern text fuel cursor = some verdict) :
    loop pattern text cursor = .some (.ok verdict) := by
  induction fuel generalizing cursor with
  | zero => cases hr
  | succ fuel ih =>
    unfold run at hr
    cases hx : text[cursor.text]? with
    | none =>
      simp only [hx, Option.some.injEq] at hr
      rw [loop_of_ended (h.turn_of_end hx), hr]
    | some x =>
      have taken : turn pattern text cursor = _ := turn_of_character hx
      cases hs : Glob.next? pattern x cursor with
      | none =>
        rw [hs] at taken
        simp only [hx, hs, Option.some.injEq] at hr
        rw [loop_of_ended taken, hr]
      | some next =>
        rw [hs] at taken
        simp only [hx, hs] at hr
        rw [loop_of_goes_on taken]
        exact ih (h.next? hx hs) hr

/-- **A match comes to an end inside.** At any cursor the loop comes to, the place in the pattern
is at most the pattern's length and the place in the text at most the text's; while the text has a
character there, the pass reads without a fault and is a step of the match, and the rest of the
pattern can be read. The loop ends with the verdict of the match, and so does the match itself
before its bound is met. -/
theorem loop_ends_within (pattern text : List Char) :
    (∀ cursor, Visits pattern text cursor →
      cursor.pattern ≤ pattern.length ∧ cursor.text ≤ text.length ∧
      (∀ x, text[cursor.text]? = some x →
        pass pattern text cursor = .ok (next? pattern x cursor)) ∧
      restFrom pattern cursor.pattern = .ok (pattern.drop cursor.pattern)) ∧
    loop pattern text {} = .some (.ok (glob pattern text)) ∧
    run pattern text (steps pattern text) {} = some (glob pattern text) := by
  have ends := (run_steps pattern text).1
  refine ⟨fun cursor visits => ?_, Cursor.Within.start.loop_eq ends, ends⟩
  have within := visits.within
  exact ⟨within.pattern_le, within.text_le, fun x hx => pass_eq hx, if_pos within.pattern_le⟩

/-- A mismatch of the pattern's fourth character and the text's third moves both places back to
the second characters, and from there the match comes to its end. -/
theorem loop_ends_within_moved_back :
    Visits "*aab".toList "aaab".toList ⟨3, 2, some (0, 0)⟩ ∧
    Visits "*aab".toList "aaab".toList ⟨1, 1, some (0, 1)⟩ ∧
    pass "*aab".toList "aaab".toList ⟨1, 1, some (0, 1)⟩ = .ok (some ⟨2, 2, some (0, 1)⟩) ∧
    restFrom "*aab".toList 1 = .ok "aab".toList ∧
    loop "*aab".toList "aaab".toList {} = .some (.ok true) := by
  have behind : Visits "*aab".toList "aaab".toList ⟨3, 2, some (0, 0)⟩ :=
    .turn (.turn (.turn .start rfl) rfl) rfl
  have back : Visits "*aab".toList "aaab".toList ⟨1, 1, some (0, 1)⟩ :=
    .turn behind rfl
  obtain ⟨within, ends, -⟩ := loop_ends_within "*aab".toList "aaab".toList
  obtain ⟨-, -, passes, rest⟩ := within _ back
  exact ⟨behind, back, passes 'a' rfl, rest, ends⟩

end EntitySearch.Glob
