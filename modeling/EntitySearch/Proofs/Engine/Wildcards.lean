import EntitySearch.Engine.Glob
import Mathlib.Data.List.Forall2
import Mathlib.Tactic.Common

/-!
# The language of a wildcard pattern

A pattern describes a set of texts: a star stands for any run of characters, a question mark for
one character, every other character for itself (`Fits`). The match finds almost these texts, but
a star of the pattern that meets a star in the text takes it as itself and is no longer free to
take a run. What the match finds is `Reads`: there a star stands for a run only if it does not
meet a star.

The match remembers the last star only. That is enough: whatever an earlier star could take
instead, the part of the pattern between the two would come to lie later in the text, and the last
star takes from there on what it likes (`exists_suffix_reads`). So a cursor knows at any time
whether the text is read (`Cursor.Accepts`), no step changes the answer (`Cursor.next?_leads`),
and the steps come to an end within the bound (`run_eq_some`).

* `Fits`, `Reads`: the texts a pattern describes, and those it finds.
* `glob_eq_true_iff`: a text is found exactly if it is read; then it fits, and without stars in the
  text or in the pattern exactly the texts that fit are found.
* `not_glob_eq_true_iff_fits`: a text may fit and not be found.
-/

namespace EntitySearch.Glob

/-- Whether a character of a pattern, not read as a star, stands for a character of the text. -/
def Takes (c x : Char) : Prop := c = '?' ∨ c = x

/-- The texts that a pattern describes. -/
inductive Fits : List Char → List Char → Prop
  | nil : Fits [] []
  | run {pattern text rest : List Char} :
    rest <:+ text → Fits pattern rest → Fits ('*' :: pattern) text
  | one {pattern text : List Char} {x : Char} :
    Fits pattern text → Fits ('?' :: pattern) (x :: text)
  | same {pattern text : List Char} {c : Char} :
    c ≠ '*' → c ≠ '?' → Fits pattern text → Fits (c :: pattern) (c :: text)

/-- The texts that a pattern finds: a star that meets a star stands for it. -/
inductive Reads : List Char → List Char → Prop
  | nil : Reads [] []
  | take {pattern text : List Char} {c x : Char} :
    Takes c x → Reads pattern text → Reads (c :: pattern) (x :: text)
  | run {pattern text rest : List Char} :
    text.head? ≠ some '*' → rest <:+ text → Reads pattern rest → Reads ('*' :: pattern) text

/-! ## What is found fits -/

theorem Reads.fits {pattern text : List Char} (h : Reads pattern text) : Fits pattern text := by
  induction h with
  | nil => exact .nil
  | run _ hs _ ih => exact .run hs ih
  | @take pattern text c x ht _ ih =>
    by_cases star : c = '*'
    · subst star
      exact .run (List.suffix_cons x text) ih
    · by_cases mark : c = '?'
      · subst mark
        exact .one ih
      · obtain rfl : c = x := ht.resolve_left mark
        exact .same star mark ih

theorem Fits.reads_of_text {pattern text : List Char} (h : Fits pattern text)
    (plain : '*' ∉ text) : Reads pattern text := by
  induction h with
  | nil => exact .nil
  | run hs _ ih =>
    exact .run (fun hh => plain (List.mem_of_mem_head? hh)) hs (ih fun hm => plain (hs.mem hm))
  | one _ ih => exact .take (.inl rfl) (ih fun hm => plain (List.mem_cons_of_mem _ hm))
  | same _ _ _ ih => exact .take (.inr rfl) (ih fun hm => plain (List.mem_cons_of_mem _ hm))

theorem Fits.reads_of_pattern {pattern text : List Char} (h : Fits pattern text)
    (plain : '*' ∉ pattern) : Reads pattern text := by
  induction h with
  | nil => exact .nil
  | run _ _ _ => exact absurd List.mem_cons_self plain
  | one _ ih => exact .take (.inl rfl) (ih fun hm => plain (List.mem_cons_of_mem _ hm))
  | same _ _ _ ih => exact .take (.inr rfl) (ih fun hm => plain (List.mem_cons_of_mem _ hm))

/-! ## Reading character by character -/

section Reading

variable {pattern text rest passed taken : List Char} {c x : Char}

/-- A character that stands for the next one of the text has no other reading: even a star stands
for this one character then. -/
theorem reads_take_iff (h : Takes c x) :
    Reads (c :: pattern) (x :: text) ↔ Reads pattern text := by
  refine ⟨fun hr => ?_, Reads.take h⟩
  cases hr with
  | take _ hr => exact hr
  | run hh _ _ =>
    rcases h with h | rfl
    · cases h
    · exact absurd rfl hh

theorem reads_star_iff (h : text.head? ≠ some '*') :
    Reads ('*' :: pattern) text ↔ ∃ rest, rest <:+ text ∧ Reads pattern rest := by
  refine ⟨fun hr => ?_, fun ⟨rest, hs, hr⟩ => .run h hs hr⟩
  cases hr with
  | take ht hr =>
    obtain ht | rfl := ht
    · cases ht
    · exact absurd rfl h
  | run _ hs hr => exact ⟨_, hs, hr⟩

theorem reads_append_iff (h : List.Forall₂ Takes passed taken) :
    Reads (passed ++ pattern) (taken ++ text) ↔ Reads pattern text := by
  induction h with
  | nil => rfl
  | cons ht _ ih => exact (reads_take_iff ht).trans ih

theorem reads_nil_iff : Reads pattern [] ↔ pattern.all (· == '*') = true := by
  induction pattern with
  | nil => exact iff_of_true .nil rfl
  | cons c pattern ih =>
    rw [List.all_cons, Bool.and_eq_true, ← ih, beq_iff_eq]
    constructor
    · intro h
      cases h with
      | run _ hs hr => exact ⟨rfl, List.suffix_nil.mp hs ▸ hr⟩
    · rintro ⟨rfl, hr⟩
      exact .run (by simp) List.suffix_rfl hr

/-- A character of the pattern that neither stands for the next one nor is a star ends the match,
and so does the end of the pattern. -/
theorem not_reads_of_mismatch (h : ∀ c ∈ pattern.head?, ¬ Takes c x ∧ c ≠ '*') :
    ¬ Reads pattern (x :: text) := by
  intro hr
  cases hr with
  | take ht _ => exact (h _ rfl).1 ht
  | run _ _ _ => exact (h _ rfl).2 rfl

/-- **Earlier stars need no second try.** Let a part of the pattern have taken a part of the text,
character by character. If this part of the pattern and the pattern behind it are read anywhere
from there on, the pattern behind it is read anywhere behind this part of the text. -/
theorem exists_suffix_reads (h : List.Forall₂ Takes passed taken) (hs : rest <:+ taken ++ text)
    (hr : Reads (passed ++ pattern) rest) : ∃ later, later <:+ text ∧ Reads pattern later := by
  induction h generalizing rest with
  | nil => exact ⟨rest, hs, hr⟩
  | @cons c x passed taken ht _ ih =>
    rw [List.cons_append] at hr hs
    rcases List.suffix_cons_iff.mp hs with rfl | hs
    · exact ih List.suffix_rfl ((reads_take_iff ht).mp hr)
    · -- read further to the right, so what is left of it is even further to the right
      cases hr with
      | take _ hr => exact ih ((List.suffix_cons _ _).trans hs) hr
      | run _ hi hr => exact ih (hi.trans hs) hr

end Reading

/-! ## The steps of a match -/

namespace Cursor

variable (pattern text : List Char) (cursor : Cursor)

/-- Whether the text can still be read from a cursor on: as it is, or with a longer run for the
last star. -/
def Accepts : Prop :=
  match cursor.star with
  | none => Reads (pattern.drop cursor.pattern) (text.drop cursor.text)
  | some (star, start) =>
    ∃ rest, rest <:+ text.drop start ∧ Reads (pattern.drop (star + 1)) rest

/-- Since the last star, the pattern took the text character by character. -/
def Traced : Prop :=
  ∀ star start, cursor.star = some (star, start) → ∃ passed taken, List.Forall₂ Takes passed taken ∧
    pattern.drop (star + 1) = passed ++ pattern.drop cursor.pattern ∧
    text.drop start = taken ++ text.drop cursor.text

/-- How many characters the last star can still take, or how long the text is if there is none. -/
def free : Nat :=
  match cursor.star with
  | none => text.length
  | some (_, start) => (text.drop start).length

/-- A bound on the steps that are left. -/
def left : Nat :=
  free text cursor * (pattern.length + 1) + (pattern.drop cursor.pattern).length

/-- A cursor that another one leads to: the text can be read from the one exactly if it can from
the other, in fewer steps. -/
structure Leads (cursor next : Cursor) : Prop where
  traced : next.Traced pattern text
  accepts : next.Accepts pattern text ↔ cursor.Accepts pattern text
  left : next.left pattern text < cursor.left pattern text

variable {pattern text cursor}

/-- Where a longer run of the last star is of no use, the cursor tells it by what lies before it. -/
theorem Traced.accepts_iff (h : cursor.Traced pattern text)
    (enough : ∀ rest, rest <:+ text.drop cursor.text → Reads (pattern.drop cursor.pattern) rest →
      Reads (pattern.drop cursor.pattern) (text.drop cursor.text)) :
    cursor.Accepts pattern text ↔
      Reads (pattern.drop cursor.pattern) (text.drop cursor.text) := by
  unfold Accepts
  cases hstar : cursor.star with
  | none => rfl
  | some place =>
    obtain ⟨star, start⟩ := place
    obtain ⟨passed, taken, htakes, hpattern, htext⟩ := h star start hstar
    dsimp only
    rw [hpattern, htext]
    constructor
    · rintro ⟨rest, hs, hr⟩
      obtain ⟨later, hs, hr⟩ := exists_suffix_reads htakes hs hr
      exact enough later hs hr
    · exact fun hr => ⟨_, List.suffix_rfl, (reads_append_iff htakes).mpr hr⟩

/-- The last star can still take all that the cursor has before it. -/
theorem Traced.length_le_free (h : cursor.Traced pattern text) :
    (text.drop cursor.text).length ≤ free text cursor := by
  unfold free
  cases hstar : cursor.star with
  | none => simp
  | some place =>
    obtain ⟨star, start⟩ := place
    obtain ⟨passed, taken, _, _, htext⟩ := h star start hstar
    simp [htext]

variable {c x : Char}

/-- A character that stands for the next one takes it. -/
theorem Traced.take (h : cursor.Traced pattern text)
    (hpattern : pattern.drop cursor.pattern = c :: pattern.drop (cursor.pattern + 1))
    (htext : text.drop cursor.text = x :: text.drop (cursor.text + 1)) (ht : Takes c x) :
    Leads pattern text cursor
      { cursor with pattern := cursor.pattern + 1, text := cursor.text + 1 } where
  traced star start hstar := by
    obtain ⟨passed, taken, htakes, hp, htx⟩ := h star start hstar
    refine ⟨passed ++ [c], taken ++ [x], List.rel_append htakes (.cons ht .nil), ?_, ?_⟩
    · rw [hp, hpattern, List.append_assoc, List.singleton_append]
    · rw [htx, htext, List.append_assoc, List.singleton_append]
  accepts := by
    unfold Accepts
    cases cursor.star with
    | some _ => rfl
    | none => rw [hpattern, htext, reads_take_iff ht]
  left := by
    simp only [Cursor.left, free, hpattern, List.length_cons]
    omega

/-- A star that does not meet a star becomes the last one. -/
theorem Traced.star (h : cursor.Traced pattern text)
    (hpattern : pattern.drop cursor.pattern = '*' :: pattern.drop (cursor.pattern + 1))
    (hhead : (text.drop cursor.text).head? ≠ some '*') :
    Leads pattern text cursor
      ⟨cursor.pattern + 1, cursor.text, some (cursor.pattern, cursor.text)⟩ where
  traced star start hstar := by
    cases hstar
    exact ⟨[], [], .nil, rfl, rfl⟩
  accepts := by
    have stars (rest : List Char) (hr : Reads (pattern.drop cursor.pattern) rest) :
        ∃ later, later <:+ rest ∧ Reads (pattern.drop (cursor.pattern + 1)) later := by
      rw [hpattern] at hr
      cases hr with
      | take _ hr => exact ⟨_, List.suffix_cons _ _, hr⟩
      | run _ hs hr => exact ⟨_, hs, hr⟩
    rw [h.accepts_iff, hpattern, reads_star_iff hhead]
    · rfl
    · intro rest hs hr
      obtain ⟨later, hl, hr⟩ := stars rest hr
      rw [hpattern, reads_star_iff hhead]
      exact ⟨later, hl.trans hs, hr⟩
  left := by
    have hfree := Nat.mul_le_mul_right (pattern.length + 1) h.length_le_free
    simp only [Cursor.left, hpattern, List.length_cons]
    simp only [free] at hfree ⊢
    omega

/-- On a mismatch the last star takes one more character, if there is one. -/
theorem Traced.retry (h : cursor.Traced pattern text)
    (htext : text.drop cursor.text = x :: text.drop (cursor.text + 1))
    (hr : ¬ Reads (pattern.drop cursor.pattern) (text.drop cursor.text)) :
    (∃ next, retry? cursor = some next ∧ Leads pattern text cursor next) ∨
      (¬ cursor.Accepts pattern text ∧ retry? cursor = none) := by
  unfold retry?
  cases hstar : cursor.star with
  | none =>
    refine .inr ⟨?_, rfl⟩
    rwa [Accepts, hstar]
  | some place =>
    obtain ⟨star, start⟩ := place
    obtain ⟨passed, taken, htakes, hp, htx⟩ := h star start hstar
    obtain ⟨y, hy⟩ : ∃ y, text.drop start = y :: text.drop (start + 1) := by
      have more : start < text.length := by
        have := congrArg List.length htx
        simp only [htext, List.length_drop, List.length_append, List.length_cons] at this
        omega
      exact ⟨_, List.drop_eq_getElem_cons more⟩
    refine .inl ⟨_, rfl, ?_, ?_, ?_⟩
    · rintro _ _ ⟨⟩
      exact ⟨[], [], .nil, rfl, rfl⟩
    · -- with what it has, the star leads to the mismatch
      have mismatch : ¬ Reads (pattern.drop (star + 1)) (text.drop start) := by
        rwa [hp, htx, reads_append_iff htakes]
      simp only [Accepts, hstar]
      constructor
      · rintro ⟨rest, hs, hrest⟩
        exact ⟨rest, hs.trans (hy ▸ List.suffix_cons _ _), hrest⟩
      · rintro ⟨rest, hs, hrest⟩
        rcases List.suffix_cons_iff.mp (hy ▸ hs) with rfl | hs
        · exact absurd (hy ▸ hrest) mismatch
        · exact ⟨rest, hs, hrest⟩
    · simp only [Cursor.left, free, hstar, hy, List.length_cons, List.length_drop, Nat.succ_mul]
      omega

/-- **A step of a match**: it leads to another cursor, or the text is not read. -/
theorem next?_leads (h : cursor.Traced pattern text) (hx : text[cursor.text]? = some x) :
    (∃ next, next? pattern x cursor = some next ∧ Leads pattern text cursor next) ∨
      (¬ cursor.Accepts pattern text ∧ next? pattern x cursor = none) := by
  have htext : text.drop cursor.text = x :: text.drop (cursor.text + 1) := by
    rw [List.drop_eq_getElem?_toList_append, hx]
    rfl
  unfold next?
  cases hc : pattern[cursor.pattern]? with
  | none =>
    refine h.retry htext ?_
    rw [htext, List.drop_eq_nil_of_le (List.getElem?_eq_none_iff.mp hc)]
    exact not_reads_of_mismatch (by simp)
  | some c =>
    have hpattern : pattern.drop cursor.pattern = c :: pattern.drop (cursor.pattern + 1) := by
      rw [List.drop_eq_getElem?_toList_append, hc]
      rfl
    dsimp only
    split_ifs with ht hstar
    · exact .inl ⟨_, rfl, h.take hpattern htext (by simpa [Takes] using ht)⟩
    · subst hstar
      refine .inl ⟨_, rfl, h.star hpattern ?_⟩
      rw [htext]
      rintro ⟨⟩
      simp at ht
    · refine h.retry htext ?_
      rw [htext, hpattern]
      refine not_reads_of_mismatch ?_
      rintro _ ⟨⟩
      exact ⟨by simpa [Takes] using ht, hstar⟩

end Cursor

/-! ## Whole matches -/

/-- **A match comes to an end** within the bound, and says whether the text is read. -/
theorem run_eq_some {pattern text : List Char} : ∀ {fuel : Nat} {cursor : Cursor},
    cursor.Traced pattern text → cursor.left pattern text < fuel →
    ∃ verdict, run pattern text fuel cursor = some verdict ∧
      (verdict = true ↔ cursor.Accepts pattern text)
  | 0, _, _, hf => absurd hf (Nat.not_lt_zero _)
  | fuel + 1, cursor, h, hf => by
    unfold run
    cases hx : text[cursor.text]? with
    | none =>
      refine ⟨_, rfl, ?_⟩
      have htext := List.drop_eq_nil_of_le (List.getElem?_eq_none_iff.mp hx)
      rw [h.accepts_iff, htext, reads_nil_iff]
      rw [htext]
      rintro rest hs hr
      rwa [← List.suffix_nil.mp hs]
    | some x =>
      rcases Cursor.next?_leads h hx with ⟨next, hn, hl⟩ | ⟨hr, hn⟩
      · have fewer := Nat.lt_of_lt_of_le hl.left (Nat.le_of_lt_succ hf)
        obtain ⟨verdict, hv, hr⟩ := run_eq_some hl.traced fewer
        exact ⟨verdict, by simpa only [hn] using hv, hr.trans hl.accepts⟩
      · exact ⟨false, by simp only [hn], iff_of_false (by decide) hr⟩

/-- A whole match comes to an end, and says whether the text is read. -/
theorem run_steps (pattern text : List Char) :
    run pattern text (steps pattern text) {} = some (glob pattern text) ∧
      (glob pattern text = true ↔ Reads pattern text) := by
  have traced : Cursor.Traced pattern text {} := nofun
  have bound : Cursor.left pattern text {} < steps pattern text := by
    simp only [Cursor.left, Cursor.free, steps, List.drop_zero]
    rw [Nat.mul_comm (pattern.length + 1), Nat.succ_mul]
    omega
  obtain ⟨verdict, hv, hr⟩ := run_eq_some traced bound
  unfold glob
  rw [hv]
  exact ⟨rfl, hr⟩

theorem glob_iff_reads (pattern text : List Char) :
    glob pattern text = true ↔ Reads pattern text :=
  (run_steps pattern text).2

/-! ## Main results -/

/-- **What a pattern finds.** Exactly the texts it reads: a question mark stands for one character,
a star for any run of characters unless it meets a star, and then for that star, every other
character for itself. Each of these texts fits the pattern; and unless there is a star both in the
pattern and in the text, exactly the texts that fit are found. -/
theorem glob_eq_true_iff (pattern text : List Char) :
    (glob pattern text = true ↔ Reads pattern text) ∧
    (glob pattern text = true → Fits pattern text) ∧
    ('*' ∉ pattern ∨ '*' ∉ text → (glob pattern text = true ↔ Fits pattern text)) := by
  have hg := glob_iff_reads pattern text
  refine ⟨hg, fun h => (hg.mp h).fits, fun plain => ⟨fun h => (hg.mp h).fits, fun h => hg.mpr ?_⟩⟩
  rcases plain with hp | ht
  · exact h.reads_of_pattern hp
  · exact h.reads_of_text ht

/-- A text without stars that fits a pattern with two of them is found. -/
theorem glob_eq_true_iff_two_stars :
    '*' ∉ "abcab".toList ∧ (glob "*a?*b".toList "abcab".toList = true ↔
      Fits "*a?*b".toList "abcab".toList) ∧ glob "*a?*b".toList "abcab".toList = true :=
  ⟨by decide, (glob_eq_true_iff "*a?*b".toList "abcab".toList).2.2 (.inr (by decide)), by decide⟩

/-- A star describes every text, but it does not find one that starts with a star and goes on. -/
theorem not_glob_eq_true_iff_fits :
    ¬ ∀ pattern text : List Char, glob pattern text = true ↔ Fits pattern text := by
  intro h
  have fits : Fits ['*'] ['*', 'x'] := .run (List.nil_suffix) .nil
  exact absurd ((h ['*'] ['*', 'x']).mpr fits) (by decide)

end EntitySearch.Glob
