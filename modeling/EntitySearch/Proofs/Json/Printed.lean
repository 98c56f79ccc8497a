import EntitySearch.Proofs.Json.Strings
import EntitySearch.Proofs.Number.Text

/-!
# The compact text of a value

The first character of a text tells the kind of the value, and the text itself where it ends: a string
at its closing quote, an array or an object at its bracket, and a number at the first character that no
number has. So from a text, followed by anything that does not look like the rest of a number, the value
and what follows can both be had. The text has no line break, since strings have none.

* `Json.induction`: induction over values, through arrays and objects.
* `Json.newline_not_mem_render`: the text is one line.
* `Json.Recovered`, `Json.recovered_render`: a value and what follows it can be had from the text.
* `Json.render_injective`: values of one text are the same.
-/

namespace EntitySearch

namespace Json

/-! ## Induction over values -/

/-- Induction over values: what holds of all parts of an array or an object holds of it. -/
@[elab_as_elim]
theorem induction {motive : Json → Prop} (null : motive .null) (bool : ∀ b, motive (.bool b))
    (number : ∀ n, motive (.number n)) (string : ∀ s, motive (.string s))
    (array : ∀ items, (∀ item ∈ items, motive item) → motive (.array items))
    (object : ∀ members, (∀ member ∈ members, motive member.2) → motive (.object members)) :
    ∀ value, motive value
  | .null => null
  | .bool b => bool b
  | .number n => number n
  | .string s => string s
  | .array items => array items fun item _ =>
    induction null bool number string array object item
  | .object members => object members fun member h =>
    have smaller : sizeOf member.2 < sizeOf members := by
      have part : sizeOf member = 1 + sizeOf member.1 + sizeOf member.2 := Prod.mk.sizeOf_spec _ _
      have whole := List.sizeOf_lt_of_mem h
      omega
    induction null bool number string array object member.2

/-! ## Lists of parts -/

/-- A member of an object. -/
def memberChars (member : String × Json) : List Char := quoted member.1 ++ ':' :: member.2.render

theorem renderItems_eq : ∀ items, renderItems items = [','].intercalate (items.map render)
  | [] => rfl
  | [item] => by rw [renderItems, List.map_singleton, List.intercalate_singleton]
  | item :: next :: rest => by
    rw [renderItems, renderItems_eq (next :: rest)]
    simp
    intro h
    cases h

theorem renderMembers_eq : ∀ members,
    renderMembers members = [','].intercalate (members.map memberChars)
  | [] => rfl
  | [(name, value)] => by
    rw [renderMembers, List.map_singleton, List.intercalate_singleton, memberChars]
  | (name, value) :: next :: rest => by
    rw [renderMembers, renderMembers_eq (next :: rest)]
    simp [memberChars]
    intro h
    cases h

theorem newline_not_mem_intercalate {texts : List (List Char)} (h : ∀ text ∈ texts, '\n' ∉ text) :
    '\n' ∉ [','].intercalate texts := by
  induction texts with
  | nil => exact List.not_mem_nil
  | cons text texts ih =>
    rw [List.forall_mem_cons] at h
    cases texts with
    | nil => rw [List.intercalate_singleton]; exact h.1
    | cons next rest =>
      rw [List.intercalate_cons_cons, List.mem_append, List.mem_append, List.mem_singleton]
      rintro ((mem | eq) | mem)
      · exact h.1 mem
      · cases eq
      · exact ih h.2 mem

/-- **The text of a value is one line.** -/
theorem newline_not_mem_render (value : Json) : '\n' ∉ value.render := by
  induction value using induction with
  | null => decide
  | bool b => cases b <;> decide
  | number n =>
    intro mem
    have numeric := n.numeric_render '\n' mem
    cases numeric
  | string s => exact newline_not_mem_quoted s
  | array items ih =>
    have inside : '\n' ∉ renderItems items := by
      rw [renderItems_eq]
      exact newline_not_mem_intercalate (List.forall_mem_map.mpr ih)
    rw [render, List.mem_cons, List.mem_append]
    simp [inside]
  | object members ih =>
    have inside : '\n' ∉ renderMembers members := by
      rw [renderMembers_eq]
      refine newline_not_mem_intercalate (List.forall_mem_map.mpr fun member hm => ?_)
      rw [memberChars, List.mem_append, List.mem_cons]
      simp [newline_not_mem_quoted, ih member hm]
    rw [render, List.mem_cons, List.mem_append]
    simp [inside]

/-! ## A text and what follows it -/

open Decimal (isNumeric takeWhile_exact)

/-- What follows a text does not look like the rest of a number. -/
def Apart (rest : List Char) : Prop := ∀ c ∈ rest.head?, isNumeric c = false

theorem apart_cons {c : Char} {rest : List Char} (h : isNumeric c = false) : Apart (c :: rest) := by
  intro first hf
  cases hf
  exact h

theorem apart_nil : Apart [] := by
  intro first hf
  cases hf

/-- What is written and what follows it can both be had from the text. -/
def Recovered {α : Type} (text : α → List Char) (a : α) : Prop :=
  ∀ b rest others, Apart rest → Apart others → text a ++ rest = text b ++ others →
    a = b ∧ rest = others

theorem recovered_number (n : Number) : Recovered Number.render n := by
  intro other rest others hr ho h
  have read := congrArg (List.takeWhile isNumeric) h
  rw [takeWhile_exact n.numeric_render hr, takeWhile_exact other.numeric_render ho] at read
  exact ⟨Number.render_injective read, List.append_cancel_left (read ▸ h)⟩

theorem recovered_member {member : String × Json} (h : Recovered render member.2) :
    Recovered memberChars member := by
  intro other rest others hr ho same
  rw [memberChars, memberChars, List.append_assoc, List.append_assoc] at same
  obtain ⟨name, same⟩ := quoted_append_inj same
  obtain ⟨value, same⟩ := h _ _ _ hr ho (List.cons.inj same).2
  exact ⟨Prod.ext name value, same⟩

section Parts

variable {α : Type} {text : α → List Char} {close : Char}

/-- What follows the first of several parts. -/
def afterFirst : List (List Char) → List Char → List Char
  | [], rest => rest
  | text :: texts, rest => ',' :: ([','].intercalate (text :: texts) ++ rest)

theorem intercalate_cons_append (first : List Char) (texts : List (List Char)) (rest : List Char) :
    [','].intercalate (first :: texts) ++ rest = first ++ afterFirst texts rest := by
  cases texts with
  | nil => rw [List.intercalate_singleton, afterFirst]
  | cons next texts =>
    rw [List.intercalate_cons_cons, afterFirst]
    simp only [List.append_assoc, List.cons_append, List.nil_append]

theorem apart_afterFirst (mark : isNumeric close = false) (texts : List (List Char))
    (rest : List Char) : Apart (afterFirst texts (close :: rest)) := by
  cases texts with
  | nil => exact apart_cons mark
  | cons => exact apart_cons rfl

/-- The parts of an array or an object can be had from the text up to the bracket that closes it. -/
theorem recovered_parts (mark : isNumeric close = false) (comma : close ≠ ',')
    (opens : ∀ a rest others, text a ++ rest ≠ close :: others) {parts : List α}
    (h : ∀ part ∈ parts, Recovered text part) {others : List α} {rest last : List Char}
    (same : [','].intercalate (parts.map text) ++ close :: rest =
      [','].intercalate (others.map text) ++ close :: last) :
    parts = others ∧ rest = last := by
  induction parts generalizing others with
  | nil =>
    cases others with
    | nil => exact ⟨rfl, (List.cons.inj same).2⟩
    | cons other others =>
      rw [List.map_cons, intercalate_cons_append] at same
      exact absurd same.symm (opens _ _ _)
  | cons part parts ih =>
    rw [List.forall_mem_cons] at h
    rw [List.map_cons, intercalate_cons_append] at same
    cases others with
    | nil => exact absurd same (opens _ _ _)
    | cons other others =>
      rw [List.map_cons, intercalate_cons_append] at same
      obtain ⟨rfl, after⟩ := h.1 _ _ _ (apart_afterFirst mark _ _) (apart_afterFirst mark _ _) same
      cases parts with
      | nil =>
        cases others with
        | nil => exact ⟨rfl, (List.cons.inj after).2⟩
        | cons next others => exact absurd (List.cons.inj after).1 comma
      | cons next parts =>
        cases others with
        | nil => exact absurd (List.cons.inj after).1.symm comma
        | cons next' others =>
          have equal : next :: parts = next' :: others ∧ rest = last :=
            ih h.2 (List.cons.inj after).2
          exact ⟨congrArg (part :: ·) equal.1, equal.2⟩

end Parts

/-! ## The kind of a value -/

/-- The kinds of values. -/
inductive Kind where
  | null | bool | number | string | array | object | other

/-- The kind of a value. -/
def kind : Json → Kind
  | .null => .null
  | .bool _ => .bool
  | .number _ => .number
  | .string _ => .string
  | .array _ => .array
  | .object _ => .object

/-- The kind of the value whose text begins with a character. -/
def kindOf (c : Char) : Kind :=
  if c = 'n' then .null
  else if c = 't' ∨ c = 'f' then .bool
  else if isNumeric c then .number
  else if c = '"' then .string
  else if c = '[' then .array
  else if c = '{' then .object
  else .other

theorem kindOf_numeric {c : Char} (h : isNumeric c) : kindOf c = .number := by
  unfold kindOf
  rw [if_neg, if_neg, if_pos h]
  · rintro (rfl | rfl) <;> cases h
  · rintro rfl
    cases h

theorem head_render (value : Json) : ∃ c rest, value.render = c :: rest ∧ kindOf c = value.kind := by
  cases value with
  | null => exact ⟨_, _, rfl, rfl⟩
  | bool b => cases b <;> exact ⟨_, _, rfl, rfl⟩
  | number n =>
    obtain ⟨c, rest, hn⟩ := List.exists_cons_of_ne_nil n.render_ne_nil
    exact ⟨c, rest, hn, kindOf_numeric (n.numeric_render c (hn ▸ List.mem_cons_self))⟩
  | string s => exact ⟨_, _, rfl, rfl⟩
  | array items => exact ⟨_, _, rfl, rfl⟩
  | object members => exact ⟨_, _, rfl, rfl⟩

theorem kind_eq {first second : Json} {rest others : List Char}
    (h : first.render ++ rest = second.render ++ others) : first.kind = second.kind := by
  obtain ⟨c, _, hf, kf⟩ := first.head_render
  obtain ⟨d, _, hs, ks⟩ := second.head_render
  rw [hf, hs] at h
  rw [← kf, ← ks, (List.cons.inj h).1]

theorem kind_ne_other (value : Json) : value.kind ≠ .other := by
  cases value <;> intro h <;> cases h

theorem render_ne_bracket (value : Json) (rest others : List Char) :
    value.render ++ rest ≠ ']' :: others := by
  intro h
  obtain ⟨c, _, hc, kind⟩ := value.head_render
  rw [hc] at h
  rw [(List.cons.inj h).1] at kind
  exact kind_ne_other value kind.symm

theorem memberChars_ne_brace (member : String × Json) (rest others : List Char) :
    memberChars member ++ rest ≠ '}' :: others := by
  intro h
  cases (List.cons.inj h).1

/-- **A value and what follows it can both be had from the text.** -/
theorem recovered_render (value : Json) : Recovered render value := by
  induction value using induction with
  | null =>
    intro other rest others _ _ h
    cases other <;> try cases kind_eq h
    exact ⟨rfl, List.append_cancel_left h⟩
  | bool b =>
    intro other rest others _ _ h
    cases other <;> try cases kind_eq h
    next other => cases b <;> cases other <;> simp_all [render]
  | number n =>
    intro other rest others hr ho h
    cases other <;> try cases kind_eq h
    obtain ⟨rfl, rest⟩ := recovered_number n _ _ _ hr ho h
    exact ⟨rfl, rest⟩
  | string s =>
    intro other rest others _ _ h
    cases other <;> try cases kind_eq h
    obtain ⟨rfl, rest⟩ := quoted_append_inj h
    exact ⟨rfl, rest⟩
  | array items ih =>
    intro other rest others _ _ h
    cases other <;> try cases kind_eq h
    rw [render, render, renderItems_eq, renderItems_eq] at h
    simp only [List.cons_append, List.append_assoc, List.nil_append] at h
    obtain ⟨rfl, rest⟩ := recovered_parts rfl (by decide) render_ne_bracket ih (List.cons.inj h).2
    exact ⟨rfl, rest⟩
  | object members ih =>
    intro other rest others _ _ h
    cases other <;> try cases kind_eq h
    rw [render, render, renderMembers_eq, renderMembers_eq] at h
    simp only [List.cons_append, List.append_assoc, List.nil_append] at h
    obtain ⟨rfl, rest⟩ := recovered_parts rfl (by decide) memberChars_ne_brace
      (fun member hm => recovered_member (ih member hm)) (List.cons.inj h).2
    exact ⟨rfl, rest⟩

/-- **Values of one text are the same.** -/
theorem render_injective : Function.Injective render := by
  intro first second h
  exact (recovered_render first _ _ _ apart_nil apart_nil
    (by rw [List.append_nil, List.append_nil, h])).1

end Json

end EntitySearch
