import EntitySearch.Proofs.Json.Members
import EntitySearch.Proofs.Json.Printed

/-!
# Reading a text back

A string reads back from its text, and so does an object whose members have distinct names and values
that read back: every member is added after those that were read before it. The fuel of a reader is
enough if it is not less than the length of the text.

* `Json.Reads`: a value reads back, whatever follows.
* `Json.reads_string`, `Json.reads_object`: the values that do.
* `Json.parse_render`: then the whole text is read back.
-/

namespace EntitySearch

namespace Json

/-- A value reads back from its text, whatever follows. -/
def Reads (value : Json) : Prop :=
  ∀ fuel rest, value.render.length ≤ fuel →
    valueAt? fuel (value.render ++ rest) = some (value, rest)

theorem length_le_flatMap (cs : List Char) : cs.length ≤ (cs.flatMap escape).length := by
  induction cs with
  | nil => exact Nat.le_refl 0
  | cons c cs ih =>
    have written : 1 ≤ (escape c).length := by
      rcases escape_cases c with ⟨letter, eq, -⟩ | ⟨-, eq⟩ | ⟨eq, -⟩ <;> simp [eq]
    rw [List.flatMap_cons, List.length_append, List.length_cons]
    omega

theorem length_add_two_le_quoted (s : String) : s.length + 2 ≤ (quoted s).length := by
  have inside := length_le_flatMap s.toList
  rw [quoted, List.length_cons, List.length_append, List.length_singleton, ← String.length_toList]
  omega

theorem valueAt_quote (fuel : Nat) (cs : List Char) :
    valueAt? (fuel + 1) ('"' :: cs) = (stringAt? fuel cs).map fun (s, rest) => (.string s, rest) := by
  rw [valueAt?]
  rfl

theorem valueAt_brace_quote (fuel : Nat) (cs : List Char) :
    valueAt? (fuel + 1) ('{' :: '"' :: cs) =
      (membersAt? fuel [] ('"' :: cs)).map fun (members, rest) => (.object members, rest) := by
  rw [valueAt?]
  rfl

theorem membersAt_quote (fuel : Nat) (found : Fields) (cs : List Char) :
    membersAt? (fuel + 1) found ('"' :: cs) = (stringAt? fuel cs).bind fun (name, rest) =>
      match skip rest with
      | ':' :: rest => (valueAt? fuel rest).bind fun (value, rest) =>
        match skip rest with
        | ',' :: rest => membersAt? fuel (found.insert name value) rest
        | '}' :: rest => some (found.insert name value, rest)
        | _ => none
      | _ => none := by
  rw [membersAt?]
  rfl

theorem reads_string (s : String) : Reads (.string s) := by
  intro fuel rest h
  have size := length_add_two_le_quoted s
  rw [render] at h
  obtain ⟨fuel, rfl⟩ : ∃ below, fuel = below + 1 := ⟨fuel - 1, by omega⟩
  rw [render, quoted_append, valueAt_quote, stringAt_quoted s rest (by omega)]
  rfl

theorem membersAt_cons {fuel : Nat} {found : Fields} {member : String × Json} {rest : List Char}
    (h : Reads member.2) (enough : (memberChars member).length ≤ fuel) :
    membersAt? (fuel + 1) found (memberChars member ++ rest) =
      (match skip rest with
      | ',' :: rest => membersAt? fuel (found.insert member.1 member.2) rest
      | '}' :: rest => some (found.insert member.1 member.2, rest)
      | _ => none) := by
  have size := length_add_two_le_quoted member.1
  rw [memberChars, List.length_append, List.length_cons] at enough
  have colon (cs : List Char) : skip (':' :: cs) = ':' :: cs := rfl
  rw [memberChars, List.append_assoc, quoted_append, membersAt_quote,
    stringAt_quoted _ _ (by omega), Option.bind_some, List.cons_append]
  dsimp only
  rw [colon]
  change (valueAt? fuel (member.2.render ++ rest)).bind _ = _
  rw [h fuel rest (by omega), Option.bind_some]

theorem membersAt_next {fuel : Nat} {found : Fields} {member : String × Json} (rest : List Char)
    (h : Reads member.2) (enough : (memberChars member).length ≤ fuel) :
    membersAt? (fuel + 1) found (memberChars member ++ ',' :: rest) =
      membersAt? fuel (found.insert member.1 member.2) rest := by
  rw [membersAt_cons h enough]
  rfl

theorem membersAt_last {fuel : Nat} {found : Fields} {member : String × Json} (rest : List Char)
    (h : Reads member.2) (enough : (memberChars member).length ≤ fuel) :
    membersAt? (fuel + 1) found (memberChars member ++ '}' :: rest) =
      some (found.insert member.1 member.2, rest) := by
  rw [membersAt_cons h enough]
  rfl

theorem insert_first {found members : Fields} {member : String × Json}
    (distinct : (found ++ member :: members).names.Nodup) :
    found.insert member.1 member.2 = found ++ [member] := by
  refine Fields.insert_new (fun mem => ?_) member.2
  rw [Fields.names, List.map_append, List.map_cons, List.nodup_append] at distinct
  exact distinct.2.2 _ mem _ List.mem_cons_self rfl

theorem membersAt_members {member : String × Json} {members : Fields}
    (values : ∀ part ∈ member :: members, Reads part.2) {found : Fields}
    (distinct : (found ++ member :: members).names.Nodup) {fuel : Nat} (rest : List Char)
    (enough : (renderMembers (member :: members)).length < fuel) :
    membersAt? fuel found (renderMembers (member :: members) ++ '}' :: rest) =
      some (found ++ member :: members, rest) := by
  rw [renderMembers_eq] at enough ⊢
  induction members generalizing member found fuel with
  | nil =>
    obtain ⟨fuel, rfl⟩ : ∃ below, fuel = below + 1 := ⟨fuel - 1, by omega⟩
    rw [List.map_singleton, List.intercalate_singleton] at enough ⊢
    rw [membersAt_last rest (values member List.mem_cons_self) (by omega), insert_first distinct]
  | cons next members ih =>
    obtain ⟨fuel, rfl⟩ : ∃ below, fuel = below + 1 := ⟨fuel - 1, by omega⟩
    rw [List.map_cons, List.map_cons, List.intercalate_cons_cons, ← List.map_cons] at enough ⊢
    simp only [List.length_append, List.length_singleton] at enough
    rw [List.append_assoc, List.append_assoc, List.singleton_append,
      membersAt_next _ (values member List.mem_cons_self) (by omega), insert_first distinct,
      ih (List.forall_mem_cons.mp values).2 (by rwa [List.append_assoc]) (by omega),
      List.append_assoc]
    rfl

/-- An object of members with distinct names reads back if their values do. -/
theorem reads_object {members : Fields} (filled : members ≠ []) (distinct : members.names.Nodup)
    (values : ∀ member ∈ members, Reads member.2) : Reads (.object members) := by
  obtain ⟨member, members, rfl⟩ := List.exists_cons_of_ne_nil filled
  intro fuel rest enough
  rw [render, List.length_cons, List.length_append, List.length_singleton] at enough
  obtain ⟨fuel, rfl⟩ : ∃ below, fuel = below + 1 := ⟨fuel - 1, by omega⟩
  have start : ∃ cs, renderMembers (member :: members) ++ '}' :: rest = '"' :: cs := by
    rw [renderMembers_eq, List.map_cons, intercalate_cons_append]
    exact ⟨_, rfl⟩
  have read : membersAt? fuel [] (renderMembers (member :: members) ++ '}' :: rest) =
      some (member :: members, rest) := membersAt_members values distinct rest (by omega)
  obtain ⟨cs, start⟩ := start
  rw [render, List.cons_append, List.append_assoc, List.singleton_append, start,
    valueAt_brace_quote, ← start]
  rw [read]
  rfl

/-- A value that reads back can be had from its text alone. -/
theorem parse_render {value : Json} (h : Reads value) : parse? value.text = some value := by
  have read := h (2 * value.render.length + 2) [] (by omega)
  rw [List.append_nil] at read
  rw [parse?, text, String.toList_ofList]
  dsimp only
  rw [read]
  rfl

end Json

end EntitySearch
