import EntitySearch.Proofs.Json.Members
import Mathlib.Data.List.Perm.Subperm

/-!
# Equal values

Objects are compared as maps: they are equal if they have equally many members and each member of the
one equals that of its name in the other. If the names are distinct, the other one then has no member
of a further name, for want of room.

* `Json.same`: whether two values are equal.
* `Json.same_object_iff`, `same_single_iff`: the values that equal an object.
* `Json.find?_of_same`: what is found in equal objects.
* `Json.same_of_distinct`: an object of distinct names equals itself if its values do.
-/

namespace EntitySearch

namespace Json

mutual
/-- Whether two values are equal. The order of the members of an object does not count. -/
def same : Json → Json → Bool
  | .null, .null => true
  | .bool a, .bool b => a == b
  | .number m, .number n => m == n
  | .string s, .string t => s == t
  | .array items, .array others => sameItems items others
  | .object members, .object others =>
    members.length == others.length && sameMembers members others
  | _, _ => false
termination_by structural value => value
/-- Whether two lists have equal items, in the same order. -/
def sameItems : List Json → List Json → Bool
  | [], [] => true
  | item :: rest, other :: others => item.same other && sameItems rest others
  | _, _ => false
termination_by structural items => items
/-- Whether every member of a list equals that of its name in another. -/
def sameMembers : List (String × Json) → List (String × Json) → Bool
  | [], _ => true
  | (name, value) :: rest, others =>
    (match Fields.find? others name with
      | some other => value.same other
      | none => false) && sameMembers rest others
termination_by structural members => members
end

/-! ## The values that equal a given one -/

theorem same_string_iff {text : String} {value : Json} :
    (string text).same value = true ↔ value = .string text := by
  cases value with
  | string other => simp [same, eq_comm (a := text)]
  | _ => simp [same]

theorem same_array_iff {items : List Json} {value : Json} :
    (array items).same value = true ↔
      ∃ others, value = .array others ∧ sameItems items others = true := by
  cases value <;> simp [same]

/-- Every member of a list has an equal one in another. -/
def Covered (members others : Fields) : Prop :=
  ∀ member ∈ members, ∃ other, others.find? member.1 = some other ∧ member.2.same other = true

theorem sameMembers_iff {members others : Fields} :
    sameMembers members others = true ↔ Covered members others := by
  unfold Covered
  induction members with
  | nil => simp [sameMembers]
  | cons member rest ih =>
    obtain ⟨name, value⟩ := member
    rw [sameMembers, Bool.and_eq_true, ih, List.forall_mem_cons]
    refine and_congr_left' ?_
    cases Fields.find? others name <;> simp

theorem same_object_iff {members : Fields} {value : Json} : (object members).same value = true ↔
    ∃ others, value = .object others ∧ others.length = members.length ∧ Covered members others := by
  cases value with
  | object others =>
    have lengths : members.length = others.length ↔ others.length = members.length := eq_comm
    simp [same, sameMembers_iff, lengths]
  | _ => simp [same]

/-- Only an object of one member of the same name equals one. -/
theorem same_single_iff {name : String} {inner value : Json} :
    (object [(name, inner)]).same value = true ↔
      ∃ body, value = .object [(name, body)] ∧ inner.same body = true := by
  rw [same_object_iff]
  constructor
  · rintro ⟨others, rfl, single, covered⟩
    obtain ⟨⟨key, body⟩, rfl⟩ := List.length_eq_one_iff.mp single
    obtain ⟨other, found, inside⟩ := covered _ (List.mem_singleton_self _)
    rw [Fields.find?] at found
    split_ifs at found with named
    · cases found
      exact ⟨body, by rw [named], inside⟩
    · cases found
  · rintro ⟨body, rfl, inside⟩
    exact ⟨_, rfl, rfl, List.forall_mem_singleton.mpr ⟨body, if_pos rfl, inside⟩⟩

theorem same_empty_iff {value : Json} : (object []).same value = true ↔ value = .object [] := by
  rw [same_object_iff]
  constructor
  · rintro ⟨others, rfl, none, -⟩
    rw [List.length_eq_zero_iff.mp none]
  · rintro rfl
    exact ⟨[], rfl, rfl, nofun⟩

/-! ## The members of equal objects -/

/-- **In equal objects of distinct names the same is found**: nothing in either, or equal values. -/
theorem find?_of_same {members others : Fields} (distinct : members.names.Nodup)
    (lengths : others.length = members.length) (covered : Covered members others) (name : String) :
    members.find? name = none ∧ others.find? name = none ∨
      ∃ value other, members.find? name = some value ∧ others.find? name = some other ∧
        value.same other = true := by
  cases own : members.find? name with
  | some value =>
    obtain ⟨other, found, inside⟩ := covered _ (Fields.mem_of_find? own)
    exact .inr ⟨value, other, rfl, found, inside⟩
  | none =>
    have within : members.names ⊆ others.names := by
      intro key hk
      obtain ⟨member, hm, rfl⟩ := List.mem_map.mp hk
      obtain ⟨other, found, -⟩ := covered member hm
      exact List.mem_map.mpr ⟨_, Fields.mem_of_find? found, rfl⟩
    have few : others.names.length ≤ members.names.length := by
      simp [Fields.names, lengths]
    have permuted := (distinct.subperm within).perm_of_length_le few
    rw [Fields.find?_eq_none_iff, permuted.mem_iff, ← Fields.find?_eq_none_iff] at own
    exact .inl ⟨rfl, own⟩

/-- An object of distinct names equals itself if its values equal themselves. -/
theorem same_of_distinct {members : Fields} (distinct : members.names.Nodup)
    (h : ∀ member ∈ members, member.2.same member.2 = true) :
    (object members).same (.object members) = true := by
  refine same_object_iff.mpr ⟨members, rfl, rfl, fun member hm => ?_⟩
  exact ⟨member.2, Fields.find?_of_mem distinct hm, h member hm⟩

end Json

end EntitySearch
