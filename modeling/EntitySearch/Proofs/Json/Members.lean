import EntitySearch.Json.Basic
import Mathlib.Tactic.SplitIfs

/-!
# Members of objects

The members of an object are looked up by name, and the first of a name counts.

* `Fields.find?_append`, `find?_insert`: what is found among members that were put together.
* `Fields.insert_new`: a member of a new name is written at the end.
* `Fields.find?_eq_none_iff`, `mem_of_find?`, `find?_of_mem`: which members are found.
-/

namespace EntitySearch

namespace Fields

theorem find?_append (fields more : Fields) (name : String) :
    find? (fields ++ more) name = (fields.find? name).or (more.find? name) := by
  induction fields with
  | nil => rfl
  | cons entry rest ih =>
    obtain ⟨key, value⟩ := entry
    rw [List.cons_append, find?, find?, ih]
    split <;> rfl

theorem find?_insert (fields : Fields) (name : String) (value : Json) (key : String) :
    (fields.insert name value).find? key = if name = key then some value else fields.find? key := by
  induction fields with
  | nil => rfl
  | cons entry rest ih =>
    obtain ⟨own, old⟩ := entry
    rw [insert]
    by_cases ho : own = name
    · rw [if_pos ho, find?, find?, ho]
      split <;> rfl
    · rw [if_neg ho, find?, find?, ih]
      by_cases h : own = key
      · rw [if_pos h, if_neg fun hn => ho (h.trans hn.symm), if_pos h]
      · rw [if_neg h, if_neg h]

theorem contains_eq (fields : Fields) (name : String) :
    fields.contains name = (fields.find? name).isSome := by
  induction fields with
  | nil => rfl
  | cons entry rest ih =>
    obtain ⟨key, value⟩ := entry
    rw [contains, find?, ih]
    by_cases h : key = name <;> simp [h]

theorem insert_new {found : Fields} {name : String} (h : name ∉ found.names) (value : Json) :
    found.insert name value = found ++ [(name, value)] := by
  induction found with
  | nil => rfl
  | cons member found ih =>
    obtain ⟨key, old⟩ := member
    rw [names, List.map_cons, List.mem_cons, not_or] at h
    rw [insert, if_neg (Ne.symm h.1), ih h.2]
    rfl

theorem find?_eq_none_iff {fields : Fields} {name : String} :
    fields.find? name = none ↔ name ∉ fields.names := by
  induction fields with
  | nil => exact iff_of_true rfl List.not_mem_nil
  | cons entry rest ih =>
    obtain ⟨key, value⟩ := entry
    rw [find?, names, List.map_cons, List.mem_cons, not_or]
    split_ifs with named
    · simp [named]
    · rw [ih, names, ← Ne, ne_comm]
      simp [named]

theorem mem_of_find? {fields : Fields} {name : String} {value : Json}
    (h : fields.find? name = some value) : (name, value) ∈ fields := by
  induction fields with
  | nil => cases h
  | cons entry rest ih =>
    obtain ⟨key, own⟩ := entry
    rw [find?] at h
    split_ifs at h with named
    · cases h
      simp [named]
    · exact List.mem_cons_of_mem _ (ih h)

/-- Every member is found if the names are distinct. -/
theorem find?_of_mem {fields : Fields} (distinct : fields.names.Nodup) {member : String × Json}
    (h : member ∈ fields) : fields.find? member.1 = some member.2 := by
  induction fields with
  | nil => cases h
  | cons entry rest ih =>
    obtain ⟨key, own⟩ := entry
    rw [names, List.map_cons, List.nodup_cons] at distinct
    rw [find?]
    rcases List.mem_cons.mp h with rfl | later
    · exact if_pos rfl
    · have other : key ≠ member.1 := fun same =>
        distinct.1 (List.mem_map.mpr ⟨member, later, same.symm⟩)
      rw [if_neg other, ih distinct.2 later]

end Fields

end EntitySearch
