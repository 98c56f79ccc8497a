import EntitySearch.Proofs.Json.Equality
import EntitySearch.Query.Target

/-!
# Engine queries from their forms

A form has one member, whose name tells the kind of the query, and the parts of the query can be had
from its value: the path of a pattern is itself the name of a member, and a list of clauses that is
not there is empty. So a form can be read back, in whatever order the members of its objects stand,
and different queries have different forms.

* `TargetQuery.ofJson?`: the query of a form.
* `TargetQuery.clausesOf?_of_same`: the lists of clauses are told apart by their names.
* `TargetQuery.ofJson?_of_same`: every value that equals a form is read as its query.
* `TargetQuery.forms_faithful`: only equal queries have equal forms.
-/

namespace EntitySearch

namespace TargetQuery

open Json

/-! ## Reading a form -/

mutual
/-- The query of a form, if the value is one. -/
def ofJson? : Json → Option TargetQuery
  | .object [("match_all", .object [])] => some .matchAll
  | .object [("bool", .object members)] => do
    let must ← clausesOf? "must" members
    let mustNot ← clausesOf? "must_not" members
    let should ← clausesOf? "should" members
    return .bool must mustNot should
  | .object [("wildcard", .object [(path, .object [("value", .string pattern)])])] =>
    some (.wildcard path pattern)
  | .object [("query_string", .object [("query", .string text)])] => some (.queryString text)
  | _ => none
termination_by structural value => value
/-- The queries of the list of a name; a list that is not there has none. -/
def clausesOf? (name : String) : List (String × Json) → Option (List TargetQuery)
  | [] => some []
  | (key, value) :: rest => if key = name then arrayOf? value else clausesOf? name rest
termination_by structural members => members
/-- The queries of a list. -/
def arrayOf? : Json → Option (List TargetQuery)
  | .array items => itemsOf? items
  | _ => none
termination_by structural value => value
/-- The queries of the items of a list. -/
def itemsOf? : List Json → Option (List TargetQuery)
  | [] => some []
  | item :: rest => do
    let query ← ofJson? item
    let queries ← itemsOf? rest
    return query :: queries
termination_by structural items => items
end

theorem clausesOf?_eq (name : String) (members : Fields) :
    clausesOf? name members = match members.find? name with
      | some value => arrayOf? value
      | none => some [] := by
  induction members with
  | nil => rfl
  | cons member rest ih =>
    obtain ⟨key, value⟩ := member
    rw [clausesOf?, Fields.find?]
    split_ifs
    · rfl
    · exact ih

/-! ## The lists of clauses -/

/-- The lists of clauses as members of an object. -/
def clauseMembers (must mustNot should : List TargetQuery) : Fields :=
  clauseMember "must" (listJson must) ++ clauseMember "must_not" (listJson mustNot) ++
    clauseMember "should" (listJson should)

theorem find?_clauseMember (key : String) (clauses : List Json) (name : String) :
    Fields.find? (clauseMember key clauses) name =
      if key = name ∧ clauses ≠ [] then some (.array clauses) else none := by
  cases clauses <;> simp [clauseMember, Fields.find?]

theorem names_clauseMember (key : String) (clauses : List Json) :
    (clauseMember key clauses).names.Sublist [key] := by
  cases clauses with
  | nil => exact List.nil_sublist _
  | cons clause rest => exact List.Sublist.refl _

theorem nodup_clauseMembers (must mustNot should : List TargetQuery) :
    (clauseMembers must mustNot should).names.Nodup := by
  have within : (clauseMembers must mustNot should).names.Sublist
      (["must"] ++ ["must_not"] ++ ["should"]) := by
    unfold clauseMembers Fields.names
    rw [List.map_append, List.map_append]
    exact ((names_clauseMember _ _).append (names_clauseMember _ _)).append (names_clauseMember _ _)
  exact within.nodup (by decide)

theorem find?_clauseMembers (must mustNot should : List TargetQuery) :
    let found := fun name => (clauseMembers must mustNot should).find? name
    let list := fun queries => if queries = [] then none else some (Json.array (listJson queries))
    found "must" = list must ∧ found "must_not" = list mustNot ∧ found "should" = list should := by
  dsimp only
  unfold clauseMembers
  simp only [Fields.find?_append, find?_clauseMember]
  cases must <;> cases mustNot <;> cases should <;> simp [listJson]

/-- **The lists of clauses are told apart by their names**: in an object that equals another one, the
list under a name is read back as what stands there under that name, if its items are. -/
theorem clausesOf?_of_same {fields members : Fields} (distinct : fields.names.Nodup)
    (lengths : members.length = fields.length) (covered : Covered fields members) {name : String}
    {queries : List TargetQuery} (own : fields.find? name =
      if queries = [] then none else some (.array (listJson queries)))
    (read : ∀ items, sameItems (listJson queries) items = true → itemsOf? items = some queries) :
    clausesOf? name members = some queries := by
  rw [clausesOf?_eq]
  rcases find?_of_same distinct lengths covered name with
    ⟨missing, gone⟩ | ⟨value, other, here, found, inside⟩
  · rw [missing] at own
    have empty : queries = [] := by
      by_contra some
      rw [if_neg some] at own
      cases own
    rw [gone, empty]
  · rw [here] at own
    split_ifs at own
    obtain rfl := Option.some.inj own
    obtain ⟨items, rfl, equal⟩ := same_array_iff.mp inside
    rw [found]
    exact read items equal

/-! ## Reading back -/

mutual
/-- **Every value that equals a form is read as its query.** -/
theorem ofJson?_of_same : ∀ (query : TargetQuery) {value : Json},
    query.toJson.same value = true → ofJson? value = some query
  | .matchAll, _, h => by
    obtain ⟨body, rfl, inside⟩ := same_single_iff.mp h
    rw [same_empty_iff.mp inside]
    rfl
  | .bool must mustNot should, _, h => by
    obtain ⟨body, rfl, inside⟩ := same_single_iff.mp h
    obtain ⟨members, rfl, lengths, covered⟩ := same_object_iff.mp inside
    have distinct := nodup_clauseMembers must mustNot should
    obtain ⟨first, second, third⟩ := find?_clauseMembers must mustNot should
    have readMust := clausesOf?_of_same distinct lengths covered first fun items =>
      itemsOf?_of_same must
    have readMustNot := clausesOf?_of_same distinct lengths covered second fun items =>
      itemsOf?_of_same mustNot
    have readShould := clausesOf?_of_same distinct lengths covered third fun items =>
      itemsOf?_of_same should
    simp [ofJson?, readMust, readMustNot, readShould]
  | .wildcard path pattern, _, h => by
    obtain ⟨body, rfl, inside⟩ := same_single_iff.mp h
    obtain ⟨inner, rfl, within⟩ := same_single_iff.mp inside
    obtain ⟨text, rfl, equal⟩ := same_single_iff.mp within
    rw [same_string_iff.mp equal]
    rfl
  | .queryString text, _, h => by
    obtain ⟨body, rfl, inside⟩ := same_single_iff.mp h
    obtain ⟨inner, rfl, equal⟩ := same_single_iff.mp inside
    rw [same_string_iff.mp equal]
    rfl
termination_by structural query => query
theorem itemsOf?_of_same : ∀ (queries : List TargetQuery) {items : List Json},
    sameItems (listJson queries) items = true → itemsOf? items = some queries
  | [], items, h => by
    cases items with
    | nil => rfl
    | cons => cases h
  | query :: rest, items, h => by
    cases items with
    | nil => cases h
    | cons item items =>
      rw [listJson, sameItems, Bool.and_eq_true] at h
      simp [itemsOf?, ofJson?_of_same query h.1, itemsOf?_of_same rest h.2]
termination_by structural queries => queries
end

/-! ## Forms that are equal -/

theorem same_of_mem_clauseMember (key : String) {clauses : List Json}
    (h : sameItems clauses clauses = true) : ∀ member ∈ clauseMember key clauses,
      member.2.same member.2 = true := by
  intro member hm
  cases clauses with
  | nil => cases hm
  | cons clause rest =>
    rw [List.mem_singleton.mp hm]
    exact same_array_iff.mpr ⟨_, rfl, h⟩

mutual
/-- A form equals itself, since the names in it are distinct. -/
theorem same_toJson : ∀ query : TargetQuery, query.toJson.same query.toJson = true
  | .matchAll => rfl
  | .bool must mustNot should => by
    have first := same_of_mem_clauseMember "must" (same_listJson must)
    have second := same_of_mem_clauseMember "must_not" (same_listJson mustNot)
    have third := same_of_mem_clauseMember "should" (same_listJson should)
    have lists : ∀ member ∈ clauseMembers must mustNot should, member.2.same member.2 = true := by
      unfold clauseMembers
      rw [List.forall_mem_append, List.forall_mem_append]
      exact ⟨⟨first, second⟩, third⟩
    have equal := same_of_distinct (nodup_clauseMembers must mustNot should) lists
    exact same_single_iff.mpr ⟨_, rfl, equal⟩
  | .wildcard path pattern => by
    have equal : (string pattern).same (.string pattern) = true := same_string_iff.mpr rfl
    exact same_single_iff.mpr ⟨_, rfl, same_single_iff.mpr ⟨_, rfl,
      same_single_iff.mpr ⟨_, rfl, equal⟩⟩⟩
  | .queryString text => by
    have equal : (string text).same (.string text) = true := same_string_iff.mpr rfl
    exact same_single_iff.mpr ⟨_, rfl, same_single_iff.mpr ⟨_, rfl, equal⟩⟩
termination_by structural query => query
theorem same_listJson : ∀ queries : List TargetQuery,
    sameItems (listJson queries) (listJson queries) = true
  | [] => rfl
  | query :: rest => by
    rw [listJson, sameItems, same_toJson query, same_listJson rest]
    rfl
termination_by structural queries => queries
end

/-- **Forms are faithful.** The form of a query, whatever it nests and whatever the paths, patterns
and texts in it are, is read back as the query, and so is every value that equals it, in whatever
order the members of its objects stand. Two forms are equal only if the queries are. -/
theorem forms_faithful (query other : TargetQuery) :
    ofJson? query.toJson = some query ∧
    (∀ value, query.toJson.same value = true → ofJson? value = some query) ∧
    (query.toJson.same other.toJson = true ↔ query = other) := by
  refine ⟨ofJson?_of_same query (same_toJson query), fun _ h => ofJson?_of_same query h, ?_⟩
  constructor
  · intro equal
    have read := ofJson?_of_same query equal
    rw [ofJson?_of_same other (same_toJson other)] at read
    exact (Option.some.inj read).symm
  · rintro rfl
    exact same_toJson query

/-- The lists of clauses may stand in another order, and a path may be named like a kind. -/
theorem forms_faithful_reordered :
    let query := TargetQuery.bool [.wildcard "bool" "must"] [] [.matchAll]
    let value := object [("bool", .object
      [("should", .array [.object [("match_all", .object [])]]),
        ("must", .array
          [.object [("wildcard", .object [("bool", .object [("value", .string "must")])])]])])]
    query.toJson.same value = true ∧ ofJson? value = some query := by
  intro query value
  have equal : query.toJson.same value = true := by decide +kernel
  exact ⟨equal, (forms_faithful query query).2.1 value equal⟩

end TargetQuery

end EntitySearch
