import EntitySearch.Proofs.Index.Layout
import EntitySearch.Proofs.Schema.History

/-!
# The mapping of an index after any registrations

Every registration may give an entity type another descriptor, and with it another index, but the
entity type keeps its place. The mapping of an index follows the entity types that live there now, in
the order of these places: it has their properties in the order in which they appear first, and every
property is declared as in the first mapping that has it.

* `Descriptor.storedIn`: the entity types that live in an index, by the history of a registry.
* `Json.properties`: the properties of a mapping.
* `Fields.IsUnion`: the union of some lists of members in which the first member of a name counts;
  `Fields.IsUnion.concat` for one more list and `Fields.IsUnion.foldl` for all of them.
* `mergedMapping_isUnion`: the main result.
-/

namespace EntitySearch

/-! ## What counts -/

/-- The entity types that live in an index, as they were described last and in the order in which they
were registered first. -/
def Descriptor.storedIn (history : List Descriptor) (index : String) : List Descriptor :=
  ((history.map (·.entityType)).eraseDups.filterMap (last? history)).filter
    fun descriptor => descriptor.indexName = index

/-- The properties of a mapping. -/
def Json.properties (mapping : Json) : Fields :=
  ((mapping.get? "properties").bind asFields?).getD []

namespace Fields

/-- Whether some members are the union of others: there is one of every name, in the order in which
the names appear first, and it is the first one of its name. -/
structure IsUnion (union : Fields) (parts : List Fields) : Prop where
  names : union.names = (parts.flatMap (·.names)).eraseDups
  first : ∀ name, union.find? name = parts.findSome? (·.find? name)

/-! ## Unions -/

theorem contains_iff {fields : Fields} {name : String} :
    fields.contains name = true ↔ name ∈ fields.names := by
  induction fields with
  | nil => simp [contains, names]
  | cons entry rest ih =>
    have step : name ∈ Fields.names (entry :: rest) ↔ entry.1 = name ∨ name ∈ Fields.names rest := by
      rw [names, List.map_cons, List.mem_cons, eq_comm]
      rfl
    simp [contains, step, ih]

theorem names_mergeProperties (more : Fields) : ∀ {fields : Fields} {seen : List String},
    fields.names = seen.eraseDups →
      (mergeProperties fields more).names = (seen ++ more.names).eraseDups := by
  induction more with
  | nil =>
    intro fields seen same
    simpa [mergeProperties, names] using same
  | cons entry rest ih =>
    intro fields seen same
    obtain ⟨name, value⟩ := entry
    have known : fields.contains name = true ↔ name ∈ seen := by
      rw [contains_iff, same, List.mem_eraseDups]
    have next : (if fields.contains name then fields else fields ++ [(name, value)]).names =
        (seen ++ [name]).eraseDups := by
      rw [eraseDups_concat]
      by_cases h : name ∈ seen
      · rw [if_pos h, if_pos (known.mpr h), same]
      · rw [if_neg h, if_neg (mt known.mp h), ← same]
        simp [names]
    calc (mergeProperties fields ((name, value) :: rest)).names
        = (seen ++ [name] ++ Fields.names rest).eraseDups := ih next
      _ = (seen ++ Fields.names ((name, value) :: rest)).eraseDups := by simp [names]

namespace IsUnion

variable {union : Fields} {parts : List Fields}

theorem nil : IsUnion [] [] := ⟨rfl, fun _ => rfl⟩

/-- **One more list** of members. -/
theorem concat (h : union.IsUnion parts) (more : Fields) :
    (mergeProperties union more).IsUnion (parts ++ [more]) where
  names := by
    rw [names_mergeProperties more h.names]
    simp
  first name := by
    rw [find?_mergeProperties, h.first, List.findSome?_append, List.findSome?_cons]
    cases more.find? name <;> rfl

/-- **All lists** of members, one after the other. -/
theorem foldl (later : List Fields) (h : union.IsUnion parts) :
    (later.foldl mergeProperties union).IsUnion (parts ++ later) := by
  induction later generalizing union parts with
  | nil => simpa using h
  | cons more rest ih =>
    have next := ih (h.concat more)
    rwa [List.append_assoc] at next

end IsUnion

end Fields

/-! ## The union of an index -/

namespace Registry

variable {registry : Registry}

theorem propertiesOf_isUnion (registry : Registry) (index : String) :
    (registry.propertiesOf index).IsUnion ((registry.storedIn index).map (·.properties)) := by
  have union := Fields.IsUnion.nil.foldl ((registry.storedIn index).map (·.properties))
  rwa [List.foldl_map, List.nil_append] at union

end Registry

/-- An entity type that moves to another index and back is still the first one there. -/
example :
    let field (name : String) (dataType : FieldType) : Field := ⟨name, dataType, false⟩
    let history : List Descriptor :=
      [⟨"A", "one", "id", .numeric, [field "f" .long]⟩,
        ⟨"B", "one", "id", .numeric, [field "g" .date, field "f" .double]⟩,
        ⟨"A", "two", "id", .numeric, []⟩,
        ⟨"A", "one", "id", .numeric, [field "h" .date, field "f" .boolean]⟩]
    (Descriptor.storedIn history "one").map (·.entityType) = ["A", "B"] ∧
      (Descriptor.storedIn (history.take 3) "one").map (·.entityType) = ["B"] ∧
        ((Registry.registerAll {} history).propertiesOf "one").names = [typeField, "h", "f", "g"] := by
  decide +kernel

end EntitySearch
