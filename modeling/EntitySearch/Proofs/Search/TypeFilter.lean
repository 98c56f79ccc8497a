import EntitySearch.Proofs.Index.Union
import EntitySearch.Proofs.Search.Paging

/-!
# The filter of searches on entity types

Every search is restricted to its entity types by a filter on the reserved member. The mapping of an
entity type declares this member for exact values, but a field of the reserved name is declared in its
place, and no schema is refused for one. As the first declaration of a name counts in an index, the
filter meets exact values if the first entity type of the index has no such field, or has one that is
declared in the same way.

* `Descriptor.reserved`: what an entity type declares for the reserved member, and
  `Descriptor.KeepsReserved`: that these are exact values; `Descriptor.reserved_eq_iff`.
* `Registry.Reserves`: what an index declares for it.
* `SearchRequest.Filters`: the filter of a search.
* `searches_filter`: the main result.
-/

namespace EntitySearch

/-! ## One entity type -/

namespace Descriptor

/-- The field of the reserved name, if there is one. -/
def reservedField? (descriptor : Descriptor) : Option Field :=
  descriptor.fields.find? fun field => field.name = typeField

/-- What an entity type declares for the reserved member. -/
def reserved (descriptor : Descriptor) : Json :=
  (descriptor.reservedField?.map (·.mapping)).getD typeFieldMapping

/-- Whether a field of the reserved name, if there is one, holds texts that are not analyzed. -/
def KeepsReserved (descriptor : Descriptor) : Prop :=
  ∀ field ∈ descriptor.fields, field.name = typeField →
    field.dataType = .text ∧ field.analyzed = false

variable {descriptor : Descriptor}

theorem find?_properties_typeField (distinct : (descriptor.fields.map (·.name)).Nodup) :
    Fields.find? descriptor.properties typeField = some descriptor.reserved := by
  have inserted := @find?_insertFields typeField descriptor.fields [(typeField, typeFieldMapping)]
    distinct
  rw [properties, inserted, reserved, reservedField?, Fields.find?, if_pos rfl]
  cases descriptor.fields.find? fun field => field.name = typeField <;> rfl

theorem mapping_eq_typeFieldMapping_iff (field : Field) :
    field.mapping = typeFieldMapping ↔ field.dataType = .text ∧ field.analyzed = false := by
  obtain ⟨name, dataType, analyzed⟩ := field
  cases analyzed <;> cases dataType <;>
    simp [Field.mapping, typeFieldMapping, Field.typeDeclaration, FieldType.engineType]

theorem reserved_eq_iff (distinct : (descriptor.fields.map (·.name)).Nodup) :
    descriptor.reserved = typeFieldMapping ↔ descriptor.KeepsReserved := by
  rw [reserved]
  cases found : descriptor.reservedField? with
  | none =>
    have free : descriptor.KeepsReserved := by
      intro field hf named
      have other := List.find?_eq_none.mp found field hf
      exact absurd (decide_eq_true named) other
    exact iff_of_true rfl free
  | some own =>
    have here : own ∈ descriptor.fields := List.mem_of_find?_eq_some found
    have named : own.name = typeField := by simpa using List.find?_some found
    have only : ∀ field ∈ descriptor.fields, field.name = typeField → field = own := by
      intro field hf same
      have first := find?_of_nodup distinct hf
      rw [same] at first
      exact Option.some_inj.mp (first.symm.trans found)
    change own.mapping = typeFieldMapping ↔ _
    rw [mapping_eq_typeFieldMapping_iff]
    constructor
    · intro declared field hf same
      rw [only field hf same]
      exact declared
    · intro keeps
      exact keeps own here named

end Descriptor

/-! ## An index -/

/-- What an index declares for the reserved member: what its first entity type declares for it. -/
structure Registry.Reserves (registry : Registry) (index : String) (mapping : Json)
    (first : Descriptor) : Prop where
  decides : (registry.storedIn index).head? = some first
  kept : mapping.declared? [typeField] = some first.reserved
  /-- These are exact values if that entity type leaves the member as it is, and only then. -/
  exact : mapping.declared? [typeField] = some Descriptor.typeFieldMapping ↔ first.KeepsReserved

theorem Registry.Sound.reserves {registry : Registry} (sound : registry.Sound)
    {stored : Descriptor} (registered : stored ∈ registry.descriptors) :
    ∃ mapping first, mergedMapping registry.resolver stored.indexName = .ok mapping ∧
      registry.Reserves stored.indexName mapping first := by
  have here : stored ∈ registry.storedIn stored.indexName :=
    List.mem_filter.mpr ⟨registered, decide_eq_true rfl⟩
  obtain ⟨first, rest, split⟩ := List.exists_cons_of_ne_nil (List.ne_nil_of_mem here)
  have first_mem : first ∈ registry.storedIn stored.indexName := split ▸ List.mem_cons_self
  have distinct := sound.fields first (List.mem_of_mem_filter first_mem)
  have kept : (registry.propertiesOf stored.indexName).find? typeField = some first.reserved := by
    rw [(registry.propertiesOf_isUnion stored.indexName).first, split, List.map_cons,
      List.findSome?_cons, Descriptor.find?_properties_typeField distinct]
  refine ⟨_, first, Registry.mergedMapping_eq registry stored.indexName, ?_⟩
  have declared : (Descriptor.mappingOf (registry.propertiesOf stored.indexName)
      ((registry.storedIn stored.indexName).map (·.entityType))).declared? [typeField] =
        some first.reserved := by
    change ((Fields.find? _ typeField).bind fun property => property.subfield? []) = _
    rw [kept]
    rfl
  refine ⟨by rw [split, List.head?_cons], declared, ?_⟩
  rw [declared, Option.some_inj]
  exact Descriptor.reserved_eq_iff distinct

/-! ## A search -/

/-- Whether a request is restricted to some entity types, by a filter on the reserved member. -/
structure SearchRequest.Filters (request : SearchRequest) (entityTypes : List String) : Prop where
  restricts : entityTypes ≠ []
  query : request.body.get? "query" = some (.object [("bool", .object [
    ("must", .array [request.query.toJson]),
    ("filter", .array [.object [("terms", .object [
      (typeField, Json.strings entityTypes)])]])])])

theorem SearchRequest.filters (request : SearchRequest) (restricts : request.entityTypes ≠ []) :
    request.Filters request.entityTypes := by
  have nonempty : ¬ request.entityTypes.isEmpty = true := by simpa using restricts
  refine ⟨restricts, ?_⟩
  change some request.restricted = _
  rw [SearchRequest.restricted, if_neg nonempty]

theorem Search.filters_of_request {registry : Registry} {search : Search} {maxPageSize : Nat}
    {request : SearchRequest} (builds : search.request registry.resolver maxPageSize = .ok request) :
    request.Filters search.entityTypes ∧ ∃ entity descriptor,
      registry.resolver.descriptor entity = .ok descriptor ∧
        descriptor.indexName = request.index := by
  obtain ⟨first, rest, described, built⟩ := Search.request_eq_ok builds
  obtain ⟨query, sort, -, -, rfl⟩ := Search.requestFor_eq_ok.mp built
  obtain ⟨names, known⟩ := Search.descriptorsOf_registered (Search.descriptors_eq_ok described)
  refine ⟨?_, first.entityType, first, ?_, rfl⟩
  · rw [← names]
    exact SearchRequest.filters _ (List.cons_ne_nil _ _)
  · exact Registry.descriptor_resolver.mpr (known first List.mem_cons_self)

/-! ## Main result -/

/-- **Where searches filter by entity type.** Every index of an accepted schema in which an entity
type lives declares the reserved member as the first of its entity types does, so for exact values if
this one leaves it as it is, and only then. Every search filters on the reserved member, and it goes
to such an index. -/
theorem searches_filter {schema : SchemaDeclaration} {defaultIndex : String} {registry : Registry}
    (resolved : schema.resolve defaultIndex = .ok registry) :
    (∀ index entity descriptor, registry.resolver.descriptor entity = .ok descriptor →
      descriptor.indexName = index →
        ∃ mapping first, mergedMapping registry.resolver index = .ok mapping ∧
          registry.Reserves index mapping first) ∧
    ∀ (search : Search) (maxPageSize : Nat) (request : SearchRequest),
      search.request registry.resolver maxPageSize = .ok request →
        request.Filters search.entityTypes ∧ ∃ entity descriptor,
          registry.resolver.descriptor entity = .ok descriptor ∧
            descriptor.indexName = request.index := by
  have sound := Registry.Sound.of_resolve resolved
  refine ⟨?_, fun _ _ _ => Search.filters_of_request⟩
  rintro _ entity descriptor known rfl
  exact sound.reserves (Registry.descriptor_iff.mp known).1

/-! ## A field of the reserved name -/

/-- Two entity types in one index, the first one of which has a field of the reserved name. -/
def claimedSchema : SchemaDeclaration where
  entities := [
    { name := "A", idField := some "id", fields := [{ name := typeField }] },
    { name := "B", idField := some "id" }]

def claimedFirst : Descriptor := ⟨"A", "main", "id", .numeric, [⟨typeField, .text, true⟩]⟩

def claimedSecond : Descriptor := ⟨"B", "main", "id", .numeric, []⟩

def claimedRegistry : Registry := .registerAll {} [claimedFirst, claimedSecond]

/-- The searches of the second entity type meet what the first one declares. -/
theorem searches_filter_claimed :
    ∃ mapping first, mergedMapping claimedRegistry.resolver "main" = .ok mapping ∧
      claimedRegistry.Reserves "main" mapping first ∧
        ∀ request, Search.request ⟨["B"], .matchAll, [], 0, none⟩ claimedRegistry.resolver 10 =
          .ok request → request.Filters ["B"] := by
  have resolved : claimedSchema.resolve "main" = .ok claimedRegistry := rfl
  obtain ⟨indices, searches⟩ := searches_filter resolved
  obtain ⟨mapping, first, merged, reserves⟩ := indices "main" "B" claimedSecond rfl rfl
  refine ⟨mapping, first, merged, reserves, ?_⟩
  intro request builds
  exact (searches _ 10 request builds).1

/-- A field of the reserved name takes the exact values from an index. -/
theorem not_typeField_always_exact : ¬ ∀ (schema : SchemaDeclaration) (defaultIndex : String)
    (registry : Registry), schema.resolve defaultIndex = .ok registry →
      ∀ index entity descriptor, registry.resolver.descriptor entity = .ok descriptor →
        descriptor.indexName = index → ∃ mapping,
          mergedMapping registry.resolver index = .ok mapping ∧
            mapping.declared? [typeField] = some Descriptor.typeFieldMapping := by
  intro all
  obtain ⟨mapping, merged, exact⟩ :=
    all claimedSchema "main" claimedRegistry rfl "main" "B" claimedSecond rfl rfl
  have analyzed : mapping.typeAt? [typeField] = some "text" := by
    cases merged
    rfl
  rw [Json.typeAt?, exact] at analyzed
  exact absurd analyzed (by decide)

end EntitySearch
