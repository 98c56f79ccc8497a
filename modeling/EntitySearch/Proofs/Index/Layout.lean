import EntitySearch.Index.Mapping
import EntitySearch.Proofs.Json.Members
import EntitySearch.Proofs.Schema.Resolved
import EntitySearch.Search.Request

/-!
# What an index declares and what searches ask for

An index is created with one mapping for all entity types that live in it, while a search reads the
fields as its own entity type declares them. The two agree on a field that the first of these entity
types to declare its name declares in the same way; of other declarations the first counts, and the
later ones are left out.

* `Registry.firstField?`: the declaration of a name that counts in an index.
* `Json.typeAt?`: the type that a mapping declares at a path of names, as `Field.rawNames` is one.
* `Field.Serves`: when the declaration that counts does for another one of its name.
* `Registry.Lays`: what an index declares for a field, and what searches ask for.
* `mergedMapping_lays`: the mapping of every index of a declared schema.
-/

namespace EntitySearch

/-! ## Members of objects -/

namespace Fields

theorem find?_mergeProperties (more : Fields) : ∀ (fields : Fields) (name : String),
    (mergeProperties fields more).find? name = (fields.find? name).or (more.find? name) := by
  induction more with
  | nil => exact fun fields name => (Option.or_none).symm
  | cons entry rest ih =>
    intro fields name
    obtain ⟨key, value⟩ := entry
    rw [mergeProperties, List.foldl_cons]
    change (mergeProperties _ rest).find? name = _
    rw [ih, find?]
    dsimp only
    rw [contains_eq]
    by_cases hk : key = name
    · subst hk
      cases hf : fields.find? key with
      | some old => simp only [Option.isSome_some, if_pos, hf, Option.some_or]
      | none =>
        simp only [Option.isSome_none, Bool.false_eq_true, if_false, find?_append, hf, find?,
          if_true, Option.none_or, Option.some_or]
    · rw [if_neg hk]
      split
      · rfl
      · simp only [find?_append, find?, if_neg hk, Option.or_none]

end Fields

/-! ## Properties of an entity type -/

namespace Descriptor

theorem find?_insertFields {name : String} {fields : List Field} :
    ∀ {found : Fields}, (fields.map (·.name)).Nodup →
      Fields.find? (fields.foldl (fun found field => found.insert field.name field.mapping) found)
          name =
        ((fields.find? fun field => field.name = name).map (·.mapping)).or (found.find? name) := by
  induction fields with
  | nil => exact fun _ => rfl
  | cons field rest ih =>
    intro found distinct
    rw [List.map_cons, List.nodup_cons] at distinct
    rw [List.foldl_cons, ih distinct.2, Fields.find?_insert, List.find?_cons]
    by_cases h : field.name = name
    · have last : (rest.find? fun other => other.name = name) = none := by
        rw [List.find?_eq_none]
        intro other ho he
        exact distinct.1 (h ▸ of_decide_eq_true he ▸ List.mem_map_of_mem ho)
      rw [last, if_pos h]
      simp only [h, decide_true]
      rfl
    · rw [if_neg h]
      simp only [h, decide_false]

theorem find?_properties {descriptor : Descriptor}
    (distinct : (descriptor.fields.map (·.name)).Nodup) {name : String} (h : name ≠ typeField) :
    Fields.find? descriptor.properties name =
      (descriptor.fields.find? fun field => field.name = name).map (·.mapping) := by
  rw [properties, find?_insertFields distinct, Fields.find?, if_neg (Ne.symm h), Fields.find?,
    Option.or_none]

end Descriptor

/-! ## Properties of an index -/

namespace Registry

variable {registry : Registry}

/-- The entity types that live in an index, in the order of registration. -/
def storedIn (registry : Registry) (index : String) : List Descriptor :=
  registry.descriptors.filter fun descriptor => descriptor.indexName = index

/-- The properties of all entity types that live in an index, the first one of a name. -/
def propertiesOf (registry : Registry) (index : String) : Fields :=
  (registry.storedIn index).foldl
    (fun found descriptor => mergeProperties found descriptor.properties) []

/-- The first declaration of a name among the entity types that live in an index. -/
def firstField? (registry : Registry) (index name : String) : Option Field :=
  ((registry.storedIn index).flatMap (·.fields)).find? fun field => field.name = name

theorem mergeTypes_eq {resolver : Resolver} (index : String) {descriptors : List Descriptor} :
    ∀ {properties : Fields} {types : List String},
      (∀ descriptor ∈ descriptors, resolver.descriptor descriptor.entityType = .ok descriptor) →
        mergeTypes resolver index properties types (descriptors.map (·.entityType)) =
          let stored := descriptors.filter fun descriptor => descriptor.indexName = index
          .ok (stored.foldl (fun found descriptor => mergeProperties found descriptor.properties)
            properties, types ++ stored.map (·.entityType)) := by
  induction descriptors with
  | nil => exact fun _ => by simp only [List.map_nil, mergeTypes, List.filter_nil, List.foldl_nil,
      List.append_nil]
  | cons descriptor rest ih =>
    intro properties types known
    rw [List.map_cons, mergeTypes, known descriptor List.mem_cons_self, List.filter_cons]
    have known' := fun other ho => known other (List.mem_cons_of_mem _ ho)
    by_cases h : descriptor.indexName = index
    · simp only [h, if_true, decide_true, ih known', List.foldl_cons, List.map_cons,
        List.append_assoc, List.singleton_append]
    · simp only [h, if_false, decide_false, ih known', Bool.false_eq_true]

theorem find?_mergedTypes {name : String} (h : name ≠ typeField) {descriptors : List Descriptor} :
    ∀ {properties : Fields},
      (∀ descriptor ∈ descriptors, (descriptor.fields.map (·.name)).Nodup) →
        Fields.find? (descriptors.foldl
            (fun found descriptor => mergeProperties found descriptor.properties) properties) name =
          (properties.find? name).or
            (((descriptors.flatMap (·.fields)).find? fun field => field.name = name).map
              (·.mapping)) := by
  induction descriptors with
  | nil => exact fun _ => (Option.or_none).symm
  | cons descriptor rest ih =>
    intro properties distinct
    rw [List.foldl_cons, ih fun other ho => distinct other (List.mem_cons_of_mem _ ho),
      Fields.find?_mergeProperties, Descriptor.find?_properties
        (distinct descriptor List.mem_cons_self) h, List.flatMap_cons, List.find?_append,
      Option.map_or, Option.or_assoc]

theorem mergedMapping_eq (registry : Registry) (index : String) :
    mergedMapping registry.resolver index = .ok (Descriptor.mappingOf (registry.propertiesOf index)
      ((registry.storedIn index).map (·.entityType))) := by
  have known : ∀ descriptor ∈ registry.descriptors,
      registry.resolver.descriptor descriptor.entityType = .ok descriptor := by
    intro descriptor hd
    rw [descriptor_resolver, mem_descriptors.mp hd]
  have merged := @mergeTypes_eq registry.resolver index registry.descriptors [] [] known
  rw [entityTypes_descriptors] at merged
  rw [mergedMapping, show registry.resolver.entityTypes = registry.entityTypes from rfl, merged]
  rfl

theorem Sound.find?_propertiesOf (sound : registry.Sound) (index : String) {name : String}
    (h : name ≠ typeField) :
    Fields.find? (registry.propertiesOf index) name =
      (registry.firstField? index name).map (·.mapping) :=
  find?_mergedTypes h fun descriptor hd => sound.fields descriptor (List.mem_of_mem_filter hd)

theorem exists_firstField {index : String} {descriptor : Descriptor}
    (hd : descriptor ∈ registry.storedIn index) {field : Field} (hf : field ∈ descriptor.fields) :
    ∃ first, registry.firstField? index field.name = some first ∧ first.name = field.name := by
  have declared : (registry.firstField? index field.name).isSome = true := by
    rw [firstField?, List.find?_isSome]
    exact ⟨field, List.mem_flatMap.mpr ⟨descriptor, hd, hf⟩, decide_eq_true rfl⟩
  obtain ⟨first, found⟩ := Option.isSome_iff_exists.mp declared
  exact ⟨first, found, by simpa using List.find?_some found⟩

end Registry

/-! ## Paths -/

namespace Json

/-- The declaration of a sub-field, of a sub-field of it, and so on. -/
def subfield? (declaration : Json) : List String → Option Json
  | [] => some declaration
  | name :: rest =>
    ((declaration.get? "fields").bind (·.get? name)).bind fun subfield => subfield.subfield? rest

/-- The declaration at a path: a property of a mapping, or a sub-field of one. -/
def declared? (mapping : Json) : List String → Option Json
  | [] => none
  | name :: rest =>
    ((mapping.get? "properties").bind (·.get? name)).bind fun property => property.subfield? rest

/-- The type that a mapping declares at a path. -/
def typeAt? (mapping : Json) (path : List String) : Option String :=
  ((mapping.declared? path).bind (·.get? "type")).bind asString?

end Json

namespace Field

/-- The names along the path of the exact values of a field. -/
def rawNames (field : Field) : List String :=
  if field.analyzed then [field.name, field.rawName] else [field.name]

theorem rawPath_eq (field : Field) : field.rawPath = ".".intercalate field.rawNames := by
  rw [rawPath, rawNames]
  split <;> rfl

/-- Whether the declaration of a name that counts has the exact values of another declaration: it is
of the same data type, and analyzed if the other is. If the other is not, it may be analyzed as well,
as long as that makes no difference to the data type. -/
def Serves (first field : Field) : Prop :=
  first.dataType = field.dataType ∧
    if field.analyzed then first.analyzed = true
    else first.analyzed = false ∨ field.dataType ≠ .text

/-! ### The type at a path -/

theorem type_mapping (field : Field) :
    (field.mapping.get? "type").bind Json.asString? =
      some (field.dataType.engineType field.analyzed) := by
  rw [mapping]
  cases field.analyzed <;> rfl

theorem subfield?_mapping (field : Field) :
    field.mapping.subfield? [field.rawName] =
      if field.analyzed then some (.object [typeDeclaration (field.dataType.engineType false)])
      else none := by
  rw [mapping]
  split
  · change (Fields.find? [(field.rawName, _)] field.rawName).bind _ = _
    rw [Fields.find?, if_pos rfl]
    rfl
  · rfl

theorem engineType_exact_iff {first second : FieldType} :
    some (first.engineType false) = some (second.engineType false) ↔ first = second := by
  cases first <;> cases second <;> decide

theorem engineType_analyzed_iff {first second : FieldType} :
    some (first.engineType true) = some (second.engineType false) ↔
      first = second ∧ second ≠ .text := by
  cases first <;> cases second <;> decide

theorem engineType_iff_serves (first field : Field) (exact : field.analyzed = false) :
    some (first.dataType.engineType first.analyzed) = some (field.dataType.engineType false) ↔
      first.Serves field := by
  rw [Serves, exact, if_neg Bool.false_ne_true]
  cases first.analyzed with
  | true => simp only [engineType_analyzed_iff, Bool.true_eq_false, false_or]
  | false => simp only [engineType_exact_iff, true_or, and_true]

end Field

/-! ## Main result -/

/-- What an index declares for a field of an entity type that lives in it, and where searches of this
entity type look for its exact values. -/
structure Registry.Lays (registry : Registry) (mapping : Json) (descriptor : Descriptor)
    (field first : Field) : Prop where
  /-- The declaration that counts. -/
  counts : registry.firstField? descriptor.indexName field.name = some first
  /-- It is kept as it is. -/
  kept : mapping.declared? [field.name] = some first.mapping
  /-- The type at the path of the exact values is that of the field if the declaration that counts
  does for it, and only then. -/
  exact : mapping.typeAt? field.rawNames = some (field.dataType.engineType false) ↔
    first.Serves field
  /-- This is the path of a sort key on the field. -/
  sorted : ∀ ascending, Search.sortPaths descriptor [⟨field.name, ascending⟩] =
    .ok [⟨".".intercalate field.rawNames, ascending⟩]
  /-- It is that of a wildcard on the field, unless the field is analyzed. -/
  matched : field.analyzed = false → ∀ pattern, Query.wildcardTarget descriptor field.name pattern =
    .ok (.wildcard (".".intercalate field.rawNames) pattern)

theorem typeAt?_rawNames {properties : Fields} {types : List String} {field first : Field}
    (kept : properties.find? field.name = some first.mapping) (same : first.name = field.name) :
    (Descriptor.mappingOf properties types).typeAt? field.rawNames =
        some (field.dataType.engineType false) ↔ first.Serves field := by
  have inside : ∀ rest, (Descriptor.mappingOf properties types).declared? (field.name :: rest) =
      first.mapping.subfield? rest := by
    intro rest
    change ((properties.find? field.name).bind fun property => property.subfield? rest) = _
    rw [kept, Option.bind_some]
  have sameRaw : first.rawName = field.rawName := by rw [Field.rawName, same, Field.rawName]
  rw [Json.typeAt?, Field.rawNames]
  cases analyzed : field.analyzed with
  | false =>
    rw [if_neg Bool.false_ne_true, inside]
    change (first.mapping.get? "type").bind Json.asString? = _ ↔ _
    rw [first.type_mapping]
    exact Field.engineType_iff_serves first field analyzed
  | true =>
    rw [if_pos rfl, inside, ← sameRaw, first.subfield?_mapping, Field.Serves, analyzed, if_pos rfl]
    cases first.analyzed with
    | true =>
      change some _ = some _ ↔ _
      simp only [Field.engineType_exact_iff, and_true]
    | false => simp only [Bool.false_eq_true, if_false, Option.bind_none, reduceCtorEq, and_false]

/-- **The index declares what searches ask for, if the first declaration is alike.** For every field
of every entity type that lives in an index of a declared schema, the mapping of the index keeps the
first declaration of its name. It has the exact values of the field, where sorts and wildcards look
for them, if that declaration serves the field, and only then. -/
theorem mergedMapping_lays {schema : SchemaDeclaration} {defaultIndex : String}
    {registry : Registry} (resolved : schema.resolve defaultIndex = .ok registry) (index : String) :
    ∃ mapping, mergedMapping registry.resolver index = .ok mapping ∧
      ∀ entity descriptor, registry.resolver.descriptor entity = .ok descriptor →
        descriptor.indexName = index → ∀ field ∈ descriptor.fields, field.name ≠ typeField →
          ∃ first, registry.Lays mapping descriptor field first := by
  have sound := Registry.Sound.of_resolve resolved
  refine ⟨_, Registry.mergedMapping_eq registry index, ?_⟩
  rintro entity descriptor known rfl field hf hn
  obtain ⟨hd, -⟩ := Registry.descriptor_iff.mp known
  have stored : descriptor ∈ registry.storedIn descriptor.indexName :=
    List.mem_filter.mpr ⟨hd, decide_eq_true rfl⟩
  obtain ⟨first, found, same⟩ := Registry.exists_firstField stored hf
  have kept : (registry.propertiesOf descriptor.indexName).find? field.name = some first.mapping := by
    rw [sound.find?_propertiesOf _ hn, found, Option.map_some]
  refine ⟨first, found, ?_, typeAt?_rawNames kept same, fun ascending => ?_, fun exact pattern => ?_⟩
  · change ((Fields.find? _ field.name).bind fun property => some property) = _
    rw [kept, Option.bind_some]
  · rw [Search.sortPaths]
    dsimp only
    rw [sound.field?_eq hd hf, ← field.rawPath_eq]
    rfl
  · rw [Query.wildcardTarget, sound.field?_eq hd hf]
    dsimp only
    rw [if_neg (by rw [exact]; exact Bool.false_ne_true), field.rawPath_eq]

/-! ## Two declarations of one name -/

/-- Two entity types in one index with a field of the same name, which is analyzed for the first one
only. -/
def contestedSchema : SchemaDeclaration where
  entities := [
    { name := "A", idField := some "id", fields := [{ name := "f" }] },
    { name := "B", idField := some "id", fields := [{ name := "f", analyzed := false }] }]

def contestedFirst : Descriptor := ⟨"A", "main", "id", .numeric, [⟨"f", .text, true⟩]⟩

def contestedSecond : Descriptor := ⟨"B", "main", "id", .numeric, [⟨"f", .text, false⟩]⟩

def contestedRegistry : Registry := .registerAll {} [contestedFirst, contestedSecond]

theorem mergedMapping_lays_contested :
    ∃ mapping, mergedMapping contestedRegistry.resolver "main" = .ok mapping ∧
      (∃ first, contestedRegistry.Lays mapping contestedFirst ⟨"f", .text, true⟩ first) ∧
        ∃ first, contestedRegistry.Lays mapping contestedSecond ⟨"f", .text, false⟩ first := by
  have resolved : contestedSchema.resolve "main" = .ok contestedRegistry := rfl
  obtain ⟨mapping, merged, lays⟩ := mergedMapping_lays resolved "main"
  refine ⟨mapping, merged, ?_, ?_⟩
  · exact lays "A" contestedFirst rfl rfl _ (List.mem_singleton.mpr rfl) (by decide)
  · exact lays "B" contestedSecond rfl rfl _ (List.mem_singleton.mpr rfl) (by decide)

/-- A field that another entity type of its index declares in another way may have no exact values in
the index. -/
theorem not_every_field_exact : ¬ ∀ (schema : SchemaDeclaration) (defaultIndex : String)
    (registry : Registry), schema.resolve defaultIndex = .ok registry →
      ∀ index mapping, mergedMapping registry.resolver index = .ok mapping →
        ∀ entity descriptor, registry.resolver.descriptor entity = .ok descriptor →
          descriptor.indexName = index → ∀ field ∈ descriptor.fields, field.name ≠ typeField →
            mapping.typeAt? field.rawNames = some (field.dataType.engineType false) := by
  intro all
  have wrong := all contestedSchema "main" contestedRegistry rfl "main" _ rfl "B" contestedSecond rfl
    rfl ⟨"f", .text, false⟩ (List.mem_singleton.mpr rfl) (by decide)
  exact absurd wrong (by decide)

end EntitySearch
