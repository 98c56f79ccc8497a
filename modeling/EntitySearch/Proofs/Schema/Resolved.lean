import EntitySearch.Schema.Declaration
import Mathlib.Data.List.Nodup

/-!
# Registries of declared schemas

The table and the list of a registry are in step, so it has every entity type once, and lookups by
name find exactly what is registered. A schema is refused if an entity type declares a field twice, so
the fields of a declared one have different names as well.

* `Registry.descriptors`: what is registered; `Registry.mem_descriptors`,
  `Registry.entityTypes_descriptors`.
* `Registry.find?_register`: lookups after a registration.
* `Registry.Sound`: no entity type has two fields of one name; `Registry.Sound.of_resolve`.
* `Registry.descriptor_iff`, `Registry.Sound.field?_eq`: lookups by name.
-/

namespace EntitySearch

/-- In a list whose items have different names, the first item with the name of an item is the
item. -/
theorem find?_of_nodup {α : Type} {name : α → String} {items : List α}
    (distinct : (items.map name).Nodup) {item : α} (h : item ∈ items) :
    (items.find? fun other => name other = name item) = some item := by
  induction items with
  | nil => cases h
  | cons first rest ih =>
    rw [List.map_cons, List.nodup_cons] at distinct
    rw [List.find?_cons]
    rcases List.mem_cons.mp h with rfl | h
    · simp only [decide_true]
    · have other : name first ≠ name item := fun he => distinct.1 (he ▸ List.mem_map_of_mem h)
      simp only [other, decide_false]
      exact ih distinct.2 h

namespace Registry

/-- The registered descriptors, in the order in which their entity types were first registered. -/
def descriptors (registry : Registry) : List Descriptor :=
  registry.entityTypes.filterMap registry.find?

/-- Whether no entity type has two fields of one name. -/
structure Sound (registry : Registry) : Prop where
  fields : ∀ descriptor ∈ registry.descriptors, (descriptor.fields.map (·.name)).Nodup

/-! ## Lookups by name -/

theorem entityType_of_find? {registry : Registry} {entityType : String} {descriptor : Descriptor}
    (h : registry.find? entityType = some descriptor) : descriptor.entityType = entityType :=
  registry.inStep.named entityType descriptor h

theorem isSome_find?_iff {registry : Registry} {entityType : String} :
    (registry.find? entityType).isSome = true ↔ entityType ∈ registry.entityTypes :=
  DescriptorTable.isSome_get?_iff.trans registry.inStep.listed.mem_iff.symm

theorem mem_descriptors {registry : Registry} {descriptor : Descriptor} :
    descriptor ∈ registry.descriptors ↔
      registry.find? descriptor.entityType = some descriptor := by
  rw [descriptors, List.mem_filterMap]
  constructor
  · rintro ⟨entityType, -, found⟩
    rwa [entityType_of_find? found]
  · intro found
    exact ⟨descriptor.entityType, isSome_find?_iff.mp (by rw [found]; rfl), found⟩

theorem entityTypes_descriptors (registry : Registry) :
    registry.descriptors.map (·.entityType) = registry.entityTypes := by
  have own : ∀ entityType ∈ registry.entityTypes,
      (registry.find? entityType).map (·.entityType) = some entityType := by
    intro entityType listed
    obtain ⟨descriptor, found⟩ := Option.isSome_iff_exists.mp (isSome_find?_iff.mpr listed)
    rw [found, Option.map_some, entityType_of_find? found]
  rw [descriptors, List.map_filterMap]
  calc registry.entityTypes.filterMap (fun entityType =>
          (registry.find? entityType).map (·.entityType))
      = registry.entityTypes.filterMap some := List.filterMap_congr own
    _ = registry.entityTypes := List.filterMap_some

/-- Both containers have as many entity types. -/
theorem size_eq (registry : Registry) : registry.size = registry.entityTypes.length := by
  rw [size, ← DescriptorTable.length_keys, ← registry.inStep.listed.length_eq, entityTypes]

theorem descriptor_resolver {registry : Registry} {entityType : String} {descriptor : Descriptor} :
    registry.resolver.descriptor entityType = .ok descriptor ↔
      registry.find? entityType = some descriptor := by
  rw [resolver]
  dsimp only
  cases registry.find? entityType <;> simp

theorem unknown_of_descriptor {registry : Registry} {entityType : String} {cause : SchemaError}
    (h : registry.resolver.descriptor entityType = .error cause) :
    cause = .unknownEntity entityType := by
  rw [resolver] at h
  dsimp only at h
  split at h
  · cases h
  · cases h
    rfl

/-! ## Registration -/

theorem find?_register (registry : Registry) (descriptor : Descriptor) (entityType : String) :
    (registry.register descriptor).find? entityType =
      if descriptor.entityType = entityType then some descriptor else registry.find? entityType :=
  DescriptorTable.get?_insert registry.table descriptor.entityType descriptor entityType

theorem Sound.empty : Sound {} := ⟨nofun⟩

theorem Sound.register {registry : Registry} (h : registry.Sound) {descriptor : Descriptor}
    (distinct : (descriptor.fields.map (·.name)).Nodup) : (registry.register descriptor).Sound where
  fields other ho := by
    rw [mem_descriptors, find?_register] at ho
    split at ho
    · cases ho
      exact distinct
    · exact h.fields other (mem_descriptors.mpr ho)

end Registry

/-! ## Declared schemas -/

namespace SchemaDeclaration

theorem nodup_resolveFields {entity : String} {declared : List FieldDeclaration} :
    ∀ {found fields : List Field}, (found.map (·.name)).Nodup →
      resolveFields entity found declared = .ok fields → (fields.map (·.name)).Nodup := by
  induction declared with
  | nil =>
    intro found fields distinct h
    cases h
    exact distinct
  | cons first rest ih =>
    intro found fields distinct h
    rw [resolveFields] at h
    split at h
    · cases h
    · next fresh =>
      refine ih ?_ h
      rw [List.map_append, List.nodup_append]
      refine ⟨distinct, List.nodup_singleton _, ?_⟩
      rintro name hn other ho rfl
      obtain ⟨field, hf, rfl⟩ := List.mem_map.mp hn
      exact fresh (List.any_eq_true.mpr
        ⟨field, hf, decide_eq_true (List.mem_singleton.mp ho)⟩)

theorem nodup_resolveEntity {defaultIndex : String} {entity : EntityDeclaration}
    {descriptor : Descriptor} (h : resolveEntity defaultIndex entity = .ok descriptor) :
    (descriptor.fields.map (·.name)).Nodup := by
  rw [resolveEntity] at h
  split at h
  · cases h
  split at h
  · cases h
  cases hf : resolveFields entity.name [] entity.fields with
  | error cause =>
    rw [hf] at h
    cases h
  | ok fields =>
    rw [hf] at h
    cases h
    have none : (([] : List Field).map (·.name)).Nodup := List.nodup_nil
    exact nodup_resolveFields none hf

end SchemaDeclaration

namespace Registry.Sound

theorem of_resolveOnto {defaultIndex : String} {entities : List EntityDeclaration} :
    ∀ {registry resolved : Registry}, registry.Sound →
      SchemaDeclaration.resolveOnto defaultIndex registry entities = .ok resolved →
        resolved.Sound := by
  induction entities with
  | nil =>
    intro registry resolved sound h
    cases h
    exact sound
  | cons entity rest ih =>
    intro registry resolved sound h
    rw [SchemaDeclaration.resolveOnto] at h
    cases hd : SchemaDeclaration.resolveEntity defaultIndex entity with
    | error cause =>
      rw [hd] at h
      cases h
    | ok descriptor =>
      rw [hd] at h
      exact ih (sound.register (SchemaDeclaration.nodup_resolveEntity hd)) h

/-- In the registry of a declared schema no name occurs twice. -/
theorem of_resolve {schema : SchemaDeclaration} {defaultIndex : String} {registry : Registry}
    (h : schema.resolve defaultIndex = .ok registry) : registry.Sound :=
  of_resolveOnto .empty h

end Registry.Sound

/-! ## Lookups -/

namespace Registry

variable {registry : Registry}

theorem descriptor_iff {entity : String} {descriptor : Descriptor} :
    registry.resolver.descriptor entity = .ok descriptor ↔
      descriptor ∈ registry.descriptors ∧ descriptor.entityType = entity := by
  rw [descriptor_resolver, mem_descriptors]
  constructor
  · intro found
    have own := entityType_of_find? found
    exact ⟨own ▸ found, own⟩
  · rintro ⟨found, rfl⟩
    exact found

theorem Sound.field?_eq (h : registry.Sound) {descriptor : Descriptor}
    (hd : descriptor ∈ registry.descriptors) {field : Field} (hf : field ∈ descriptor.fields) :
    descriptor.field? field.name = .ok field := by
  rw [Descriptor.field?, find?_of_nodup (h.fields descriptor hd) hf]

end Registry

end EntitySearch
