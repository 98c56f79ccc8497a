import EntitySearch.Schema.Descriptor

/-!
# Registered entity types

A registry keeps two containers: a table of descriptors, in which one finds an entity type by its
name, and a list of the names in the order in which they were registered first. A registration
changes both, and they stay in step.

* `Resolver`: what the other parts ask of a schema, namely the descriptor of an entity type and
  the list of all entity types.
* `DescriptorTable`: the table, and `DescriptorTable.insert`.
* `Registry.InStep`: what the two containers have to do with each other; `Registry.InStep.insert`.
* `Registry`: both containers. Registering a known name replaces its descriptor.
* `Resolver.without`: a resolver that has lost the descriptors of some entity types.
-/

namespace EntitySearch

/-- A source of schema information. -/
structure Resolver where
  /-- The descriptor of an entity type. -/
  descriptor : String → Except SchemaError Descriptor
  /-- All entity types, in the order of registration. -/
  entityTypes : List String

namespace Resolver

/-- The index of an entity type. -/
def indexName (resolver : Resolver) (entity : String) : Except SchemaError String :=
  (resolver.descriptor entity).map (·.indexName)

/-- The same entity types, but with some descriptors no longer known. -/
def without (resolver : Resolver) (hidden : List String) : Resolver :=
  { resolver with
    descriptor := fun entity =>
      if hidden.contains entity then .error (.unknownEntity entity)
      else resolver.descriptor entity }

end Resolver

/-! ## The table -/

/-- Descriptors by name. Nobody sees the order of the entries. -/
structure DescriptorTable where
  entries : List (String × Descriptor) := []

namespace DescriptorTable

/-- The names that have a descriptor. -/
def keys (table : DescriptorTable) : List String := table.entries.map (·.1)

/-- The descriptor of a name. -/
def get? (table : DescriptorTable) (name : String) : Option Descriptor :=
  table.entries.lookup name

/-- Gives a name a descriptor, in the place of the one that it has. -/
def insert (table : DescriptorTable) (name : String) (descriptor : Descriptor) : DescriptorTable :=
  ⟨(name, descriptor) :: table.entries.filter fun entry => entry.1 != name⟩

/-- How many names have a descriptor. -/
def size (table : DescriptorTable) : Nat := table.entries.length

variable {table : DescriptorTable} {name : String} {descriptor : Descriptor}

theorem length_keys (table : DescriptorTable) : table.keys.length = table.size := List.length_map _

theorem isSome_get?_iff : (table.get? name).isSome = true ↔ name ∈ table.keys := by
  simp [get?, keys, List.lookup_isSome_iff]

theorem keys_insert (distinct : table.keys.Nodup) :
    (table.insert name descriptor).keys = name :: table.keys.erase name := by
  rw [distinct.erase_eq_filter, keys, keys, List.filter_map]
  rfl

theorem lookup_filter_ne {other : String} (h : name ≠ other) (entries : List (String × Descriptor)) :
    (entries.filter fun entry => entry.1 != name).lookup other = entries.lookup other := by
  induction entries with
  | nil => rfl
  | cons entry rest ih =>
    obtain ⟨key, found⟩ := entry
    rw [List.filter_cons, List.lookup_cons]
    split
    · rw [List.lookup_cons, ih]
    · next gone =>
      have own : key = name := by simpa using gone
      rw [ih, own, beq_eq_false_iff_ne.mpr (Ne.symm h)]

theorem get?_insert (table : DescriptorTable) (name : String) (descriptor : Descriptor)
    (other : String) :
    (table.insert name descriptor).get? other =
      if name = other then some descriptor else table.get? other := by
  rw [insert, get?, List.lookup_cons]
  split
  · next same => rw [if_pos (eq_of_beq same).symm]
  · next differ =>
    have h : name ≠ other := Ne.symm (beq_eq_false_iff_ne.mp differ)
    rw [if_neg h, lookup_filter_ne h, get?]

end DescriptorTable

/-! ## The registry -/

/-- What the table and the list of a registry have to do with each other. -/
structure Registry.InStep (table : DescriptorTable) (order : List String) : Prop where
  /-- The list has the names of the table, in an order of its own. -/
  listed : order.Perm table.keys
  once : order.Nodup
  /-- Every descriptor has the name of its entity type. -/
  named : ∀ name descriptor, table.get? name = some descriptor → descriptor.entityType = name

namespace Registry.InStep

theorem empty : InStep {} [] := ⟨.nil, .nil, nofun⟩

/-- **Both containers stay in step** if a descriptor goes into the table under the name of its entity
type, and this name to the end of the list if the table had none of that name. -/
theorem insert {table : DescriptorTable} {order : List String} (h : InStep table order)
    (descriptor : Descriptor) :
    InStep (table.insert descriptor.entityType descriptor)
      (if (table.get? descriptor.entityType).isNone then order ++ [descriptor.entityType]
        else order) where
  listed := by
    rw [DescriptorTable.keys_insert (h.listed.nodup_iff.mp h.once)]
    split
    · next fresh =>
      have new : descriptor.entityType ∉ table.keys := by
        rw [← DescriptorTable.isSome_get?_iff, Option.isNone_iff_eq_none.mp fresh]
        exact Bool.false_ne_true
      rw [List.erase_of_not_mem new]
      exact (List.perm_append_singleton _ _).trans (h.listed.cons _)
    · next known =>
      have old : descriptor.entityType ∈ table.keys := by
        rw [← DescriptorTable.isSome_get?_iff]
        simpa [Option.isSome_iff_ne_none] using known
      exact h.listed.trans (List.perm_cons_erase old)
  once := by
    split
    · next fresh =>
      rw [(List.perm_append_singleton _ _).nodup_iff, List.nodup_cons, h.listed.mem_iff,
        ← DescriptorTable.isSome_get?_iff, Option.isNone_iff_eq_none.mp fresh]
      exact ⟨Bool.false_ne_true, h.once⟩
    · exact h.once
  named name other ho := by
    rw [DescriptorTable.get?_insert] at ho
    split at ho
    · next same =>
      cases ho
      exact same
    · exact h.named name other ho

end Registry.InStep

/-- Registered descriptors, and the names of their entity types in the order in which these were
first registered. -/
structure Registry where
  table : DescriptorTable := {}
  order : List String := []
  inStep : Registry.InStep table order := by exact Registry.InStep.empty

namespace Registry

/-- Adds a descriptor, or replaces the one of its entity type. -/
def register (registry : Registry) (descriptor : Descriptor) : Registry where
  table := registry.table.insert descriptor.entityType descriptor
  order :=
    if (registry.table.get? descriptor.entityType).isNone then
      registry.order ++ [descriptor.entityType]
    else registry.order
  inStep := registry.inStep.insert descriptor

/-- A registry after more registrations. -/
def registerAll (registry : Registry) (descriptors : List Descriptor) : Registry :=
  descriptors.foldl register registry

/-- The descriptor of an entity type. -/
def find? (registry : Registry) (entity : String) : Option Descriptor :=
  registry.table.get? entity

/-- The registered entity types. -/
def entityTypes (registry : Registry) : List String := registry.order

/-- How many entity types are registered. -/
def size (registry : Registry) : Nat := registry.table.size

/-- The registry as a source of schema information. -/
def resolver (registry : Registry) : Resolver where
  descriptor entity :=
    match registry.find? entity with
    | some descriptor => .ok descriptor
    | none => .error (.unknownEntity entity)
  entityTypes := registry.entityTypes

end Registry

end EntitySearch
