import EntitySearch.Proofs.Schema.Resolved
import Mathlib.Data.List.Induction
import Mathlib.Tactic.Common

/-!
# The history of a registry

An entity type gets its place in the list of a registry when it is registered for the first time and
keeps it from then on; in the table stands the descriptor that was registered last. So everything that
can be asked of a registry follows from the history of its registrations.

* `Descriptor.last?`: the descriptor that was registered last; `Descriptor.last?_eq_some_iff`.
* `Registry.entityTypes_register`: the list after a registration.
* `Registry.Holds`: what a registry holds of its history; `Registry.Holds.register`,
  `Registry.Holds.registerAll`.
* `Registry.Answers`: what a registry answers, by its history; `Registry.Holds.answers`.
-/

namespace EntitySearch

theorem eraseDups_concat (names : List String) (name : String) :
    (names ++ [name]).eraseDups =
      if name ∈ names then names.eraseDups else names.eraseDups ++ [name] := by
  rw [List.eraseDups_append, List.removeAll]
  by_cases h : name ∈ names <;> simp [h, List.eraseDups_cons]

theorem nodup_eraseDups (names : List String) : names.eraseDups.Nodup := by
  induction names using List.reverseRecOn with
  | nil => exact List.nodup_nil
  | append_singleton names name ih =>
    rw [eraseDups_concat]
    split
    · exact ih
    · next fresh =>
      rw [List.nodup_append]
      refine ⟨ih, List.nodup_singleton _, ?_⟩
      rintro other ho _ hn rfl
      rw [List.mem_singleton.mp hn, List.mem_eraseDups] at ho
      exact fresh ho

theorem eraseDups_append_cons {names : List String} {name : String} (h : name ∈ names)
    (rest : List String) : (names ++ name :: rest).eraseDups = (names ++ rest).eraseDups := by
  rw [List.eraseDups_append, List.eraseDups_append, List.removeAll, List.removeAll, List.filter_cons]
  simp [h]

/-! ## Last registrations -/

namespace Descriptor

/-- The descriptor that was registered last for an entity type. -/
def last? (history : List Descriptor) (entity : String) : Option Descriptor :=
  history.reverse.find? fun descriptor => descriptor.entityType = entity

variable {history : List Descriptor} {descriptor : Descriptor} {entity : String}

theorem last?_concat (history : List Descriptor) (descriptor : Descriptor) (entity : String) :
    last? (history ++ [descriptor]) entity =
      if descriptor.entityType = entity then some descriptor else last? history entity := by
  rw [last?, List.reverse_concat, List.find?_cons]
  by_cases h : descriptor.entityType = entity <;> simp [h, last?]

theorem last?_eq_some_iff :
    last? history entity = some descriptor ↔ descriptor.entityType = entity ∧
      ∃ before after, history = before ++ descriptor :: after ∧
        ∀ other ∈ after, other.entityType ≠ entity := by
  rw [last?, List.find?_eq_some_iff_append]
  simp only [decide_eq_true_eq, Bool.not_eq_true', decide_eq_false_iff_not]
  refine and_congr_right fun _ => ⟨?_, ?_⟩
  · rintro ⟨after, before, same, others⟩
    refine ⟨before.reverse, after.reverse, ?_, fun other ho => others other (by simpa using ho)⟩
    rw [← history.reverse_reverse, same]
    simp
  · rintro ⟨before, after, rfl, others⟩
    exact ⟨after.reverse, before.reverse, by simp, fun other ho => others other (by simpa using ho)⟩

end Descriptor

namespace Registry

/-- A registration adds its entity type to those that are listed unless it is one of them. -/
theorem entityTypes_register (registry : Registry) (descriptor : Descriptor) :
    (registry.register descriptor).entityTypes =
      if descriptor.entityType ∈ registry.entityTypes then registry.entityTypes
      else registry.entityTypes ++ [descriptor.entityType] := by
  have known : (registry.table.get? descriptor.entityType).isNone = true ↔
      descriptor.entityType ∉ registry.entityTypes := by
    rw [← isSome_find?_iff, Option.isNone_iff_eq_none, Option.not_isSome_iff_eq_none, find?]
  refine (if_congr known rfl rfl).trans ?_
  exact ite_not _ _ _

/-- What a registry holds of its history: every entity type that was registered, in the order of the
first registrations, and the last descriptor of each. -/
structure Holds (registry : Registry) (history : List Descriptor) : Prop where
  types : registry.entityTypes = (history.map (·.entityType)).eraseDups
  last : ∀ entity, registry.find? entity = Descriptor.last? history entity

variable {registry : Registry} {history : List Descriptor}

theorem holds_empty : Holds {} [] := ⟨rfl, fun _ => rfl⟩

namespace Holds

/-- **One registration** is added to the history. -/
theorem register (h : registry.Holds history) (descriptor : Descriptor) :
    (registry.register descriptor).Holds (history ++ [descriptor]) where
  types := by
    rw [entityTypes_register, h.types, List.map_append, List.map_singleton, eraseDups_concat]
    exact if_congr List.mem_eraseDups rfl rfl
  last entity := by rw [find?_register, Descriptor.last?_concat, h.last]

/-- **All registrations** are added to the history, in their order. -/
theorem registerAll (h : registry.Holds history) (later : List Descriptor) :
    (registry.registerAll later).Holds (history ++ later) := by
  induction later generalizing registry history with
  | nil => simpa [Registry.registerAll] using h
  | cons descriptor rest ih =>
    have next := ih (h.register descriptor)
    rwa [List.append_assoc] at next

end Holds

/-! ## Answers -/

/-- What a registry answers, by the history of its registrations. -/
structure Answers (registry : Registry) (history : List Descriptor) : Prop where
  /-- It lists what was registered, in the order of the first registrations. -/
  types : registry.resolver.entityTypes = (history.map (·.entityType)).eraseDups
  /-- It lists nothing twice. -/
  once : registry.resolver.entityTypes.Nodup
  size : registry.size = registry.resolver.entityTypes.length
  /-- It has a descriptor of what it lists and of nothing else. -/
  known : ∀ entity, (∃ descriptor, registry.resolver.descriptor entity = .ok descriptor) ↔
    entity ∈ registry.resolver.entityTypes
  /-- The descriptor is that of the last registration of the entity type. -/
  last : ∀ entity descriptor, registry.resolver.descriptor entity = .ok descriptor ↔
    descriptor.entityType = entity ∧ ∃ before after, history = before ++ descriptor :: after ∧
      ∀ other ∈ after, other.entityType ≠ entity
  unknown : ∀ entity cause, registry.resolver.descriptor entity = .error cause →
    cause = .unknownEntity entity

/-- **The answers of a registry** follow from what it holds. -/
theorem Holds.answers (h : registry.Holds history) : registry.Answers history where
  types := h.types
  once := registry.inStep.once
  size := size_eq registry
  known entity := by
    have listed : entity ∈ registry.resolver.entityTypes ↔
        (registry.find? entity).isSome = true := isSome_find?_iff.symm
    rw [listed, Option.isSome_iff_exists]
    exact exists_congr fun descriptor => descriptor_resolver
  last entity descriptor := by rw [descriptor_resolver, h.last, Descriptor.last?_eq_some_iff]
  unknown _ _ := unknown_of_descriptor

end Registry

end EntitySearch
