import EntitySearch.Proofs.Schema.History
import Mathlib.Data.List.Induction

/-!
# Which schemas are accepted

A declared schema is accepted if all its entity types are complete, and then its registry has the
history of their descriptors. Otherwise the first incomplete entity type decides, and of what it lacks
the first in this order: a name, an identifier, and fields of different names. The fields are told
apart by the first name that has occurred before.

* `FirstRepeated`: the first name of a list that has occurred before; there is at most one, and there
  is one if names are repeated at all.
* `EntityDeclaration.Complete`, `EntityDeclaration.Fault`: what an entity type needs, and what it lacks
  first.
* `SchemaDeclaration.Refused`: why a schema is refused.
* `SchemaDeclaration.resolve_of_complete`, `SchemaDeclaration.resolve_of_refused`: what becomes of it.
* `SchemaDeclaration.resolved_exactly`: the main result.
-/

namespace EntitySearch

/-! ## Repeated names -/

/-- Whether a name is the first one of a list that has occurred before. -/
def FirstRepeated (names : List String) (name : String) : Prop :=
  ∃ before after, names = before ++ name :: after ∧ before.Nodup ∧ name ∈ before

namespace FirstRepeated

variable {names : List String} {name : String}

theorem not_nodup (h : FirstRepeated names name) : ¬ names.Nodup := by
  obtain ⟨before, after, rfl, -, again⟩ := h
  intro distinct
  exact (List.nodup_append.mp distinct).2.2 name again name List.mem_cons_self rfl

theorem unique {other : String} (h : FirstRepeated names name) (h' : FirstRepeated names other) :
    name = other := by
  obtain ⟨before, after, same, distinct, again⟩ := h
  obtain ⟨before', after', same', distinct', again'⟩ := h'
  -- Of two such places one would be in front of the other, among names that do not repeat.
  have inside : ∀ {first second behind rest : List String} {early late : String},
      early ∈ first → second.Nodup → second = first ++ behind →
        early :: rest = behind ++ late :: after' ∨ early :: rest = behind ++ late :: after →
          early = late := by
    intro first second behind rest early late early_mem distinct split tail
    cases behind with
    | nil => rcases tail with tail | tail <;> exact (List.cons.inj tail).1
    | cons next behind =>
      have head : early = next := by rcases tail with tail | tail <;> exact (List.cons.inj tail).1
      have apart := (List.nodup_append.mp (split ▸ distinct)).2.2 early early_mem early
      exact absurd rfl (apart (head ▸ List.mem_cons_self))
  rcases List.append_eq_append_iff.mp (same.symm.trans same') with
    ⟨behind, split, tail⟩ | ⟨behind, split, tail⟩
  · exact inside again distinct' split (.inl tail)
  · exact (inside again' distinct split (.inr tail)).symm

end FirstRepeated

theorem nodup_or_firstRepeated (names : List String) :
    names.Nodup ∨ ∃ name, FirstRepeated names name := by
  induction names using List.reverseRecOn with
  | nil => exact .inl List.nodup_nil
  | append_singleton names last ih =>
    rcases ih with distinct | ⟨name, before, after, rfl, distinct, again⟩
    · by_cases known : last ∈ names
      · exact .inr ⟨last, names, [], rfl, distinct, known⟩
      · refine .inl (List.nodup_append.mpr ⟨distinct, List.nodup_singleton _, ?_⟩)
        rintro name hn _ hl rfl
        exact known (List.mem_singleton.mp hl ▸ hn)
    · exact .inr ⟨name, before, after ++ [last], by simp, distinct, again⟩

/-! ## Entity types -/

/-- The field of a declaration. -/
def FieldDeclaration.field (declared : FieldDeclaration) : Field :=
  ⟨declared.name, FieldType.ofDeclared declared.typeName, declared.analyzed⟩

namespace EntityDeclaration

/-- Whether an entity type has all it needs. -/
structure Complete (entity : EntityDeclaration) : Prop where
  named : entity.name ≠ ""
  identified : ∃ idField, entity.idField = some idField ∧ idField ≠ ""
  distinct : (entity.fields.map (·.name)).Nodup

/-- What an entity type lacks first. -/
inductive Fault (entity : EntityDeclaration) : SchemaError → Prop where
  | unnamed (nameless : entity.name = "") : Fault entity .emptyName
  | unidentified (named : entity.name ≠ "")
      (nothing : ∀ idField, entity.idField = some idField → idField = "") :
      Fault entity (.missingId entity.name)
  | repeated {field : String} (named : entity.name ≠ "")
      (identified : ∃ idField, entity.idField = some idField ∧ idField ≠ "")
      (again : FirstRepeated (entity.fields.map (·.name)) field) :
      Fault entity (.duplicateField entity.name field)

/-- The descriptor of an entity type that has all it needs. -/
def descriptor (defaultIndex : String) (entity : EntityDeclaration) : Descriptor where
  entityType := entity.name
  indexName := (SchemaDeclaration.given entity.index).getD defaultIndex
  idField := (SchemaDeclaration.given entity.idField).getD ""
  idType := entity.idType
  fields := entity.fields.map (·.field)

theorem complete_or_fault (entity : EntityDeclaration) :
    entity.Complete ∨ ∃ cause, entity.Fault cause := by
  by_cases named : entity.name = ""
  · exact .inr ⟨_, .unnamed named⟩
  by_cases identified : ∃ idField, entity.idField = some idField ∧ idField ≠ ""
  · rcases nodup_or_firstRepeated (entity.fields.map (·.name)) with distinct | ⟨field, again⟩
    · exact .inl ⟨named, identified, distinct⟩
    · exact .inr ⟨_, .repeated named identified again⟩
  · refine .inr ⟨_, .unidentified named fun idField given => ?_⟩
    by_contra present
    exact identified ⟨idField, given, present⟩

end EntityDeclaration

namespace SchemaDeclaration

/-! ## What becomes of an entity type -/

theorem given_some {name : Option String} {text : String} (h : name = some text) (some : text ≠ "") :
    given name = .some text := by
  rw [h, given, Option.filter_some, if_pos]
  simpa using some

theorem given_none {name : Option String} (h : ∀ text, name = some text → text = "") :
    given name = none := by
  cases name with
  | none => rfl
  | some text => rw [h text rfl]; rfl

variable {entity : String} {declared : List FieldDeclaration}

theorem any_name_iff {found : List Field} {name : String} :
    (found.any fun field => field.name = name) = true ↔ name ∈ found.map (·.name) := by
  simp

theorem resolveFields_of_nodup : ∀ {found : List Field},
    (found.map (·.name) ++ declared.map (·.name)).Nodup →
      resolveFields entity found declared = .ok (found ++ declared.map (·.field)) := by
  induction declared with
  | nil => intro found _; rw [resolveFields, List.map_nil, List.append_nil]
  | cons first rest ih =>
    intro found distinct
    have fresh : ¬ (found.any fun field => field.name = first.name) = true := by
      rw [any_name_iff]
      exact fun known =>
        (List.nodup_append.mp distinct).2.2 _ known first.name List.mem_cons_self rfl
    rw [resolveFields, if_neg fresh, ih (by simpa using distinct)]
    simp [FieldDeclaration.field]

theorem resolveFields_of_repeated {field : String} : ∀ {found : List Field},
    (found.map (·.name)).Nodup →
      FirstRepeated (found.map (·.name) ++ declared.map (·.name)) field →
        resolveFields entity found declared = .error (.duplicateField entity field) := by
  induction declared with
  | nil =>
    intro found distinct again
    exact absurd (by simpa using distinct) again.not_nodup
  | cons first rest ih =>
    intro found distinct again
    rw [resolveFields]
    by_cases known : (found.any fun field => field.name = first.name) = true
    · have here : FirstRepeated (found.map (·.name) ++ (first :: rest).map (·.name)) first.name :=
        ⟨_, _, rfl, distinct, any_name_iff.mp known⟩
      rw [if_pos known, again.unique here]
    · rw [if_neg known]
      rw [any_name_iff] at known
      refine ih ?_ (by simpa using again)
      rw [List.map_append, List.nodup_append]
      refine ⟨distinct, List.nodup_singleton _, ?_⟩
      intro name hn other ho same
      have other_eq : other = first.name := List.mem_singleton.mp ho
      exact known (other_eq ▸ same ▸ hn)

variable {entity : EntityDeclaration} (defaultIndex : String)

theorem resolveEntity_of_complete (h : entity.Complete) :
    resolveEntity defaultIndex entity = .ok (entity.descriptor defaultIndex) := by
  obtain ⟨idField, given, present⟩ := h.identified
  have named : ¬ entity.name.isEmpty = true := fun he => h.named (String.isEmpty_iff.mp he)
  have fields : resolveFields entity.name [] entity.fields = .ok (entity.fields.map (·.field)) :=
    resolveFields_of_nodup h.distinct
  rw [resolveEntity, if_neg named, EntityDeclaration.descriptor, given_some given present]
  dsimp only
  rw [fields]
  rfl

theorem resolveEntity_of_fault {cause : SchemaError} (h : entity.Fault cause) :
    resolveEntity defaultIndex entity = .error cause := by
  have goesOn : entity.name ≠ "" → ¬ entity.name.isEmpty = true :=
    fun named he => named (String.isEmpty_iff.mp he)
  rw [resolveEntity]
  cases h with
  | unnamed nameless => exact if_pos (String.isEmpty_iff.mpr nameless)
  | unidentified named nothing => rw [if_neg (goesOn named), given_none nothing]
  | repeated named identified again =>
    obtain ⟨idField, given, present⟩ := identified
    have none : (([] : List Field).map (·.name)).Nodup := List.nodup_nil
    rw [if_neg (goesOn named), given_some given present]
    dsimp only
    rw [resolveFields_of_repeated none again]
    rfl

/-! ## What becomes of a schema -/

/-- Why a schema is refused: what its first incomplete entity type lacks first. -/
def Refused (schema : SchemaDeclaration) (cause : SchemaError) : Prop :=
  ∃ before entity after, schema.entities = before ++ entity :: after ∧
    (∀ complete ∈ before, complete.Complete) ∧ entity.Fault cause

theorem resolveOnto_of_complete {entities : List EntityDeclaration} :
    ∀ {registry : Registry}, (∀ entity ∈ entities, entity.Complete) →
      resolveOnto defaultIndex registry entities =
        .ok (registry.registerAll (entities.map (·.descriptor defaultIndex))) := by
  induction entities with
  | nil => exact fun _ => rfl
  | cons entity rest ih =>
    intro registry complete
    rw [resolveOnto, resolveEntity_of_complete defaultIndex (complete entity List.mem_cons_self)]
    exact ih fun other ho => complete other (List.mem_cons_of_mem _ ho)

theorem resolveOnto_of_fault {before after : List EntityDeclaration} {cause : SchemaError}
    (fault : entity.Fault cause) : ∀ {registry : Registry},
      (∀ complete ∈ before, complete.Complete) →
        resolveOnto defaultIndex registry (before ++ entity :: after) = .error cause := by
  induction before with
  | nil =>
    intro registry _
    rw [List.nil_append, resolveOnto, resolveEntity_of_fault defaultIndex fault]
    rfl
  | cons first rest ih =>
    intro registry complete
    rw [List.cons_append, resolveOnto,
      resolveEntity_of_complete defaultIndex (complete first List.mem_cons_self)]
    exact ih fun other ho => complete other (List.mem_cons_of_mem _ ho)

variable {schema : SchemaDeclaration}

/-- A schema whose entity types have all they need is accepted. -/
theorem resolve_of_complete (h : ∀ entity ∈ schema.entities, entity.Complete) :
    schema.resolve defaultIndex =
      .ok (Registry.registerAll {} (schema.entities.map (·.descriptor defaultIndex))) :=
  resolveOnto_of_complete defaultIndex h

theorem resolve_of_refused {cause : SchemaError} (h : schema.Refused cause) :
    schema.resolve defaultIndex = .error cause := by
  obtain ⟨before, entity, after, same, complete, fault⟩ := h
  rw [resolve, same]
  exact resolveOnto_of_fault defaultIndex fault complete

theorem complete_or_refused (schema : SchemaDeclaration) :
    (∀ entity ∈ schema.entities, entity.Complete) ∨ ∃ cause, schema.Refused cause := by
  suffices h : ∀ entities : List EntityDeclaration, (∀ entity ∈ entities, entity.Complete) ∨
      ∃ cause, Refused ⟨entities⟩ cause from h schema.entities
  intro entities
  induction entities with
  | nil => exact .inl nofun
  | cons entity rest ih =>
    rcases entity.complete_or_fault with complete | ⟨cause, fault⟩
    swap
    · exact .inr ⟨cause, [], entity, rest, rfl, nofun, fault⟩
    rcases ih with others | ⟨cause, before, first, after, same, others, fault⟩
    · exact .inl (List.forall_mem_cons.mpr ⟨complete, others⟩)
    · refine .inr ⟨cause, entity :: before, first, after, ?_,
        List.forall_mem_cons.mpr ⟨complete, others⟩, fault⟩
      exact congrArg (entity :: ·) same

theorem holds_of_resolve {registry : Registry} (resolved : schema.resolve defaultIndex = .ok registry) :
    registry.Holds (schema.entities.map (·.descriptor defaultIndex)) := by
  rcases schema.complete_or_refused with complete | ⟨cause, refused⟩
  · rw [resolve_of_complete defaultIndex complete] at resolved
    cases resolved
    exact Registry.holds_empty.registerAll _
  · rw [resolve_of_refused defaultIndex refused] at resolved
    cases resolved

/-- **What a schema is resolved to.** It is accepted exactly if every entity type has a name, an
identifier and fields of different names; otherwise the error is that of the first one that has not.
If it is accepted, then after any more registrations the entity types are listed once each, in the
order of their first registration, their number is the length of the list, and there is a descriptor
of these entity types and of no others, namely the one that was registered last. -/
theorem resolved_exactly (schema : SchemaDeclaration) (defaultIndex : String) :
    ((∃ registry, schema.resolve defaultIndex = .ok registry) ↔
      ∀ entity ∈ schema.entities, entity.Complete) ∧
    (∀ cause, schema.resolve defaultIndex = .error cause ↔ schema.Refused cause) ∧
    ∀ registry, schema.resolve defaultIndex = .ok registry → ∀ later : List Descriptor,
      (registry.registerAll later).Answers
        (schema.entities.map (·.descriptor defaultIndex) ++ later) := by
  refine ⟨⟨?_, fun complete => ⟨_, resolve_of_complete defaultIndex complete⟩⟩, fun cause =>
    ⟨?_, resolve_of_refused defaultIndex⟩, ?_⟩
  · rintro ⟨registry, resolved⟩
    rcases schema.complete_or_refused with complete | ⟨cause, refused⟩
    · exact complete
    · rw [resolve_of_refused defaultIndex refused] at resolved
      cases resolved
  · intro failed
    rcases schema.complete_or_refused with complete | ⟨other, refused⟩
    · rw [resolve_of_complete defaultIndex complete] at failed
      cases failed
    · rw [resolve_of_refused defaultIndex refused] at failed
      cases failed
      exact refused
  · intro registry resolved later
    exact ((holds_of_resolve defaultIndex resolved).registerAll later).answers

/-- A schema that declares an entity type twice. -/
def repeatedSchema : SchemaDeclaration where
  entities := [
    { name := "A", index := some "one", idField := some "id", fields := [{ name := "f" }] },
    { name := "B", index := some "", idField := some "id" },
    { name := "A", idField := some "key", idType := .string }]

/-- An entity type that is declared twice and moved afterwards keeps its place. -/
theorem resolved_exactly_repeated :
    ∃ registry, repeatedSchema.resolve "main" = .ok registry ∧
      (registry.registerAll [⟨"C", "two", "id", .numeric, []⟩,
          ⟨"A", "two", "id", .numeric, []⟩]).resolver.entityTypes = ["A", "B", "C"] ∧
      (registry.registerAll [⟨"C", "two", "id", .numeric, []⟩,
          ⟨"A", "two", "id", .numeric, []⟩]).resolver.descriptor "A" =
        .ok ⟨"A", "two", "id", .numeric, []⟩ ∧
      registry.resolver.descriptor "A" = .ok ⟨"A", "main", "key", .string, []⟩ := by
  obtain ⟨accepted, -, answers⟩ := resolved_exactly repeatedSchema "main"
  have complete : ∀ entity ∈ repeatedSchema.entities, entity.Complete := by
    simp only [repeatedSchema, List.forall_mem_cons]
    exact ⟨⟨by decide, ⟨"id", rfl, by decide⟩, by decide⟩,
      ⟨by decide, ⟨"id", rfl, by decide⟩, by decide⟩,
      ⟨by decide, ⟨"key", rfl, by decide⟩, by decide⟩, nofun⟩
  obtain ⟨registry, resolved⟩ := accepted.mpr complete
  refine ⟨registry, resolved, ?_, ?_, ?_⟩
  · exact (answers registry resolved _).types
  · rw [(answers registry resolved _).last]
    exact ⟨rfl, repeatedSchema.entities.map (·.descriptor "main") ++ [⟨"C", "two", "id", .numeric, []⟩],
      [], rfl, nofun⟩
  · have last := (answers registry resolved []).last "A" ⟨"A", "main", "key", .string, []⟩
    exact last.mpr
      ⟨rfl, (repeatedSchema.entities.take 2).map (·.descriptor "main"), [], rfl, nofun⟩

end SchemaDeclaration

end EntitySearch
