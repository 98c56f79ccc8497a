import EntitySearch.Proofs.Engine.Comparison
import EntitySearch.Proofs.Schema.Resolved
import EntitySearch.Search.Request
import Mathlib.Data.List.TakeWhile

/-!
# What is found at the path of a field

The path of the exact values of a field begins with the name of the field, and an engine in memory
reads a path up to its first point. So it finds the member of that name, for analyzed fields as well
as for others, if there is no point in the name; otherwise it finds the member whose name is the part
before the point, which may be missing or belong to another field (`not_always_resolved`).

* `firstPart`: a name up to its first point.
* `fieldValue?_rawPath`: what is found at the path of a field.
* `rawPath_resolves_iff`: whether this is the value of the field in every document.
* `holds_wildcardTarget`, `compareSources_sortPaths`: wildcards and sorts by such fields.
* `declared_fields_evaluated`: all of this.
-/

namespace EntitySearch

/-! ## Paths -/

/-- A name up to its first point. -/
def firstPart (name : String) : String := String.ofList (name.toList.takeWhile (· ≠ '.'))

theorem firstPart_eq_self_iff {name : String} : firstPart name = name ↔ '.' ∉ name.toList := by
  have chars : firstPart name = name ↔ name.toList.takeWhile (· ≠ '.') = name.toList := by
    rw [firstPart, ← String.toList_inj, String.toList_ofList]
  rw [chars, List.takeWhile_eq_self_iff]
  constructor
  · intro all point
    exact absurd rfl (of_decide_eq_true (all '.' point))
  · intro absent c hc
    exact decide_eq_true fun same => absent (same ▸ hc)

theorem takeWhile_append_point (name rest : List Char) :
    (name ++ '.' :: rest).takeWhile (· ≠ '.') = name.takeWhile (· ≠ '.') := by
  induction name with
  | nil => rfl
  | cons c name ih => rw [List.cons_append, List.takeWhile_cons, List.takeWhile_cons, ih]

/-- **At the path of a field** there is the member whose name is that of the field up to its first
point. -/
theorem fieldValue?_rawPath (field : Field) (source : Fields) :
    fieldValue? source field.rawPath = Fields.find? source (firstPart field.name) := by
  unfold fieldValue? Field.rawPath firstPart
  split
  · have chars : (field.name ++ "." ++ field.rawName).toList =
        field.name.toList ++ '.' :: field.rawName.toList := by
      rw [String.toList_append, String.toList_append, List.append_assoc]
      rfl
    rw [chars, takeWhile_append_point]
  · rfl

/-- The path of a field leads to its value in every document exactly if there is no point in its
name. -/
theorem rawPath_resolves_iff (field : Field) :
    (∀ source, fieldValue? source field.rawPath = Fields.find? source field.name) ↔
      '.' ∉ field.name.toList := by
  rw [← firstPart_eq_self_iff]
  constructor
  · intro resolves
    -- the document that has nothing but this field
    have alone := resolves [(field.name, .null)]
    have there : Fields.find? [(field.name, .null)] field.name = some .null := if_pos rfl
    rw [fieldValue?_rawPath, there] at alone
    by_contra apart
    have gone : Fields.find? [(field.name, .null)] (firstPart field.name) = none :=
      if_neg (Ne.symm apart)
    cases gone.symm.trans alone
  · intro whole source
    rw [fieldValue?_rawPath, whole]

/-! ## Wildcards and sorts -/

section Declared

variable {descriptor : Descriptor} {name : String} {field : Field}

theorem name_of_field? (h : descriptor.field? name = .ok field) : field.name = name := by
  unfold Descriptor.field? at h
  split at h
  · next found =>
    cases h
    simpa using List.find?_some found
  · cases h

/-- A wildcard on a field for exact values looks at what is found at the path of this field. -/
theorem holds_wildcardTarget (declared : descriptor.field? name = .ok field)
    (exact_ : field.analyzed = false) (pattern : String) :
    ∃ target, (Query.wildcard name pattern).targetIn descriptor = .ok target ∧
      ∀ source, target.holds source = true ↔
        ∃ value, Fields.find? source (firstPart name) = some value ∧
          glob pattern.toList value.plainText.toList = true := by
  refine ⟨.wildcard field.rawPath pattern, ?_, fun source => ?_⟩
  · rw [Query.targetIn, Query.wildcardTarget, declared]
    simp only [exact_, Bool.false_eq_true, if_false]
  · rw [TargetQuery.holds, fieldValue?_rawPath, name_of_field? declared]
    cases Fields.find? source (firstPart name) <;> simp

/-- The order of two documents by the values of members, the first member that tells them apart
deciding; a missing value comes last. -/
def SortSpec.compareMembers : SortSpec → Fields → Fields → Ordering
  | [], _, _ => .eq
  | key :: rest, a, b =>
    (missingLast (directed key.ascending compareValues) (Fields.find? a key.field)
      (Fields.find? b key.field)).then (compareMembers rest a b)

/-- A sort whose fields are named up to the first points of their names. -/
def SortSpec.firstParts (sort : SortSpec) : SortSpec :=
  sort.map fun key => { key with field := firstPart key.field }

/-- A sort by declared fields compares what is found at the paths of these fields. -/
theorem compareSources_sortPaths {sort : SortSpec} {paths : List SortPath}
    (h : Search.sortPaths descriptor sort = .ok paths) (a b : Fields) :
    compareSources paths a b = sort.firstParts.compareMembers a b := by
  induction sort generalizing paths with
  | nil =>
    cases h
    rfl
  | cons key rest ih =>
    rw [Search.sortPaths] at h
    split at h
    · cases h
    · next declared =>
      cases hr : Search.sortPaths descriptor rest with
      | error cause => rw [hr] at h; cases h
      | ok more =>
        rw [hr] at h
        cases h
        rw [compareSources_cons, ih hr, compareAt, fieldValue?_rawPath, fieldValue?_rawPath,
          name_of_field? declared]
        rfl

end Declared

/-- **What fields are evaluated.** At the path of any field, analyzed or not, an engine finds the
member of a document whose name is that of the field up to its first point. This is the value of the
field in every document exactly if there is no point in its name. Wildcards on fields for exact
values, and sorts, look at these members. -/
theorem declared_fields_evaluated (descriptor : Descriptor) (field : Field) :
    (∀ source, fieldValue? source field.rawPath = Fields.find? source (firstPart field.name)) ∧
    ((∀ source, fieldValue? source field.rawPath = Fields.find? source field.name) ↔
      '.' ∉ field.name.toList) ∧
    (∀ name, descriptor.field? name = .ok field → field.analyzed = false → ∀ pattern,
      ∃ target, (Query.wildcard name pattern).targetIn descriptor = .ok target ∧
        ∀ source, target.holds source = true ↔
          ∃ value, Fields.find? source (firstPart name) = some value ∧
            glob pattern.toList value.plainText.toList = true) ∧
    (∀ (sort : SortSpec) (paths : List SortPath),
      Search.sortPaths descriptor sort = .ok paths → ∀ a b,
      compareSources paths a b = sort.firstParts.compareMembers a b) :=
  ⟨fieldValue?_rawPath field, rawPath_resolves_iff field,
    fun _ declared exact_ pattern => holds_wildcardTarget declared exact_ pattern,
    fun _ _ h => compareSources_sortPaths h⟩

/-- A descriptor with a field for exact values and an analyzed one. -/
def noteDescriptor : Descriptor where
  entityType := "Note"
  indexName := "main"
  idField := "id"
  idType := .string
  fields := [⟨"state", .text, false⟩, ⟨"title", .text, true⟩]

/-- Notes whose state begins with an `o`, and notes by their titles. -/
theorem declared_fields_evaluated_notes :
    noteDescriptor.field? "state" = .ok ⟨"state", .text, false⟩ ∧
    (∃ target, (Query.wildcard "state" "o*").targetIn noteDescriptor = .ok target ∧
      ∀ source, target.holds source = true ↔
        ∃ value, Fields.find? source (firstPart "state") = some value ∧
          glob "o*".toList value.plainText.toList = true) ∧
    Search.sortPaths noteDescriptor [⟨"title", true⟩] = .ok [⟨"title.title_raw", true⟩] ∧
    ∀ a b, compareSources [⟨"title.title_raw", true⟩] a b =
      SortSpec.compareMembers (SortSpec.firstParts [⟨"title", true⟩]) a b :=
  have evaluated := declared_fields_evaluated noteDescriptor ⟨"state", .text, false⟩
  ⟨rfl, evaluated.2.2.1 "state" rfl rfl "o*", rfl, evaluated.2.2.2 [⟨"title", true⟩] _ rfl⟩

/-- A schema with a field that has a point in its name. -/
def pointedSchema : SchemaDeclaration where
  entities := [{
    name := "A", idField := some "id", idType := .string
    fields := [⟨"a.b", "String", false⟩] }]

/-- Fields of accepted schemas whose paths do not lead to their values: one that has a point in its
name. -/
theorem not_always_resolved :
    ¬ ∀ (schema : SchemaDeclaration) (defaultIndex : String) (registry : Registry),
      schema.resolve defaultIndex = .ok registry →
      ∀ descriptor ∈ registry.descriptors, ∀ field ∈ descriptor.fields, ∀ source : Fields,
        fieldValue? source field.rawPath = Fields.find? source field.name := by
  intro claimed
  have accepted : pointedSchema.resolve "main" = .ok (.registerAll {}
    [⟨"A", "main", "id", .string, [⟨"a.b", .text, false⟩]⟩]) := rfl
  have found := claimed pointedSchema "main" _ accepted ⟨"A", "main", "id", .string, _⟩
    (Registry.mem_descriptors.mpr rfl) _ List.mem_cons_self [("a.b", .string "x")]
  have missed : fieldValue? [("a.b", Json.string "x")] (Field.rawPath ⟨"a.b", .text, false⟩) = none :=
    rfl
  have there : Fields.find? [("a.b", Json.string "x")] "a.b" = some (.string "x") := if_pos rfl
  cases missed.symm.trans (found.trans there)

end EntitySearch
