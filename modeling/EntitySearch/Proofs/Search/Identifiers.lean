import EntitySearch.Proofs.Index.Layout
import EntitySearch.Proofs.Number.Numerals
import EntitySearch.Proofs.Queue.Account
import EntitySearch.Proofs.Search.Paging

/-!
# Identifiers that are written and read back

Where identifiers are integers, a numeral of 64 bits is read as its integer, and anything else is
kept as it is. The writer of a queue and the reader of hits do this on their own, and agree. What is
read as an integer is printed without anything needless, so the printed identifier is the stored one
unless that has a plus sign, zeros in front, or the sign of a negative zero; such identifiers cannot
be told apart from others of their value once they are read.

* `EntityId.Denotes`, `EntityId.Kept`: the identifiers that are read as integers, and those that are
  printed as they are stored.
* `EntityId.decode_eq_integer_iff`, `EntityId.decode_eq_text_iff`: how an identifier is read.
* `EntityId.written_and_read`: what is written of an identifier is what a hit is read as.
* `EntityReference.printed_iff_kept`: what a reference tells of the stored identifier.
-/

namespace EntitySearch

namespace EntityId

/-- Whether an identifier is a numeral of an integer of 64 bits. -/
def Denotes (raw : String) (n : Int) : Prop := Numeral raw.toList n ∧ -2 ^ 63 ≤ n ∧ n < 2 ^ 63

/-- Whether an identifier has nothing that is lost when it is read as an integer. -/
def Kept (raw : String) (idType : IdType) : Prop :=
  idType = .numeric → ∀ n, Denotes raw n → Plain raw.toList

/-- The value of an identifier in a document. -/
def value : EntityId → Json
  | .integer n => .int n
  | .text s => .string s

variable {raw other : String} {idType : IdType}

/-! ## Reading identifiers -/

/-- An identifier is read as an integer if the entity type asks for one and it denotes one. -/
theorem decode_eq_integer_iff {n : Int} :
    decode raw idType = .integer n ↔ idType = .numeric ∧ Denotes raw n := by
  cases idType with
  | string => exact iff_of_false nofun fun h => nomatch h.1
  | numeric =>
    rw [Denotes, ← parseInt?_eq_some_iff, decode]
    cases parseInt? raw.toList <;> simp

/-- Any other identifier is kept as it is. -/
theorem decode_eq_text_iff {s : String} :
    decode raw idType = .text s ↔ s = raw ∧ (idType = .numeric → ∀ n, ¬ Denotes raw n) := by
  cases idType with
  | string => exact ⟨fun h => ⟨(text.inj h).symm, nofun⟩, fun h => congrArg text h.1.symm⟩
  | numeric =>
    simp only [Denotes, ← parseInt?_eq_some_iff, decode]
    cases parseInt? raw.toList <;> simp [eq_comm]

/-- **Identifiers that are read alike** are the same, or denote the same integer. -/
theorem decode_eq_iff : decode raw idType = decode other idType ↔
    raw = other ∨ idType = .numeric ∧ ∃ n, Denotes raw n ∧ Denotes other n := by
  cases hd : decode other idType with
  | integer n =>
    obtain ⟨numeric, denotes⟩ := decode_eq_integer_iff.mp hd
    rw [decode_eq_integer_iff]
    constructor
    · rintro ⟨-, own⟩
      exact .inr ⟨numeric, n, own, denotes⟩
    · rintro (rfl | ⟨-, m, own, same⟩)
      · exact ⟨numeric, denotes⟩
      · exact ⟨numeric, denotes.1.unique same.1 ▸ own⟩
  | text s =>
    obtain ⟨rfl, kept⟩ := decode_eq_text_iff.mp hd
    rw [decode_eq_text_iff]
    constructor
    · rintro ⟨same, -⟩
      exact .inl same.symm
    · rintro (rfl | ⟨numeric, n, -, denotes⟩)
      · exact ⟨rfl, kept⟩
      · exact absurd denotes (kept numeric n)

/-! ## Printing identifiers -/

theorem toList_toText_integer (n : Int) : (integer n).toText.toList = intChars n :=
  String.toList_ofList

theorem denotes_toText {n : Int} (lower : -2 ^ 63 ≤ n) (upper : n < 2 ^ 63) :
    Denotes (integer n).toText n := by
  rw [Denotes, toList_toText_integer]
  exact ⟨numeral_intChars n, lower, upper⟩

theorem Denotes.toText_decode {n : Int} (h : Denotes raw n) :
    Denotes (decode raw .numeric).toText n ∧ Plain (decode raw .numeric).toText.toList := by
  rw [decode_eq_integer_iff.mpr ⟨rfl, h⟩]
  refine ⟨denotes_toText h.2.1 h.2.2, ?_⟩
  rw [toList_toText_integer]
  exact plain_intChars n

/-- **An identifier is printed as it is stored** exactly if it has nothing that is lost. -/
theorem toText_decode_iff : (decode raw idType).toText = raw ↔ Kept raw idType := by
  cases hd : decode raw idType with
  | integer n =>
    obtain ⟨numeric, denotes⟩ := decode_eq_integer_iff.mp hd
    rw [← String.toList_inj, toList_toText_integer, eq_comm, denotes.1.eq_intChars_iff]
    exact ⟨fun plain _ _ _ => plain, fun kept => kept numeric n denotes⟩
  | text s =>
    obtain ⟨rfl, kept⟩ := decode_eq_text_iff.mp hd
    exact iff_of_true rfl fun numeric n denotes => absurd denotes (kept numeric n)

/-! ## Writing identifiers -/

/-- What the writer of a queue writes of an identifier is the value of what is read. -/
theorem value_decode (descriptor : Descriptor) (raw : String) :
    (decode raw descriptor.idType).value = BulkPlan.idValue descriptor raw := by
  unfold decode BulkPlan.idValue
  cases descriptor.idType with
  | string => rfl
  | numeric =>
    dsimp only
    cases parseInt? raw.toList <;> rfl

theorem find?_fieldsOf {descriptor : Descriptor} {item : WorkItem}
    (missing : Fields.contains item.fields descriptor.idField = false) :
    Fields.find? (BulkPlan.fieldsOf descriptor item) descriptor.idField =
      some (BulkPlan.idValue descriptor item.id) := by
  rw [BulkPlan.fieldsOf, if_neg (by simp [missing]), Fields.find?_insert, if_pos rfl]

/-- **Writing and searching agree on identifiers.** For every registered type and every item that
writes a document of it and does not give its identifier, the writer puts a value into the document
that is the identifier as which any search reads a hit of the document. Where identifiers are
integers this is an integer exactly for the numerals of 64 bits, and it is the identifier as it is
for all other texts; every integer of 64 bits is read back from its own numeral. -/
theorem written_and_read :
    (∀ (registry : Registry) (descriptor : Descriptor) (items : List WorkItem), ∀ item ∈ items,
      registry.find? item.entityType = some descriptor → item.kind = .add →
      Fields.contains item.fields descriptor.idField = false →
        ∃ fields, (.put descriptor.indexName item.entityType item.id fields, item) ∈
            (BulkPlan.ofItems registry.resolver items).entries ∧
          ∀ (search : Search) (first : Descriptor) (rest : List Descriptor) (hit : Hit),
            search.descriptors registry.resolver = .ok (first, rest) → hit.id = item.id →
            hit.entityType.getD first.entityType = item.entityType →
              ∃ reference, SearchPage.referenceOf registry.resolver first rest hit = .ok reference ∧
                Fields.find? fields descriptor.idField = some reference.id.value) ∧
    (∀ raw idType n, decode raw idType = .integer n ↔ idType = .numeric ∧
      Numeral raw.toList n ∧ -2 ^ 63 ≤ n ∧ n < 2 ^ 63) ∧
    (∀ raw idType s, decode raw idType = .text s ↔ s = raw ∧ (idType = .numeric →
      ∀ n, ¬ (Numeral raw.toList n ∧ -2 ^ 63 ≤ n ∧ n < 2 ^ 63))) ∧
    ∀ n : Int, -2 ^ 63 ≤ n → n < 2 ^ 63 →
      decode (String.ofList (intChars n)) .numeric = .integer n := by
  refine ⟨?_, fun raw idType n => decode_eq_integer_iff, fun raw idType s => decode_eq_text_iff,
    fun n lower upper => decode_eq_integer_iff.mpr ⟨rfl, denotes_toText lower upper⟩⟩
  intro registry descriptor items item hm registered add missing
  have known := Registry.descriptor_resolver.mpr registered
  have own := Registry.entityType_of_find? registered
  have operation : registry.resolver.operation? item = some (.put descriptor.indexName
      item.entityType item.id (BulkPlan.fieldsOf descriptor item)) := by
    rw [Resolver.operation?_of_descriptor known, BulkPlan.operation, add, own]
  refine ⟨_, BulkPlan.entry_of_mem hm operation, ?_⟩
  intro search first rest hit described same entityType
  obtain ⟨-, all⟩ := Search.descriptorsOf_registered (Search.descriptors_eq_ok described)
  refine ⟨.ofHit descriptor hit.id, ?_, ?_⟩
  · rw [SearchPage.referenceOf_eq all, entityType, known]
    rfl
  · rw [find?_fieldsOf missing, EntityReference.ofHit, value_decode, same]

/-- An entity type whose identifiers are integers. -/
def numberedType : Descriptor := { entityType := "A", indexName := "main", idField := "id" }

/-- A registry of that entity type. -/
def numbered : Registry := .registerAll {} [numberedType]

/-- A hit of a document whose identifier has zeros in front. -/
def paddedHit : Hit := ⟨"main", none, "007", none, []⟩

/-- A document whose identifier has zeros in front is written with an integer, and read back as the
same; the least integer of 64 bits is read back from its numeral. -/
theorem written_and_read_padded :
    (∃ fields reference, (.put "main" "A" "007" fields, WorkItem.add "A" "007") ∈
        (BulkPlan.ofItems numbered.resolver [WorkItem.add "A" "007"]).entries ∧
      SearchPage.referenceOf numbered.resolver numberedType [] paddedHit = .ok reference ∧
      reference.id = .integer 7 ∧ Fields.find? fields "id" = some reference.id.value) ∧
    decode (String.ofList (intChars (-2 ^ 63))) .numeric = .integer (-2 ^ 63) := by
  obtain ⟨agree, -, -, own⟩ := written_and_read
  obtain ⟨fields, written, read⟩ := agree numbered numberedType [WorkItem.add "A" "007"]
    (WorkItem.add "A" "007") List.mem_cons_self rfl rfl rfl
  obtain ⟨reference, found, same⟩ :=
    read { entityTypes := ["A"], query := .matchAll } numberedType [] paddedHit rfl rfl rfl
  have seven : SearchPage.referenceOf numbered.resolver numberedType [] paddedHit =
      .ok ⟨"A", "id", .integer 7⟩ := by rfl
  refine ⟨⟨fields, reference, written, found, ?_, same⟩, own _ (by decide) (by decide)⟩
  rw [found] at seven
  cases seven
  rfl

end EntityId

namespace EntityReference

open EntityId

/-- **What a reference tells of the stored identifier.** It prints the identifier as it is stored
exactly if that has nothing that is lost when it is read as an integer, and otherwise prints the
plain numeral of the same integer. Two documents of an entity type have one reference exactly if
their identifiers are the same or denote the same integer; and the deletion of what a reference
prints removes the document that it was read from exactly if the identifier is printed as it is
stored. -/
theorem printed_iff_kept :
    (∀ raw idType, (decode raw idType).toText = raw ↔ Kept raw idType) ∧
    (∀ raw n, Denotes raw n →
      Denotes (decode raw .numeric).toText n ∧ Plain (decode raw .numeric).toText.toList) ∧
    (∀ descriptor raw other, ofHit descriptor raw = ofHit descriptor other ↔
      raw = other ∨ descriptor.idType = .numeric ∧ ∃ n, Denotes raw n ∧ Denotes other n) ∧
    ∀ (registry : Registry) (descriptor : Descriptor) (document : Document),
      registry.find? document.entityType = some descriptor →
        ∃ operation, registry.resolver.operation? (WorkItem.delete
            (ofHit descriptor document.id).entityType
            (ofHit descriptor document.id).id.toText) = some operation ∧
          operation.index = descriptor.indexName ∧
          ∀ documents, document ∈ documents →
            (document ∉ MemoryIndex.applyTo documents operation ↔
              Kept document.id descriptor.idType) := by
  refine ⟨fun raw idType => toText_decode_iff, fun raw n => Denotes.toText_decode, ?_, ?_⟩
  · intro descriptor raw other
    rw [← decode_eq_iff, ofHit, ofHit, EntityReference.mk.injEq]
    exact ⟨fun h => h.2.2, fun h => ⟨rfl, rfl, h⟩⟩
  · intro registry descriptor document registered
    have own := Registry.entityType_of_find? registered
    have known : registry.resolver.descriptor descriptor.entityType = .ok descriptor :=
      Registry.descriptor_resolver.mpr (own ▸ registered)
    refine ⟨.remove descriptor.indexName descriptor.entityType
      (decode document.id descriptor.idType).toText, ?_, rfl, ?_⟩
    · rw [ofHit, WorkItem.delete, Resolver.operation?, known]
      rfl
    · intro documents hm
      rw [← toText_decode_iff, MemoryIndex.applyTo, List.mem_filter, not_and,
        decide_eq_true_iff, not_not, eq_comm]
      exact ⟨fun removed => removed hm, fun same _ => same⟩

/-- The deletion of what is printed for a document whose identifier has a plus sign does not remove
it. -/
theorem printed_iff_kept_plus : ∃ operation,
    numbered.resolver.operation? (WorkItem.delete "A" "5") = some operation ∧
      ⟨"+5", "A", []⟩ ∈ MemoryIndex.applyTo [⟨"+5", "A", []⟩] operation := by
  obtain ⟨printed, -, -, deletion⟩ := printed_iff_kept
  obtain ⟨operation, made, -, removes⟩ := deletion numbered numberedType ⟨"+5", "A", []⟩ rfl
  refine ⟨operation, made, ?_⟩
  by_contra gone
  have kept := (removes _ List.mem_cons_self).mp gone
  exact absurd ((printed "+5" .numeric).mpr kept) (by decide)

/-- Zeros in front are not printed, and two documents that differ in them have one reference. -/
theorem not_printed_as_stored : (¬ ∀ raw idType, (decode raw idType).toText = raw) ∧
    ¬ ∀ descriptor raw other, raw ≠ other → ofHit descriptor raw ≠ ofHit descriptor other :=
  ⟨fun printed => absurd (printed "007" .numeric) (by decide),
    fun apart => apart numberedType "007" "7" (by decide) rfl⟩

end EntityReference

end EntitySearch
