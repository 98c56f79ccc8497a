import EntitySearch.Proofs.Engine.Settled
import EntitySearch.Search.Request

/-!
# What a search lists

An engine that was empty and has taken writes has, once these are made visible, the documents that
the writes leave behind. A search for every document of an entity type lists those of them that are
of this type, if its page has room for them.

* `MemoryEngine.Holds`: whether an engine has taken writes and nothing else.
* `Holds.applied`, `Holds.documents`: a bulk request and a refresh of such an engine.
* `MemoryEngine.Finds`, `finds_listing`: what a search for every document of an entity type finds.
* `Holds.finds_listing`: the same in terms of the writes.
-/

namespace EntitySearch

namespace MemoryIndex

theorem length_applyTo (documents : List Document) (operation : Operation) :
    (applyTo documents operation).length ≤ documents.length + 1 := by
  cases operation with
  | put index entityType id fields =>
    rw [applyTo]
    generalize (⟨id, entityType, fields⟩ : Document) = document
    induction documents with
    | nil => exact Nat.le_refl 1
    | cons old rest ih =>
      rw [put]
      split
      · exact Nat.le_succ _
      · exact Nat.succ_le_succ ih
  | remove index entityType id => exact Nat.le_succ_of_le (List.length_filter_le _ documents)

theorem length_foldl_applyTo (operations : List Operation) (documents : List Document) :
    (operations.foldl applyTo documents).length ≤ documents.length + operations.length := by
  induction operations generalizing documents with
  | nil => exact Nat.le_refl _
  | cons operation rest ih =>
    have := length_applyTo documents operation
    have := ih (applyTo documents operation)
    rw [List.foldl_cons, List.length_cons]
    omega

end MemoryIndex

namespace MemoryEngine

/-- Whether an engine has taken writes and nothing else. -/
structure Holds (engine : MemoryEngine) (operations : List Operation) : Prop where
  settled : ∀ name, (engine.index name).settled =
    (operations.filter fun operation => operation.index = name).foldl MemoryIndex.applyTo []
  /-- The indices written to are there. -/
  present : ∀ operation ∈ operations, engine.hasIndex operation.index = true
  /-- No write waits in the other indices. -/
  refreshed : ∀ name, (∀ operation ∈ operations, operation.index ≠ name) →
    (engine.index name).unrefreshed = []

namespace Holds

variable {engine after : MemoryEngine} {operations more : List Operation}

theorem empty (h : ∀ name, (engine.index name).documents = [] ∧ (engine.index name).unrefreshed = []) :
    engine.Holds [] where
  settled name := by
    rw [settled_of_nil (h name).2, (h name).1]
    rfl
  present := nofun
  refreshed name _ := (h name).2

theorem undisturbed (h : engine.Holds operations) (same : Undisturbed engine after) :
    after.Holds operations where
  settled name := by rw [same.settled, h.settled]
  present operation ho := same.present _ (h.present operation ho)
  refreshed name hn := same.refreshed name (h.refreshed name hn)

/-- An engine that has taken more writes, of which none was refused. -/
theorem applied (h : engine.Holds operations) (ha : Applied more [] engine after) :
    after.Holds (operations ++ more) where
  settled name := by
    have all : (more.filter fun operation =>
        !([] : List String).contains operation.id && operation.index = name) =
          more.filter fun operation => operation.index = name := rfl
    rw [ha.settled, h.settled, all, List.filter_append, List.foldl_append]
  present operation ho := by
    rcases List.mem_append.mp ho with ho | ho
    · exact ha.present _ (.inl (h.present operation ho))
    · exact ha.present _ (.inr ⟨operation, ho, List.not_mem_nil, rfl⟩)
  refreshed name hn :=
    ha.refreshed name (fun operation ho => hn operation (List.mem_append_right _ ho))
      (h.refreshed name fun operation ho => hn operation (List.mem_append_left _ ho))

end Holds

/-! ## Refreshes that succeed -/

theorem refreshAll_ok (names : List String) : ∀ {engine : MemoryEngine},
    (∀ name ∈ names, engine.hasIndex name = true) → (refreshAll engine names).2 = .ok () := by
  induction names with
  | nil => exact fun _ => rfl
  | cons name rest ih =>
    intro engine present
    obtain ⟨index, hf⟩ := Option.isSome_iff_exists.mp (present name List.mem_cons_self)
    rw [refreshAll, hf]
    exact ih fun other ho => hasIndex_set _ _ _ (.inr (present other (List.mem_cons_of_mem _ ho)))

theorem refresh_ok {engine : MemoryEngine} (harmless : engine.faults.Harmless)
    {names : List String} (present : ∀ name ∈ names, engine.hasIndex name = true) :
    (engine.refresh names).2 = .ok () := by
  rcases refresh_cases engine names with ⟨error, outage, ho, -⟩ | h
  · exact absurd harmless.refresh ho
  · rw [h]
    exact refreshAll_ok names present

/-- **A refresh** of the indices written to makes everything visible. -/
theorem Holds.documents {engine after : MemoryEngine} {operations : List Operation}
    (h : engine.Holds operations) {names : List String}
    (touched : ∀ operation ∈ operations, operation.index ∈ names)
    (refresh : engine.refresh names = (after, .ok ())) (name : String) :
    after.documents name =
      (operations.filter fun operation => operation.index = name).foldl MemoryIndex.applyTo [] := by
  have same := undisturbed_refresh engine names
  rw [refresh] at same
  have held := h.undisturbed same
  have visible : (after.index name).unrefreshed = [] := by
    by_cases hn : name ∈ names
    · exact refresh_visible refresh name hn
    · refine held.refreshed name fun operation ho he => hn (he ▸ touched operation ho)
  rw [documents_eq, ← settled_of_nil visible, held.settled]

/-! ## Searches -/

/-- Whether a search finds a document. -/
def Finds (engine : MemoryEngine) (request : SearchRequest) (id : String) : Prop :=
  ∃ response, engine.search? request = some (.ok response) ∧ ∃ hit ∈ response.hits, hit.id = id

end MemoryEngine

/-- A search for every document of an entity type. -/
def Search.listing (entity : String) : Search := { entityTypes := [entity], query := .matchAll }

/-- The request of such a search. -/
def SearchRequest.listing (descriptor : Descriptor) (limit : Nat) : SearchRequest where
  index := descriptor.indexName
  entityTypes := [descriptor.entityType]
  query := .matchAll
  limit := limit

theorem Search.request_listing {resolver : Resolver} {descriptor : Descriptor}
    (known : resolver.descriptor descriptor.entityType = .ok descriptor) (limit : Nat) :
    (Search.listing descriptor.entityType).request resolver limit =
      .ok (.listing descriptor limit) := by
  have first : (listing descriptor.entityType).descriptors resolver = .ok (descriptor, []) := by
    simp only [descriptors, listing, descriptorsOf, known]
    rfl
  have target : targetFor resolver .matchAll descriptor.entityType = .ok .matchAll := by
    rw [targetFor, known]
    rfl
  have page : (listing descriptor.entityType).pageSize limit = limit := Nat.min_self limit
  have asked : (listing descriptor.entityType).requestFor resolver limit descriptor
      [descriptor.entityType] = .ok (.listing descriptor limit) := by
    unfold requestFor
    rw [page, show (listing descriptor.entityType).query = .matchAll from rfl, target]
    rfl
  unfold request
  rw [first]
  exact asked

namespace MemoryEngine

variable {engine : MemoryEngine} {descriptor : Descriptor} {limit : Nat}

theorem search?_missing {request : SearchRequest}
    (h : engine.indices.find? request.index = none) :
    engine.search? request = some (.error (.notFound request.index)) := by
  rw [search?, h]

theorem search?_unsorted {request : SearchRequest} {index : MemoryIndex}
    (h : engine.indices.find? request.index = some index) (unsorted : request.sort = []) :
    ∃ response, engine.search? request = some (.ok response) ∧
      response.hits = page request (index.documents.filter (isHit request)) := by
  have all : found? request index.documents =
      some (index.documents.filter (isHit request)) := by
    rw [found?, unsorted]
    rfl
  rw [search?, h]
  dsimp only
  rw [all]
  exact ⟨_, rfl, rfl⟩

theorem search?_listing (h : engine.hasIndex descriptor.indexName = true) :
    ∃ response, engine.search? (.listing descriptor limit) = some (.ok response) := by
  obtain ⟨index, hf⟩ := Option.isSome_iff_exists.mp h
  obtain ⟨response, hs, -⟩ := @search?_unsorted engine (.listing descriptor limit) index hf rfl
  exact ⟨response, hs⟩

theorem isHit_listing (document : Document) :
    isHit (.listing descriptor limit) document = true ↔
      document.entityType = descriptor.entityType := by
  simp [isHit, SearchRequest.listing, TargetQuery.holds]

theorem page_listing {documents : List Document} (room : documents.length ≤ limit) :
    page (.listing descriptor limit) documents = documents.map (hit (.listing descriptor limit)) := by
  have whole : (documents.drop 0).take limit = documents := List.take_of_length_le room
  exact congrArg (List.map _) whole

/-- **What a search for every document of an entity type finds**: the documents of this type, if
its page has room for all documents. -/
theorem finds_listing (room : (engine.documents descriptor.indexName).length ≤ limit)
    (id : String) :
    engine.Finds (.listing descriptor limit) id ↔
      ∃ document ∈ engine.documents descriptor.indexName,
        document.entityType = descriptor.entityType ∧ document.id = id := by
  unfold MemoryEngine.documents at room ⊢
  cases hf : engine.indices.find? descriptor.indexName with
  | none =>
    constructor
    · rintro ⟨response, hs, -⟩
      rw [@search?_missing engine (.listing descriptor limit) hf] at hs
      cases hs
    · rintro ⟨document, hd, -⟩
      cases hd
  | some index =>
    rw [hf] at room
    obtain ⟨response, hs, hits⟩ :=
      @search?_unsorted engine (.listing descriptor limit) index hf rfl
    have fits : (index.documents.filter (isHit (.listing descriptor limit))).length ≤ limit :=
      Nat.le_trans (List.length_filter_le _ _) room
    rw [page_listing fits] at hits
    constructor
    · rintro ⟨found, hf, found', hm, rfl⟩
      rw [hs] at hf
      cases hf
      rw [hits] at hm
      obtain ⟨document, hd, rfl⟩ := List.mem_map.mp hm
      obtain ⟨hd, hh⟩ := List.mem_filter.mp hd
      exact ⟨document, hd, (isHit_listing document).mp hh, rfl⟩
    · rintro ⟨document, hd, hh, rfl⟩
      refine ⟨response, hs, hit (.listing descriptor limit) document, ?_, rfl⟩
      rw [hits]
      exact List.mem_map_of_mem (List.mem_filter.mpr ⟨hd, (isHit_listing document).mpr hh⟩)

section Holds

variable {after : MemoryEngine} {operations : List Operation} (h : engine.Holds operations)
  {names : List String} (touched : ∀ operation ∈ operations, operation.index ∈ names)
  (refresh : engine.refresh names = (after, .ok ()))

include h touched refresh

theorem Holds.document? (name id : String) :
    after.document? name id = (Operation.lastAt? operations name id).bind (·.document?) := by
  rw [document?_eq, ← documents_eq, h.documents touched refresh, MemoryIndex.lookup_foldl,
    Operation.lastAt?]
  cases Operation.lastTo? _ id <;> rfl

/-- A search for every document of an entity type finds the identifiers whose last write has left
behind a document of this type. -/
theorem Holds.finds_listing (room : operations.length ≤ limit) (id : String) :
    after.Finds (.listing descriptor limit) id ↔
      ∃ document, after.document? descriptor.indexName id = some document ∧
        document.entityType = descriptor.entityType := by
  have documents := h.documents touched refresh descriptor.indexName
  have written := MemoryIndex.length_foldl_applyTo
    (operations.filter fun operation => operation.index = descriptor.indexName) []
  have fits : (after.documents descriptor.indexName).length ≤ limit := by
    rw [documents]
    exact Nat.le_trans written (by simpa using Nat.le_trans (List.length_filter_le _ _) room)
  have distinct : ((after.documents descriptor.indexName).map (·.id)).Nodup := by
    rw [documents]
    exact MemoryIndex.distinct_foldl _ List.nodup_nil
  rw [MemoryEngine.finds_listing fits, document?_eq, ← documents_eq]
  constructor
  · rintro ⟨document, hd, ht, rfl⟩
    exact ⟨document, (MemoryIndex.mem_iff_lookup distinct document).mp hd, ht⟩
  · rintro ⟨document, hd, ht⟩
    exact ⟨document, List.mem_of_find?_eq_some hd, ht, by simpa using List.find?_some hd⟩

end Holds

end MemoryEngine

end EntitySearch
