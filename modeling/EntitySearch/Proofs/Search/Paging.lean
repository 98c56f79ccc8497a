import EntitySearch.Proofs.Engine.Distinct
import EntitySearch.Proofs.Search.Answered
import EntitySearch.Proofs.Sorting.Permutation

/-!
# Pages of a search

A search is read page after page, each of some size, until a page is empty. In an engine in memory that
no one writes to meanwhile, the pages are consecutive parts of one list: the documents that match the
search, in the order of its sort, each of them once. So together they are this list, and every page
tells its length.

* `Search.Lists`: whether documents are the matches of a search.
* `MemoryEngine.speak?`: an engine in memory that answers searches.
* `Searcher.run_paged`: one page, by its offset and its size.
* `Searcher.Reads`: page after page; `Reads.unique`, `exists_reads` by induction on what is left.
* `Searcher.pages_partition`: the main result.
-/

namespace EntitySearch

open MemoryEngine (found? isHit)

/-! ## Matches -/

/-- Whether documents are the matches of a search in an engine: of the index of its first entity type
those that are of a type asked for and match its query, each of them once. -/
structure Search.Lists (search : Search) (registry : Registry) (engine : MemoryEngine)
    (listing : List Document) : Prop where
  distinct : (listing.map (·.id)).Nodup
  mem : ∃ asked descriptor target, search.entityTypes.head? = some asked ∧
    registry.find? asked = some descriptor ∧
    targetFor registry.resolver search.query asked = .ok target ∧
    ∀ document, document ∈ listing ↔ document ∈ engine.documents descriptor.indexName ∧
      document.entityType ∈ search.entityTypes ∧ target.holds document.source = true

/-- Whether a reference is that to the entity of a document. -/
def Document.Refers (registry : Registry) (document : Document) (reference : EntityReference) : Prop :=
  ∃ descriptor, registry.find? document.entityType = some descriptor ∧
    reference =
      ⟨document.entityType, descriptor.idField, EntityId.decode document.id descriptor.idType⟩

theorem MemoryEngine.found?_perm {request : SearchRequest} {documents listing : List Document}
    (h : found? request documents = some listing) :
    listing.Perm (documents.filter (isHit request)) := by
  unfold MemoryEngine.found? at h
  dsimp only at h
  split at h
  · cases h
    exact .refl _
  · exact Sorting.sort?_rearranges _ h

/-! ## Requests for pages -/

namespace Search

variable {search : Search} {resolver : Resolver} {maxPageSize : Nat} {request : SearchRequest}

/-- The search for a page of some size. -/
def paged (search : Search) (offset size : Nat) : Search := { search with offset, limit := some size }

theorem requestFor_eq_ok {first : Descriptor} {entityTypes : List String} :
    search.requestFor resolver maxPageSize first entityTypes = .ok request ↔
      ∃ query sort, targetFor resolver search.query first.entityType = .ok query ∧
        sortPaths first search.sort = .ok sort ∧
        request = {
          index := first.indexName, entityTypes, query, sort
          offset := search.offset
          limit := search.pageSize maxPageSize } := by
  unfold requestFor
  cases targetFor resolver search.query first.entityType with
  | error cause => exact ⟨nofun, nofun⟩
  | ok query =>
    cases sortPaths first search.sort with
    | error cause => exact ⟨nofun, nofun⟩
    | ok sort =>
      constructor
      · rintro ⟨⟩
        exact ⟨query, sort, rfl, rfl, rfl⟩
      · rintro ⟨_, _, ⟨⟩, ⟨⟩, rfl⟩
        rfl

theorem request_eq_ok (builds : search.request resolver maxPageSize = .ok request) :
    ∃ first rest, search.descriptors resolver = .ok (first, rest) ∧
      search.requestFor resolver maxPageSize first ((first :: rest).map (·.entityType)) =
        .ok request := by
  unfold Search.request at builds
  cases hd : search.descriptors resolver with
  | error cause =>
    rw [hd] at builds
    cases builds
  | ok described =>
    rw [hd] at builds
    exact ⟨described.1, described.2, rfl, builds⟩

theorem descriptors_eq_ok {first : Descriptor} {rest : List Descriptor}
    (h : search.descriptors resolver = .ok (first, rest)) :
    descriptorsOf resolver search.entityTypes = .ok (first :: rest) := by
  unfold descriptors at h
  split at h
  · cases h
  · cases h
  · next described =>
    cases h
    exact described

theorem request_paged (builds : search.request resolver maxPageSize = .ok request)
    (offset size : Nat) :
    (search.paged offset size).request resolver maxPageSize =
      .ok { request with offset, limit := min size maxPageSize } := by
  obtain ⟨first, rest, described, built⟩ := request_eq_ok builds
  obtain ⟨query, sort, hq, hs, rfl⟩ := requestFor_eq_ok.mp built
  have same : (search.paged offset size).descriptors resolver = .ok (first, rest) := described
  unfold Search.request
  rw [same]
  exact requestFor_eq_ok.mpr ⟨query, sort, hq, hs, rfl⟩

theorem request_paged_of_le {limit : Nat} (large : maxPageSize ≤ limit) (offset : Nat) :
    (search.paged offset limit).request resolver maxPageSize =
      (search.paged offset maxPageSize).request resolver maxPageSize := by
  have size : (search.paged offset limit).pageSize maxPageSize =
      (search.paged offset maxPageSize).pageSize maxPageSize :=
    (Nat.min_eq_right large).trans (Nat.min_self maxPageSize).symm
  unfold Search.request requestFor
  rw [size]
  rfl

end Search

/-! ## One page -/

namespace SearchPage

variable {registry : Registry} {first : Descriptor} {rest : List Descriptor}

theorem exists_refers {documents : List Document}
    (registered : ∀ document ∈ documents, registry.find? document.entityType ≠ none) :
    ∃ references, List.Forall₂ (Document.Refers registry) documents references := by
  induction documents with
  | nil => exact ⟨[], .nil⟩
  | cons document rest ih =>
    obtain ⟨references, refers⟩ := ih fun other hm => registered other (List.mem_cons_of_mem _ hm)
    obtain ⟨descriptor, hd⟩ := Option.ne_none_iff_exists'.mp (registered document List.mem_cons_self)
    exact ⟨_ :: references, .cons ⟨descriptor, hd, rfl⟩ refers⟩

theorem referencesOf_hits
    (known : ∀ descriptor ∈ first :: rest, registry.find? descriptor.entityType = some descriptor)
    (request : SearchRequest) {documents : List Document} {references : List EntityReference}
    (refers : List.Forall₂ (Document.Refers registry) documents references) :
    referencesOf registry.resolver first rest (documents.map (MemoryEngine.hit request)) =
      .ok references := by
  induction refers with
  | nil => rfl
  | @cons document reference documents references own others ih =>
    obtain ⟨descriptor, hd, rfl⟩ := own
    have named : (MemoryEngine.hit request document).entityType.getD first.entityType =
      document.entityType := rfl
    have read : referenceOf registry.resolver first rest (MemoryEngine.hit request document) =
        .ok ⟨document.entityType, descriptor.idField,
          EntityId.decode document.id descriptor.idType⟩ := by
      rw [referenceOf_eq known, named, Registry.descriptor_resolver.mpr hd,
        ← Registry.entityType_of_find? hd]
      rfl
    rw [List.map_cons, referencesOf, read, ih]
    rfl

end SearchPage

/-- An engine in memory that is spoken to. It breaks off a search that it cannot put in order. -/
def MemoryEngine.speak? (engine : MemoryEngine) :
    (request : Link.Request) → Option (Link.Reply request × MemoryEngine)
  | .call call => (engine.handle call).2.map fun outcome => (outcome, (engine.handle call).1)
  | .callWithin _ call =>
    (engine.handle call).2.map fun outcome => (some outcome, (engine.handle call).1)
  | .wait _ => some ((), engine)
  | .record _ => some ((), engine)
  | .abandon => none

namespace Searcher

variable {registry : Registry} {searcher : Searcher} {search : Search} {request : SearchRequest}
  {maxPageSize : Nat} {engine : MemoryEngine} {listing : List Document} {references : List EntityReference}

theorem handle_search (whole : engine.faults.shardFailure = none)
    (present : engine.hasIndex request.index = true)
    (sorted : found? request (engine.documents request.index) = some listing) :
    engine.handle (.search request) = (engine.record (.search request),
      some (.ok ⟨listing.length, [], MemoryEngine.page request listing⟩)) := by
  obtain ⟨index, hf⟩ := Option.isSome_iff_exists.mp present
  rw [MemoryEngine.documents, hf] at sorted
  have answer : engine.search? request =
      some (.ok ⟨listing.length, [], MemoryEngine.page request listing⟩) := by
    rw [MemoryEngine.search?, hf]
    dsimp only
    rw [show found? request index.documents = some listing from sorted, whole]
    rfl
  exact Prod.ext rfl answer

/-- The page of a request is the part of the whole list that its offset and its limit say. -/
theorem run_speak (resolver : searcher.resolver = registry.resolver)
    (builds : searcher.request search = .ok request) (whole : engine.faults.shardFailure = none)
    (present : engine.hasIndex request.index = true)
    (sorted : found? request (engine.documents request.index) = some listing)
    (refers : List.Forall₂ (Document.Refers registry) listing references) :
    (searcher.execute search).run MemoryEngine.speak? engine = some
      (.ok ⟨references.length, (references.drop request.offset).take request.limit⟩,
        engine.record (.search request)) := by
  have own := builds
  rw [Searcher.request, resolver] at own
  obtain ⟨first, rest, described, -, known⟩ := described_of_request own
  rw [← resolver] at described
  have page : SearchPage.ofResponse searcher.resolver first rest
      ⟨listing.length, [], MemoryEngine.page request listing⟩ =
        .ok ⟨references.length, (references.drop request.offset).take request.limit⟩ := by
    have part := List.forall₂_take request.limit (List.forall₂_drop request.offset refers)
    unfold SearchPage.ofResponse MemoryEngine.page
    rw [resolver, SearchPage.referencesOf_hits known request part, refers.length_eq]
  have served : engine.speak? (.call (.search request)) =
      some (.ok ⟨listing.length, [], MemoryEngine.page request listing⟩,
        engine.record (.search request)) := by
    have handled := handle_search whole present sorted
    change ((engine.handle (.search request)).2.map fun outcome =>
      (outcome, (engine.handle (.search request)).1)) = _
    rw [handled]
    rfl
  rw [execute, builds, described]
  refine (Procedure.run_ask served _).trans ?_
  rw [← page]
  exact run_recordAll (fun _ => rfl) _ _

/-- **One page** is the part of the whole list that its offset and its size say. -/
theorem run_paged (resolver : searcher.resolver = registry.resolver)
    (builds : searcher.request search = .ok request) (whole : engine.faults.shardFailure = none)
    (present : engine.hasIndex request.index = true)
    (sorted : found? request (engine.documents request.index) = some listing)
    (refers : List.Forall₂ (Document.Refers registry) listing references) (offset : Nat) {size : Nat}
    (fits : size ≤ searcher.maxPageSize) :
    ∃ call, (searcher.execute (search.paged offset size)).run MemoryEngine.speak? engine = some
      (.ok ⟨references.length, (references.drop offset).take size⟩, engine.record call) := by
  have paged := Search.request_paged builds offset size
  rw [Nat.min_eq_left fits] at paged
  exact ⟨_, run_speak resolver paged whole present sorted refers⟩

/-! ## Page after page -/

/-- The pages of a search from an offset on, one after the other, until one is empty. -/
inductive Reads (searcher : Searcher) (search : Search) (size : Nat) :
    (offset : Nat) → MemoryEngine → List SearchPage → Prop
  | last {offset : Nat} {engine after : MemoryEngine} {page : SearchPage}
    (executed : (searcher.execute (search.paged offset size)).run MemoryEngine.speak? engine =
      some (.ok page, after)) (empty : page.references = []) :
    Reads searcher search size offset engine [page]
  | next {offset : Nat} {engine after : MemoryEngine} {page : SearchPage} {pages : List SearchPage}
    (executed : (searcher.execute (search.paged offset size)).run MemoryEngine.speak? engine =
      some (.ok page, after)) (more : page.references ≠ [])
    (rest : Reads searcher search size (offset + size) after pages) :
    Reads searcher search size offset engine (page :: pages)

/-- There is one way to read page after page. -/
theorem Reads.unique {offset size : Nat} {pages others : List SearchPage}
    (h : searcher.Reads search size offset engine pages)
    (h' : searcher.Reads search size offset engine others) : pages = others := by
  induction h generalizing others with
  | last executed empty =>
    cases h' with
    | last executed' empty' =>
      cases executed.symm.trans executed'
      rfl
    | next executed' more _ =>
      cases executed.symm.trans executed'
      exact absurd empty more
  | next executed more _ ih =>
    cases h' with
    | last executed' empty' =>
      cases executed.symm.trans executed'
      exact absurd empty' more
    | next executed' more' rest =>
      cases executed.symm.trans executed'
      rw [ih rest]

/-- **Page after page**, by induction on how many references are left behind the offset. -/
theorem exists_reads (resolver : searcher.resolver = registry.resolver)
    (builds : searcher.request search = .ok request)
    (refers : List.Forall₂ (Document.Refers registry) listing references) {size : Nat}
    (one : 1 ≤ size) (fits : size ≤ searcher.maxPageSize) (offset : Nat)
    (whole : engine.faults.shardFailure = none) (present : engine.hasIndex request.index = true)
    (sorted : found? request (engine.documents request.index) = some listing) :
    ∃ pages, searcher.Reads search size offset engine pages ∧
      pages.flatMap (·.references) = references.drop offset ∧
      ∀ page ∈ pages, page.total = references.length := by
  induction hl : references.length - offset using Nat.strongRecOn generalizing offset engine with
  | ind left ih =>
    obtain ⟨call, executed⟩ := run_paged resolver builds whole present sorted refers offset fits
    by_cases empty : references.drop offset = []
    · rw [empty, List.take_nil] at executed
      refine ⟨_, .last executed rfl, empty.symm, ?_⟩
      exact List.forall_mem_singleton.mpr rfl
    · have there : offset < references.length := by
        rw [List.drop_eq_nil_iff] at empty
        omega
      have more : (references.drop offset).take size ≠ [] := by
        rw [ne_eq, List.take_eq_nil_iff, not_or]
        exact ⟨by omega, empty⟩
      have fewer : references.length - (offset + size) < left := by omega
      obtain ⟨pages, reads, all, totals⟩ :=
        @ih _ fewer (engine.record call) (offset + size) whole present sorted rfl
      refine ⟨_, .next executed more reads, ?_, List.forall_mem_cons.mpr ⟨rfl, totals⟩⟩
      rw [List.flatMap_cons, all, ← List.drop_drop, List.take_append_drop]

/-! ## The whole list -/

/-- What is found for a search are its matches, each of them once, and their types are registered. -/
theorem lists_of_found (distinct : engine.Distinct)
    (builds : search.request registry.resolver maxPageSize = .ok request)
    (sorted : found? request (engine.documents request.index) = some listing) :
    search.Lists registry engine listing ∧
      ∀ document ∈ listing, registry.find? document.entityType ≠ none := by
  have perm := MemoryEngine.found?_perm sorted
  obtain ⟨first, rest, described, built⟩ := Search.request_eq_ok builds
  obtain ⟨query, sort, hq, -, rfl⟩ := Search.requestFor_eq_ok.mp built
  obtain ⟨names, known⟩ := Search.descriptorsOf_registered (Search.descriptors_eq_ok described)
  have mem : ∀ document, document ∈ listing ↔ document ∈ engine.documents first.indexName ∧
      document.entityType ∈ search.entityTypes ∧ query.holds document.source = true := by
    intro document
    rw [perm.mem_iff, List.mem_filter, ← names]
    simp [isHit]
  refine ⟨⟨?_, first.entityType, first, query, ?_, known first List.mem_cons_self, hq, mem⟩, ?_⟩
  · rw [(perm.map _).nodup_iff]
    have all := distinct first.indexName
    rw [← MemoryEngine.documents_eq] at all
    exact all.sublist (List.filter_sublist.map _)
  · rw [← names]
    rfl
  · intro document hm
    have asked := ((mem document).mp hm).2.1
    rw [← names] at asked
    obtain ⟨descriptor, hd, same⟩ := List.mem_map.mp asked
    rw [← same, known descriptor hd]
    nofun

/-- **Paging splits the list of all matches.** In an engine in memory that has the index of a search and
of which nothing fails, let the request of a search be built and its matches be put in order. Then they
are listed each once; to read page after page, of any size that is allowed, ends in one way, its pages
are together the references to the matches, in their order, and every page tells how many there are. To
ask for a larger page than allowed is to ask for the largest one. -/
theorem pages_partition {size : Nat} (reached : engine.Reachable)
    (whole : engine.faults.shardFailure = none)
    (builds : (Searcher.new registry.resolver maxPageSize).request search = .ok request)
    (present : engine.hasIndex request.index = true)
    (sorted : found? request (engine.documents request.index) = some listing) (one : 1 ≤ size)
    (fits : size ≤ (Searcher.new registry.resolver maxPageSize).maxPageSize) :
    search.Lists registry engine listing ∧
    (∃ references pages, List.Forall₂ (Document.Refers registry) listing references ∧
      (∀ read, (Searcher.new registry.resolver maxPageSize).Reads search size 0 engine read ↔
        read = pages) ∧
      pages.flatMap (·.references) = references ∧
      ∀ page ∈ pages, page.total = references.length) ∧
    ∀ offset limit, (Searcher.new registry.resolver maxPageSize).maxPageSize ≤ limit →
      (Searcher.new registry.resolver maxPageSize).execute (search.paged offset limit) =
        (Searcher.new registry.resolver maxPageSize).execute (search.paged offset
          (Searcher.new registry.resolver maxPageSize).maxPageSize) := by
  have resolver : (Searcher.new registry.resolver maxPageSize).resolver = registry.resolver := rfl
  obtain ⟨lists, registered⟩ := lists_of_found reached.distinct builds sorted
  obtain ⟨references, refers⟩ := SearchPage.exists_refers registered
  obtain ⟨pages, reads, all, totals⟩ :=
    exists_reads resolver builds refers one fits 0 whole present sorted
  refine ⟨lists, ⟨references, pages, refers, ?_, all, totals⟩, ?_⟩
  · intro read
    constructor
    · exact fun others => others.unique reads
    · rintro rfl
      exact reads
  · intro offset limit large
    unfold execute
    rw [show (Searcher.new registry.resolver maxPageSize).request (search.paged offset limit) = _ from
      Search.request_paged_of_le large offset]
    rfl

/-! ## Three documents -/

/-- Two entity types of one index, with a field to sort by. -/
def ranked : Registry :=
  .registerAll {}
    [⟨"A", "main", "id", .numeric, [⟨"rank", .text, false⟩]⟩, ⟨"B", "main", "key", .string, []⟩]

/-- An engine that has taken three documents of them. -/
def rankedEngine : MemoryEngine := MemoryEngine.play {}
  [.call (.bulk [.put "main" "A" "7" [("rank", .string "b")], .put "main" "B" "x" [("rank", .string "c")],
    .put "main" "A" "9" [("rank", .string "a")]])]

/-- A search for all of them, by rank. -/
def rankedSearch : Search := { entityTypes := ["A", "B"], query := .matchAll, sort := [⟨"rank", true⟩] }

/-- Pages of two references each. -/
theorem pages_partition_three : ∃ pages,
    (Searcher.new ranked.resolver 2).Reads rankedSearch 2 0 rankedEngine pages ∧
    pages.flatMap (·.references) =
      [⟨"A", "id", .integer 9⟩, ⟨"A", "id", .integer 7⟩, ⟨"B", "key", .text "x"⟩] ∧
    ∀ page ∈ pages, page.total = 3 := by
  have sorted : found? ⟨"main", ["A", "B"], .matchAll, [⟨"rank", true⟩], 0, 2⟩
      (rankedEngine.documents "main") = some
    [⟨"9", "A", [("rank", .string "a")]⟩, ⟨"7", "A", [("rank", .string "b")]⟩,
      ⟨"x", "B", [("rank", .string "c")]⟩] := by
    rfl
  obtain ⟨-, ⟨references, pages, refers, reads, all, totals⟩, -⟩ :=
    @pages_partition ranked rankedSearch _ 2 rankedEngine _ 2 ⟨false, _, rfl⟩ rfl rfl rfl sorted
      (by decide) (by decide)
  rcases refers with _ | ⟨⟨_, ⟨⟩, rfl⟩, _ | ⟨⟨_, ⟨⟩, rfl⟩, _ | ⟨⟨_, ⟨⟩, rfl⟩, ⟨⟩⟩⟩⟩
  exact ⟨pages, (reads pages).mpr rfl, all, totals⟩

end Searcher

end EntitySearch
