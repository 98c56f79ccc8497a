import EntitySearch.Proofs.Engine.Listing
import EntitySearch.Proofs.Schema.Resolved
import EntitySearch.Proofs.Session.Filled

/-!
# The last write counts

The items that a queue accepts go to an engine in memory, in their order. When all of them are
written and visible, an index has for every identifier the document of the last item with it, among
the items of all entity types that live in the index: entity types that share an index also share
its identifiers. A search for the documents of an entity type finds those that an item of this type
was the last to write.

* `Session.Fills`: a run after which everything is written.
* `Session.finds_iff_last`: the main result.
* `Session.not_finds_iff_last_of_type`: two entity types that share an index.
-/

namespace EntitySearch

/-! ## Main result -/

theorem Session.entityType_resolver {session : Session} {schema : SchemaSource} {entity : String}
    {descriptor : Descriptor}
    (known : (session.resolver schema).descriptor entity = .ok descriptor) :
    descriptor.entityType = entity := by
  have registered : ∀ registry : Registry,
      registry.resolver.descriptor entity = .ok descriptor → descriptor.entityType = entity :=
    fun _ h => Registry.entityType_of_find? (Registry.descriptor_resolver.mp h)
  cases schema with
  | own registry => exact registered registry known
  | shared =>
    simp only [Session.resolver, Resolver.without] at known
    split at known
    · cases known
    · exact registered _ known

/-- A run in which a queue is used from its start on until all that it has accepted is written. The
engine is held in memory and has no documents at first, nobody else writes, and nothing goes wrong. -/
structure Session.Fills (session : Session) (number : Nat) (settings : QueueSettings)
    (schema : SchemaSource) (moments : List Moment) : Prop where
  hosted : session.queues[number]? = some (hostQueue settings schema .engine)
  unscripted : session.outcomes = []
  memory : ∃ engine, session.engine = some engine ∧ engine.faults.Harmless ∧
    ∀ name, (engine.index name).documents = [] ∧ (engine.index name).unrefreshed = []
  run : ∃ events, session.play? events = some moments
  calm : ∀ moment ∈ moments, moment.event ≠ .write number → moment.Calm True
  written : ∃ host, (session.last moments).queues[number]? = some host ∧
    host.queue.isDrained = true ∧ host.queue.pending.isEmpty = true

namespace Session

variable {session : Session} {number : Nat} {settings : QueueSettings} {schema : SchemaSource}
  {moments : List Moment}

/-- The engine has taken all items that were accepted. -/
theorem Fills.holds (fills : session.Fills number settings schema moments) :
    ∃ engine, (session.last moments).engine = some engine ∧ engine.faults.Harmless ∧
      engine.Holds ((Moment.acceptedIn moments number).filterMap
        (session.resolver schema).operation?) := by
  let host := hostQueue settings schema .engine
  let place : Place := ⟨number, host.writer, schema, session.resolver schema⟩
  obtain ⟨engine, memory, harmless, empty⟩ := fills.memory
  obtain ⟨events, run⟩ := fills.run
  have begun : place.Filled engine session host engine [] :=
    .start ⟨fills.hosted, memory, fills.unscripted, rfl, rfl, rfl, rfl⟩
      (.inr fun name => (empty name).2) harmless
  obtain ⟨own, engine', filled⟩ := begun.run run fills.calm
  obtain ⟨own', hq, drained, nothing⟩ := fills.written
  rw [filled.hosts.queue] at hq
  cases hq
  simp only [Queue.isDrained, filled.sound.writer, Bool.false_or, Bool.and_eq_true,
    List.isEmpty_iff, Option.isNone_iff_eq_none] at drained
  rw [Batcher.isEmpty, List.isEmpty_iff] at nothing
  obtain ⟨took, -, harmless'⟩ := filled.rested fun job hw => by
    rw [drained.2] at hw
    cases hw
  refine ⟨engine', filled.hosts.engine, harmless', ?_⟩
  have all := filled.contents
  rw [Queue.contents, drained.1, drained.2, nothing] at all
  simp only [Option.toList_none, Job.itemsOf, List.flatMap_nil, List.append_nil, List.nil_append]
    at all
  rw [Place.Took, Job.itemsOf, all] at took
  exact (MemoryEngine.Holds.empty empty).applied took

/-- An engine that has taken items, after a refresh of the indices written to. -/
theorem refresh_touched {resolver : Resolver} {items : List WorkItem} {engine : MemoryEngine}
    (held : engine.Holds (items.filterMap resolver.operation?))
    (harmless : engine.faults.Harmless) {touched : List String}
    (indices : (BulkPlan.ofItems resolver items).indices = touched) :
    ∃ after, engine.refresh touched = (after, .ok ()) ∧
      (∀ name ∈ touched, after.hasIndex name = true) ∧
      (∀ name id, after.document? name id =
        (resolver.lastIn? items name id).bind resolver.document?) ∧
      ∀ descriptor limit, items.length ≤ limit → ∀ id,
        after.Finds (.listing descriptor limit) id ↔
          ∃ document, after.document? descriptor.indexName id = some document ∧
            document.entityType = descriptor.entityType := by
  have mem_touched : ∀ {name}, name ∈ touched ↔
      ∃ operation ∈ items.filterMap resolver.operation?, operation.index = name := by
    intro name
    rw [← indices, BulkPlan.mem_indices, BulkPlan.operations_ofItems]
  have written : ∀ operation ∈ items.filterMap resolver.operation?, operation.index ∈ touched :=
    fun operation ho => mem_touched.mpr ⟨operation, ho, rfl⟩
  have present : ∀ name ∈ touched, engine.hasIndex name = true := by
    intro name hn
    obtain ⟨operation, ho, rfl⟩ := mem_touched.mp hn
    exact held.present operation ho
  have refreshed : engine.refresh touched = ((engine.refresh touched).1, .ok ()) :=
    Prod.ext rfl (MemoryEngine.refresh_ok harmless present)
  refine ⟨_, refreshed, fun name hn => ?_, fun name id => ?_, fun descriptor limit room id => ?_⟩
  · exact (MemoryEngine.undisturbed_refresh engine touched).present name (present name hn)
  · rw [held.document? written refreshed, Resolver.lastAt?_operations, Option.bind_assoc]
    rfl
  · exact held.finds_listing written refreshed
      (Nat.le_trans (List.length_filterMap_le _ _) room) id

/-- **The last write counts.** When all that a queue has accepted is written, and the indices written
to are refreshed, an index has for every identifier the document of the last item with it among the
items of all entity types that live in the index. A search for every document of an entity type finds
an identifier exactly if that item writes a document of this type. -/
theorem finds_iff_last (fills : session.Fills number settings schema moments) {entity : String}
    {descriptor : Descriptor}
    (known : (session.resolver schema).descriptor entity = .ok descriptor) {limit : Nat}
    (room : (Moment.acceptedIn moments number).length ≤ limit) :
    let resolver := session.resolver schema
    let items := Moment.acceptedIn moments number
    let touched := (BulkPlan.ofItems resolver items).indices
    ∃ engine after request, (session.last moments).engine = some engine ∧
      engine.refresh touched = (after, .ok ()) ∧
      (Search.listing entity).request resolver limit = .ok request ∧
      (descriptor.indexName ∈ touched → ∃ response, after.search? request = some (.ok response)) ∧
      ∀ id,
        after.document? descriptor.indexName id =
            (resolver.lastIn? items descriptor.indexName id).bind resolver.document? ∧
          (after.Finds request id ↔
            ∃ item, resolver.lastIn? items descriptor.indexName id = some item ∧
              item.kind = .add ∧ item.entityType = entity) := by
  intro resolver items touched
  obtain ⟨engine, memory, harmless, held⟩ := fills.holds
  obtain ⟨after, refreshed, present, documents, found⟩ :=
    @refresh_touched resolver items engine held harmless touched rfl
  have named : descriptor.entityType = entity := entityType_resolver known
  subst named
  refine ⟨engine, after, .listing descriptor limit, memory, refreshed,
    Search.request_listing known limit, fun hn => MemoryEngine.search?_listing (present _ hn),
    fun id => ⟨documents _ id, ?_⟩⟩
  rw [found descriptor limit room, documents]
  constructor
  · rintro ⟨document, hd, ht⟩
    obtain ⟨item, hl, hd⟩ := Option.bind_eq_some_iff.mp hd
    obtain ⟨own, hk, add, rfl⟩ := Resolver.document?_eq_some hd
    exact ⟨item, hl, add, (entityType_resolver hk).symm.trans ht⟩
  · rintro ⟨item, hl, add, ht⟩
    rw [hl]
    exact ⟨_, Resolver.document?_add (ht ▸ known) add, rfl⟩

end Session

/-! ## Two entity types that share an index -/

/-- The last item of an entity type with an identifier. -/
def WorkItem.lastOf? (items : List WorkItem) (entity id : String) : Option WorkItem :=
  (items.filter fun item => item.entityType = entity && item.id = id).getLast?

namespace Session

/-- The entity types `A` and `B` live in the default index. -/
def sharedSchema : SchemaDeclaration where
  entities :=
    [{ name := "A", idField := some "id" }, { name := "B", idField := some "id" },
      { name := "C", index := some "other", idField := some "id" }]

/-- The descriptors of the schema. -/
def sharedRegistry : Registry :=
  .registerAll {} [⟨"A", "main", "id", .numeric, []⟩, ⟨"B", "main", "id", .numeric, []⟩,
    ⟨"C", "other", "id", .numeric, []⟩]

/-- A session with a queue. The engine makes writes wait for a refresh. -/
def sharedSession : Session where
  engine := some { postpones := true }
  queues := [hostQueue {} (.own sharedRegistry) .engine]

/-- An entity of `B` gets the identifier of one of `A`, and one of `C` that of another. -/
def sharedItems : List WorkItem := [.add "A" "1", .add "A" "2", .add "B" "1", .add "C" "2"]

/-- The items are handed over and written. -/
def sharedRun : List SessionEvent :=
  sharedItems.map (fun item => .request (.queue 0 (.perform (.enqueue item)))) ++
    [.request (.queue 0 (.perform .flush)), .start 0] ++ List.replicate 4 (.write 0) ++ [.finish 0]

theorem sharedRun_isSome : (sharedSession.play? sharedRun).isSome = true := rfl

/-- The moments of the run. -/
def sharedMoments : List Moment := (sharedSession.play? sharedRun).get sharedRun_isSome

theorem sharedFills : sharedSession.Fills 0 {} (.own sharedRegistry) sharedMoments where
  hosted := rfl
  unscripted := rfl
  memory := ⟨_, rfl, ⟨rfl, rfl, rfl, rfl⟩, fun _ => ⟨rfl, rfl⟩⟩
  run := ⟨sharedRun, (Option.some_get _).symm⟩
  calm := calm_of_play (Option.some_get sharedRun_isSome).symm (by decide)
  written := ⟨_, rfl, rfl, rfl⟩

/-- The entity of `B` has taken the place of the one of `A`; the one of `C` has not. -/
theorem finds_iff_last_shared :
    sharedSchema.resolve "main" = .ok sharedRegistry ∧
      ∃ engine after request, (sharedSession.last sharedMoments).engine = some engine ∧
        engine.refresh ["main", "other"] = (after, .ok ()) ∧
        (Search.listing "A").request sharedRegistry.resolver 10 = .ok request ∧
        ¬ after.Finds request "1" ∧ after.Finds request "2" := by
  obtain ⟨engine, after, request, memory, refreshed, asked, -, found⟩ :=
    @finds_iff_last sharedSession 0 {} (.own sharedRegistry) sharedMoments sharedFills "A"
      ⟨"A", "main", "id", .numeric, []⟩ rfl 10 (by decide)
  refine ⟨rfl, engine, after, request, memory, refreshed, asked, fun hf => ?_, ?_⟩
  · obtain ⟨item, last, -, other⟩ := (found "1").2.mp hf
    cases last
    exact absurd other (by decide)
  · exact (found "2").2.mpr ⟨.add "A" "2", rfl, rfl, rfl⟩

/-- An entity that was written last among those of its type need not be found: an entity of another
type that shares the index may have taken its place. -/
theorem not_finds_iff_last_of_type :
    ¬ ∀ (session : Session) (number : Nat) (settings : QueueSettings) (schema : SchemaSource)
        (moments : List Moment), session.Fills number settings schema moments →
      ∀ (engine after : MemoryEngine) (request : SearchRequest) (entity : String) (limit : Nat),
        (Moment.acceptedIn moments number).length ≤ limit →
        (session.last moments).engine = some engine →
        engine.refresh (BulkPlan.ofItems (session.resolver schema)
          (Moment.acceptedIn moments number)).indices = (after, .ok ()) →
        (Search.listing entity).request (session.resolver schema) limit = .ok request →
        ∀ id, after.Finds request id ↔
          ∃ item, WorkItem.lastOf? (Moment.acceptedIn moments number) entity id = some item ∧
            item.kind = .add := by
  intro claim
  have found := (claim sharedSession 0 {} (.own sharedRegistry) sharedMoments sharedFills _ _ _ "A" 10
    (by decide) rfl rfl rfl "1").mpr ⟨.add "A" "1", rfl, rfl⟩
  obtain ⟨response, answered, hit, hm, hid⟩ := found
  cases answered
  cases hm with
  | head => exact absurd hid (by decide)
  | tail _ hm => cases hm

end Session

end EntitySearch
