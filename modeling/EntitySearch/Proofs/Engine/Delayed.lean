import EntitySearch.Proofs.Engine.Replies

/-!
# Writes that wait are only delayed

An engine that postpones writes until a refresh is compared with one that makes every write visible
at once. The second is at any time what the first is after all of its indices have been refreshed
(`MemoryEngine.atOnce`), and every request keeps this: a postponed write that becomes visible later
does to an index what it would have done at once, because writes become visible in their order.

* `MemoryEngine.atOnce`: the engine that makes writes visible at once, read off one that may not.
* `MemoryEngine.handle_atOnce`: a request does the same to both, and all answers but those to
  searches are the same; `MemoryEngine.play_atOnce` for any number of them.
* `MemoryEngine.DelayedOnly`: what this means for their indices, documents and searches.
* `postponing_delays_only`: it holds at any time, if both start out empty.
-/

namespace EntitySearch

/-! ## Indices -/

namespace MemoryIndex

theorem refresh_postpone (index : MemoryIndex) (operation : Operation) :
    (index.postpone operation).refresh = index.refresh.apply operation := by
  simp only [refresh, postpone, apply, List.foldl_append, List.foldl_cons, List.foldl_nil]

theorem refresh_of_nil {index : MemoryIndex} (h : index.unrefreshed = []) :
    index.refresh = index := by
  obtain ⟨mapping, documents, unrefreshed⟩ := index
  cases h
  rfl

end MemoryIndex

namespace Indices

/-- All indices after a refresh. -/
def refreshed (indices : Indices) : Indices :=
  indices.map fun (name, index) => (name, index.refresh)

theorem find?_refreshed (indices : Indices) (name : String) :
    indices.refreshed.find? name = (indices.find? name).map (·.refresh) := by
  induction indices with
  | nil => rfl
  | cons entry rest ih =>
    obtain ⟨key, index⟩ := entry
    rw [refreshed, List.map_cons, find?, find?]
    by_cases h : key = name
    · rw [if_pos h, if_pos h]
      rfl
    · rw [if_neg h, if_neg h]
      exact ih

theorem refreshed_set (indices : Indices) (name : String) (index : MemoryIndex) :
    refreshed (indices.set name index) = indices.refreshed.set name index.refresh := by
  induction indices with
  | nil => rfl
  | cons entry rest ih =>
    obtain ⟨key, old⟩ := entry
    change _ = if key = name then _ else _
    rw [set]
    split
    · rfl
    · exact congrArg _ ih

theorem refreshed_erase (indices : Indices) (name : String) :
    refreshed (indices.erase name) = indices.refreshed.erase name := by
  unfold erase refreshed
  rw [List.filter_map]
  rfl

theorem names_refreshed (indices : Indices) :
    indices.refreshed.map (·.1) = indices.map (·.1) := by
  rw [refreshed, List.map_map]
  rfl

end Indices

namespace MemoryEngine

/-! ## The engine that does not postpone -/

/-- The engine that made every write visible at once, if this one may have postponed some. -/
def atOnce (engine : MemoryEngine) : MemoryEngine :=
  { engine with postpones := false, indices := engine.indices.refreshed }

theorem find?_atOnce (engine : MemoryEngine) (name : String) :
    engine.atOnce.indices.find? name = (engine.indices.find? name).map (·.refresh) :=
  Indices.find?_refreshed _ _

theorem index_atOnce (engine : MemoryEngine) (name : String) :
    engine.atOnce.index name = (engine.index name).refresh := by
  rw [index, find?_atOnce, index]
  cases engine.indices.find? name <;> rfl

theorem hasIndex_atOnce (engine : MemoryEngine) (name : String) :
    engine.atOnce.hasIndex name = engine.hasIndex name := by
  rw [hasIndex, find?_atOnce, Option.isSome_map, hasIndex]

theorem atOnce_set (engine : MemoryEngine) (name : String) (index : MemoryIndex) :
    { engine with indices := engine.indices.set name index }.atOnce =
      { engine.atOnce with indices := engine.atOnce.indices.set name index.refresh } := by
  simp only [atOnce, Indices.refreshed_set]

/-! ## Requests -/

theorem write_atOnce {engine : MemoryEngine} (h : engine.postpones = true)
    (operation : Operation) :
    engine.atOnce.write operation = (engine.write operation).atOnce := by
  rw [write, write, if_pos h, atOnce_set, MemoryIndex.refresh_postpone]
  congr 2
  exact congrArg (·.apply operation) (index_atOnce engine operation.index)

theorem writeAll_atOnce (operations : List Operation) :
    ∀ (position : Nat) {engine : MemoryEngine}, engine.postpones = true →
      writeAll position engine.atOnce operations =
        (writeAll position engine operations).map atOnce id := by
  induction operations with
  | nil => exact fun _ _ _ => rfl
  | cons operation rest ih =>
    intro position engine h
    rw [writeAll, writeAll]
    change (if engine.faults.rejected.contains operation.id then _ else _) = _
    split
    · rw [ih _ h]
      rfl
    · rw [write_atOnce h]
      exact ih _ h

theorem bulk_atOnce {engine : MemoryEngine} (h : engine.postpones = true) (delay : Duration)
    (operations : List Operation) :
    engine.atOnce.bulk delay operations = (engine.bulk delay operations).map atOnce id := by
  have faults : engine.atOnce.faults = engine.faults := rfl
  rw [bulk, bulk, faults]
  rcases Outage.take engine.faults.bulkOutage with ⟨_ | error, outage⟩
  · dsimp only
    rw [writeAll_atOnce operations 0 h]
    rfl
  · rfl

theorem refreshAll_atOnce (names : List String) (engine : MemoryEngine) :
    refreshAll engine.atOnce names = (refreshAll engine names).map atOnce id := by
  induction names generalizing engine with
  | nil => rfl
  | cons name rest ih =>
    rw [refreshAll, refreshAll, find?_atOnce]
    cases engine.indices.find? name with
    | none => rfl
    | some index =>
      dsimp only [Option.map_some]
      rw [← atOnce_set, ih]

theorem refresh_atOnce (engine : MemoryEngine) (names : List String) :
    engine.atOnce.refresh names = (engine.refresh names).map atOnce id := by
  have faults : engine.atOnce.faults = engine.faults := rfl
  rw [refresh, refresh, faults]
  rcases Outage.take engine.faults.refreshOutage with ⟨_ | error, outage⟩
  · exact refreshAll_atOnce names engine
  · rfl

theorem createIndex_atOnce (engine : MemoryEngine) (name : String) (mapping : Json) :
    engine.atOnce.createIndex name mapping = (engine.createIndex name mapping).map atOnce id := by
  rw [createIndex, createIndex, hasIndex_atOnce]
  split
  · rfl
  · rw [Prod.map_apply, atOnce_set]
    rfl

theorem deleteIndex_atOnce (engine : MemoryEngine) (name : String) :
    engine.atOnce.deleteIndex name = (engine.deleteIndex name).map atOnce id := by
  rw [deleteIndex, deleteIndex, hasIndex_atOnce]
  split
  · simp only [Prod.map_apply, atOnce, Indices.refreshed_erase, id_eq]
  · rfl

theorem answer?_atOnce {engine : MemoryEngine} (h : engine.postpones = true) (delay : Duration)
    (call : Call) :
    (engine.atOnce.answer? delay call).1 = (engine.answer? delay call).1.atOnce ∧
      (call.method ≠ .search →
        (engine.atOnce.answer? delay call).2 = (engine.answer? delay call).2) := by
  cases call with
  | bulk operations =>
    rw [answer?, bulk_atOnce h]
    exact ⟨rfl, fun _ => rfl⟩
  | refresh names =>
    rw [answer?, refresh_atOnce]
    exact ⟨rfl, fun _ => rfl⟩
  | indexExists name =>
    rw [answer?, hasIndex_atOnce]
    exact ⟨rfl, fun _ => rfl⟩
  | createIndex name mapping =>
    rw [answer?, createIndex_atOnce]
    exact ⟨rfl, fun _ => rfl⟩
  | deleteIndex name =>
    rw [answer?, deleteIndex_atOnce]
    exact ⟨rfl, fun _ => rfl⟩
  | health name status limit => exact ⟨rfl, fun _ => rfl⟩
  | search request => exact ⟨rfl, fun hs => absurd rfl hs⟩

theorem postpones_handle (engine : MemoryEngine) (call : Call) :
    (engine.handle call).1.postpones = engine.postpones :=
  postpones_answer? (engine.record call) _ call

/-- **One request.** It does the same to both engines, and the answers are the same unless it is a
search. -/
theorem handle_atOnce {engine : MemoryEngine} (h : engine.postpones = true) (call : Call) :
    (engine.atOnce.handle call).1 = (engine.handle call).1.atOnce ∧
      (call.method ≠ .search → (engine.atOnce.handle call).2 = (engine.handle call).2) := by
  have recorded : (engine.record call).postpones = true := h
  exact answer?_atOnce recorded (engine.delay call) call

end MemoryEngine

/-! ## Sequences of requests -/

/-- What happens to an engine. -/
inductive EngineEvent where
  | call (call : Call)
  /-- From now on, other things are to go wrong: requests fail, or documents are rejected. -/
  | inject (faults : Faults)

namespace MemoryEngine

/-- The engine after an event. -/
def after (engine : MemoryEngine) : EngineEvent → MemoryEngine
  | .call call => (engine.handle call).1
  | .inject faults => { engine with faults }

/-- The engine after some events. -/
def play (engine : MemoryEngine) (events : List EngineEvent) : MemoryEngine :=
  events.foldl after engine

/-- What is answered at an event, except to a search. -/
def answer (engine : MemoryEngine) : EngineEvent → List Answer
  | .call call =>
    if call.method = .search then [] else ((engine.handle call).2.map (Answer.mk call)).toList
  | .inject _ => []

/-- What is answered at some events, except to searches. -/
def answers : MemoryEngine → List EngineEvent → List Answer
  | _, [] => []
  | engine, event :: rest => engine.answer event ++ (engine.after event).answers rest

theorem postpones_after (engine : MemoryEngine) (event : EngineEvent) :
    (engine.after event).postpones = engine.postpones := by
  cases event with
  | call call => exact postpones_handle engine call
  | inject faults => rfl

theorem after_atOnce {engine : MemoryEngine} (h : engine.postpones = true) (event : EngineEvent) :
    engine.atOnce.after event = (engine.after event).atOnce ∧
      engine.atOnce.answer event = engine.answer event := by
  cases event with
  | inject faults => exact ⟨rfl, rfl⟩
  | call call =>
    obtain ⟨he, ho⟩ := handle_atOnce h call
    refine ⟨he, ?_⟩
    by_cases hs : call.method = .search
    · simp only [answer, if_pos hs]
    · simp only [answer, if_neg hs, ho hs]

/-- **Any number of requests** does the same to both engines. -/
theorem play_atOnce (events : List EngineEvent) : ∀ {engine : MemoryEngine},
    engine.postpones = true →
      engine.atOnce.play events = (engine.play events).atOnce ∧
        engine.atOnce.answers events = engine.answers events := by
  induction events with
  | nil => exact fun _ => ⟨rfl, rfl⟩
  | cons event rest ih =>
    intro engine h
    obtain ⟨he, hr⟩ := after_atOnce h event
    obtain ⟨hes, hrs⟩ := ih ((postpones_after engine event).trans h)
    refine ⟨?_, ?_⟩
    · rw [play, List.foldl_cons, he]
      exact hes
    · rw [answers, he, hr, hrs]
      rfl

/-! ## What is the same -/

/-- Whether one engine is only later than another at making writes visible. -/
structure DelayedOnly (waiting prompt : MemoryEngine) : Prop where
  /-- They have the same indices, created in the same order. -/
  names : waiting.indices.map (·.1) = prompt.indices.map (·.1)
  present : ∀ name, waiting.hasIndex name = prompt.hasIndex name
  /-- The writes that wait, applied in their order, lead to the same documents in the same order. -/
  documents : ∀ name, (waiting.index name).unrefreshed.foldl MemoryIndex.applyTo
    (waiting.documents name) = prompt.documents name
  /-- A refresh succeeds for both or for none; if it does, they find the same in the indices that it
  names. -/
  searches : ∀ names, (waiting.refresh names).2 = (prompt.refresh names).2 ∧
    ((waiting.refresh names).2 = .ok () → ∀ request : SearchRequest, request.index ∈ names →
      (waiting.refresh names).1.search? request = (prompt.refresh names).1.search? request)

theorem search?_atOnce {engine : MemoryEngine} {request : SearchRequest}
    (h : (engine.index request.index).unrefreshed = []) :
    engine.atOnce.search? request = engine.search? request := by
  rw [search?, search?, find?_atOnce]
  cases hf : engine.indices.find? request.index with
  | none => rfl
  | some index =>
    rw [index_of_find hf] at h
    rw [Option.map_some, MemoryIndex.refresh_of_nil h]
    rfl

theorem delayedOnly_atOnce (engine : MemoryEngine) : DelayedOnly engine engine.atOnce where
  names := (Indices.names_refreshed _).symm
  present name := (hasIndex_atOnce engine name).symm
  documents name := by
    rw [documents_eq, documents_eq, index_atOnce]
    rfl
  searches names := by
    rw [refresh_atOnce]
    refine ⟨rfl, fun hok request hr => ?_⟩
    have refreshed := refresh_visible (Prod.ext rfl hok) request.index hr
    exact (search?_atOnce refreshed).symm

end MemoryEngine

/-- **To postpone writes until a refresh delays them and does nothing else.** Whatever two engines
are asked, of which one postpones writes and the other does not, and whatever goes wrong: they answer
alike (searches aside), have the same indices at any time, and those of the first hold, once the
writes that wait are applied in their order, the documents of the second. After a refresh that
succeeds, they also answer searches alike. -/
theorem postponing_delays_only (events : List EngineEvent) :
    MemoryEngine.answers { postpones := true } events = MemoryEngine.answers {} events ∧
      MemoryEngine.DelayedOnly (MemoryEngine.play { postpones := true } events)
        (MemoryEngine.play {} events) := by
  have postpones : ({ postpones := true } : MemoryEngine).postpones = true := rfl
  obtain ⟨he, hr⟩ := MemoryEngine.play_atOnce events postpones
  refine ⟨hr.symm, ?_⟩
  have same : MemoryEngine.play {} events =
      (MemoryEngine.play { postpones := true } events).atOnce := he
  rw [same]
  exact MemoryEngine.delayedOnly_atOnce _

end EntitySearch
