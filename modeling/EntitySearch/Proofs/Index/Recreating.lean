import EntitySearch.Proofs.Index.Usable
import EntitySearch.Proofs.Procedure.Retrying
import EntitySearch.Proofs.Schema.History

/-!
# Every index is recreated once

Several entity types may live in one index. When all indices are recreated, an index is removed and
created again when the first of its entity types has its turn, at once with the mapping of all of them,
and the others leave it alone. So every index is recreated exactly once, whatever was in it and whatever
the manager took it for, as long as the engine does what it is asked to do and every entity type has a
descriptor.

* `Resolver.indices`: the indices of all entity types; `Resolver.layout`: their mappings.
* `ReadyTable.remade`: the guards after an index was forgotten and set up again.
* `MemoryEngine.recreated`: an engine after an index was removed and created again.
* `ManagedEngine.prompt`: a manager whose engine answers in no time.
* `ManagedEngine.leads_recreate`, `ManagedEngine.leads_recreateEach`: one index, and one after another.
* `ManagedEngine.recreates_once`: the main result.
* `ManagedEngine.not_always_recreated`: an entity type that has lost its descriptor.
-/

namespace EntitySearch

/-! ## The indices of a schema -/

namespace Resolver

variable {resolver : Resolver}

/-- Whether every entity type has a descriptor. -/
def Describes (resolver : Resolver) : Prop :=
  ∀ entity ∈ resolver.entityTypes, ∃ descriptor, resolver.descriptor entity = .ok descriptor

/-- The index of every entity type that has one. -/
def indicesOf (resolver : Resolver) (entities : List String) : List String :=
  entities.filterMap fun entity => (resolver.indexName entity).toOption

/-- The indices of all entity types, in the order in which they appear first. -/
def indices (resolver : Resolver) : List String :=
  (resolver.indicesOf resolver.entityTypes).eraseDups

/-- The mapping of an index, for all its entity types. -/
def layout (resolver : Resolver) (index : String) : Json :=
  (mergedMapping resolver index).toOption.getD .null

theorem nodup_indices (resolver : Resolver) : resolver.indices.Nodup := nodup_eraseDups _

theorem exists_mergeTypes (index : String) {entities : List String}
    (described : ∀ entity ∈ entities, ∃ descriptor, resolver.descriptor entity = .ok descriptor) :
    ∀ properties types, ∃ merged,
      mergeTypes resolver index properties types entities = .ok merged := by
  induction entities with
  | nil => exact fun properties types => ⟨(properties, types), rfl⟩
  | cons entity rest ih =>
    intro properties types
    obtain ⟨descriptor, found⟩ := described entity List.mem_cons_self
    have rest_described := ih fun other ho => described other (List.mem_cons_of_mem _ ho)
    simp only [mergeTypes, found]
    split
    · exact rest_described _ _
    · exact rest_described _ _

theorem Describes.mergedMapping_eq (described : resolver.Describes) (index : String) :
    mergedMapping resolver index = .ok (resolver.layout index) := by
  obtain ⟨⟨properties, types⟩, merged⟩ := exists_mergeTypes index described [] []
  rw [layout, mergedMapping, merged]
  rfl

theorem describes_registry (registry : Registry) : registry.resolver.Describes := by
  intro entity listed
  obtain ⟨descriptor, found⟩ := Option.isSome_iff_exists.mp (Registry.isSome_find?_iff.mpr listed)
  exact ⟨descriptor, Registry.descriptor_resolver.mpr found⟩

theorem Describes.exists_indexName (described : resolver.Describes) {entity : String}
    (h : entity ∈ resolver.entityTypes) : ∃ index, resolver.indexName entity = .ok index := by
  obtain ⟨descriptor, found⟩ := described entity h
  exact ⟨descriptor.indexName, by rw [indexName, found]; rfl⟩

end Resolver

/-! ## Guards -/

namespace ReadyTable

variable {table : ReadyTable} {index name : String}

/-- The guards after an index was forgotten and set up again. -/
def remade (table : ReadyTable) (index : String) : ReadyTable :=
  (table.forget index).tried index true

theorem number?_forget_self (table : ReadyTable) (index : String) :
    (table.forget index).number? index = none := by
  rw [number?_forget, if_pos rfl]

/-- The guards while somebody is setting an index up. -/
def entering (table : ReadyTable) (index : String) : ReadyTable :=
  { (table.guardOf index).2 with
    guards := (table.guardOf index).2.guards.set (table.guardOf index).1 .entered }

theorem enter?_guardOf (fresh : table.number? index = none) :
    (table.guardOf index).2.enter? (table.guardOf index).1 = some (false, table.entering index) := by
  rw [entering, guardOf_of_none fresh, enter?, List.getElem?_concat_length]

theorem leave_entering (table : ReadyTable) (index : String) (success : Bool) :
    (table.entering index).leave (table.guardOf index).1 success = table.tried index success :=
  leave_entered _ _ _

theorem remade_eq (table : ReadyTable) (index : String) :
    table.remade index =
      ⟨table.guards ++ [.ready], (table.forget index).numbers ++ [(index, table.guards.length)]⟩ := by
  rw [remade, tried, guardOf_of_none (number?_forget_self table index), leave]
  simp [forget]

theorem isKnown_remade (h : index = name ∨ table.isKnown name = true) :
    (table.remade index).isKnown name = true := by
  have numbers : number? ⟨table.guards ++ [.ready], (table.forget index).numbers⟩ name =
    if index = name then none else table.number? name := number?_forget table index name
  rw [remade_eq, isKnown, number?_append, number?_single, numbers]
  by_cases same : index = name
  · rw [if_pos same, if_pos same, Option.none_or]
    dsimp only
    rw [List.getElem?_concat_length]
    rfl
  · rw [if_neg same, if_neg same, Option.or_none]
    have known := h.resolve_left same
    rw [isKnown] at known
    split at known
    · next number _ =>
      dsimp only
      obtain ⟨bound, -⟩ := List.getElem?_eq_some_iff.mp (beq_iff_eq.mp known)
      rwa [List.getElem?_append_left bound]
    · cases known

end ReadyTable

/-! ## The engine -/

theorem Indices.erase_of_absent {indices : Indices} {name : String}
    (absent : indices.find? name = none) : indices.erase name = indices := by
  induction indices with
  | nil => rfl
  | cons entry rest ih =>
    obtain ⟨own, old⟩ := entry
    rw [find?] at absent
    split at absent
    · cases absent
    · next apart =>
      rw [erase, List.filter_cons, if_pos (decide_eq_true apart)]
      exact congrArg _ (ih absent)

/-- Indices after one of them was removed and created again. -/
def Indices.recreated (indices : Indices) (name : String) (mapping : Json) : Indices :=
  (indices.erase name).set name { mapping }

theorem Indices.find?_recreated (indices : Indices) (name : String) (mapping : Json)
    (key : String) : (indices.recreated name mapping).find? key =
      if name = key then some { mapping } else indices.find? key := by
  rw [recreated, find?_set, find?_erase]
  split <;> rfl

namespace MemoryEngine

variable {engine : MemoryEngine} {index : String}

/-- An engine that does with indices what it is asked to do. -/
structure Obliging (engine : MemoryEngine) : Prop where
  acknowledges : engine.faults.unacknowledged = false
  usable : HealthStatus.yellow ≤ engine.faults.health
  prompt : engine.faults.healthDelay = .zero

/-- The requests with which an index is recreated. -/
def recreating (index : String) (mapping : Json) (limit : Duration) : List Call :=
  [.deleteIndex index, .indexExists index, .createIndex index mapping, .health index .yellow limit]

theorem handle_deleteIndex (engine : MemoryEngine) (index : String) :
    engine.handle (.deleteIndex index) =
      ({ engine with
          indices := engine.indices.erase index
          requests := engine.requests ++ [.deleteIndex index] },
        some (if engine.hasIndex index then .ok () else .error (.notFound index))) := by
  have deleted : engine.handle (.deleteIndex index) =
    ((engine.record (.deleteIndex index)).deleteIndex index).map id some := rfl
  have same : (engine.record (.deleteIndex index)).hasIndex index = engine.hasIndex index := rfl
  rw [deleted, deleteIndex, same]
  cases present : engine.hasIndex index with
  | true => rfl
  | false =>
    rw [Indices.erase_of_absent (Option.not_isSome_iff_eq_none.mp (Bool.eq_false_iff.mp present))]
    rfl

theorem handle_createIndex (obliging : engine.Obliging) (absent : engine.hasIndex index = false)
    (mapping : Json) :
    engine.handle (.createIndex index mapping) =
      ({ engine with
          indices := engine.indices.set index { mapping }
          requests := engine.requests ++ [.createIndex index mapping] },
        some (.ok (.created true))) := by
  have created : engine.handle (.createIndex index mapping) =
    ((engine.record (.createIndex index mapping)).createIndex index mapping).map id some := rfl
  have same : (engine.record (.createIndex index mapping)).hasIndex index = false := absent
  have acknowledges : (engine.record (.createIndex index mapping)).faults.unacknowledged = false :=
    obliging.acknowledges
  rw [created, createIndex, same, acknowledges]
  rfl

theorem handle_health (obliging : engine.Obliging) (index : String) (limit : Duration) :
    engine.handle (.health index .yellow limit) =
      (engine.record (.health index .yellow limit), some (.ok ⟨engine.faults.health, false⟩)) := by
  have late : decide (engine.faults.health < HealthStatus.yellow) = false :=
    decide_eq_false (Nat.not_lt.mpr obliging.usable)
  have answered : engine.handle (.health index .yellow limit) =
    (engine.record (.health index .yellow limit),
      some (.ok ⟨engine.faults.health, decide (engine.faults.health < HealthStatus.yellow)⟩)) := rfl
  rw [answered, late]

end MemoryEngine

/-! ## Requests -/

theorem Link.leads_retried {σ : Type} {service : Service Link σ} {state later : σ}
    (policy : RetryPolicy) (operation : String) {call : Call} {reply : call.Outcome}
    (answered : service.answers state (.call call) reply later)
    (final : ∀ error, reply = .error error → error.isRetryable = false) :
    (Link.retried policy operation call).Leads service state (some (Exhausted.after 1 reply))
      later := by
  rw [Link.retried, RetryPolicy.retry]
  cases policy.maxAttempts - 1 with
  | zero =>
    rw [RetryPolicy.retryFrom]
    refine .bind (.request answered) ?_
    cases reply with
    | ok answer => exact .done _ _
    | error error => exact .done _ _
  | succ left =>
    rw [RetryPolicy.retryFrom]
    refine .bind (.request answered) ?_
    cases reply with
    | ok answer => exact .done _ _
    | error error =>
      simp only [final error rfl, Bool.false_eq_true, if_false]
      exact .done _ _

namespace ManagedEngine

variable {admin : IndexAdmin} {resolver : Resolver} {state : ManagedEngine} {index : String}

/-- Whether a request is answered in no time. -/
def AtOnce (state : ManagedEngine) : Administering.Request → Prop
  | .inl (.inl (.call call)) | .inl (.inl (.callWithin _ call)) => state.engine.delay call = .zero
  | .inl (.inl (.wait delay)) => delay = .zero
  | _ => True

/-- Who answers a manager whose engine answers in no time. -/
def prompt (resolver : Resolver) : Service Administering ManagedEngine where
  answers state request reply later :=
    state.AtOnce request ∧ state.serve? resolver (.inl request) = some (reply, later)
  isLast := Administering.isLast
  halts {state request reply after} breaks h := by
    match request with
    | .inl (.inl .abandon) => cases h.2
    | .inl (.inl (.call _)) | .inl (.inl (.callWithin _ _)) | .inl (.inl (.wait _))
    | .inl (.inl (.record _)) | .inl (.inr _) | .inr _ => cases breaks

/-- Who answers while an index is set up. -/
abbrev preparing (resolver : Resolver) : Service Preparing ManagedEngine := (prompt resolver).left

/-- Who answers while a manager speaks to the engine. -/
abbrev linking (resolver : Resolver) : Service Link ManagedEngine := (preparing resolver).left

/-- Whether a state has come from another one, with new guards, with new indices in the engine, and
after some more requests to it. -/
structure Becomes (state : ManagedEngine) (table : ReadyTable) (indices : Indices)
    (requests : List Call) (later : ManagedEngine) : Prop where
  table : later.manager.table = table
  engine : later.engine =
    { state.engine with indices, requests := state.engine.requests ++ requests }

theorem Becomes.trans {between later : ManagedEngine} {table table' : ReadyTable}
    {indices indices' : Indices} {requests requests' : List Call}
    (h : state.Becomes table indices requests between)
    (h' : between.Becomes table' indices' requests' later) :
    state.Becomes table' indices' (requests ++ requests') later where
  table := h'.table
  engine := by rw [h'.engine, h.engine, List.append_assoc]

theorem Becomes.obliging {later : ManagedEngine} {table : ReadyTable} {indices : Indices}
    {requests : List Call} (h : state.Becomes table indices requests later)
    (obliging : state.engine.Obliging) : later.engine.Obliging := by
  rw [h.engine]
  exact ⟨obliging.acknowledges, obliging.usable, obliging.prompt⟩

/-- After a request that was answered, with new indices in the engine. -/
def told (state : ManagedEngine) (call : Call) (outcome : call.Outcome) (indices : Indices) :
    ManagedEngine where
  manager := state.manager.heard [⟨call, outcome⟩]
  engine := { state.engine with indices, requests := state.engine.requests ++ [call] }

theorem becomes_told (state : ManagedEngine) (call : Call) (outcome : call.Outcome)
    (indices : Indices) :
    state.Becomes state.manager.table indices [call] (state.told call outcome indices) := ⟨rfl, rfl⟩

variable (resolver) in
theorem answers_call {call : Call} {outcome : call.Outcome} {indices : Indices}
    (prompt : state.engine.delay call = .zero)
    (handled : state.engine.handle call = ((state.told call outcome indices).engine, some outcome)) :
    (linking resolver).answers state (.call call) outcome (state.told call outcome indices) := by
  refine ⟨prompt, ?_⟩
  change state.send? call = _
  rw [send?, handled]
  rfl

variable (resolver) in
theorem answers_callWithin (limit : Duration) {call : Call} {outcome : call.Outcome}
    {indices : Indices} (prompt : state.engine.delay call = .zero)
    (handled : state.engine.handle call = ((state.told call outcome indices).engine, some outcome)) :
    (linking resolver).answers state (.callWithin limit call) (some outcome)
      (state.told call outcome indices) := by
  refine ⟨prompt, ?_⟩
  change (state.send? call).map _ = _
  rw [send?, handled]
  rfl

variable (resolver) in
theorem leads_record (state : ManagedEngine) (measurement : Measurement) :
    (Link.record measurement).Leads (linking resolver) state (some ()) state :=
  .request ⟨trivial, rfl⟩

theorem leads_mapping (state : ManagedEngine) {mapping : Json}
    (merged : mergedMapping resolver index = .ok mapping) :
    (IndexAdmin.mapping index).Leads (preparing resolver) state (some (.ok mapping)) state := by
  have described : state.serve? resolver (.inl (.inl (.inr index))) =
    some (mergedMapping resolver index, state) := rfl
  rw [merged] at described
  exact .request ⟨trivial, described⟩

/-! ## One index -/

variable (resolver)

theorem leads_deleteIndex (admin : IndexAdmin) (state : ManagedEngine) (index : String) :
    ∃ later, (admin.deleteIndex index).Leads (linking resolver) state
        (some (.ok (state.engine.hasIndex index))) later ∧
      state.Becomes state.manager.table (state.engine.indices.erase index) [.deleteIndex index]
        later := by
  have handled := state.engine.handle_deleteIndex index
  cases present : state.engine.hasIndex index with
  | true =>
    rw [present, if_pos rfl] at handled
    have tried := Link.leads_retried admin.policy "delete_index" (answers_call resolver rfl handled)
      nofun
    exact ⟨_, .bind tried (.bind (leads_record resolver _ _) (.done _ _)), state.becomes_told _ _ _⟩
  | false =>
    rw [present, if_neg Bool.false_ne_true] at handled
    have final : ∀ error, (Except.error (.notFound index) : Outcome .deleteIndex) = .error error →
        error.isRetryable = false := by
      rintro _ ⟨⟩
      rfl
    have tried := Link.leads_retried admin.policy "delete_index" (answers_call resolver rfl handled)
      final
    exact ⟨_, .bind tried (.done _ _), state.becomes_told _ _ _⟩

theorem leads_awaitUsable (admin : IndexAdmin) (obliging : state.engine.Obliging) (index : String) :
    ∃ later, (admin.awaitUsable index).Leads (linking resolver) state (some (.ok ())) later ∧
      state.Becomes state.manager.table state.engine.indices
        [.health index .yellow admin.healthLimit] later := by
  have handled := MemoryEngine.handle_health obliging index admin.healthLimit
  have prompt : state.engine.delay (.health index .yellow admin.healthLimit) = .zero :=
    obliging.prompt
  have answered := answers_callWithin resolver admin.healthLimit prompt handled
  have usable : (!false && decide (HealthStatus.yellow ≤ state.engine.faults.health)) = true :=
    decide_eq_true obliging.usable
  refine ⟨_, .bind (.request answered) ?_,
    state.becomes_told (.health index .yellow admin.healthLimit)
      (.ok ⟨state.engine.faults.health, false⟩) _⟩
  refine .bind (leads_record resolver _ _) ?_
  dsimp only
  rw [usable]
  exact .done _ _

theorem leads_createWith (admin : IndexAdmin) (obliging : state.engine.Obliging)
    (absent : state.engine.hasIndex index = false) (mapping : Json) :
    ∃ later, (admin.createWith index mapping).Leads (linking resolver) state (some (.ok ())) later ∧
      state.Becomes state.manager.table (state.engine.indices.set index { mapping })
        [.createIndex index mapping, .health index .yellow admin.healthLimit] later := by
  have handled := MemoryEngine.handle_createIndex obliging absent mapping
  have tried := Link.leads_retried admin.policy "create_index" (answers_call resolver rfl handled)
    nofun
  have created := state.becomes_told (.createIndex index mapping) (.ok (.created true))
    (state.engine.indices.set index { mapping })
  obtain ⟨later, awaited, becomes⟩ :=
    leads_awaitUsable resolver admin (created.obliging obliging) index
  exact ⟨later, .bind tried (.bind (leads_record resolver _ _) awaited), created.trans becomes⟩

variable {resolver}

theorem leads_setUp (admin : IndexAdmin) {mapping : Json} (obliging : state.engine.Obliging)
    (merged : mergedMapping resolver index = .ok mapping)
    (absent : state.engine.hasIndex index = false) :
    ∃ later, (admin.setUp index).Leads (preparing resolver) state (some (.ok ())) later ∧
      state.Becomes state.manager.table (state.engine.indices.set index { mapping })
        [.indexExists index, .createIndex index mapping, .health index .yellow admin.healthLimit]
        later := by
  have handled : state.engine.handle (.indexExists index) =
    (state.engine.record (.indexExists index), some (.ok (state.engine.hasIndex index))) := rfl
  rw [absent] at handled
  have tried := Link.leads_retried admin.policy "index_exists" (answers_call resolver rfl handled)
    nofun
  have asked := state.becomes_told (.indexExists index) (.ok false) state.engine.indices
  obtain ⟨later, created, becomes⟩ :=
    leads_createWith resolver admin (asked.obliging obliging) absent mapping
  refine ⟨later, ?_, asked.trans becomes⟩
  exact .closing (.bind (.left tried) (.bind (leads_mapping _ merged) (.left created)))
    (.left (leads_record resolver _ _))

/-- With other guards. -/
def guarded (state : ManagedEngine) (table : ReadyTable) : ManagedEngine :=
  { state with manager := { state.manager with table } }

theorem leads_access {request : GuardRequest} {reply : Guarding.Reply request} {table : ReadyTable}
    (served : state.manager.table.serve? request = some (reply, table)) :
    (IndexAdmin.access request).Leads (prompt resolver) state (some reply)
      (state.guarded table) := by
  refine .request ⟨trivial, ?_⟩
  change (state.manager.table.serve? request).map _ = _
  rw [served]
  rfl

theorem leads_ensure (admin : IndexAdmin) {mapping : Json} (obliging : state.engine.Obliging)
    (merged : mergedMapping resolver index = .ok mapping)
    (fresh : state.manager.table.number? index = none)
    (absent : state.engine.hasIndex index = false) :
    ∃ later, (admin.ensure index).Leads (prompt resolver) state (some (.ok ())) later ∧
      state.Becomes (state.manager.table.tried index true)
        (state.engine.indices.set index { mapping })
        [.indexExists index, .createIndex index mapping, .health index .yellow admin.healthLimit]
        later := by
  have looks : state.manager.table.serve? (.guardOf index) =
    some ((state.manager.table.guardOf index).1, (state.manager.table.guardOf index).2) := rfl
  have enters := ReadyTable.enter?_guardOf fresh
  have inside : ((state.guarded (state.manager.table.guardOf index).2).guarded
    (state.manager.table.entering index)).engine.Obliging := obliging
  obtain ⟨later, setUp, becomes⟩ := leads_setUp admin inside merged absent
  have leaves : later.manager.table.serve? (.leave (state.manager.table.guardOf index).1 true) =
    some ((), state.manager.table.tried index true) := by
    rw [becomes.table]
    exact congrArg (fun table => some ((), table)) (ReadyTable.leave_entering _ _ _)
  exact ⟨_, .bind (leads_access looks) (.bind (leads_access enters)
    (.closing (.left setUp) (leads_access leaves))), ⟨rfl, becomes.engine⟩⟩

/-- An index is removed, whether or not it exists, and created again, whatever it was taken for. -/
theorem leads_recreate {entity : String} {mapping : Json} (obliging : state.engine.Obliging)
    (named : admin.resolver.indexName entity = .ok index)
    (merged : mergedMapping resolver index = .ok mapping) :
    ∃ later, (admin.recreate entity).Leads (prompt resolver) state (some (.ok ())) later ∧
      state.Becomes (state.manager.table.remade index)
        (state.engine.indices.recreated index mapping)
        (MemoryEngine.recreating index mapping admin.healthLimit) later := by
  have forgets : state.manager.table.serve? (.forget index) =
    some ((), state.manager.table.forget index) := rfl
  obtain ⟨between, deletes, gone⟩ := leads_deleteIndex resolver admin
    (state.guarded (state.manager.table.forget index)) index
  have gone : state.Becomes (state.manager.table.forget index)
    (state.engine.indices.erase index) [.deleteIndex index] between := ⟨gone.table, gone.engine⟩
  have deleted : (admin.delete entity).Leads (prompt resolver) state
      (some (.ok (state.engine.hasIndex index))) between := by
    rw [IndexAdmin.delete, named]
    exact .bind (leads_access forgets) (.left (.left deletes))
  have fresh : between.manager.table.number? index = none := by
    rw [gone.table, ReadyTable.number?_forget_self]
  have absent : between.engine.hasIndex index = false := by
    rw [gone.engine, MemoryEngine.hasIndex, Indices.find?_erase, if_pos rfl]
    rfl
  obtain ⟨later, ensures, made⟩ := leads_ensure admin (gone.obliging obliging) merged fresh absent
  have created : (admin.create entity).Leads (prompt resolver) between (some (.ok ())) later := by
    rw [IndexAdmin.create, named]
    exact ensures
  rw [gone.table, gone.engine] at made
  exact ⟨later, .closing (.bind deleted created) (.left (.left (leads_record resolver _ _))),
    gone.trans made⟩

/-! ## All indices -/

/-- After some indices were recreated, one after another. -/
def Recreated (state : ManagedEngine) (resolver : Resolver) (limit : Duration) (names : List String)
    (later : ManagedEngine) : Prop :=
  state.Becomes (names.foldl ReadyTable.remade state.manager.table)
    (names.foldl (fun indices name => indices.recreated name (resolver.layout name))
      state.engine.indices)
    (names.flatMap fun name => MemoryEngine.recreating name (resolver.layout name) limit) later

theorem Recreated.nil (state : ManagedEngine) (resolver : Resolver) (limit : Duration) :
    state.Recreated resolver limit [] state := ⟨rfl, by simp⟩

theorem Recreated.concat {between later : ManagedEngine} {limit : Duration} {names : List String}
    {name : String} (h : state.Recreated resolver limit names between)
    (h' : between.Becomes (between.manager.table.remade name)
      (between.engine.indices.recreated name (resolver.layout name))
      (MemoryEngine.recreating name (resolver.layout name) limit) later) :
    state.Recreated resolver limit (names ++ [name]) later := by
  rw [h.table, h.engine] at h'
  rw [Recreated, List.foldl_concat, List.foldl_concat, List.flatMap_append, List.flatMap_singleton]
  exact h.trans h'

/-- **Indices are recreated one after another**, each of them when it appears first. By induction on
the entity types: those whose index is finished already change nothing. -/
theorem leads_recreateEach (described : admin.resolver.Describes)
    (obliging : state.engine.Obliging) (entities : List String) :
    ∀ {finished : List String} {current : ManagedEngine},
      (∀ entity ∈ entities, ∃ index, admin.resolver.indexName entity = .ok index) →
        finished.eraseDups = finished →
          state.Recreated admin.resolver admin.healthLimit finished current →
            ∃ later, (admin.recreateEach finished entities).Leads (prompt admin.resolver) current
                (some (.ok ())) later ∧
              state.Recreated admin.resolver admin.healthLimit
                (finished ++ admin.resolver.indicesOf entities).eraseDups later := by
  induction entities with
  | nil =>
    intro finished current _ distinct recreated
    rw [Resolver.indicesOf, List.filterMap_nil, List.append_nil, distinct]
    exact ⟨current, .done _ _, recreated⟩
  | cons entity rest ih =>
    intro finished current named distinct recreated
    obtain ⟨index, ofFirst⟩ := named entity List.mem_cons_self
    have ofRest := fun other ho => named other (List.mem_cons_of_mem _ ho)
    have indices : admin.resolver.indicesOf (entity :: rest) =
      index :: admin.resolver.indicesOf rest := List.filterMap_cons_some (by rw [ofFirst]; rfl)
    rw [indices, IndexAdmin.recreateEach, ofFirst]
    dsimp only
    by_cases done : index ∈ finished
    · rw [if_pos (List.contains_iff_mem.mpr done), eraseDups_append_cons done]
      exact ih ofRest distinct recreated
    · rw [if_neg (mt List.contains_iff_mem.mp done),
        List.append_cons finished index (admin.resolver.indicesOf rest)]
      obtain ⟨between, recreates, becomes⟩ := leads_recreate (recreated.obliging obliging) ofFirst
        (described.mergedMapping_eq index)
      have distinct' : (finished ++ [index]).eraseDups = finished ++ [index] := by
        rw [eraseDups_concat, if_neg done, distinct]
      obtain ⟨later, others, all⟩ := ih ofRest distinct' (recreated.concat becomes)
      exact ⟨later, .bind recreates others, all⟩

/-! ## What becomes of the indices -/

theorem find?_foldl_recreated (layout : String → Json) (names : List String) (name : String) :
    ∀ indices : Indices,
      (names.foldl (fun indices name => indices.recreated name (layout name)) indices).find? name =
        if name ∈ names then some { mapping := layout name } else indices.find? name := by
  induction names with
  | nil => exact fun _ => rfl
  | cons first rest ih =>
    intro indices
    rw [List.foldl_cons, ih, Indices.find?_recreated]
    by_cases later : name ∈ rest
    · rw [if_pos later, if_pos (List.mem_cons_of_mem _ later)]
    · rw [if_neg later]
      by_cases same : first = name
      · subst same
        rw [if_pos rfl, if_pos List.mem_cons_self]
      · rw [if_neg same, if_neg]
        rintro (_ | ⟨_, rest⟩)
        · exact same rfl
        · exact later rest

theorem isKnown_foldl_remade (names : List String) (name : String) :
    ∀ {table : ReadyTable}, name ∈ names ∨ table.isKnown name = true →
      (names.foldl ReadyTable.remade table).isKnown name = true := by
  induction names with
  | nil => exact fun h => h.resolve_left List.not_mem_nil
  | cons first rest ih =>
    intro table h
    rw [List.foldl_cons]
    rcases h with (_ | ⟨_, later⟩) | known
    · exact ih (.inr (ReadyTable.isKnown_remade (.inl rfl)))
    · exact ih (.inl later)
    · exact ih (.inr (ReadyTable.isKnown_remade (.inr known)))

/-- What there is after all indices were recreated. -/
structure Renewed (state : ManagedEngine) (admin : IndexAdmin) (later : ManagedEngine) : Prop where
  /-- Every index was removed once and then created once, in the order in which the indices appear
  first. -/
  requests : later.engine.requests = state.engine.requests ++
    admin.resolver.indices.flatMap fun index =>
      [.deleteIndex index, .indexExists index, .createIndex index (admin.resolver.layout index),
        .health index .yellow admin.healthLimit]
  once : admin.resolver.indices.Nodup
  /-- Every index is empty, with the mapping of all its entity types. -/
  empty : ∀ index ∈ admin.resolver.indices,
    mergedMapping admin.resolver index = .ok (admin.resolver.layout index) ∧
      later.engine.indices.find? index =
        some ⟨admin.resolver.layout index, [], []⟩
  known : ∀ index ∈ admin.resolver.indices, later.manager.table.isKnown index = true
  /-- Every other index is what it was. -/
  others : ∀ name ∉ admin.resolver.indices,
    later.engine.indices.find? name = state.engine.indices.find? name

theorem leads_recreateAll (admin : IndexAdmin) (state : ManagedEngine)
    (described : admin.resolver.Describes) (obliging : state.engine.Obliging) :
    ∃ later, admin.recreateAll.Leads (prompt admin.resolver) state (some (.ok ())) later ∧
      state.Renewed admin later := by
  obtain ⟨later, leads, all⟩ := leads_recreateEach described obliging admin.resolver.entityTypes
    (fun _ => described.exists_indexName) rfl (.nil state admin.resolver admin.healthLimit)
  have recreated : state.Recreated admin.resolver admin.healthLimit admin.resolver.indices later :=
    all
  have found (name : String) : later.engine.indices.find? name =
      if name ∈ admin.resolver.indices then some { mapping := admin.resolver.layout name }
      else state.engine.indices.find? name := by
    rw [recreated.engine]
    exact find?_foldl_recreated _ _ _ _
  refine ⟨later, leads, ?_, admin.resolver.nodup_indices, ?_, ?_, ?_⟩
  · rw [recreated.engine]
    rfl
  · intro index covered
    exact ⟨described.mergedMapping_eq index, by rw [found, if_pos covered]⟩
  · intro index covered
    rw [recreated.table]
    exact isKnown_foldl_remade _ _ (.inl covered)
  · intro name apart
    rw [found, if_neg apart]

/-- Recreates all indices. -/
def recreateAll? (state : ManagedEngine) (admin : IndexAdmin) :
    Option (Except BridgeError Unit × ManagedEngine) :=
  admin.recreateAll.run (fun state request => state.serve? admin.resolver (.inl request)) state

/-- **Every index is recreated once**, whatever was in the engine and whatever the manager took for
ready. -/
theorem recreates_once (admin : IndexAdmin) (state : ManagedEngine)
    (described : admin.resolver.Describes) (obliging : state.engine.Obliging) :
    ∃ later, state.recreateAll? admin = some (.ok (), later) ∧ state.Renewed admin later := by
  obtain ⟨later, leads, renewed⟩ := leads_recreateAll admin state described obliging
  exact ⟨later, leads.to_run And.right, renewed⟩

/-- Two entity types share an index, and a third one has another. -/
def sharingAdmin : IndexAdmin where
  resolver := Registry.resolver (.registerAll {} [⟨"A", "one", "id", .numeric, []⟩,
    ⟨"C", "two", "id", .numeric, []⟩, ⟨"B", "one", "id", .numeric, [⟨"f", .text, true⟩]⟩])
  healthLimit := .ofMillis 500

/-- A manager that takes an index for ready and is setting up another one, and an engine with documents
and with writes that wait for a refresh. -/
def usedEngine : ManagedEngine where
  manager := { table := ⟨[.ready, .entered], [("one", 0), ("two", 1)]⟩ }
  engine := {
    postpones := true
    indices := [("one", ⟨.null, [⟨"1", "A", []⟩], [.remove "one" "A" "1"]⟩),
      ("other", ⟨.null, [⟨"1", "D", []⟩], []⟩)] }

theorem recreates_once_shared :
    sharingAdmin.resolver.Describes ∧ usedEngine.engine.Obliging ∧
      sharingAdmin.resolver.indices = ["one", "two"] ∧
      ∃ later, usedEngine.recreateAll? sharingAdmin = some (.ok (), later) ∧
        usedEngine.Renewed sharingAdmin later := by
  have described : sharingAdmin.resolver.Describes := Resolver.describes_registry _
  have obliging : usedEngine.engine.Obliging := ⟨rfl, by decide, rfl⟩
  exact ⟨described, obliging, rfl, recreates_once sharingAdmin usedEngine described obliging⟩

/-- An entity type that is listed but has no descriptor. -/
def lostAdmin : IndexAdmin := { soleAdmin with resolver := soleAdmin.resolver.without ["A"] }

/-- The indices are not recreated if an entity type has lost its descriptor. -/
theorem not_always_recreated : ¬ ∀ (admin : IndexAdmin) (state : ManagedEngine),
    state.engine.Obliging → ∃ later, state.recreateAll? admin = some (.ok (), later) := by
  intro all
  obtain ⟨later, recreated⟩ := all lostAdmin {} ⟨rfl, by decide, rfl⟩
  have failed : recreateAll? {} lostAdmin = some (.error (.schema (.unknownEntity "A")), {}) := rfl
  cases failed.symm.trans recreated

end ManagedEngine

end EntitySearch
