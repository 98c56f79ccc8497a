import EntitySearch.Proofs.Engine.Documents

/-!
# What an engine has taken

A write that waits for a refresh is not lost: the settled documents of an index are those that
searches see once all postponed writes are made visible. Bulk requests change them, in the order of
their writes; searches, refreshes and the creation of indices do not, and neither do these bring
back a write that waits.

* `MemoryIndex.settled`, `MemoryEngine.index`: the settled documents, and the index of a name.
* `MemoryEngine.Orderly`: an engine that does not postpone has no write that waits.
* `MemoryEngine.Undisturbed`: what requests other than bulk requests and the removal of an index
  leave as it is; `answer?_undisturbed`.
* `MemoryEngine.Applied`: what a bulk request does; `bulk_delivered`.
* `refresh_visible`: what a refresh does.
-/

namespace EntitySearch

/-- The documents that searches see after a refresh. -/
def MemoryIndex.settled (index : MemoryIndex) : List Document :=
  index.unrefreshed.foldl MemoryIndex.applyTo index.documents

/-- Whether nothing is to go wrong; answers may still take some time. -/
structure Faults.Harmless (faults : Faults) : Prop where
  bulk : faults.bulkOutage = none
  refresh : faults.refreshOutage = none
  rejected : faults.rejected = []
  shards : faults.shardFailure = none

/-- Whether a request may change what an engine has taken. -/
def Call.writes : Call → Bool
  | .bulk _ | .deleteIndex _ => true
  | _ => false

/-! ## Indices by name -/

theorem Indices.find?_set (indices : Indices) (name : String) (index : MemoryIndex)
    (key : String) :
    Indices.find? (indices.set name index) key =
      if name = key then some index else indices.find? key := by
  induction indices with
  | nil => rfl
  | cons entry rest ih =>
    obtain ⟨own, old⟩ := entry
    rw [Indices.set]
    by_cases ho : own = name
    · rw [if_pos ho, Indices.find?, Indices.find?, ho]
      by_cases h : name = key <;> simp [h]
    · rw [if_neg ho, Indices.find?, Indices.find?, ih]
      by_cases h : own = key
      · have hn : ¬ name = key := fun hk => ho (h.trans hk.symm)
        simp [h, hn]
      · simp [h]

namespace MemoryEngine

/-- The index of a name; one that is missing is empty. -/
def index (engine : MemoryEngine) (name : String) : MemoryIndex :=
  (engine.indices.find? name).getD {}

theorem index_set (engine : MemoryEngine) (name : String) (index : MemoryIndex) (key : String) :
    ({ engine with indices := engine.indices.set name index }).index key =
      if name = key then index else engine.index key := by
  rw [MemoryEngine.index, Indices.find?_set]
  split <;> rfl

theorem hasIndex_set {engine : MemoryEngine} (name : String) (index : MemoryIndex) (key : String)
    (h : name = key ∨ engine.hasIndex key = true) :
    ({ engine with indices := engine.indices.set name index }).hasIndex key = true := by
  rw [hasIndex, Indices.find?_set]
  by_cases hk : name = key
  · rw [if_pos hk]
    rfl
  · rw [if_neg hk]
    exact h.resolve_left hk

theorem documents_eq (engine : MemoryEngine) (name : String) :
    engine.documents name = (engine.index name).documents := by
  unfold documents MemoryEngine.index
  cases engine.indices.find? name <;> rfl

theorem document?_eq (engine : MemoryEngine) (name id : String) :
    engine.document? name id = MemoryIndex.lookup (engine.index name).documents id := by
  unfold document? MemoryEngine.index
  cases engine.indices.find? name <;> rfl

/-! ## What is left undisturbed -/

/-- Whether no write waits for a refresh unless the engine postpones writes. -/
def Orderly (engine : MemoryEngine) : Prop :=
  engine.postpones = true ∨ ∀ name, (engine.index name).unrefreshed = []

/-- Whether an engine has taken the same writes as before, none of them waits that did not wait
before, and no index is gone. -/
structure Undisturbed (before after : MemoryEngine) : Prop where
  postpones : after.postpones = before.postpones
  settled : ∀ name, (after.index name).settled = (before.index name).settled
  refreshed : ∀ name, (before.index name).unrefreshed = [] → (after.index name).unrefreshed = []
  present : ∀ name, before.hasIndex name = true → after.hasIndex name = true

namespace Undisturbed

variable {first second third : MemoryEngine}

theorem refl (engine : MemoryEngine) : Undisturbed engine engine :=
  ⟨rfl, fun _ => rfl, fun _ => id, fun _ => id⟩

theorem trans (h : Undisturbed first second) (h' : Undisturbed second third) :
    Undisturbed first third where
  postpones := h'.postpones.trans h.postpones
  settled name := (h'.settled name).trans (h.settled name)
  refreshed name := h'.refreshed name ∘ h.refreshed name
  present name := h'.present name ∘ h.present name

theorem of_indices (postpones : second.postpones = first.postpones)
    (indices : second.indices = first.indices) : Undisturbed first second := by
  have same : ∀ name, second.index name = first.index name := by
    intro name
    rw [index, index, indices]
  refine ⟨postpones, fun name => by rw [same], fun name h => by rw [same, h], fun name h => ?_⟩
  rw [hasIndex, indices]
  exact h

theorem orderly (h : Undisturbed first second) (ho : first.Orderly) : second.Orderly :=
  ho.imp (fun hp => h.postpones.trans hp) fun hn name => h.refreshed name (hn name)

end Undisturbed

theorem settled_of_nil {index : MemoryIndex} (h : index.unrefreshed = []) :
    index.settled = index.documents := by
  rw [MemoryIndex.settled, h, List.foldl_nil]

theorem undisturbed_set {engine : MemoryEngine} {name : String} {index : MemoryIndex}
    (settled : index.settled = (engine.index name).settled)
    (refreshed : (engine.index name).unrefreshed = [] → index.unrefreshed = []) :
    Undisturbed engine { engine with indices := engine.indices.set name index } := by
  refine ⟨rfl, fun key => ?_, fun key h => ?_, fun key => hasIndex_set _ _ _ ∘ .inr⟩
  · rw [index_set]
    split
    · next hk => rw [settled, hk]
    · rfl
  · rw [index_set]
    split
    · next hk => exact refreshed (by rw [hk, h])
    · exact h

theorem index_of_find {engine : MemoryEngine} {name : String} {index : MemoryIndex}
    (h : engine.indices.find? name = some index) : engine.index name = index := by
  rw [MemoryEngine.index, h]
  rfl

/-! ## Refreshes -/

theorem undisturbed_refresh_one {engine : MemoryEngine} {name : String} {index : MemoryIndex}
    (h : engine.indices.find? name = some index) :
    Undisturbed engine { engine with indices := engine.indices.set name index.refresh } := by
  refine undisturbed_set ?_ fun _ => rfl
  rw [index_of_find h]
  rfl

theorem undisturbed_refreshAll (names : List String) (engine : MemoryEngine) :
    Undisturbed engine (refreshAll engine names).1 := by
  induction names generalizing engine with
  | nil => exact .refl engine
  | cons name rest ih =>
    rw [refreshAll]
    cases hf : engine.indices.find? name with
    | none => exact .refl engine
    | some index => exact (undisturbed_refresh_one hf).trans (ih _)

theorem refreshAll_visible (names : List String) (engine : MemoryEngine)
    (h : (refreshAll engine names).2 = .ok ()) :
    ∀ name ∈ names, ((refreshAll engine names).1.index name).unrefreshed = [] := by
  induction names generalizing engine with
  | nil => nofun
  | cons first rest ih =>
    rw [refreshAll] at h ⊢
    cases hf : engine.indices.find? first with
    | none =>
      rw [hf] at h
      cases h
    | some index =>
      rw [hf] at h
      intro name hn
      rcases List.mem_cons.mp hn with rfl | hn
      · refine (undisturbed_refreshAll rest _).refreshed name ?_
        rw [index_set, if_pos rfl]
        rfl
      · exact ih _ h name hn

theorem refresh_cases (engine : MemoryEngine) (names : List String) :
    (∃ error outage, engine.faults.refreshOutage ≠ none ∧ engine.refresh names =
        ({ engine with faults := { engine.faults with refreshOutage := outage } },
          .error error)) ∨
      engine.refresh names = refreshAll engine names := by
  unfold refresh
  cases ho : engine.faults.refreshOutage with
  | none => exact .inr rfl
  | some outage =>
    obtain ⟨error, left⟩ := outage
    cases left with
    | zero => exact .inr rfl
    | succ left => exact .inl ⟨error, _, nofun, rfl⟩

theorem undisturbed_refresh (engine : MemoryEngine) (names : List String) :
    Undisturbed engine (engine.refresh names).1 := by
  rcases refresh_cases engine names with ⟨error, outage, -, h⟩ | h
  · rw [h]
    exact .of_indices rfl rfl
  · rw [h]
    exact undisturbed_refreshAll names engine

/-- **No write to an index waits after a refresh that succeeds.** -/
theorem refresh_visible {engine after : MemoryEngine} {names : List String}
    (h : engine.refresh names = (after, .ok ())) :
    ∀ name ∈ names, (after.index name).unrefreshed = [] := by
  rcases refresh_cases engine names with ⟨error, outage, -, hr⟩ | hr
  · rw [hr] at h
    cases h
  · rw [hr] at h
    have hv := refreshAll_visible names engine (by rw [h])
    rwa [h] at hv

theorem refreshAll_error (names : List String) (engine : MemoryEngine) {error : EngineError}
    (h : (refreshAll engine names).2 = .error error) : error.isRetryable = false := by
  induction names generalizing engine with
  | nil => cases h
  | cons name rest ih =>
    rw [refreshAll] at h
    cases hf : engine.indices.find? name with
    | none =>
      rw [hf] at h
      cases h
      rfl
    | some index =>
      rw [hf] at h
      exact ih _ h

theorem refresh_retryable {engine after : MemoryEngine} {names : List String} {error : EngineError}
    (h : engine.refresh names = (after, .error error)) (hr : error.isRetryable = true) :
    ¬ engine.faults.Harmless := by
  rcases refresh_cases engine names with ⟨_, _, ho, -⟩ | ha
  · exact fun hh => ho hh.refresh
  · rw [ha] at h
    have hn := refreshAll_error names engine (congrArg Prod.snd h)
    rw [hr] at hn
    cases hn

/-! ## Writes -/

/-- A postponed write is settled at once, and so is one that is made visible if no other waits. -/
theorem index_write (engine : MemoryEngine) (operation : Operation) (name : String) :
    (engine.write operation).index name =
      if operation.index = name then
        if engine.postpones then (engine.index name).postpone operation
        else (engine.index name).apply operation
      else engine.index name := by
  unfold write
  dsimp only
  rw [index_set]
  by_cases h : operation.index = name
  · rw [if_pos h, if_pos h, h]
    rfl
  · rw [if_neg h, if_neg h]

theorem orderly_write {engine : MemoryEngine} (h : engine.Orderly) (operation : Operation) :
    (engine.write operation).Orderly := by
  by_cases hp : engine.postpones = true
  · exact .inl hp
  · have hn := h.resolve_left hp
    refine .inr fun name => ?_
    rw [index_write, if_neg hp]
    split
    · exact hn name
    · exact hn name

theorem settled_write {engine : MemoryEngine} (h : engine.Orderly) (operation : Operation)
    (name : String) :
    ((engine.write operation).index name).settled =
      if operation.index = name then
        MemoryIndex.applyTo (engine.index name).settled operation
      else (engine.index name).settled := by
  rw [index_write]
  split
  swap
  · rfl
  split
  · rw [MemoryIndex.settled, MemoryIndex.postpone, List.foldl_append]
    rfl
  · next hp =>
    have hn := h.resolve_left hp name
    rw [settled_of_nil hn]
    exact settled_of_nil hn

theorem settled_foldl_write (operations : List Operation) : ∀ {engine : MemoryEngine},
    engine.Orderly → (operations.foldl write engine).Orderly ∧
      ∀ name, ((operations.foldl write engine).index name).settled =
        (operations.filter fun operation => operation.index = name).foldl MemoryIndex.applyTo
          (engine.index name).settled := by
  induction operations with
  | nil => exact fun h => ⟨h, fun _ => rfl⟩
  | cons operation rest ih =>
    intro engine h
    obtain ⟨ho, hs⟩ := ih (orderly_write h operation)
    refine ⟨ho, fun name => ?_⟩
    rw [List.foldl_cons, hs, settled_write h, List.filter_cons]
    by_cases hi : operation.index = name <;> simp [hi]

theorem hasIndex_foldl_write_iff (operations : List Operation) (name : String) :
    ∀ {engine : MemoryEngine}, (operations.foldl write engine).hasIndex name = true ↔
      engine.hasIndex name = true ∨ ∃ operation ∈ operations, operation.index = name := by
  induction operations with
  | nil => exact fun {_} => ⟨.inl, fun h => h.resolve_right nofun⟩
  | cons operation rest ih =>
    intro engine
    have written : (engine.write operation).hasIndex name = true ↔
        operation.index = name ∨ engine.hasIndex name = true := by
      unfold write
      rw [hasIndex, Indices.find?_set]
      by_cases own : operation.index = name
      · simp [own]
      · simp [own, hasIndex]
    rw [List.foldl_cons, ih, written, List.exists_mem_cons_iff, ← or_assoc]
    exact or_congr_left or_comm

theorem index_foldl_write (operations : List Operation) {name : String}
    (h : ∀ operation ∈ operations, operation.index ≠ name) (engine : MemoryEngine) :
    (operations.foldl write engine).index name = engine.index name := by
  induction operations generalizing engine with
  | nil => rfl
  | cons operation rest ih =>
    rw [List.foldl_cons, ih fun other ho => h other (List.mem_cons_of_mem _ ho), index_write,
      if_neg (h operation List.mem_cons_self)]

/-! ## Bulk requests -/

/-- Whether the writes of a request were applied, except those to documents that were refused. -/
structure Applied (operations : List Operation) (refused : List String)
    (before after : MemoryEngine) : Prop where
  settled : ∀ name, (after.index name).settled =
    (operations.filter fun operation =>
      !refused.contains operation.id && operation.index = name).foldl MemoryIndex.applyTo
        (before.index name).settled
  /-- The indices written to are there, and so are those that were there before. -/
  present : ∀ name, before.hasIndex name = true ∨
    (∃ operation ∈ operations, operation.id ∉ refused ∧ operation.index = name) →
      after.hasIndex name = true
  /-- No write waits in an index that is not written to, unless one did before. -/
  refreshed : ∀ name, (∀ operation ∈ operations, operation.index ≠ name) →
    (before.index name).unrefreshed = [] → (after.index name).unrefreshed = []

theorem Applied.disturbed {operations : List Operation} {refused : List String}
    {before after first last : MemoryEngine} (h : Applied operations refused before after)
    (earlier : Undisturbed first before) (later : Undisturbed after last) :
    Applied operations refused first last where
  settled name := by rw [later.settled, h.settled, earlier.settled]
  present name hn := later.present name (h.present name (hn.imp_left (earlier.present name)))
  refreshed name hn := later.refreshed name ∘ h.refreshed name hn ∘ earlier.refreshed name

theorem Applied.nil (engine : MemoryEngine) : Applied [] [] engine engine :=
  ⟨fun _ => rfl, fun _ hn => hn.resolve_right nofun, fun _ _ => id⟩

/-- Writes of which none was refused, and then more of them. -/
theorem Applied.append {operations more : List Operation} {first second third : MemoryEngine}
    (h : Applied operations [] first second) (h' : Applied more [] second third) :
    Applied (operations ++ more) [] first third where
  settled name := by
    rw [h'.settled, h.settled, List.filter_append, List.foldl_append]
  present name hn := by
    refine h'.present name ?_
    rcases hn with hn | ⟨operation, ho, hr, hi⟩
    · exact .inl (h.present name (.inl hn))
    · rcases List.mem_append.mp ho with ho | ho
      · exact .inl (h.present name (.inr ⟨operation, ho, hr, hi⟩))
      · exact .inr ⟨operation, ho, hr, hi⟩
  refreshed name hn hr :=
    h'.refreshed name (fun operation ho => hn operation (List.mem_append_right _ ho))
      (h.refreshed name (fun operation ho => hn operation (List.mem_append_left _ ho)) hr)

theorem applied_none (operations : List Operation) {before after : MemoryEngine}
    (same : Undisturbed before after) :
    Applied operations (operations.map (·.id)) before after := by
  refine ⟨fun name => ?_, fun name hn => ?_, fun name _ => same.refreshed name⟩
  · have none : (operations.filter fun operation =>
        !(operations.map (·.id)).contains operation.id && operation.index = name) = [] := by
      rw [List.filter_eq_nil_iff]
      intro operation ho
      simp only [List.contains_eq_mem, List.mem_map_of_mem ho, decide_true, Bool.not_true,
        Bool.false_and, Bool.false_eq_true, not_false_iff]
    rw [none, same.settled, List.foldl_nil]
  · rcases hn with hn | ⟨operation, ho, hr, -⟩
    · exact same.present name hn
    · exact absurd (List.mem_map_of_mem ho) hr

theorem applied_foldl_write {engine : MemoryEngine} (h : engine.Orderly)
    (operations : List Operation) (refused : List String) :
    Applied operations refused engine ((operations.filter fun operation =>
      !refused.contains operation.id).foldl write engine) := by
  refine ⟨fun name => ?_, fun name hn => ?_, fun name hn hr => ?_⟩
  · rw [(settled_foldl_write _ h).2, List.filter_filter]
    congr 2
    funext operation
    exact Bool.and_comm _ _
  · refine (hasIndex_foldl_write_iff _ name).mpr (hn.imp_right ?_)
    rintro ⟨operation, ho, hr, hi⟩
    exact ⟨operation, List.mem_filter.mpr ⟨ho, by simpa using hr⟩, hi⟩
  · rw [index_foldl_write _ fun operation ho => hn operation (List.mem_of_mem_filter ho)]
    exact hr

theorem faults_write (engine : MemoryEngine) (operation : Operation) :
    (engine.write operation).faults = engine.faults := rfl

/-- The writes of a request are applied one after the other, except to documents that are
rejected. -/
theorem writeAll_eq (operations : List Operation) : ∀ (position : Nat) (engine : MemoryEngine),
    (writeAll position engine operations).1 =
        (operations.filter fun operation =>
          !engine.faults.rejected.contains operation.id).foldl write engine ∧
      ((writeAll position engine operations).2 = [] →
        ∀ operation ∈ operations, operation.id ∉ engine.faults.rejected) := by
  induction operations with
  | nil => exact fun _ _ => ⟨rfl, nofun⟩
  | cons operation rest ih =>
    intro position engine
    rw [writeAll, List.filter_cons]
    by_cases hr : engine.faults.rejected.contains operation.id = true
    · obtain ⟨hw, -⟩ := ih (position + 1) engine
      rw [if_pos hr, hr]
      exact ⟨hw, nofun⟩
    · obtain ⟨hw, hn⟩ := ih (position + 1) (engine.write operation)
      rw [faults_write] at hw hn
      rw [if_neg hr, hw, if_pos (by simpa using hr)]
      refine ⟨rfl, fun he other ho => ?_⟩
      rcases List.mem_cons.mp ho with rfl | ho
      · simpa using hr
      · exact hn he other ho

theorem bulk_cases (engine : MemoryEngine) (delay : Duration) (operations : List Operation) :
    (∃ error outage, engine.faults.bulkOutage ≠ none ∧ engine.bulk delay operations =
        ({ engine with faults := { engine.faults with bulkOutage := outage } }, .error error)) ∨
      engine.bulk delay operations =
        ((writeAll 0 engine operations).1,
          .ok ⟨delay.millis, (writeAll 0 engine operations).2⟩) := by
  unfold bulk
  cases ho : engine.faults.bulkOutage with
  | none => exact .inr rfl
  | some outage =>
    obtain ⟨error, left⟩ := outage
    cases left with
    | zero => exact .inr rfl
    | succ left => exact .inl ⟨error, _, nofun, rfl⟩

theorem faults_foldl_write (operations : List Operation) (engine : MemoryEngine) :
    (operations.foldl write engine).faults = engine.faults := by
  induction operations generalizing engine with
  | nil => rfl
  | cons operation rest ih => rw [List.foldl_cons, ih, faults_write]

theorem postpones_foldl_write (operations : List Operation) (engine : MemoryEngine) :
    (operations.foldl write engine).postpones = engine.postpones := by
  induction operations generalizing engine with
  | nil => rfl
  | cons operation rest ih =>
    rw [List.foldl_cons, ih]
    rfl

/-- What an answer to a bulk request says: if it is a success, which writes have been applied, and
that nothing has changed otherwise. -/
def Delivered (operations : List Operation) (before after : MemoryEngine) : Outcome .bulk → Prop
  | .ok response => ∃ refused, Applied operations refused before after ∧
      (response.isSuccess = true → ∀ operation ∈ operations, operation.id ∉ refused) ∧
      (before.faults.Harmless → refused = [])
  | .error _ => Undisturbed before after ∧ ¬ before.faults.Harmless

theorem bulk_delivered {engine : MemoryEngine} (h : engine.Orderly) (delay : Duration)
    (operations : List Operation) :
    (engine.bulk delay operations).1.Orderly ∧
      (engine.faults.Harmless → (engine.bulk delay operations).1.faults.Harmless) ∧
      Delivered operations engine (engine.bulk delay operations).1
        (engine.bulk delay operations).2 := by
  rcases bulk_cases engine delay operations with ⟨error, outage, ho, hb⟩ | hb
  · have quiet : Undisturbed engine
        { engine with faults := { engine.faults with bulkOutage := outage } } :=
      .of_indices rfl rfl
    rw [hb]
    exact ⟨quiet.orderly h, fun hh => absurd hh.bulk ho, quiet, fun hh => ho hh.bulk⟩
  · obtain ⟨hw, hn⟩ := writeAll_eq operations 0 engine
    rw [hb]
    refine ⟨hw ▸ (settled_foldl_write _ h).1, fun hh => ?_, engine.faults.rejected,
      hw ▸ applied_foldl_write h operations _, fun hs => hn (List.isEmpty_iff.mp hs),
      fun hh => hh.rejected⟩
    rw [hw, faults_foldl_write]
    exact hh

/-! ## Answers -/

theorem bulk_of_answer? {engine after : MemoryEngine} {delay : Duration}
    {operations : List Operation} {outcome : Outcome .bulk}
    (h : engine.answer? delay (.bulk operations) = (after, some outcome)) :
    engine.bulk delay operations = (after, outcome) := by
  obtain ⟨hs, ho⟩ := Prod.mk.inj h
  exact Prod.ext hs (Option.some.inj ho)

theorem refresh_of_answer? {engine after : MemoryEngine} {delay : Duration} {names : List String}
    {outcome : Outcome .refresh}
    (h : engine.answer? delay (.refresh names) = (after, some outcome)) :
    engine.refresh names = (after, outcome) := by
  obtain ⟨hs, ho⟩ := Prod.mk.inj h
  exact Prod.ext hs (Option.some.inj ho)

/-! ## Requests that write nothing -/

theorem undisturbed_createIndex (engine : MemoryEngine) (name : String) (mapping : Json) :
    Undisturbed engine (engine.createIndex name mapping).1 := by
  unfold createIndex hasIndex
  cases hf : engine.indices.find? name with
  | some index => exact .refl engine
  | none =>
    have empty : engine.index name = {} := by
      rw [index, hf]
      rfl
    exact undisturbed_set (by rw [empty]; rfl) fun _ => rfl

/-- **A request that does not write** leaves what the engine has taken as it is. -/
theorem answer?_undisturbed (engine : MemoryEngine) (delay : Duration) {call : Call}
    (h : call.writes = false) : Undisturbed engine (engine.answer? delay call).1 := by
  cases call with
  | bulk operations => cases h
  | deleteIndex name => cases h
  | refresh names => exact undisturbed_refresh engine names
  | indexExists name => exact .refl engine
  | createIndex name mapping => exact undisturbed_createIndex engine name mapping
  | health name status limit => exact .refl engine
  | search request => exact .refl engine

theorem faults_refreshAll (names : List String) (engine : MemoryEngine) :
    (refreshAll engine names).1.faults = engine.faults := by
  induction names generalizing engine with
  | nil => rfl
  | cons name rest ih =>
    rw [refreshAll]
    cases engine.indices.find? name with
    | none => rfl
    | some index => exact ih _

theorem answer?_harmless {engine : MemoryEngine} (h : engine.faults.Harmless) (delay : Duration)
    {call : Call} (quiet : call.writes = false) :
    (engine.answer? delay call).1.faults.Harmless := by
  cases call with
  | bulk operations => cases quiet
  | deleteIndex name => cases quiet
  | indexExists name => exact h
  | health name status limit => exact h
  | search request => exact h
  | refresh names =>
    change (engine.refresh names).1.faults.Harmless
    rcases refresh_cases engine names with ⟨error, outage, ho, -⟩ | hr
    · exact absurd h.refresh ho
    · rw [hr, faults_refreshAll]
      exact h
  | createIndex name mapping =>
    change (engine.createIndex name mapping).1.faults.Harmless
    unfold createIndex
    split <;> exact h

theorem postpones_answer? (engine : MemoryEngine) (delay : Duration) (call : Call) :
    (engine.answer? delay call).1.postpones = engine.postpones := by
  by_cases hw : call.writes = false
  · exact (answer?_undisturbed engine delay hw).postpones
  cases call with
  | bulk operations =>
    change (engine.bulk delay operations).1.postpones = engine.postpones
    rcases bulk_cases engine delay operations with ⟨_, _, -, hb⟩ | hb
    · rw [hb]
    · rw [hb, (writeAll_eq operations 0 engine).1]
      exact postpones_foldl_write _ engine
  | deleteIndex name =>
    change (engine.deleteIndex name).1.postpones = engine.postpones
    unfold deleteIndex
    split <;> rfl
  | _ => exact absurd rfl hw

theorem undisturbed_record (engine : MemoryEngine) (call : Call) :
    Undisturbed engine (engine.record call) := .of_indices rfl rfl

end MemoryEngine

end EntitySearch
