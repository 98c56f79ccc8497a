import EntitySearch.Proofs.Engine.Acknowledged
import EntitySearch.Proofs.Engine.Answers

/-!
# The answers of an engine in memory

An engine in memory answers the requests of one client after the other, while others only ask. A bulk
request meets the outage that was arranged for it before any of its writes is applied, so that while
the outage lasts nothing is written; after it the writes are applied as if there had been none. A
refresh makes indices visible one after the other, up to the first that is missing.

* `MemoryEngine.Aside`: what others do who only ask.
* `MemoryEngine.Yields`: the answers of an engine, one after the other.
* `Outage.Over`, `MemoryEngine.Refuses`: how many requests are still to fail.
* `MemoryEngine.Unwritten`, `MemoryEngine.Yields.outage`: a bulk request that is sent again during
  an outage.
* `MemoryEngine.index_refreshAll`, `MemoryEngine.refreshAll_snd`: how far a refresh comes.
* `MemoryEngine.index_foldl_postponed`: writes that wait for a refresh.
-/

namespace EntitySearch

/-- Whether a request only asks. -/
def Call.asks : Call → Bool
  | .bulk _ | .refresh _ | .createIndex _ _ | .deleteIndex _ => false
  | .indexExists _ | .health _ _ _ | .search _ => true

/-- The operations of a bulk request. -/
def Call.operations? : Call → Option (List Operation)
  | .bulk operations => some operations
  | _ => none

namespace MemoryEngine

theorem bulkRequests_record (engine : MemoryEngine) (call : Call) :
    (engine.record call).bulkRequests = engine.bulkRequests ++ call.operations?.toList := by
  rw [bulkRequests, record, List.filterMap_append]
  cases call <;> rfl

theorem requests_answer? (engine : MemoryEngine) (delay : Duration) (call : Call) :
    (engine.answer? delay call).1.requests = engine.requests := by
  have written : ∀ (operations : List Operation) (engine : MemoryEngine),
      (operations.foldl write engine).requests = engine.requests := by
    intro operations
    induction operations with
    | nil => exact fun _ => rfl
    | cons operation rest ih => exact fun engine => ih (engine.write operation)
  have refreshed : ∀ (names : List String) (engine : MemoryEngine),
      (refreshAll engine names).1.requests = engine.requests := by
    intro names
    induction names with
    | nil => exact fun _ => rfl
    | cons name rest ih =>
      intro engine
      rw [refreshAll]
      cases engine.indices.find? name with
      | none => rfl
      | some index => exact ih _
  cases call with
  | bulk operations =>
    change (engine.bulk delay operations).1.requests = engine.requests
    rcases bulk_cases engine delay operations with ⟨_, _, -, hb⟩ | hb
    · rw [hb]
    · rw [hb, (writeAll_eq operations 0 engine).1]
      exact written _ engine
  | refresh names =>
    change (engine.refresh names).1.requests = engine.requests
    rcases refresh_cases engine names with ⟨_, _, -, hr⟩ | hr
    · rw [hr]
    · rw [hr]
      exact refreshed names engine
  | createIndex name mapping =>
    change (engine.createIndex name mapping).1.requests = engine.requests
    unfold createIndex
    split <;> rfl
  | deleteIndex name =>
    change (engine.deleteIndex name).1.requests = engine.requests
    unfold deleteIndex
    split <;> rfl
  | indexExists name => rfl
  | health name status limit => rfl
  | search request => rfl

/-! ## What others do -/

/-- Whether an engine is as before, apart from the requests that it has received. -/
structure Aside (before after : MemoryEngine) : Prop where
  postpones : after.postpones = before.postpones
  indices : after.indices = before.indices
  faults : after.faults = before.faults

namespace Aside

variable {first second third : MemoryEngine}

theorem refl (engine : MemoryEngine) : Aside engine engine := ⟨rfl, rfl, rfl⟩

theorem trans (h : Aside first second) (h' : Aside second third) : Aside first third :=
  ⟨h'.postpones.trans h.postpones, h'.indices.trans h.indices, h'.faults.trans h.faults⟩

theorem record (engine : MemoryEngine) (call : Call) : Aside engine (engine.record call) :=
  ⟨rfl, rfl, rfl⟩

theorem index (h : Aside first second) (name : String) : second.index name = first.index name := by
  rw [MemoryEngine.index, MemoryEngine.index, h.indices]

theorem hasIndex (h : Aside first second) (name : String) :
    second.hasIndex name = first.hasIndex name := by
  rw [MemoryEngine.hasIndex, MemoryEngine.hasIndex, h.indices]

end Aside

theorem answer?_of_asks (engine : MemoryEngine) (delay : Duration) {call : Call}
    (asks : call.asks = true) : (engine.answer? delay call).1 = engine := by
  cases call with
  | indexExists name => rfl
  | health name status limit => rfl
  | search request => rfl
  | _ => cases asks

/-! ## One answer after the other -/

/-- Whether an engine gives some answers one after the other, while others only ask. -/
def Yields (engine : MemoryEngine) : List Answer → MemoryEngine → Prop
  | [], later => Aside engine later
  | answer :: rest, later => ∃ asked delay answered, Aside engine asked ∧
      asked.answer? delay answer.call = (answered, some answer.outcome) ∧ answered.Yields rest later

namespace Yields

variable {engine middle later : MemoryEngine} {answers more : List Answer}

theorem after_aside (quiet : Aside engine middle) (h : middle.Yields answers later) :
    engine.Yields answers later := by
  cases answers with
  | nil => exact quiet.trans h
  | cons answer rest =>
    obtain ⟨asked, delay, answered, ha, answers, hr⟩ := h
    exact ⟨asked, delay, answered, quiet.trans ha, answers, hr⟩

theorem append (h : engine.Yields answers middle) (h' : middle.Yields more later) :
    engine.Yields (answers ++ more) later := by
  induction answers generalizing engine with
  | nil => exact after_aside h h'
  | cons answer rest ih =>
    obtain ⟨asked, delay, answered, ha, answers, hr⟩ := h
    exact ⟨asked, delay, answered, ha, answers, ih hr⟩

theorem single {delay : Duration} {call : Call} {outcome : call.Outcome}
    (h : engine.answer? delay call = (later, some outcome)) : engine.Yields [⟨call, outcome⟩] later :=
  ⟨engine, delay, later, .refl engine, h, .refl later⟩

end Yields

end MemoryEngine

/-! ## Outages -/

/-- Whether no request is to fail, or none any more. -/
def Outage.Over (outage : Option Outage) : Prop :=
  ∀ arranged ∈ outage, arranged.left = 0

theorem Outage.over_none : Over none := fun _ arranged => by cases arranged

theorem Outage.take_of_over {outage : Option Outage} (past : Over outage) :
    take outage = (none, outage) := by
  cases outage with
  | none => rfl
  | some arranged =>
    obtain ⟨error, left⟩ := arranged
    obtain rfl : left = 0 := past _ rfl
    rfl

namespace MemoryEngine

/-- Whether a number of bulk requests is to fail. If none is, it does not matter whether an outage was
arranged at all. -/
def Refuses (engine : MemoryEngine) (outage : Outage) : Prop :=
  engine.faults.bulkOutage = some outage ∨
    (outage.left = 0 ∧ Outage.Over engine.faults.bulkOutage)

section Bulk

variable {engine : MemoryEngine} {error : EngineError} {left : Nat}

theorem Aside.refuses {asked : MemoryEngine} (h : Aside engine asked) {outage : Outage}
    (refuses : engine.Refuses outage) : asked.Refuses outage := by
  rwa [Refuses, h.faults]

theorem Refuses.over (h : engine.Refuses ⟨error, 0⟩) : Outage.Over engine.faults.bulkOutage := by
  rcases h with arranged | ⟨-, past⟩
  · rw [arranged]
    rintro outage ⟨⟩
    rfl
  · exact past

theorem bulk_of_refuses (h : engine.Refuses ⟨error, left + 1⟩) (delay : Duration)
    (operations : List Operation) :
    engine.bulk delay operations =
      ({ engine with faults := { engine.faults with bulkOutage := some ⟨error, left⟩ } },
        .error error) := by
  have arranged := h.resolve_right fun none => Nat.succ_ne_zero left none.1
  rw [bulk, arranged]
  rfl

theorem bulk_of_over (past : Outage.Over engine.faults.bulkOutage) (delay : Duration)
    (operations : List Operation) :
    engine.bulk delay operations =
      ((writeAll 0 engine operations).1,
        .ok ⟨delay.millis, (writeAll 0 engine operations).2⟩) := by
  rw [bulk, Outage.take_of_over past]

end Bulk

theorem refresh_of_over {engine : MemoryEngine} (past : Outage.Over engine.faults.refreshOutage)
    (names : List String) : engine.refresh names = refreshAll engine names := by
  rw [refresh, Outage.take_of_over past]

/-! ## Bulk requests -/

/-- Whether an engine is as before, apart from the requests that it has received and from what is left
of the outage of bulk requests. -/
structure Unwritten (before after : MemoryEngine) : Prop where
  postpones : after.postpones = before.postpones
  indices : after.indices = before.indices
  rejected : after.faults.rejected = before.faults.rejected

namespace Unwritten

variable {first second third : MemoryEngine}

theorem trans (h : Unwritten first second) (h' : Unwritten second third) : Unwritten first third :=
  ⟨h'.postpones.trans h.postpones, h'.indices.trans h.indices, h'.rejected.trans h.rejected⟩

theorem write (h : Unwritten first second) (operation : Operation) :
    Unwritten (first.write operation) (second.write operation) := by
  refine ⟨h.postpones, ?_, h.rejected⟩
  unfold MemoryEngine.write
  dsimp only
  rw [h.indices, h.postpones]

theorem writeAll (operations : List Operation) : ∀ (position : Nat) {first second : MemoryEngine},
    Unwritten first second →
      Unwritten (writeAll position first operations).1 (writeAll position second operations).1 := by
  induction operations with
  | nil => exact fun _ _ _ h => h
  | cons operation rest ih =>
    intro position first second h
    rw [MemoryEngine.writeAll, MemoryEngine.writeAll, h.rejected]
    split
    · exact ih (position + 1) h
    · exact ih (position + 1) (h.write operation)

end Unwritten

theorem unwritten_outage (engine : MemoryEngine) (outage : Option Outage) :
    Unwritten engine { engine with faults := { engine.faults with bulkOutage := outage } } :=
  ⟨rfl, rfl, rfl⟩

theorem Aside.unwritten {before after : MemoryEngine} (h : Aside before after) :
    Unwritten before after :=
  ⟨h.postpones, h.indices, congrArg Faults.rejected h.faults⟩

/-- **A bulk request that is sent again during an outage** gets the error of the outage, and nothing is
written, as long as it lasts; then its writes are applied. -/
theorem Yields.outage {operations : List Operation} {last : Outcome .bulk} {late : List Answer}
    {error : EngineError} {later : MemoryEngine} (earlier : List EngineError) :
    ∀ {times : Nat} {engine : MemoryEngine}, engine.Refuses ⟨error, times⟩ →
      engine.Yields (heard (.bulk operations) earlier last ++ late) later →
        earlier = List.replicate earlier.length error ∧
          ((earlier.length < times ∧ last = .error error ∧
              ∃ failed, Unwritten engine failed ∧ failed.Yields late later) ∨
            (earlier.length = times ∧ ∃ working delay, Unwritten engine working ∧
              last = .ok ⟨delay, (writeAll 0 working operations).2⟩ ∧
              (writeAll 0 working operations).1.Yields late later)) := by
  induction earlier with
  | nil =>
    rintro times engine refuses ⟨asked, delay, answered, quiet, answer, rest⟩
    have answer := bulk_of_answer? answer
    have refuses := quiet.refuses refuses
    refine ⟨rfl, ?_⟩
    cases times with
    | zero =>
      rw [bulk_of_over refuses.over] at answer
      obtain ⟨rfl, rfl⟩ := Prod.mk.inj answer
      exact .inr ⟨rfl, asked, _, quiet.unwritten, rfl, rest⟩
    | succ left =>
      rw [bulk_of_refuses refuses] at answer
      obtain ⟨rfl, rfl⟩ := Prod.mk.inj answer
      exact .inl ⟨Nat.succ_pos left, rfl, _, quiet.unwritten.trans (unwritten_outage asked _), rest⟩
  | cons first earlier ih =>
    rintro times engine refuses ⟨asked, delay, answered, quiet, answer, rest⟩
    have answer := bulk_of_answer? answer
    have refuses := quiet.refuses refuses
    cases times with
    | zero =>
      rw [bulk_of_over refuses.over] at answer
      cases (Prod.mk.inj answer).2
    | succ left =>
      rw [bulk_of_refuses refuses] at answer
      obtain ⟨rfl, same⟩ := Prod.mk.inj answer
      cases same
      have failed := quiet.unwritten.trans (unwritten_outage asked (some ⟨error, left⟩))
      obtain ⟨same, h⟩ := ih (.inl rfl) rest
      refine ⟨congrArg (error :: ·) same, h.imp ?_ ?_⟩
      · rintro ⟨within, ended, last, unwritten, after⟩
        exact ⟨Nat.succ_lt_succ within, ended, last, failed.trans unwritten, after⟩
      · rintro ⟨ends, working, delay, unwritten, ended, after⟩
        exact ⟨congrArg Nat.succ ends, working, delay, failed.trans unwritten, ended, after⟩

/-- Without an outage the first answer to a bulk request is the last one. -/
theorem Yields.bulk {operations : List Operation} {earlier : List EngineError}
    {last : Outcome .bulk} {late : List Answer} {engine later : MemoryEngine}
    (past : Outage.Over engine.faults.bulkOutage)
    (h : engine.Yields (heard (.bulk operations) earlier last ++ late) later) :
    earlier = [] ∧ ∃ asked delay, Aside engine asked ∧
      last = .ok ⟨delay, (writeAll 0 asked operations).2⟩ ∧
        (writeAll 0 asked operations).1.Yields late later := by
  have answers : ∀ {asked answered : MemoryEngine} {delay : Duration} {outcome : Outcome .bulk},
      Aside engine asked → asked.answer? delay (.bulk operations) = (answered, some outcome) →
        answered = (writeAll 0 asked operations).1 ∧
          outcome = .ok ⟨delay.millis, (writeAll 0 asked operations).2⟩ := by
    intro asked answered delay outcome quiet answer
    have answer := bulk_of_answer? answer
    rw [bulk_of_over (quiet.faults ▸ past)] at answer
    exact ⟨(Prod.mk.inj answer).1.symm, (Prod.mk.inj answer).2.symm⟩
  cases earlier with
  | nil =>
    obtain ⟨asked, delay, answered, quiet, answer, rest⟩ := h
    obtain ⟨rfl, ended⟩ := answers quiet answer
    exact ⟨rfl, asked, _, quiet, ended, rest⟩
  | cons error earlier =>
    obtain ⟨asked, delay, answered, quiet, answer, -⟩ := h
    cases (answers quiet answer).2

/-! ## Refreshes -/

/-- Without an outage the first answer to a refresh is the last one, since no other error of an engine
in memory can pass. -/
theorem Yields.refresh {names : List String} {earlier : List EngineError}
    {last : Outcome .refresh} {engine later : MemoryEngine}
    (past : Outage.Over engine.faults.refreshOutage)
    (passing : ∀ error ∈ earlier, error.isRetryable = true)
    (h : engine.Yields (heard (.refresh names) earlier last) later) :
    earlier = [] ∧ ∃ asked, Aside engine asked ∧ (refreshAll asked names).2 = last ∧
      Aside (refreshAll asked names).1 later := by
  have answers : ∀ {asked answered : MemoryEngine} {delay : Duration}
      {outcome : Outcome .refresh}, Aside engine asked →
      asked.answer? delay (.refresh names) = (answered, some outcome) →
        refreshAll asked names = (answered, outcome) := by
    intro asked answered delay outcome quiet answer
    have answer := refresh_of_answer? answer
    rwa [refresh_of_over (quiet.faults ▸ past)] at answer
  cases earlier with
  | nil =>
    obtain ⟨asked, delay, answered, quiet, answer, rest⟩ := h
    have refreshed := answers quiet answer
    exact ⟨rfl, asked, quiet, congrArg Prod.snd refreshed, congrArg Prod.fst refreshed ▸ rest⟩
  | cons error earlier =>
    obtain ⟨asked, delay, answered, quiet, answer, -⟩ := h
    have failed := refreshAll_error names asked (congrArg Prod.snd (answers quiet answer))
    rw [passing error List.mem_cons_self] at failed
    cases failed

section RefreshAll

variable {engine : MemoryEngine} {name : String} {index : MemoryIndex}

theorem hasIndex_refresh_one (h : engine.indices.find? name = some index) (key : String) :
    ({ engine with indices := engine.indices.set name index.refresh }).hasIndex key =
      engine.hasIndex key := by
  rw [hasIndex, hasIndex, Indices.find?_set]
  by_cases same : name = key
  · rw [if_pos same, ← same, h]
    rfl
  · rw [if_neg same]

theorem refresh_refresh (index : MemoryIndex) : index.refresh.refresh = index.refresh := rfl

/-- **How far a refresh comes**: it makes the indices before the first missing one visible. -/
theorem index_refreshAll (names : List String) : ∀ (engine : MemoryEngine) (name : String),
    (refreshAll engine names).1.index name =
      if name ∈ names.takeWhile engine.hasIndex then (engine.index name).refresh
      else engine.index name := by
  induction names with
  | nil => exact fun _ _ => rfl
  | cons first rest ih =>
    intro engine name
    rw [refreshAll]
    cases found : engine.indices.find? first with
    | none =>
      have missing : engine.hasIndex first = false := by rw [hasIndex, found]; rfl
      rw [List.takeWhile_cons_of_neg (by simp [missing])]
      exact (if_neg List.not_mem_nil).symm
    | some index =>
      have there : engine.hasIndex first = true := by rw [hasIndex, found]; rfl
      have same : ({ engine with
          indices := engine.indices.set first index.refresh }).hasIndex = engine.hasIndex :=
        funext (hasIndex_refresh_one found)
      rw [List.takeWhile_cons_of_pos there]
      dsimp only
      rw [ih, same, index_set]
      by_cases own : first = name
      · subst own
        rw [if_pos rfl, if_pos List.mem_cons_self, index_of_find found, refresh_refresh, ite_self]
      · rw [if_neg own]
        simp only [List.mem_cons, Ne.symm own, false_or]

/-- A refresh fails with the first missing index. -/
theorem refreshAll_snd (names : List String) : ∀ engine : MemoryEngine,
    (refreshAll engine names).2 =
      (names.find? fun name => !engine.hasIndex name).elim (.ok ())
        fun name => .error (.notFound name) := by
  induction names with
  | nil => exact fun _ => rfl
  | cons first rest ih =>
    intro engine
    rw [refreshAll, List.find?_cons]
    cases found : engine.indices.find? first with
    | none =>
      have missing : engine.hasIndex first = false := by rw [hasIndex, found]; rfl
      rw [missing]
      rfl
    | some index =>
      have there : engine.hasIndex first = true := by rw [hasIndex, found]; rfl
      rw [there]
      dsimp only [Bool.not_true]
      rw [ih, funext (hasIndex_refresh_one found)]
      rfl

end RefreshAll

/-! ## Writes that wait -/

/-- Writes to an engine that postpones them wait in their indices, in their order. -/
theorem index_foldl_postponed (operations : List Operation) : ∀ {engine : MemoryEngine},
    engine.postpones = true → ∀ name, (operations.foldl write engine).index name =
      { engine.index name with
        unrefreshed := (engine.index name).unrefreshed ++
          operations.filter fun operation => operation.index = name } := by
  induction operations with
  | nil =>
    intro engine _ name
    rw [List.filter_nil, List.append_nil]
    rfl
  | cons operation rest ih =>
    intro engine postpones name
    rw [List.foldl_cons, @ih (engine.write operation) postpones, index_write, postpones,
      List.filter_cons]
    by_cases own : operation.index = name
    · simp [own, MemoryIndex.postpone]
    · simp [own]

end MemoryEngine

end EntitySearch
