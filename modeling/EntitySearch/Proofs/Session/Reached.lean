import EntitySearch.Proofs.Queue.Plan
import EntitySearch.Proofs.Session.Yielding

/-!
# How far the refresh of a job comes

A strict queue refreshes all indices that the operations of a job write to, also those of operations
that the engine rejects. An engine in memory goes through them in the order in which the operations
name them first, and stops at the first that is missing: one that was not there before, and to which
no operation was taken. So what is taken becomes visible in all indices before the first missing one,
whatever else is rejected, and it waits in the indices after it, where an earlier operation hides a
later one of another index.

* `MemoryEngine.taken`, `MemoryEngine.present`: the operations of a job that are taken, and the indices
  that are there after it.
* `BulkPlan.reached`: the indices before the first missing one.
* `BulkPlan.Revealed`, `Session.revealed_of_finish`: what searches see after a job.
-/

namespace EntitySearch

namespace MemoryEngine

variable {engine asked : MemoryEngine}

/-- The operations of a request that an engine takes. -/
def taken (engine : MemoryEngine) (operations : List Operation) : List Operation :=
  operations.filter fun operation => !engine.faults.rejected.contains operation.id

/-- The operations on an index that an engine takes. -/
def takenTo (engine : MemoryEngine) (operations : List Operation) (name : String) : List Operation :=
  (engine.taken operations).filter fun operation => operation.index = name

/-- Whether an index is there after the operations of a request that are taken. -/
def present (engine : MemoryEngine) (operations : List Operation) (name : String) : Bool :=
  engine.hasIndex name || (engine.taken operations).any fun operation => operation.index = name

/-- Whether the operations of a request that an engine takes wait in their indices. -/
structure Postponed (engine : MemoryEngine) (operations : List Operation) (later : MemoryEngine) :
    Prop where
  faults : later.faults = engine.faults
  hasIndex : ∀ name, later.hasIndex name = engine.present operations name
  index : ∀ name, later.index name =
    { engine.index name with
      unrefreshed := (engine.index name).unrefreshed ++ engine.takenTo operations name }

namespace Postponed

variable {operations : List Operation} {written later : MemoryEngine}

theorem aside (h : Postponed engine operations written) (quiet : Aside written later) :
    Postponed engine operations later :=
  ⟨quiet.faults.trans h.faults, fun name => (quiet.hasIndex name).trans (h.hasIndex name),
    fun name => (quiet.index name).trans (h.index name)⟩

theorem nil (quiet : Aside engine later) : Postponed engine [] later := by
  refine ⟨quiet.faults, fun name => ?_, fun name => ?_⟩
  · rw [quiet.hasIndex, present, taken, List.filter_nil, List.any_nil, Bool.or_false]
  · rw [quiet.index, takenTo, taken, List.filter_nil, List.filter_nil, List.append_nil]

theorem writeAll (quiet : Aside engine asked) (postpones : engine.postpones = true)
    (operations : List Operation) :
    Postponed engine operations (writeAll 0 asked operations).1 := by
  have written : (MemoryEngine.writeAll 0 asked operations).1 =
      (engine.taken operations).foldl write asked := by
    rw [(writeAll_eq operations 0 asked).1, taken, quiet.faults]
  rw [written]
  refine ⟨(faults_foldl_write _ asked).trans quiet.faults, fun name => ?_, fun name => ?_⟩
  · rw [Bool.eq_iff_iff, hasIndex_foldl_write_iff, quiet.hasIndex, present]
    simp
  · rw [index_foldl_postponed _ (quiet.postpones.trans postpones), quiet.index]
    rfl

end Postponed

end MemoryEngine

namespace BulkPlan

/-- The indices that the refresh of a job reaches. -/
def reached (plan : BulkPlan) (engine : MemoryEngine) : List String :=
  plan.indices.takeWhile (engine.present plan.operations)

/-- The index at which the refresh of a job stops. -/
def missing? (plan : BulkPlan) (engine : MemoryEngine) : Option String :=
  plan.indices.find? fun name => !engine.present plan.operations name

/-- What searches see after a job of a strict queue, and which failure tells that they do not see all
of it. -/
structure Revealed (plan : BulkPlan) (items : List WorkItem) (engine : MemoryEngine)
    (published : List BulkFailure) (last : MemoryEngine) : Prop where
  /-- Whatever is taken is applied to what is seen of an index that is reached. -/
  seen : ∀ name ∈ plan.reached engine, last.documents name =
    (engine.takenTo plan.operations name).foldl MemoryIndex.applyTo (engine.index name).settled
  /-- Whatever is taken waits in an index that is not reached. -/
  unseen : ∀ name ∉ plan.reached engine, last.documents name = engine.documents name ∧
    (last.index name).unrefreshed =
      (engine.index name).unrefreshed ++ engine.takenTo plan.operations name
  /-- A failure tells of the first missing index. -/
  published : published.filter (fun failure => failure.kind = .refresh) =
    (plan.missing? engine).elim [] fun name =>
      [⟨.refresh, 1, (EngineError.notFound name).message, items⟩]

end BulkPlan

namespace MemoryEngine

variable {engine last : MemoryEngine} {writer : Writer} {plan : BulkPlan} {items : List WorkItem}
  {course : JobCourse} {transcript : Transcript}

/-- What is seen once the refresh of a job has come as far as it does. -/
theorem Postponed.revealed {asked : MemoryEngine} {published : List BulkFailure}
    (h : Postponed engine plan.operations asked)
    (quiet : Aside (refreshAll asked plan.indices).1 last)
    (reported : published.filter (fun failure => failure.kind = .refresh) =
      (plan.missing? engine).elim [] fun name =>
        [⟨.refresh, 1, (EngineError.notFound name).message, items⟩]) :
    plan.Revealed items engine published last := by
  have there : asked.hasIndex = engine.present plan.operations := funext h.hasIndex
  refine ⟨fun name reached => ?_, fun name unreached => ?_, reported⟩
  · rw [BulkPlan.reached, ← there] at reached
    rw [documents_eq, quiet.index, index_refreshAll, if_pos reached, h.index, MemoryIndex.settled,
      ← List.foldl_append]
    rfl
  · rw [BulkPlan.reached, ← there] at unreached
    rw [documents_eq, documents_eq, quiet.index, index_refreshAll, if_neg unreached, h.index]
    exact ⟨rfl, rfl⟩

/-- The refresh of a job fails with the first missing index. -/
theorem Postponed.outcome {asked : MemoryEngine} (h : Postponed engine plan.operations asked) :
    (refreshAll asked plan.indices).2 =
      (plan.missing? engine).elim (.ok ()) fun name => .error (.notFound name) := by
  have there : asked.hasIndex = engine.present plan.operations := funext h.hasIndex
  rw [refreshAll_snd, there]
  rfl

theorem refresh_reports (plan : BulkPlan) (items : List WorkItem) (response : BulkResponse)
    (invisible : Option (Exhausted EngineError)) :
    (plan.dropped ++ JobCourse.reports plan items (.delivered response invisible)).filter
      (fun failure => failure.kind = .refresh) = JobCourse.hidden items invisible := by
  have dropped : plan.dropped.filter (fun failure => failure.kind = .refresh) = [] := by
    rw [BulkPlan.dropped]
    split <;> rfl
  have rejected : (if response.isSuccess then []
      else [Writer.rejection plan response.rejections]).filter
        (fun failure => failure.kind = .refresh) = [] := by
    split <;> rfl
  rw [List.filter_append, dropped, JobCourse.reports, List.filter_append, rejected]
  cases invisible <;> rfl

/-- **What searches see after a job** of which the engine gives the answers. -/
theorem Yields.revealed (conducted : plan.Conducted writer items course transcript)
    (strict : writer.strict = true) (postpones : engine.postpones = true)
    (bulk : Outage.Over engine.faults.bulkOutage)
    (refresh : Outage.Over engine.faults.refreshOutage)
    (yields : engine.Yields transcript.answers last) :
    plan.Revealed items engine transcript.published last := by
  obtain ⟨calls, answers, reports⟩ := transcript
  obtain ⟨unsent, course, -, published⟩ := conducted
  dsimp only at course published yields ⊢
  subst published
  cases course with
  | unsent =>
    have nothing : plan.operations = [] := by
      rw [BulkPlan.operations, List.isEmpty_iff.mp (unsent.mpr rfl), List.map_nil]
    have untouched : plan.indices = [] := by rw [BulkPlan.indices, nothing, List.foldl_nil]
    have written : Postponed engine plan.operations engine := by
      rw [nothing]
      exact .nil (.refl engine)
    have quiet : Aside (refreshAll engine plan.indices).1 last := by
      rw [untouched]
      exact yields
    refine written.revealed quiet ?_
    rw [BulkPlan.missing?, untouched, BulkPlan.dropped, JobCourse.reports, List.append_nil]
    split <;> rfl
  | @undelivered earlier error tried =>
    rw [← List.append_nil (heard _ _ _)] at yields
    obtain ⟨-, asked, delay, -, success, -⟩ := yields.bulk bulk
    cases success
  | @delivered earlier response invisible late tried shown =>
    obtain ⟨-, asked, delay, quiet, -, yields⟩ := yields.bulk bulk
    have written := Postponed.writeAll quiet postpones plan.operations
    rw [← written.faults] at refresh
    cases shown with
    | lax lax => rw [lax] at strict; cases strict
    | visible _ again =>
      obtain ⟨-, asked, quiet, success, last⟩ := yields.refresh refresh again.passing
      have written := written.aside quiet
      refine written.revealed last ?_
      rw [refresh_reports, JobCourse.hidden]
      rw [written.outcome] at success
      cases missing : plan.missing? engine with
      | none => rfl
      | some name => rw [missing] at success; cases success
    | hidden _ again =>
      obtain ⟨rfl, asked, quiet, failed, last⟩ := yields.refresh refresh again.passing
      have written := written.aside quiet
      refine written.revealed last ?_
      rw [refresh_reports, JobCourse.hidden]
      rw [written.outcome] at failed
      cases missing : plan.missing? engine with
      | none => rw [missing] at failed; cases failed
      | some name =>
        rw [missing] at failed
        cases failed
        rfl

end MemoryEngine

/-! ## Runs -/

namespace Session

variable {session later : Session} {number : Nat} {host : HostedQueue} {engine : MemoryEngine}

/-- **What searches see when the writer of a strict queue completes a job**: all that the engine has
taken, in the indices before the first that is missing, and of the others what was seen before. -/
theorem revealed_of_finish {job : Job} {queue : Queue} {events : List SessionEvent}
    {moments : List Moment} (hosted : session.queues[number]? = some host)
    (route : host.route = .engine) (memory : session.engine = some engine)
    (unscripted : session.outcomes = []) (next : host.queue.startNext = some (job, queue))
    (strict : host.writer.strict = true) (postpones : engine.postpones = true)
    (bulk : Outage.Over engine.faults.bulkOutage)
    (refresh : Outage.Over engine.faults.refreshOutage)
    (run : session.play? (.start number :: events) = some moments)
    (unfinished : .finish number ∉ events) (aside : ∀ moment ∈ moments, moment.Aside number)
    (finish : (session.last moments).after? (.finish number) = some later) :
    ∃ last, (session.last moments).engine = some last ∧
      (BulkPlan.ofItems (session.resolver host.schema) job.items).Revealed job.items engine
        (Moment.publishedIn moments number) last := by
  obtain ⟨course, conducted⟩ := conducted_of_finish hosted next run unfinished finish
  obtain ⟨last, hl, yields, -⟩ :=
    yields_of_start hosted route memory unscripted next run unfinished aside
  rw [← Moment.published_transcriptIn]
  exact ⟨last, hl, yields.revealed conducted strict postpones bulk refresh⟩

/-! ## Two indices -/

/-- A queue whose writer is about to take some items. -/
def partialQueue (items : List WorkItem) : HostedQueue :=
  { hostQueue { strict := true } .shared .engine with
    queue := { Queue.start { strict := true } with
      waiting := [⟨0, items, true⟩]
      inFlight := 1
      nextJob := 1 } }

/-- An engine without indices that rejects a document. -/
def partialEngine : MemoryEngine := { postpones := true, faults := { rejected := ["x"] } }

/-- A session with the queue and the engine, and an index for each of two entity types. -/
def partialSession (items : List WorkItem) : Session where
  engine := some partialEngine
  registry := .registerAll {}
    [⟨"A", "one", "id", .string, []⟩, ⟨"B", "two", "id", .string, []⟩]
  queues := [partialQueue items]

/-- A document of each index is taken, and one is rejected. -/
def sparedItems : List WorkItem := [.add "A" "y", .add "A" "x", .add "B" "1"]

theorem sparedRun_isSome :
    ((partialSession sparedItems).play? (.start 0 :: List.replicate 10 (.write 0))).isSome = true := by
  decide +kernel

/-- The moments until the job is completed. -/
def sparedMoments : List Moment :=
  ((partialSession sparedItems).play? (.start 0 :: List.replicate 10 (.write 0))).get
    sparedRun_isSome

theorem sparedFinish_isSome :
    (((partialSession sparedItems).last sparedMoments).after? (.finish 0)).isSome = true := by
  decide +kernel

/-- The rejected document does not hide the others. -/
theorem revealed_of_finish_spared :
    ∃ last, ((partialSession sparedItems).last sparedMoments).engine = some last ∧
      (last.documents "one").map (·.id) = ["y"] ∧ (last.documents "two").map (·.id) = ["1"] := by
  obtain ⟨later, finish⟩ := Option.isSome_iff_exists.mp sparedFinish_isSome
  have run := (Option.some_get sparedRun_isSome).symm
  obtain ⟨last, hl, seen, -, -⟩ := @revealed_of_finish (partialSession sparedItems) later 0
    (partialQueue sparedItems) partialEngine ⟨0, sparedItems, true⟩ _ _ sparedMoments rfl rfl rfl
    rfl rfl rfl rfl Outage.over_none Outage.over_none run (finish_not_mem_writes 0 10)
    (aside_of_writes run) finish
  refine ⟨last, hl, ?_, ?_⟩
  · rw [seen "one" (by decide)]
    rfl
  · rw [seen "two" (by decide)]
    rfl

/-- The only document of the first index is rejected. -/
def hidingItems : List WorkItem := [.add "A" "x", .add "B" "1"]

theorem hidingRun_isSome :
    ((partialSession hidingItems).play? (.start 0 :: List.replicate 12 (.write 0))).isSome = true := by
  decide +kernel

/-- The moments until the job is completed. -/
def hidingMoments : List Moment :=
  ((partialSession hidingItems).play? (.start 0 :: List.replicate 12 (.write 0))).get
    hidingRun_isSome

theorem hidingFinish_isSome :
    (((partialSession hidingItems).last hidingMoments).after? (.finish 0)).isSome = true := by
  decide +kernel

/-- What is taken need not be seen when the job is completed. -/
theorem not_all_taken_seen :
    ¬ ∀ (session later : Session) (number : Nat) (host : HostedQueue) (engine : MemoryEngine)
        (job : Job) (queue : Queue) (events : List SessionEvent) (moments : List Moment),
      session.queues[number]? = some host → host.route = .engine → session.engine = some engine →
      session.outcomes = [] → host.queue.startNext = some (job, queue) →
      host.writer.strict = true → engine.postpones = true → engine.faults.bulkOutage = none →
      engine.faults.refreshOutage = none →
      (∀ item ∈ job.items, (session.resolver host.schema).Knows item) →
      session.play? (.start number :: events) = some moments →
      (∀ event ∈ events, event = .write number) →
      (session.last moments).after? (.finish number) = some later →
        ∀ last, (session.last moments).engine = some last → ∀ operation ∈ engine.taken
          (BulkPlan.ofItems (session.resolver host.schema) job.items).operations,
            last.documents operation.index = (engine.takenTo
              (BulkPlan.ofItems (session.resolver host.schema) job.items).operations
              operation.index).foldl MemoryIndex.applyTo (engine.index operation.index).settled := by
  intro claim
  obtain ⟨later, finish⟩ := Option.isSome_iff_exists.mp hidingFinish_isSome
  have known : ∀ item ∈ hidingItems,
      ((partialSession hidingItems).resolver (partialQueue hidingItems).schema).Knows item := by
    intro item hm
    simp only [hidingItems, List.mem_cons, List.not_mem_nil, or_false] at hm
    rcases hm with rfl | rfl <;> exact ⟨_, rfl⟩
  have own : ∀ event ∈ List.replicate 12 (SessionEvent.write 0), event = .write 0 :=
    fun _ hm => List.eq_of_mem_replicate hm
  have memory : (((partialSession hidingItems).last hidingMoments).engine.map fun last =>
      (last.documents "two").length) = some 0 := by decide +kernel
  obtain ⟨last, hl, nothing⟩ := Option.map_eq_some_iff.mp memory
  have seen := claim (partialSession hidingItems) later 0 (partialQueue hidingItems) partialEngine
    ⟨0, hidingItems, true⟩ _ _ hidingMoments rfl rfl rfl rfl rfl rfl rfl rfl rfl known
    (Option.some_get hidingRun_isSome).symm own finish last hl _ (List.mem_of_getElem? (i := 0) rfl)
  have documents : last.documents "two" = _ := seen
  rw [documents] at nothing
  cases nothing

end Session

end EntitySearch
