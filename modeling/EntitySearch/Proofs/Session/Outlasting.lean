import EntitySearch.Proofs.Session.Accounting
import EntitySearch.Proofs.Session.Yielding

/-!
# A job during an outage

An engine in memory can be told to refuse a number of bulk requests. A queue that is not strict sends
its request again as long as its policy lets it. Either an attempt is left when the outage is over:
then the writes of the job are applied once, as if there had been no outage. Or there is none: then
nothing is written, and one failure tells of all items. In both cases the engine receives the same
request at every attempt and nothing else. The writer comes to that end by itself, if there is a delay
to wait for before every attempt that it makes.

* `RetryPolicy.Outlasts`, `RetryPolicy.vainAttempts`: whether attempts outlast an outage, and how many
  are made in vain if they do not.
* `MemoryEngine.Outlasted`, `MemoryEngine.Unavailing`: the two ends of a job.
* `Session.outlasted_or_unavailing`: a job comes to one of them.
-/

namespace EntitySearch

/-! ## Attempts during an outage -/

namespace RetryPolicy

/-- Whether the attempts that a policy allows outlast an outage. -/
def Outlasts (policy : RetryPolicy) (outage : Outage) : Prop :=
  outage.left = 0 ∨ (outage.error.isRetryable = true ∧ outage.left < policy.limit)

/-- How many attempts are made during an outage that they do not outlast. -/
def vainAttempts (policy : RetryPolicy) (outage : Outage) : Nat :=
  if outage.error.isRetryable then min outage.left policy.limit else 1

/-- Whether there is a delay before every attempt that is made during an outage. -/
def Bears (policy : RetryPolicy) (outage : Outage) : Prop :=
  outage.error.isRetryable = true → ∀ retry, 0 < retry → retry ≤ outage.left →
    retry < policy.limit → (policy.delayFor retry).isSome = true

variable {policy : RetryPolicy} {error : EngineError} {earlier : List EngineError} {times : Nat}

theorem Tried.outlasts {response : BulkResponse}
    (tried : policy.Tried EngineError.isRetryable earlier (.ok response : Outcome .bulk))
    (same : earlier = List.replicate times error) : policy.Outlasts ⟨error, times⟩ := by
  have bounded := tried.bounded
  rw [same, List.length_replicate] at bounded
  cases times with
  | zero => exact .inl rfl
  | succ left =>
    have member : error ∈ earlier := same ▸ List.mem_cons_self
    exact .inr ⟨tried.passing error member, by dsimp only; omega⟩

/-- The attempts that come to an end during an outage have not outlasted it. -/
theorem Tried.vain
    (tried : policy.Tried EngineError.isRetryable earlier (.error error : Outcome .bulk))
    (same : earlier = List.replicate earlier.length error) (within : earlier.length < times) :
    ¬ policy.Outlasts ⟨error, times⟩ ∧ earlier.length + 1 = policy.vainAttempts ⟨error, times⟩ := by
  have bounded := tried.bounded
  unfold Outlasts vainAttempts
  dsimp only
  cases passes : error.isRetryable with
  | false =>
    have first : earlier = [] := by
      cases earlier with
      | nil => rfl
      | cons other rest =>
        have passing := tried.passing other List.mem_cons_self
        rw [(List.cons.inj same).1, passes] at passing
        cases passing
    subst first
    simp only [List.length_nil] at within ⊢
    exact ⟨by simp; omega, by simp⟩
  | true =>
    have last : earlier.length + 1 = policy.limit := by
      rcases tried.decides with ⟨_, success⟩ | ⟨_, same, fails⟩ | last
      · cases success
      · cases same
        rw [passes] at fails
        cases fails
      · exact last
    exact ⟨by simp; omega, by simp; omega⟩

end RetryPolicy

/-! ## The ends of a job -/

namespace MemoryEngine

/-- An engine for which the outage of bulk requests is over. -/
def recovered (engine : MemoryEngine) : MemoryEngine :=
  { engine with faults := { engine.faults with bulkOutage := none } }

/-- The end of a job whose attempts have outlasted an outage: its writes are applied as without an
outage. -/
structure Outlasted (engine : MemoryEngine) (operations : List Operation) (outage : Outage)
    (published : List BulkFailure) (last : MemoryEngine) : Prop where
  indices : last.indices = (engine.recovered.bulk .zero operations).1.indices
  received : last.bulkRequests =
    engine.bulkRequests ++ List.replicate (outage.left + 1) operations
  published : ∀ failure ∈ published, failure.kind ≠ .submission

/-- The end of a job after some attempts in vain: nothing is written, and one failure tells of all
items. -/
structure Unavailing (engine : MemoryEngine) (operations : List Operation) (items : List WorkItem)
    (error : EngineError) (attempts : Nat) (published : List BulkFailure) (last : MemoryEngine) :
    Prop where
  indices : last.indices = engine.indices
  received : last.bulkRequests = engine.bulkRequests ++ List.replicate attempts operations
  published : published = [⟨.submission, attempts, error.message, items⟩]

variable {engine last : MemoryEngine} {writer : Writer} {plan : BulkPlan} {items : List WorkItem}
  {course : JobCourse} {transcript : Transcript} {outage : Outage}

theorem operations_heard (operations : List Operation) (earlier : List EngineError)
    (last : Outcome .bulk) :
    ((heard (.bulk operations) earlier last).map (·.call)).filterMap Call.operations? =
      List.replicate (earlier.length + 1) operations := by
  have again : ((refused (.bulk operations) earlier).map (·.call)).filterMap Call.operations? =
      List.replicate earlier.length operations := by
    rw [refused, List.map_map, List.filterMap_map]
    induction earlier with
    | nil => rfl
    | cons error rest ih =>
      rw [List.filterMap_cons, ih]
      rfl
  unfold heard
  rw [List.map_append, List.filterMap_append, again, List.replicate_succ']
  rfl

/-- **The end of a job** of which the engine gives the answers, if the queue does not refresh. -/
theorem Yields.end_of_outage
    (conducted : plan.Conducted writer items course transcript)
    (filled : plan.entries.isEmpty = false) (known : plan.dropped = [])
    (lax : writer.strict = false) (faulty : engine.Refuses outage)
    (yields : engine.Yields transcript.answers last)
    (received : last.bulkRequests =
      engine.bulkRequests ++ transcript.sent.filterMap Call.operations?) :
    (writer.bulkPolicy.Outlasts outage →
      engine.Outlasted plan.operations outage transcript.published last) ∧
    (¬ writer.bulkPolicy.Outlasts outage →
      engine.Unavailing plan.operations items outage.error (writer.bulkPolicy.vainAttempts outage)
        transcript.published last) := by
  obtain ⟨error, times⟩ := outage
  obtain ⟨calls, answers, reports⟩ := transcript
  obtain ⟨unsent, course, sent, published⟩ := conducted
  dsimp only at course sent published yields received ⊢
  rw [sent] at received
  rw [known, List.nil_append] at published
  cases course with
  | unsent =>
    rw [unsent.mpr rfl] at filled
    cases filled
  | @undelivered earlier failed tried =>
    have again : last.bulkRequests =
        engine.bulkRequests ++ List.replicate (earlier.length + 1) plan.operations :=
      received.trans (congrArg _ (operations_heard _ _ _))
    rw [← List.append_nil (heard _ _ _)] at yields
    obtain ⟨same, ⟨within, ended, working, unwritten, quiet⟩ | ⟨-, working, delay, -, ended, -⟩⟩ :=
      yields.outage earlier faulty
    · cases ended
      obtain ⟨not, attempts⟩ := tried.vain same within
      refine ⟨fun outlasts => absurd outlasts not, fun _ => ?_⟩
      rw [← attempts]
      exact ⟨(Aside.unwritten quiet).indices.trans unwritten.indices, again, published⟩
    · cases ended
  | @delivered earlier response invisible late tried shown =>
    cases shown with
    | visible strict => rw [lax] at strict; cases strict
    | hidden strict => rw [lax] at strict; cases strict
    | lax =>
      rw [List.append_nil] at received
      have again : last.bulkRequests =
          engine.bulkRequests ++ List.replicate (earlier.length + 1) plan.operations :=
        received.trans (congrArg _ (operations_heard _ _ _))
      obtain ⟨same, ⟨-, ended, -⟩ | ⟨ends, working, delay, unwritten, -, quiet⟩⟩ :=
        yields.outage earlier faulty
      · cases ended
      rw [ends] at same again
      have outlasts := tried.outlasts same
      refine ⟨fun _ => ⟨?_, again, ?_⟩, fun not => absurd outlasts not⟩
      · have alike : Unwritten engine.recovered working :=
          ⟨unwritten.postpones, unwritten.indices, unwritten.rejected⟩
        rw [bulk_of_over Outage.over_none, (Aside.unwritten quiet).indices]
        exact (alike.writeAll plan.operations 0).indices
      · intro failure hf
        rw [published, JobCourse.reports, JobCourse.hidden, List.append_nil] at hf
        split at hf
        · cases hf
        · rw [List.mem_singleton.mp hf]
          rintro ⟨⟩

/-- A job does not get stuck during an outage that the policy bears. -/
theorem Yields.not_stuck (lax : writer.strict = false)
    (bears : writer.bulkPolicy.Bears outage) (faulty : engine.Refuses outage)
    (yields : engine.Yields transcript.answers last) :
    ¬ writer.Stuck plan transcript.answers := by
  intro stuck
  obtain ⟨error, times⟩ := outage
  obtain ⟨calls, answers, reports⟩ := transcript
  dsimp only at stuck yields
  cases stuck with
  | refresh strict => rw [lax] at strict; cases strict
  | @bulk errors stuck =>
    obtain ⟨failed, passing, within, missing⟩ := stuck
    obtain ⟨earlier, error', rfl⟩ := (List.eq_nil_or_concat' errors).resolve_left failed
    rw [← heard_error, ← List.append_nil (heard _ _ _)] at yields
    obtain ⟨-, ⟨left, ended, -⟩ | ⟨-, _, _, -, ended, -⟩⟩ := yields.outage earlier faulty
    · cases ended
      have there := bears (passing error (by simp)) (earlier.length + 1) (Nat.succ_pos _) left
        (by simpa using within)
      rw [List.length_append, List.length_singleton] at missing
      rw [missing] at there
      cases there
    · cases ended

end MemoryEngine

/-! ## Runs -/

namespace Session

variable {session : Session} {number : Nat} {host : HostedQueue} {engine : MemoryEngine}

/-- **A bulk request that fails for a while** is written once or not at all. If the attempts outlast
the outage then the engine ends as without it, and otherwise as it was, with one failure that tells of
all items; either way it receives nothing but the same request again and again. The writer completes
the job by itself if there is a delay before every attempt. -/
theorem outlasted_or_unavailing {job : Job} {queue : Queue} {outage : Outage}
    (hosted : session.queues[number]? = some host) (free : host.job = none)
    (route : host.route = .engine) (memory : session.engine = some engine)
    (unscripted : session.outcomes = []) (next : host.queue.startNext = some (job, queue))
    (lax : host.writer.strict = false) (filled : job.items ≠ [])
    (known : ∀ item ∈ job.items, (session.resolver host.schema).Knows item)
    (faulty : engine.Refuses outage) :
    (host.writer.bulkPolicy.Bears outage → ∃ steps moments later,
      session.play? (.start number :: List.replicate steps (.write number)) = some moments ∧
        (session.last moments).after? (.finish number) = some later) ∧
    ∀ (events : List SessionEvent) (moments : List Moment) (later : Session),
      session.play? (.start number :: events) = some moments → .finish number ∉ events →
      (∀ moment ∈ moments, moment.Aside number) →
      (session.last moments).after? (.finish number) = some later →
        ∃ last, (session.last moments).engine = some last ∧
          (host.writer.bulkPolicy.Outlasts outage →
            engine.Outlasted
              (BulkPlan.ofItems (session.resolver host.schema) job.items).operations outage
              (Moment.publishedIn moments number) last) ∧
          (¬ host.writer.bulkPolicy.Outlasts outage →
            engine.Unavailing
              (BulkPlan.ofItems (session.resolver host.schema) job.items).operations job.items
              outage.error (host.writer.bulkPolicy.vainAttempts outage)
              (Moment.publishedIn moments number) last) := by
  refine ⟨fun bears => ?_, fun events moments later run unfinished aside finish => ?_⟩
  · obtain ⟨steps, moments, run, ends⟩ :=
      exists_play_of_startNext hosted free route memory unscripted next
    rcases ends with ⟨later, finish⟩ | stuck
    · exact ⟨steps, moments, later, run, finish⟩
    obtain ⟨last, -, yields, -⟩ := yields_of_start hosted route memory unscripted next run
      (finish_not_mem_writes number steps) (aside_of_writes run)
    exact absurd stuck (yields.not_stuck lax bears faulty)
  · obtain ⟨course, conducted⟩ := conducted_of_finish hosted next run unfinished finish
    obtain ⟨last, hl, yields, received⟩ :=
      yields_of_start hosted route memory unscripted next run unfinished aside
    rw [← Moment.published_transcriptIn]
    refine ⟨last, hl, yields.end_of_outage conducted ?_ ?_ lax faulty received⟩
    · exact BulkPlan.isEmpty_entries_ofItems filled known
    · rw [BulkPlan.dropped, BulkPlan.unresolved_ofItems known]
      rfl

/-! ## Two requests that are refused -/

/-- Two documents are written, and one is removed. -/
def flakyItems : List WorkItem := [.add "A" "1", .delete "A" "2", .add "A" "3"]

/-- A queue whose writer is about to take the items. -/
def flakyQueue : HostedQueue :=
  { hostQueue {} .shared .engine with
    queue := { Queue.start {} with waiting := [⟨0, flakyItems, true⟩], inFlight := 1, nextJob := 1 } }

/-- An engine that refuses two requests. -/
def flakyEngine : MemoryEngine := { faults := { bulkOutage := some ⟨.connection "x", 2⟩ } }

/-- A session with the queue and the engine. -/
def flakySession : Session where
  engine := some flakyEngine
  registry := .registerAll {} [⟨"A", "main", "id", .numeric, []⟩]
  queues := [flakyQueue]

theorem flakyRun_isSome :
    (flakySession.play? (.start 0 :: List.replicate 14 (.write 0))).isSome = true := by
  decide +kernel

/-- The moments until the job is completed. -/
def flakyMoments : List Moment :=
  (flakySession.play? (.start 0 :: List.replicate 14 (.write 0))).get flakyRun_isSome

theorem flakyFinish_isSome :
    ((flakySession.last flakyMoments).after? (.finish 0)).isSome = true := by
  decide +kernel

/-- The third request is taken. -/
theorem outlasted_or_unavailing_flaky :
    (∃ steps moments later,
      flakySession.play? (.start 0 :: List.replicate steps (.write 0)) = some moments ∧
        (flakySession.last moments).after? (.finish 0) = some later) ∧
    ∃ last, (flakySession.last flakyMoments).engine = some last ∧
      last.bulkRequests.length = 3 ∧ (last.documents "main").map (·.id) = ["1", "3"] := by
  have run := (Option.some_get flakyRun_isSome).symm
  obtain ⟨later, finish⟩ := Option.isSome_iff_exists.mp flakyFinish_isSome
  have known : ∀ item ∈ flakyItems, (flakySession.resolver flakyQueue.schema).Knows item := by
    intro item hm
    have of : item.entityType = "A" := by
      simp only [flakyItems, List.mem_cons, List.not_mem_nil, or_false] at hm
      rcases hm with rfl | rfl | rfl <;> rfl
    exact ⟨⟨"A", "main", "id", .numeric, []⟩, by rw [of]; rfl⟩
  obtain ⟨completes, ends⟩ := @outlasted_or_unavailing flakySession 0 flakyQueue flakyEngine
    ⟨0, flakyItems, true⟩ _ ⟨.connection "x", 2⟩ rfl rfl rfl rfl rfl rfl rfl nofun known (.inl rfl)
  refine ⟨completes ?_, ?_⟩
  · intro _ retry positive within _
    obtain rfl | rfl : retry = 1 ∨ retry = 2 := by
      dsimp only at within
      omega
    · decide +kernel
    · decide +kernel
  · obtain ⟨last, hl, outlasted, -⟩ := ends _ _ later run (finish_not_mem_writes 0 14)
      (aside_of_writes run) finish
    obtain ⟨indices, received, -⟩ := outlasted (.inr ⟨rfl, by decide⟩)
    refine ⟨last, hl, ?_, ?_⟩
    · rw [received]
      rfl
    · rw [MemoryEngine.documents, indices]
      rfl

/-! ## A delay that is missing -/

/-- A session whose engine refuses eleven requests, with a queue that would send twelve. -/
def unborneSession : Session :=
  { patientSession with
    engine := some { faults := { bulkOutage := some ⟨.connection "x", 11⟩ } } }

theorem unborneRun_isSome : (unborneSession.play? patientRun).isSome = true := by decide +kernel

/-- The moments until the writer has broken down. -/
def unborneMoments : List Moment := (unborneSession.play? patientRun).get unborneRun_isSome

/-- A job need not be written although the last attempt would outlast the outage. -/
theorem not_outlasted_or_unavailing :
    ¬ ∀ (session : Session) (number : Nat) (host : HostedQueue) (engine : MemoryEngine) (job : Job)
        (queue : Queue) (outage : Outage) (events : List SessionEvent) (moments : List Moment),
      session.queues[number]? = some host → host.route = .engine → session.engine = some engine →
      session.outcomes = [] → host.queue.startNext = some (job, queue) →
      host.writer.strict = false → job.items ≠ [] →
      (∀ item ∈ job.items, (session.resolver host.schema).Knows item) →
      engine.faults.bulkOutage = some outage → host.writer.bulkPolicy.Outlasts outage →
      session.play? (.start number :: events) = some moments →
      (∀ event ∈ SessionEvent.start number :: events, event.writer? = some number) →
      (∃ last, (session.last moments).queues[number]? = some last ∧ last.job.isNone = true) →
        ∃ last, (session.last moments).engine = some last ∧
          engine.Outlasted (BulkPlan.ofItems (session.resolver host.schema) job.items).operations
            outage (Moment.publishedIn moments number) last := by
  intro claim
  have ended : ((unborneSession.last unborneMoments).queues[0]?.any fun host =>
      host.job.isNone) = true := by decide +kernel
  have attempted : ((unborneSession.last unborneMoments).engine.map fun engine =>
      engine.bulkRequests.length) = some 11 := by decide +kernel
  have own : ∀ event ∈ patientRun, event.writer? = some 0 := by decide
  have known : ∀ item ∈ [WorkItem.add "A" "1"],
      (unborneSession.resolver patientQueue.schema).Knows item := by
    intro item hm
    rw [List.mem_singleton.mp hm]
    exact ⟨⟨"A", "main", "id", .string, []⟩, rfl⟩
  obtain ⟨last, hl, ends⟩ := claim unborneSession 0 patientQueue _ _ _ ⟨.connection "x", 11⟩ _
    unborneMoments rfl rfl rfl rfl rfl rfl nofun known rfl (.inr ⟨rfl, by decide⟩)
    (Option.some_get unborneRun_isSome).symm own ((Option.any_eq_true _ _).mp ended)
  rw [hl, Option.map_some, ends.received] at attempted
  cases attempted

end Session

end EntitySearch
