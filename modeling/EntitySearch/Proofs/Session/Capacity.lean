import EntitySearch.Proofs.Queue.Capacity
import EntitySearch.Proofs.Session.Speaking
import EntitySearch.Proofs.Session.Transcribed

/-!
# Batches stay small

However callers, timers and writers take turns in a session, nobody sees a full batch in a queue, no
job is larger than a batch, and no bulk request is sent for nothing or for more than a batch.

* `SystemRequest.Fills`: what a task may send to the engine; `System.writing_asks`.
* `HostedQueue.Within`, `HostedQueue.Turn.within`: a queue with the rest of its job, step by step.
* `Session.within_of_run`: a queue in a run.
* `Session.batches_bounded`: the main result.
-/

namespace EntitySearch

/-! ## The requests of a writer -/

/-- Whether a request sends only such bulk requests to the engine as write something, and no more
than a given number of operations. -/
def SystemRequest.Fills (n : Nat) (request : SystemRequest) : Prop :=
  ∀ call ∈ request.sent, call.Filled n

/-- A session sends for a job what the job asks for. -/
theorem System.writing_asks {n : Nat} (route : Route) (number : Nat) {request : Writing.Request}
    (filled : Writing.Fills n request) :
    (System.writing route number request).Asks (SystemRequest.Fills n) fun _ => True := by
  have quiet : ∀ request : SystemRequest, request.sent = [] → request.Fills n := by
    intro request none call sent
    rw [none] at sent
    cases sent
  have waits : ∀ request : SystemRequest, request.Waits → request.Fills n := by
    intro request waits
    cases request <;> first | exact quiet _ rfl | exact waits.elim
  cases request with
  | inr failure => exact ⟨quiet (.publish number failure) rfl, fun _ => trivial⟩
  | inl request =>
    refine asks_link waits ?_
    cases request with
    | call call | callWithin limit call => exact List.forall_mem_singleton.mpr filled
    | _ => exact quiet _ rfl

/-! ## A queue from moment to moment -/

namespace HostedQueue

variable {number : Nat} {moment : Moment} {host host' : HostedQueue} {limits : BatchLimits}

/-- Whether the batches of a queue, and what is left to send for its job, are small enough. -/
structure Within (host : HostedQueue) (limits : BatchLimits) : Prop where
  queue : host.queue.Within limits
  job : ∀ rest, host.job = some (.waiting rest) →
    rest.Asks (SystemRequest.Fills limits.capacity) fun _ => True

theorem Within.steps (h : host.Within limits)
    (same : host'.queue = host.queue.run (moment.stepsOn number host)) :
    host'.queue.Within limits := by
  rw [same]
  rcases moment.stepsOn_cases number host with idle | ⟨action, -, one⟩
  · rw [idle]
    exact h.queue
  · rw [one]
    exact h.queue.perform _ _ action

/-- **A moment of a run** keeps the batches of a queue small, and what its writer sends then is so,
too. -/
theorem Turn.within (turn : host.Turn number moment host') (h : host.Within limits) :
    host'.Within limits ∧
      ∀ call ∈ (moment.transcript number).sent, call.Filled limits.capacity := by
  have silent : moment.written? number = none →
      ∀ call ∈ (moment.transcript number).sent, call.Filled limits.capacity := by
    intro unwritten
    rw [Moment.transcript_of_none unwritten]
    exact List.forall_mem_nil _
  cases turn with
  | elsewhere steps foreign unwritten =>
    exact ⟨⟨h.steps steps.queue, steps.job ▸ h.job⟩, silent unwritten⟩
  | request event made before serves later steps after written =>
    obtain ⟨allowed, next⟩ := h.job _ before
    refine ⟨⟨h.steps steps.queue, fun rest hr => ?_⟩, ?_⟩
    · rw [after] at hr
      cases hr
      exact next _
    · rw [Moment.transcript_of_written written]
      exact allowed
  | start event free next same =>
    obtain ⟨within, own⟩ := h.queue.startNext next
    refine ⟨⟨same ▸ within, fun rest hr => ?_⟩, silent (by rw [Moment.written?, event])⟩
    rw [same] at hr
    cases hr
    exact Procedure.Asks.expand (fun request => System.writing_asks host.route number)
      (host.writer.write_asks_filled _ (h.queue.jobs _ own).1)
  | finish event before same =>
    refine ⟨⟨same ▸ h.queue.finish _, fun rest hr => ?_⟩, silent (by rw [Moment.written?, event])⟩
    rw [same] at hr
    cases hr
  | breakDown event before same =>
    refine ⟨⟨same ▸ h.queue.breakDown, fun rest hr => ?_⟩, silent (by rw [Moment.written?, event])⟩
    rw [same] at hr
    cases hr

end HostedQueue

/-! ## Main result -/

theorem Moment.mem_sent_transcriptIn {call : Call} {moments : List Moment} {number : Nat} :
    call ∈ (transcriptIn moments number).sent ↔
      ∃ moment ∈ moments, call ∈ (moment.transcript number).sent := by
  induction moments with
  | nil => exact ⟨nofun, fun ⟨_, hm, _⟩ => absurd hm List.not_mem_nil⟩
  | cons moment rest ih =>
    rw [transcriptIn, List.foldr_cons, Transcript.sent_append, List.mem_append, ← transcriptIn, ih,
      List.exists_mem_cons_iff]

namespace Session

variable {session : Session} {number : Nat} {settings : QueueSettings} {schema : SchemaSource}
  {route : Route} {events : List SessionEvent} {moments : List Moment}

/-- The batches of a queue are small enough after every run, and so is all that is sent in it. -/
theorem within_of_run (hosted : session.queues[number]? = some (hostQueue settings schema route))
    (run : session.play? events = some moments) :
    ∃ host, (session.last moments).queues[number]? = some host ∧ host.Within settings.limits ∧
      ∀ call ∈ (Moment.transcriptIn moments number).sent,
        call.Filled settings.limits.capacity := by
  simp only [Moment.mem_sent_transcriptIn]
  refine queue_induction (motive := fun host moments => host.Within settings.limits ∧
    ∀ call, (∃ moment ∈ moments, call ∈ (moment.transcript number).sent) →
      call.Filled settings.limits.capacity) hosted run ⟨⟨Queue.within_start settings, nofun⟩, ?_⟩ ?_
  · rintro call ⟨moment, hm, -⟩
    cases hm
  · rintro own own' earlier moment - - - turn ⟨within, filled⟩
    obtain ⟨within, sent⟩ := turn.within within
    refine ⟨within, ?_⟩
    rintro call ⟨other, ho, hc⟩
    rcases List.mem_append.mp ho with ho | ho
    · exact filled call ⟨other, ho, hc⟩
    · rw [List.mem_singleton.mp ho] at hc
      exact sent call hc

/-- **The size of batches.** In a session with a queue, however it is set up and whatever has
happened since the queue was started: fewer items wait than fill a batch; a job with items has no
more than fill a batch; every bulk request of the writer has an operation, and no more than fill a
batch. By the next step a batch is cut for being full exactly if the step takes the last item that
was missing; then all that has waited becomes a job with it, if the writer has not broken down. -/
theorem batches_bounded (hosted : session.queues[number]? = some (hostQueue settings schema route))
    (run : session.play? events = some moments) :
    let capacity := max 1 settings.limits.flushCount
    ∃ host, (session.last moments).queues[number]? = some host ∧
      host.queue.pending.size < capacity ∧
      (∀ job ∈ host.queue.jobs, job.items ≠ [] →
        1 ≤ job.items.length ∧ job.items.length ≤ capacity) ∧
      (∀ operations, .bulk operations ∈ (Moment.transcriptIn moments number).sent →
        operations ≠ [] ∧ operations.length ≤ capacity) ∧
      (∀ resolver now action n,
        .flush FlushReason.count.name n ∈ (host.queue.perform resolver now action).measurements ↔
          n = capacity ∧ host.queue.stopped = false ∧ host.queue.pending.size + 1 = capacity ∧
            ∃ item, action = .enqueue item ∧ resolver.Knows item) ∧
      ∀ resolver now item, resolver.Knows item → host.queue.stopped = false →
        host.queue.pending.size + 1 = capacity → host.queue.writerGone = false →
          let queue := (host.queue.enqueue resolver now item).queue
          queue.pending.items = [] ∧ queue.waiting = host.queue.waiting ++
            [⟨host.queue.nextJob, host.queue.pending.items ++ [item], host.queue.strict⟩] := by
  obtain ⟨host, last, within, sent⟩ := within_of_run hosted run
  refine ⟨host, last, within.queue.few, fun job hj some => ?_, fun operations => sent _,
    fun _ _ _ _ => within.queue.count_iff, fun resolver now item known running full present => ?_⟩
  · exact ⟨List.length_pos_of_ne_nil some, (within.queue.jobs job hj).1⟩
  · obtain ⟨none, waiting⟩ := within.queue.full known running full
    exact ⟨none, waiting present⟩

/-- Two items fill a batch. -/
def byTwo : QueueSettings where
  limits := { flushCount := 2 }

/-- A session with a queue that cuts a batch of two items. -/
def byTwoSession : Session where
  queues := [hostQueue byTwo (.own (.registerAll {} [⟨"A", "main", "id", .string, []⟩])) .engine]

/-- Three items are accepted, and the job of the first two is written. -/
def byTwoRun : List SessionEvent :=
  [.request (.queue 0 (.perform (.enqueue (.add "A" "1")))),
    .request (.queue 0 (.perform (.enqueue (.add "A" "2")))), .start 0, .write 0,
    .request (.queue 0 (.perform (.enqueue (.add "A" "3")))), .write 0, .write 0, .write 0,
    .finish 0]

theorem byTwoRun_isSome : (byTwoSession.play? byTwoRun).isSome = true := rfl

/-- The moments of the run. -/
def byTwoMoments : List Moment := (byTwoSession.play? byTwoRun).get byTwoRun_isSome

/-- The third item waits, and a fourth one fills the next batch. -/
theorem batches_bounded_byTwo :
    ∃ host, (byTwoSession.last byTwoMoments).queues[0]? = some host ∧
      host.queue.pending.size < 2 ∧ (∀ job ∈ host.queue.jobs, job.items.length ≤ 2) ∧
      (∀ operations, .bulk operations ∈ (Moment.transcriptIn byTwoMoments 0).sent →
        operations ≠ []) ∧
      (host.queue.enqueue (byTwoSession.resolver host.schema) .zero (.add "A" "4")).queue.waiting =
        [⟨1, [.add "A" "3", .add "A" "4"], false⟩] := by
  obtain ⟨host, last, few, jobs, sent, -, full⟩ :=
    @batches_bounded byTwoSession 0 byTwo _ _ byTwoRun byTwoMoments rfl
      (Option.some_get byTwoRun_isSome).symm
  refine ⟨host, last, few, fun job hj => ?_, fun operations hs => (sent operations hs).1, ?_⟩
  · by_cases none : job.items = []
    · rw [none]
      exact Nat.zero_le 2
    · exact (jobs job hj none).2
  · cases last
    exact (full _ .zero _ ⟨_, rfl⟩ rfl rfl rfl).2

end Session

end EntitySearch
