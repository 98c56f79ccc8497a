import EntitySearch.Proofs.Session.Reporting

/-!
# Failures and outcomes of completed jobs

A caller who waits for a job is told how it ended, and all failures of the job are on the channel of
its queue. The two agree, whatever the engine answers: the job ends well exactly if nothing is
published of it but that some of its items have no operation. What is published says which items
are not written, apart from one thing: a failure of the whole request, or of making it visible, lists
all items of the job, so also those that another report lists as rejected.

* `Moment.Tells`: that an outcome agrees with what is published of a job.
* `Session.outcome_iff_published`: outcomes of jobs and of calls that wait for them.
* `Moment.Truthful`: what can be relied on in what is published of a job.
* `Session.truthful_of_completes`: the failures of a job on an engine in memory.
-/

namespace EntitySearch

namespace Session

variable {session : Session} {number : Nat} {host : HostedQueue} {events : List SessionEvent}
  {moments : List Moment} {assumed : List Operation → BulkResponse → Prop}

/-! ## Calls -/

theorem queue_of_request {request : SystemRequest} {moment : Moment} {own own' : HostedQueue}
    (turn : own.Turn number moment own') (event : moment.event = .request request) :
    own'.queue = own.queue.run (moment.stepsOn number own) := by
  cases turn with
  | elsewhere steps => exact steps.queue
  | request other => cases event.symm.trans other
  | start other => cases event.symm.trans other
  | finish other => cases event.symm.trans other
  | breakDown other => cases event.symm.trans other

/-- The reply to the step of a call that cuts a job: if the call waits for what it cuts, then it is
the number of this job. -/
theorem reply_of_cut {call : QueueCall} {first : Moment} {waits : List Moment}
    {reply : Except BridgeError (Option Nat)} {result : Except BridgeError Unit} {job : Job}
    (returns : call.Returns number first waits reply result) (cut : first.Cuts number job)
    {own own' : HostedQueue} (hosted : first.before.queues[number]? = some own)
    (hosted' : first.after.queues[number]? = some own') (turn : own.Turn number first own')
    (strict : call.action.waits own.queue.strict = true) : reply = .ok (some job.number) := by
  have made : first.request? = some (.queue number (.perform call.action)) := by
    rw [Moment.request?, returns.event]
  have one : first.stepsOn number own =
      [.perform (first.before.resolver own.schema) first.before.batchClock call.action] := by
    rw [Moment.stepsOn, made]
    exact if_pos rfl
  have queue := queue_of_request turn returns.event
  rw [one] at queue
  change own'.queue = (own.queue.perform (first.before.resolver own.schema) first.before.batchClock
    call.action).queue at queue
  obtain ⟨cuts, hc⟩ := own.queue.perform_cuts (first.before.resolver own.schema)
    first.before.batchClock call.action
  have only : cuts = [job] := by
    rw [Moment.Cuts, waiting, waiting, hosted, hosted'] at cut
    have hw := hc.waiting
    rw [← queue] at hw
    exact List.append_cancel_left (hw.symm.trans cut)
  subst only
  have answer : (first.before.perform number call.action).1 = reply :=
    congrArg Prod.fst (Option.some.inj returns.served)
  have ended := hc.result job (List.mem_singleton_self job)
  rw [strict, if_pos rfl] at ended
  rw [← answer, perform, hosted]
  exact ended

/-- A caller who is told how a job has ended is told the truth, or that the writer has broken down. -/
theorem completed_of_told {moment : Moment} {job : Nat} {outcome : Except BridgeError Unit}
    {later : Session} {own : HostedQueue} (hosted : moment.before.queues[number]? = some own)
    (told : moment.before.serve? (.queue number (.outcome job)) = some (outcome, later)) :
    (∃ other, other.number = job ∧ (other, outcome) ∈ moment.before.completed number) ∨
      outcome = .error .queueStopped ∧ own.queue.writerGone = true := by
  change moment.before.serveQueue? number (.outcome job) = _ at told
  simp only [serveQueue?, hosted] at told
  obtain ⟨answer, answered, same⟩ := Option.map_eq_some_iff.mp told
  cases same
  unfold Queue.outcome? at answered
  split at answered
  · next other own hf =>
    cases answered
    refine .inl ⟨other, by simpa using List.find?_some hf, ?_⟩
    rw [completed, hosted]
    exact List.mem_of_find?_eq_some hf
  · split at answered
    · next gone =>
      cases answered
      exact .inr ⟨rfl, gone⟩
    · cases answered

/-- A call that cuts a job and waits for what it cuts ends as the job does, unless the writer breaks
down. -/
theorem ended_of_returned {last : HostedQueue}
    (known : (session.last moments).Hosts number host last assumed moments)
    (each : ∀ moment ∈ moments, KnownAt moments number host assumed moment)
    {call : QueueCall} {own : List Moment} (course : own.Sublist moments)
    {result : Except BridgeError Unit}
    (returned : (call.procedure.expand (System.queueing number)).CarriedOut own result)
    (waits : call.action.waits host.queue.strict = true) {job : Job}
    (cut : ∃ moment ∈ own, moment.Cuts number job) :
    (∃ resolver, Moment.TakesJob moments number job resolver ∧
      HostedQueue.Ended assumed resolver job.items result
        (Moment.ledger moments number job.number)) ∨
      result = .error .queueStopped ∧ ∃ moment ∈ moments, moment.event = .breakDown number := by
  obtain ⟨first, rest, reply, rfl, returns⟩ := QueueCall.returns_of_carriedOut call returned
  have atFirst : first.Cuts number job := by
    obtain ⟨moment, hm, hc⟩ := cut
    rcases List.mem_cons.mp hm with rfl | hm
    · exact hc
    · -- a wait cuts nothing
      rw [Moment.Cuts, returns.idle moment hm] at hc
      cases List.append_right_eq_self.mp hc.symm
  have inRun : ∀ moment ∈ first :: rest, moment ∈ moments := fun _ hm => course.subset hm
  obtain ⟨begun, begun', _, -, before, hosted', turn⟩ := each first (inRun first List.mem_cons_self)
  have answer := reply_of_cut returns atFirst before.queue hosted' turn (before.strict ▸ waits)
  obtain ⟨wait, hw, told⟩ := returns.awaited job.number answer
  have there := inRun wait (List.mem_cons_of_mem _ hw)
  obtain ⟨waiting, -, earlier, past, atWait, -⟩ := each wait there
  rcases completed_of_told atWait.queue told with ⟨other, same, completed⟩ | ⟨stopped, gone⟩
  · refine .inl ?_
    have done := known.records.lasting wait there _ (.inl completed)
    have unique := (known.records.cut first (inRun first List.mem_cons_self) job atFirst).2
    have inJobs : other ∈ last.queue.jobs :=
      List.mem_append_left _ (List.mem_append_left _ (List.mem_map_of_mem done))
    cases unique other inJobs same
    exact known.records.ended _ done
  · obtain ⟨moment, hm, event⟩ := atWait.records.gone gone
    exact .inr ⟨stopped, moment, past.subset hm, event⟩

end Session

/-! ## Outcomes -/

/-- An outcome of a job agrees with what is published of it: it is that all went well exactly if nothing
is published but the report of items without an operation, and otherwise it is one of the failures. -/
def Moment.Tells (moments : List Moment) (number : Nat) (job : Job)
    (outcome : Except BridgeError Unit) : Prop :=
  ∃ resolver, TakesJob moments number job resolver ∧
    (outcome = .ok () ↔ publishedIn (during moments number job.number) number =
      (BulkPlan.ofItems resolver job.items).dropped) ∧
    ∀ cause, outcome = .error cause →
      ∃ failure ∈ publishedIn (during moments number job.number) number, failure.error = cause

theorem Moment.tells_of_ended {moments : List Moment} {number : Nat} {job : Job}
    {outcome : Except BridgeError Unit} {assumed : List Operation → BulkResponse → Prop}
    (h : ∃ resolver, TakesJob moments number job resolver ∧
      HostedQueue.Ended assumed resolver job.items outcome (ledger moments number job.number)) :
    Tells moments number job outcome := by
  obtain ⟨resolver, taken, course, follows, rfl⟩ := h
  have published := follows.published
  rw [ledger] at published
  dsimp only at published
  refine ⟨resolver, taken, ?_, fun cause failed => ?_⟩
  · rw [BulkFailure.ending_eq_ok, published, List.append_right_eq_self]
  · rw [published]
    unfold BulkFailure.ending at failed
    split at failed
    · next failure last =>
      cases failed
      exact ⟨failure, List.mem_append_right _ (List.mem_of_getLast? last), rfl⟩
    · cases failed

theorem SystemRequest.honest_of_any (request : SystemRequest) (reply : System.Reply request) :
    request.Honest (fun _ _ => True) reply := by
  unfold Honest
  split <;> trivial

namespace Session

variable {session : Session} {number : Nat} {host : HostedQueue} {events : List SessionEvent}
  {moments : List Moment}

/-- **What callers are told.** Whatever the engine answers and whatever entity types are unknown by
then, every job that the writer of a queue completes ends well exactly if nothing is published of it
but the report of its items without an operation. A caller who has cut the job and waits for it is told
how it has ended, unless the writer has broken down. -/
theorem outcome_iff_published (hosted : session.queues[number]? = some host) (fresh : host.Fresh)
    (run : session.play? events = some moments) :
    (∀ moment ∈ moments, ∀ job outcome, moment.Completes number job outcome →
      Moment.Tells moments number job outcome) ∧
    ∀ (call : QueueCall) (own : List Moment) (result : Except BridgeError Unit) (job : Job),
      own.Sublist moments →
      (call.procedure.expand (System.queueing number)).CarriedOut own result →
      call.action.waits host.queue.strict = true →
      (∃ moment ∈ own, moment.Cuts number job) →
        Moment.Tells moments number job result ∨
          result = .error .queueStopped ∧ ∃ moment ∈ moments, moment.event = .breakDown number := by
  obtain ⟨⟨last, known⟩, each⟩ := @records_of_run session number host (fun _ _ => True) events
    moments (fun _ => True) (fun _ _ => trivial)
    (fun _ _ _ => SystemRequest.honest_of_any _ _) hosted fresh trivial run
  refine ⟨fun moment hm job outcome completes =>
    Moment.tells_of_ended (ended_of_completes known hm completes), ?_⟩
  intro call own result job course returned waits cut
  exact (ended_of_returned known (fun moment hm => (each moment hm).2) course returned waits
    cut).imp_left Moment.tells_of_ended

/-! ### An item whose entity type is lost -/

/-- A queue with an item that waits for a batch. -/
def lapsedQueue : HostedQueue :=
  { hostQueue {} .shared .engine with
    queue := { Queue.start {} with pending := ((Queue.start {}).pending.push .zero (.add "A" "1")).1 } }

/-- A session whose schema does not know the entity type of the item any more. -/
def lapsedSession : Session where
  queues := [lapsedQueue]

/-- A caller flushes the queue and waits for the job. -/
def lapsedRun : List SessionEvent :=
  [.request (.queue 0 (.perform .flushAndWait)), .start 0, .write 0, .write 0, .finish 0,
    .request (.queue 0 (.outcome 0))]

theorem lapsedRun_isSome : (lapsedSession.play? lapsedRun).isSome = true := rfl

/-- The moments of the run. -/
def lapsedMoments : List Moment := (lapsedSession.play? lapsedRun).get lapsedRun_isSome

/-- The job that is cut. -/
def lapsedJob : Job := ⟨0, [.add "A" "1"], true⟩

/-- Whether a caller makes a step or waits at a moment. -/
def isOfCaller (moment : Moment) : Bool :=
  match moment.event with
  | .request _ => true
  | _ => false

theorem fresh_lapsedQueue : lapsedQueue.Fresh :=
  ⟨⟨List.Pairwise.nil, List.forall_mem_nil _⟩, rfl, rfl, rfl, rfl⟩

/-- The caller is told that all went well. -/
theorem outcome_iff_published_lapsed : Moment.Tells lapsedMoments 0 lapsedJob (.ok ()) := by
  have returned : (QueueCall.flushAndWait.procedure.expand (System.queueing 0)).CarriedOut
      (lapsedMoments.filter isOfCaller) (.ok ()) := .ask rfl rfl (.ask rfl rfl (.done _))
  have cut : ∃ moment ∈ lapsedMoments.filter isOfCaller, moment.Cuts 0 lapsedJob :=
    ⟨lapsedMoments.get ⟨0, by decide⟩, .head _, rfl⟩
  obtain ⟨-, calls⟩ := @outcome_iff_published lapsedSession 0 lapsedQueue lapsedRun lapsedMoments rfl
    fresh_lapsedQueue (Option.some_get lapsedRun_isSome).symm
  exact (calls .flushAndWait _ _ lapsedJob List.filter_sublist returned rfl cut).resolve_right
    fun stopped => nomatch stopped.1

/-- A job may end well although a failure of it is published. -/
theorem not_outcome_iff_published :
    ¬ ∀ (session : Session) (number : Nat) (host : HostedQueue) (events : List SessionEvent)
        (moments : List Moment), session.queues[number]? = some host → host.Fresh →
      session.play? events = some moments →
      ∀ moment ∈ moments, ∀ job outcome, moment.Completes number job outcome →
        (outcome = .ok () ↔
          Moment.publishedIn (Moment.during moments number job.number) number = []) := by
  intro claim
  have silent := (claim lapsedSession 0 lapsedQueue lapsedRun lapsedMoments rfl fresh_lapsedQueue
    (Option.some_get lapsedRun_isSome).symm (lapsedMoments.get ⟨4, by decide⟩)
    (List.get_mem _ _) lapsedJob (.ok ()) ⟨rfl, rfl⟩).mp rfl
  have loud : (Moment.publishedIn (Moment.during lapsedMoments 0 lapsedJob.number) 0).length = 1 :=
    rfl
  rw [silent] at loud
  cases loud

end Session

/-! ## Reports -/

/-- What can be relied on in what is published of a job, with the operations of its items. -/
structure Moment.Truthful (moments : List Moment) (number : Nat) (job : Job) (resolver : Resolver) :
    Prop where
  /-- The items that are reported as not visible are written, unless they are reported as rejected. -/
  refresh : ∀ failure ∈ publishedIn (during moments number job.number) number,
    failure.kind = .refresh → ∀ item ∈ failure.items,
      ((∃ operation, resolver.operation? item = some operation ∧
          operation ∈ acknowledgedIn (during moments number job.number) number) ↔
        ∀ other ∈ publishedIn (during moments number job.number) number,
          other.kind = .rejected → item ∉ other.items)
  /-- No position is listed twice, apart from one last failure that lists all of them. -/
  parts : ∃ single whole,
    publishedIn (during moments number job.number) number = single ++ whole ∧
      BulkFailure.Distinct job.items single ∧ (∀ failure ∈ single, failure.kind = .rejected) ∧
      whole.length ≤ 1 ∧ ∀ failure ∈ whole, failure.kind ≠ .rejected ∧ failure.items = job.items

namespace Session

variable {session : Session} {number : Nat} {host : HostedQueue} {events : List SessionEvent}
  {moments : List Moment}

/-- **What is published of a job.** The engine is held in memory, and anything may be made to go wrong
in it at any time. Of every job that the writer of a queue completes, the items that are reported as
written but not visible are those that the engine has written and those that another report lists as
rejected; and the reports of rejected items list no position of the job twice, while one more failure
lists all of them. -/
theorem truthful_of_completes (hosted : session.queues[number]? = some host)
    (route : host.route = .engine) (memory : session.InMemory) (fresh : host.Fresh)
    (run : session.play? events = some moments) :
    (∀ moment ∈ moments, moment.event = .write number → moment.Accurate number) ∧
      ∀ moment ∈ moments, ∀ job outcome, moment.Completes number job outcome →
        ∃ resolver, Moment.TakesJob moments number job resolver ∧
          Moment.Truthful moments number job resolver := by
  have honest : ∀ {before : Session} {planned request reply served}, before.InMemory →
      request.OfWriter host.route number planned → before.serve? request = some (reply, served) →
        request.Honest BulkResponse.OneByOne reply := by
    intro before planned request reply served inMemory permitted serves
    obtain ⟨engine, he⟩ := inMemory.memory
    obtain ⟨-, -, -, engine', -, hserves⟩ := serve?_engine he inMemory.unscripted serves
    exact MemoryEngine.honest_of_serves MemoryEngine.oneByOne_bulk (route ▸ permitted) hserves
  obtain ⟨⟨last, known⟩, each⟩ := records_of_run (fun inMemory ha => inMemory.after ha) honest hosted
    fresh memory run
  refine ⟨fun moment hm event => ?_, fun moment hm job outcome completes => ?_⟩
  · obtain ⟨inMemory, own, own', earlier, -, before, -, turn⟩ := each moment hm
    obtain ⟨planned, permits⟩ := before.records.permits
    exact accurate_of_turn before.queue permits (before.route.trans route) inMemory turn event
  · obtain ⟨resolver, taken, course, follows, -⟩ := ended_of_completes known hm completes
    exact ⟨resolver, taken, fun failure published kind item listed =>
      follows.acknowledged_iff published kind listed, follows.parts⟩

/-! ### Items with different fates -/

/-- A strict queue whose writer is about to take three items. -/
def blockedQueue : HostedQueue :=
  { hostQueue { strict := true } .shared .engine with
    queue := { Queue.start { strict := true } with
      waiting := [⟨0, mixedItems, true⟩]
      inFlight := 1
      nextJob := 1 } }

/-- A session with the queue, whose engine rejects one document and does not refresh. -/
def blockedSession : Session where
  engine := some { faults :=
    { rejected := ["3"], refreshOutage := some ⟨.status 400 "refresh blocked", 1⟩ } }
  registry := .registerAll {} [⟨"A", "main", "id", .numeric, []⟩]
  queues := [blockedQueue]

/-- The writer completes the job. -/
def blockedRun : List SessionEvent := .start 0 :: List.replicate 14 (.write 0) ++ [.finish 0]

theorem blockedRun_isSome : (blockedSession.play? blockedRun).isSome = true := rfl

/-- The moments of the run. -/
def blockedMoments : List Moment := (blockedSession.play? blockedRun).get blockedRun_isSome

theorem fresh_blockedQueue : blockedQueue.Fresh :=
  ⟨⟨List.pairwise_singleton _ _, List.forall_mem_singleton.mpr Nat.one_pos⟩, rfl, rfl, rfl, rfl⟩

/-- How the job ends. -/
def blockedOutcome : Except BridgeError Unit :=
  .error (.refresh 1 "engine returned HTTP 400: refresh blocked")

theorem completes_blocked : (blockedMoments.get ⟨15, by decide⟩).Completes 0 ⟨0, mixedItems, true⟩
    blockedOutcome := ⟨rfl, rfl⟩

/-- Three failures are published, the last of which lists all items. -/
theorem truthful_of_completes_blocked :
    ((Moment.publishedIn (Moment.during blockedMoments 0 0) 0).map fun failure =>
      (failure.kind, failure.items.map (·.id))) =
        [(.rejected, ["2"]), (.rejected, ["3"]), (.refresh, ["1", "2", "3"])] ∧
      ∃ resolver, Moment.TakesJob blockedMoments 0 ⟨0, mixedItems, true⟩ resolver ∧
        Moment.Truthful blockedMoments 0 ⟨0, mixedItems, true⟩ resolver := by
  obtain ⟨-, truthful⟩ := @truthful_of_completes blockedSession 0 blockedQueue blockedRun
    blockedMoments rfl rfl ⟨⟨_, rfl⟩, rfl⟩ fresh_blockedQueue
    (Option.some_get blockedRun_isSome).symm
  exact ⟨rfl, truthful _ (List.get_mem _ _) _ _ completes_blocked⟩

/-- An item may be reported as written but not visible although it was not written. -/
theorem not_truthful_of_completes :
    ¬ ∀ (session : Session) (number : Nat) (host : HostedQueue) (events : List SessionEvent)
        (moments : List Moment), session.queues[number]? = some host → host.route = .engine →
      session.InMemory → host.Fresh → session.play? events = some moments →
      ∀ moment ∈ moments, ∀ job outcome, moment.Completes number job outcome →
        (∃ resolver, Moment.TakesJob moments number job resolver ∧
          ∀ failure ∈ Moment.publishedIn (Moment.during moments number job.number) number,
            failure.kind = .refresh → ∀ item ∈ failure.items,
              ∃ operation, resolver.operation? item = some operation ∧ operation ∈
                Moment.acknowledgedIn (Moment.during moments number job.number) number) ∧
          BulkFailure.Distinct job.items
            (Moment.publishedIn (Moment.during moments number job.number) number) := by
  intro claim
  obtain ⟨⟨resolver, -, written⟩, -⟩ := claim blockedSession 0 blockedQueue blockedRun blockedMoments
    rfl rfl ⟨⟨_, rfl⟩, rfl⟩ fresh_blockedQueue (Option.some_get blockedRun_isSome).symm _
    (List.get_mem _ _) _ _ completes_blocked
  have only : (Moment.acknowledgedIn (Moment.during blockedMoments 0 0) 0).map (·.id) = ["1"] := rfl
  obtain ⟨operation, own, acknowledged⟩ := written _ (List.mem_of_getElem? (i := 2) rfl) rfl
    (.add "A" "3") (List.mem_of_getElem? (i := 2) rfl)
  have hid := List.mem_map_of_mem (f := (·.id)) acknowledged
  rw [only, List.mem_singleton] at hid
  rw [Resolver.id_of_operation? own] at hid
  exact absurd hid (by decide)

end Session

end EntitySearch
