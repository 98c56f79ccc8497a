import EntitySearch.Proofs.Queue.Account
import EntitySearch.Proofs.Session.Transcribed

/-!
# Undelivered items are reported

While the writer of a queue is at work on a job, what it publishes and what the engine acknowledges
to it make up the account of the job. An engine in memory acknowledges what it writes, and rejects by
identifier; so when the job is completed its reported items are those that were not written, whatever
was made to go wrong in the engine and whatever became of the schema.

* `Moment.note`: what a moment adds to the account of a job.
* `System.booking`: a session as surroundings that keep the account; `Procedure.Ensures.booked`.
* `HostedQueue.Booked`: that the rest of a job keeps its account; `HostedQueue.Booked.turn`.
* `Session.InMemory`, `Moment.Accurate`: what an account says of an engine in memory.
* `Session.reported_iff_not_acknowledged`: the main result.
-/

namespace EntitySearch

/-! ## A session as surroundings -/

/-- The account after a request. -/
def Account.note (account : Account) (number : Nat) (request : SystemRequest)
    (reply : System.Reply request) : Account where
  acknowledged := account.acknowledged ++ request.acknowledged reply
  undelivered := account.undelivered ++ (request.published number).flatMap (·.undelivered)

namespace Moment

/-- The account after a moment. -/
def note (moment : Moment) (number : Nat) (account : Account) : Account where
  acknowledged := account.acknowledged ++ moment.acknowledged number
  undelivered := account.undelivered ++ (moment.published number).flatMap (·.undelivered)

theorem note_of_written {moment : Moment} {number : Nat} {request : SystemRequest}
    {reply : System.Reply request} (h : moment.written? number = some ⟨request, reply⟩)
    (account : Account) : moment.note number account = account.note number request reply := by
  rw [note, acknowledged, published, h]
  rfl

theorem note_of_none {moment : Moment} {number : Nat} (h : moment.written? number = none)
    (account : Account) : moment.note number account = account := by
  rw [note, acknowledged, published, h]
  simp

end Moment

/-- A session in which the account of a job with some operations is kept. -/
def System.booking (route : Route) (number : Nat) (planned : List Operation)
    (assumed : List Operation → BulkResponse → Prop) : Surroundings System Account where
  answers account request reply after :=
    request.Honest assumed reply ∧ after = account.note number request reply
  others account later := later = account
  permits _ := SystemRequest.OfWriter route number planned
  others_refl _ := rfl
  others_trans h h' := h'.trans h

variable {planned : List Operation} {assumed : List Operation → BulkResponse → Prop}
  {account : Account} {route : Route} {number : Nat}

/-- Whoever keeps a ledger keeps an account. -/
theorem Procedure.Ensures.booked {α : Type} {procedure : Procedure System α}
    {post : α → Account → Prop} {ledger : Ledger}
    (h : procedure.Ensures (System.logging route number planned assumed)
      (fun result later => post result later.account) ledger) :
    procedure.Ensures (System.booking route number planned assumed) post ledger.account := by
  refine h.project Ledger.account ?_ id ?_
  · rintro state _ rfl
    exact ⟨state, rfl, rfl⟩
  · rintro state request reply _ ⟨honest, rfl⟩
    refine ⟨state.note number request reply, ⟨honest, rfl⟩, ?_⟩
    simp only [Ledger.account, Ledger.note, Account.note, List.flatMap_append]

/-! ## The rest of a job -/

/-- Whether the rest of a job keeps its account up to the end of the job. -/
def HostedQueue.Booked (host : HostedQueue) (number : Nat)
    (assumed : List Operation → BulkResponse → Prop) (resolver : Resolver) (job : Job)
    (account : Account) : Prop :=
  ∃ rest, host.job = some (.waiting rest) ∧
    rest.Ensures
      (System.booking host.route number (BulkPlan.ofItems resolver job.items).operations assumed)
      (fun outcome after => outcome ≠ .error .notOpen ∧ ∃ answer,
        (BulkPlan.ofItems resolver job.items).Accounted assumed job.items answer after) account

namespace HostedQueue

variable {host host' : HostedQueue} {resolver : Resolver} {job : Job} {moment : Moment}

theorem booked_start (free : host.job = some (.waiting (host.writing number resolver job))) :
    host.Booked number assumed resolver job {} := by
  have course := @Writer.write_logged assumed host.writer resolver job.items host.route number
  refine ⟨_, free, (course.weaken ?_).booked⟩
  rintro outcome ledger ⟨course, follows, rfl⟩
  exact ⟨BulkFailure.ending_ne_notOpen, course.response?, follows.accounted⟩

namespace Booked

theorem permits (h : host.Booked number assumed resolver job account) {request : SystemRequest}
    {next : System.Reply request → _} (before : host.job = some (.waiting (.ask request next))) :
    request.OfWriter host.route number (BulkPlan.ofItems resolver job.items).operations :=
  Keeps.permits h before

/-- **The account of a job** is kept at every moment, as long as the job is written. -/
theorem turn (h : host.Booked number assumed resolver job account)
    (turn : host.Turn number moment host')
    (honest : ∀ request reply served,
      request.OfWriter host.route number (BulkPlan.ofItems resolver job.items).operations →
        moment.before.serve? request = some (reply, served) → request.Honest assumed reply)
    (unfinished : moment.event ≠ .finish number) :
    host'.Booked number assumed resolver job (moment.note number account) ∨
      host'.Gone := by
  rw [Booked, turn.route]
  rcases Keeps.turn h turn unfinished with ⟨unwritten, kept⟩ |
    ⟨request, reply, served, written, permitted, serves, kept⟩ | gone
  · rw [Moment.note_of_none unwritten]
    exact .inl kept
  · rw [Moment.note_of_written written]
    exact .inl (kept _ ⟨honest _ _ _ permitted serves, rfl⟩)
  · exact .inr gone

theorem finish (h : host.Booked number assumed resolver job account)
    {outcome : Except BridgeError Unit} (before : host.job = some (.waiting (.done outcome))) :
    outcome ≠ .error .notOpen ∧ ∃ answer,
      (BulkPlan.ofItems resolver job.items).Accounted assumed job.items answer account :=
  Keeps.finish h before

end Booked

end HostedQueue

/-! ## An engine in memory -/

/-- A session whose engine is held in memory and answers all requests itself. -/
structure Session.InMemory (session : Session) : Prop where
  memory : ∃ engine, session.engine = some engine
  unscripted : session.outcomes = []

/-- Whether the account of a moment is right: what is published goes to the channel of the queue, and
what is acknowledged is what is done to the engine, apart from its refreshes. -/
structure Moment.Accurate (moment : Moment) (number : Nat) : Prop where
  channel : moment.after.failures number =
    moment.before.failures number ++ moment.published number
  engine : ∃ engine after, moment.before.engine = some engine ∧
    moment.after.engine = some after ∧
    ((∃ names delay, moment.request? = some (.receive (.refresh names) delay)) ∨
      after.indices = ((moment.acknowledged number).foldl MemoryEngine.write engine).indices)

namespace MemoryEngine

variable {engine after : MemoryEngine} {request : SystemRequest} {reply : System.Reply request}

theorem honest_of_serves
    (answers : ∀ {engine : MemoryEngine} {delay operations response},
      (engine.bulk delay operations).2 = .ok response → assumed operations response)
    (permitted : request.OfWriter .engine number planned)
    (serves : engine.Serves request reply after) : request.Honest assumed reply := by
  cases request with
  | send route call =>
    cases call with
    | bulk operations =>
      cases permitted.1
      cases serves.1
      trivial
    | _ => trivial
  | receive call delay =>
    cases call with
    | bulk operations =>
      rcases reply with _ | error | response
      · trivial
      · trivial
      · exact answers (congrArg Prod.snd (bulk_of_answer? serves))
    | _ => trivial
  | _ => trivial

/-- What is acknowledged is what is done to the indices, apart from refreshes. -/
theorem indices_of_serves
    (permitted : request.OfWriter .engine number planned)
    (serves : engine.Serves request reply after) :
    (∃ names delay, request = .receive (.refresh names) delay) ∨
      after.indices = ((request.acknowledged reply).foldl write engine).indices := by
  have idle : after.indices = engine.indices → request.acknowledged reply = [] →
      after.indices = ((request.acknowledged reply).foldl write engine).indices := by
    intro same none
    rw [same, none, List.foldl_nil]
  cases request with
  | send route call =>
    cases call with
    | bulk operations =>
      cases permitted.1
      obtain ⟨rfl, rfl⟩ := serves
      exact .inr (idle rfl rfl)
    | refresh names =>
      cases permitted
      obtain ⟨rfl, rfl⟩ := serves
      exact .inr (idle rfl rfl)
    | _ => exact permitted.elim
  | receive call delay =>
    cases call with
    | bulk operations =>
      rcases reply with _ | error | response
      · cases congrArg Prod.snd serves
      · have answered := bulk_of_answer? serves
        rcases bulk_cases engine delay operations with ⟨_, _, -, hb⟩ | hb
        · rw [hb] at answered
          cases answered
          exact .inr (idle rfl rfl)
        · rw [hb] at answered
          cases answered
      · have answered := bulk_of_answer? serves
        have written := acknowledged_bulk (congrArg Prod.snd answered)
        rw [answered] at written
        exact .inr (congrArg indices written)
    | refresh names => exact .inl ⟨names, delay, rfl⟩
    | _ => exact permitted.elim
  | publish queue failure => exact .inr (idle (congrArg indices serves) rfl)
  | sleep delay => exact .inr (idle (congrArg indices serves) rfl)
  | record measurement => exact .inr (idle (congrArg indices serves) rfl)
  | abandon => exact reply.elim
  | _ => exact permitted.elim

end MemoryEngine

namespace Session

variable {session later : Session} {host host' : HostedQueue}

theorem InMemory.after (h : session.InMemory) {event : SessionEvent}
    (ha : session.after? event = some later) : later.InMemory := by
  obtain ⟨engine, memory⟩ := h.memory
  have served : ∀ {request reply last}, session.serve? request = some (reply, last) →
      last.InMemory := by
    intro request reply last hs
    obtain ⟨ho, -, -, engine', he, -⟩ := serve?_engine memory h.unscripted hs
    exact ⟨⟨engine', he⟩, ho⟩
  cases event with
  | request request =>
    obtain ⟨reply, hs⟩ := after?_request ha
    exact served hs
  | start number =>
    obtain ⟨_, _, _, -, -, -, rfl⟩ := after?_start ha
    exact ⟨h.memory, h.unscripted⟩
  | write number =>
    obtain ⟨_, _, _, _, -, hs, rfl⟩ := after?_write ha
    exact ⟨(served hs).memory, (served hs).unscripted⟩
  | finish number =>
    obtain ⟨_, -, rfl⟩ := after?_finish ha
    exact ⟨h.memory, h.unscripted⟩
  | breakDown number =>
    obtain ⟨_, -, rfl⟩ := after?_breakDown ha
    exact ⟨h.memory, h.unscripted⟩
  | pass time aging =>
    cases ha
    exact ⟨h.memory, h.unscripted⟩
  | inject faults =>
    cases ha
    refine ⟨⟨{ engine with faults }, ?_⟩, h.unscripted⟩
    dsimp only
    rw [memory]
    rfl

/-- The account of every moment at which the writer has a request carried out is right. -/
theorem accurate_of_turn {moment : Moment}
    (hq : moment.before.queues[number]? = some host)
    (permits : ∀ {request : SystemRequest} {next : System.Reply request → _},
      host.job = some (.waiting (.ask request next)) → request.OfWriter host.route number planned)
    (route : host.route = .engine)
    (memory : moment.before.InMemory) (turn : host.Turn number moment host')
    (event : moment.event = .write number) : moment.Accurate number := by
  cases turn with
  | elsewhere steps foreign => exact absurd (by rw [event]; rfl) foreign
  | start other => cases event.symm.trans other
  | finish other => cases event.symm.trans other
  | breakDown other => cases event.symm.trans other
  | request _ made before serves same steps after written =>
    obtain ⟨engine, he⟩ := memory.memory
    have permitted := permits before
    rw [route] at permitted
    obtain ⟨-, -, -, engine', he', hserves⟩ := serve?_engine he memory.unscripted serves
    refine ⟨?_, engine, engine', he, ?_, ?_⟩
    · rw [Moment.published, written, same, ← failures_serve? hq serves]
      obtain ⟨own, ho, -⟩ := serve?_queue hq serves
      rw [failures, failures, queue_modify ho, ho]
      rfl
    · rw [same]
      exact he'
    · rw [Moment.acknowledged, written]
      refine (MemoryEngine.indices_of_serves permitted hserves).imp_left ?_
      rintro ⟨names, delay, rfl⟩
      exact ⟨names, delay, made⟩

/-- The account of a job is kept in a run, and right at every moment, until the job is completed or
the writer breaks down. -/
theorem booked_run {resolver : Resolver} {job : Job} {events : List SessionEvent} :
    ∀ {moments : List Moment} {session : Session} {host : HostedQueue} {account : Account},
      session.queues[number]? = some host → host.route = .engine → session.InMemory →
        host.Booked number BulkResponse.ById resolver job account ∨ host.Gone →
        session.play? events = some moments → .finish number ∉ events →
          (∀ moment ∈ moments, moment.event = .write number → moment.Accurate number) ∧
            ∃ host', (session.last moments).queues[number]? = some host' ∧
              (host'.Booked number BulkResponse.ById resolver job
                ⟨account.acknowledged ++ Moment.acknowledgedIn moments number,
                  account.undelivered ++
                    (Moment.publishedIn moments number).flatMap (·.undelivered)⟩ ∨ host'.Gone) := by
  induction events with
  | nil =>
    intro moments session host account hq route memory h run unfinished
    cases run
    refine ⟨List.forall_mem_nil _, host, hq, ?_⟩
    simpa [Moment.acknowledgedIn, Moment.publishedIn] using h
  | cons event rest ih =>
    intro moments session host account hq route memory h run unfinished
    obtain ⟨after, tail, ha, ht, rfl⟩ := play?_cons run
    obtain ⟨host', hq', turn⟩ := turn_of_after? hq ha
    have next : (event = .write number →
          (⟨session, event, after⟩ : Moment).Accurate number) ∧
        (host'.Booked number BulkResponse.ById resolver job
          ((⟨session, event, after⟩ : Moment).note number account) ∨ host'.Gone) := by
      rcases h with booked | gone
      · refine ⟨accurate_of_turn hq booked.permits route memory turn, booked.turn turn ?_ ?_⟩
        · intro request reply served permitted serves
          obtain ⟨engine, he⟩ := memory.memory
          obtain ⟨-, -, -, engine', -, hserves⟩ := serve?_engine he memory.unscripted serves
          exact MemoryEngine.honest_of_serves MemoryEngine.byId_bulk (route ▸ permitted) hserves
        · rintro rfl
          exact unfinished List.mem_cons_self
      · obtain ⟨gone', foreign⟩ := gone.turn turn
        exact ⟨fun event => absurd event foreign, .inr gone'⟩
    obtain ⟨accurate, host'', hq'', last⟩ := ih hq' (turn.route.trans route) (memory.after ha) next.2
      ht fun hm => unfinished (List.mem_cons_of_mem _ hm)
    refine ⟨fun moment hm => ?_, host'', hq'', ?_⟩
    · rcases List.mem_cons.mp hm with rfl | hm
      · exact next.1
      · exact accurate moment hm
    · simpa [Moment.note, Moment.acknowledgedIn, Moment.publishedIn, List.append_assoc] using last

/-- **Undelivered items are reported.** From the moment at which the writer of a queue takes a job
until it completes it, an item of the job is published as undelivered exactly if the engine has not
acknowledged its operation, which is to say that it has not written it. Anything may be made to go
wrong in the engine at any time, and types may be unknown when the job is taken. -/
theorem reported_iff_not_acknowledged {job : Job} {queue : Queue} {events : List SessionEvent}
    {moments : List Moment} (hosted : session.queues[number]? = some host)
    (route : host.route = .engine) (memory : session.InMemory)
    (next : host.queue.startNext = some (job, queue))
    (run : session.play? (.start number :: events) = some moments)
    (unfinished : .finish number ∉ events)
    (finish : (session.last moments).after? (.finish number) = some later) :
    (∀ moment ∈ moments, moment.event = .write number → moment.Accurate number) ∧
      ∀ item ∈ job.items,
        (∃ failure ∈ Moment.publishedIn moments number,
            failure.kind ≠ .refresh ∧ item ∈ failure.items) ↔
          ∀ operation, (session.resolver host.schema).operation? item = some operation →
            operation ∉ Moment.acknowledgedIn moments number := by
  obtain ⟨after, tail, ha, ht, rfl⟩ := play?_cons run
  obtain ⟨own, other, rest, ho, free, hn, rfl⟩ := after?_start ha
  rw [hosted] at ho
  cases ho
  rw [next] at hn
  cases hn
  obtain ⟨accurate, host', hq', booked⟩ := booked_run (queue_modify hosted _) route (memory.after ha)
    (.inl (HostedQueue.booked_start rfl)) ht unfinished
  obtain ⟨outcome, writing, -⟩ := after?_finish finish
  have before := job_of_writing? hq' writing
  refine ⟨fun moment hm => ?_, fun item hi => ?_⟩
  · rcases List.mem_cons.mp hm with rfl | hm
    · exact nofun
    · exact accurate moment hm
  rcases booked with booked | gone
  · obtain ⟨-, answer, accounted⟩ := booked.finish before
    have becomes := accounted.mem_undelivered_iff hi
    simp only [List.nil_append, List.mem_flatMap, BulkFailure.mem_undelivered] at becomes
    exact becomes
  · rw [gone.free] at before
    cases before

/-! ## Three fates -/

/-- One item is written, the entity type of one is not known, and the document of one is rejected. -/
def mixedItems : List WorkItem := [.add "A" "1", .add "B" "2", .add "A" "3"]

/-- A queue whose writer is about to take the items. -/
def mixedQueue : HostedQueue :=
  { hostQueue {} .shared .engine with
    queue := { Queue.start {} with waiting := [⟨0, mixedItems, false⟩], inFlight := 1, nextJob := 1 } }

/-- A session with the queue. -/
def mixedSession : Session where
  engine := some { faults := { rejected := ["3"] } }
  registry := .registerAll {} [⟨"A", "main", "id", .numeric, []⟩]
  queues := [mixedQueue]

theorem mixedRun_isSome :
    (mixedSession.play? (.start 0 :: List.replicate 8 (.write 0))).isSome = true := rfl

/-- The moments until the job is completed. -/
def mixedMoments : List Moment :=
  (mixedSession.play? (.start 0 :: List.replicate 8 (.write 0))).get mixedRun_isSome

/-- The item that was written is not reported, and the others are. -/
theorem reported_iff_not_acknowledged_mixed :
    ¬ Moment.Reports mixedMoments 0 (.add "A" "1") ∧ Moment.Reports mixedMoments 0 (.add "B" "2") ∧
      Moment.Reports mixedMoments 0 (.add "A" "3") := by
  have unfinished : SessionEvent.finish 0 ∉ List.replicate 8 (.write 0) := by
    intro hm
    cases List.eq_of_mem_replicate hm
  obtain ⟨-, becomes⟩ := @reported_iff_not_acknowledged 0 mixedSession _ mixedQueue
    ⟨0, mixedItems, false⟩ _ _ mixedMoments rfl rfl ⟨⟨_, rfl⟩, rfl⟩ rfl
    (Option.some_get mixedRun_isSome).symm unfinished rfl
  have written : (Moment.acknowledgedIn mixedMoments 0).map (·.id) = ["1"] := rfl
  have only : ∀ operation, operation.id ≠ "1" →
      operation ∉ Moment.acknowledgedIn mixedMoments 0 := by
    intro operation other hm
    have hid := List.mem_map_of_mem (f := (·.id)) hm
    rw [written, List.mem_singleton] at hid
    exact other hid
  refine ⟨fun reported => ?_, ?_, ?_⟩
  · exact (becomes _ (List.mem_of_getElem? (i := 0) rfl)).mp reported _ rfl List.mem_cons_self
  · exact (becomes _ (List.mem_of_getElem? (i := 1) rfl)).mpr nofun
  · refine (becomes _ (List.mem_of_getElem? (i := 2) rfl)).mpr ?_
    rintro operation ⟨⟩
    exact only _ (by decide)

/-! ## A writer that breaks down -/

/-- Bulk requests are tried often, after very long delays that are to be cut to nothing. -/
def patientConfig : BridgeConfig where
  bulkAttempts := 12
  bulkInitialMillis := 18446744073709551615
  bulkMaximumMillis := 0

/-- A queue whose writer is about to take an item. -/
def patientQueue : HostedQueue :=
  { hostQueue patientConfig.queueSettings .shared .engine with
    queue := { Queue.start patientConfig.queueSettings with
      waiting := [⟨0, [.add "A" "1"], true⟩]
      inFlight := 1
      nextJob := 1 } }

/-- A session with the queue, whose engine is out of reach. -/
def patientSession : Session where
  engine := some { faults := { bulkOutage := some ⟨.connection "x", 12⟩ } }
  registry := .registerAll {} [⟨"A", "main", "id", .string, []⟩]
  queues := [patientQueue]

/-- The writer breaks down after eleven attempts. -/
def patientRun : List SessionEvent := .start 0 :: List.replicate 53 (.write 0) ++ [.breakDown 0]

theorem patientRun_isSome : (patientSession.play? patientRun).isSome = true := by decide +kernel

/-- The moments until the writer has broken down. -/
def patientMoments : List Moment := (patientSession.play? patientRun).get patientRun_isSome

/-- An item need neither be written nor be reported if the writer breaks down. -/
theorem not_reported_iff_not_acknowledged :
    ¬ ∀ (session : Session) (number : Nat) (host : HostedQueue) (job : Job) (queue : Queue)
        (events : List SessionEvent) (moments : List Moment),
      session.queues[number]? = some host → host.route = .engine → session.InMemory →
      host.queue.startNext = some (job, queue) →
      session.play? (.start number :: events) = some moments →
      (∃ last, (session.last moments).queues[number]? = some last ∧ last.job.isNone = true) →
      ∀ item ∈ job.items,
        (∃ failure ∈ Moment.publishedIn moments number,
            failure.kind ≠ .refresh ∧ item ∈ failure.items) ↔
          ∀ operation, (session.resolver host.schema).operation? item = some operation →
            operation ∉ Moment.acknowledgedIn moments number := by
  intro claim
  have ended : ((patientSession.last patientMoments).queues[0]?.any fun host =>
      host.job.isNone) = true := by decide +kernel
  have silent : (Moment.publishedIn patientMoments 0).isEmpty = true := by decide +kernel
  have unwritten : (Moment.acknowledgedIn patientMoments 0).isEmpty = true := by decide +kernel
  have becomes := claim patientSession 0 patientQueue _ _ _ patientMoments rfl rfl
    ⟨⟨_, rfl⟩, rfl⟩ rfl (Option.some_get patientRun_isSome).symm
    ((Option.any_eq_true _ _).mp ended) _ List.mem_cons_self
  rw [List.isEmpty_iff.mp silent, List.isEmpty_iff.mp unwritten] at becomes
  obtain ⟨failure, hf, -⟩ := becomes.mpr fun _ _ => List.not_mem_nil
  cases hf

end Session

end EntitySearch
