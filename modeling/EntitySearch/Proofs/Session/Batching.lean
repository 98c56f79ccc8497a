import EntitySearch.Proofs.Engine.Listing
import EntitySearch.Proofs.Session.Calls
import EntitySearch.Proofs.Session.Filled

/-!
# Batching is transparent

Where the accepted items are cut into batches does not matter. A caller who has handed over all items
flushes the queue and waits; then the engine has taken all of them, in the order in which they were
accepted. Two runs with the same items leave the same documents behind, in the same order, however
their batches were cut and whether or not their writes had to wait for a refresh.

* `MemoryEngine.Visible`: an engine whose writes have been made visible.
* `Place.Filled.drain`: a run after a flush in which nothing is accepted any more.
* `Session.Flushes`: a run that ends with a flush that somebody waits for.
* `Session.Flushes.applied`: what the engine has taken then.
* `Session.documents_eq_of_flushes`: the main result.
-/

namespace EntitySearch

open MemoryEngine (Applied)

namespace MemoryEngine

/-- Whether an engine is another one after the writes to some indices were made visible, for which
there is nothing to do if writes do not wait for a refresh. -/
def Visible (engine : MemoryEngine) (names : List String) (after : MemoryEngine) : Prop :=
  engine.refresh names = (after, .ok ()) ∨ engine.postpones = false ∧ after = engine

theorem Applied.documents {operations : List Operation} {origin engine after : MemoryEngine}
    (h : Applied operations [] origin engine) (orderly : engine.Orderly)
    (settled : ∀ name, (origin.index name).unrefreshed = []) {names : List String}
    (touched : ∀ operation ∈ operations, operation.index ∈ names)
    (visible : engine.Visible names after) (name : String) :
    after.documents name =
      (operations.filter fun operation => operation.index = name).foldl MemoryIndex.applyTo
        (origin.documents name) := by
  have taken : (engine.index name).settled =
      (operations.filter fun operation => operation.index = name).foldl MemoryIndex.applyTo
        (origin.documents name) := by
    rw [h.settled, settled_of_nil (settled name), documents_eq]
    rfl
  rcases visible with refresh | ⟨immediate, rfl⟩
  · have same := undisturbed_refresh engine names
    rw [refresh] at same
    have done : (after.index name).unrefreshed = [] := by
      by_cases hn : name ∈ names
      · exact refresh_visible refresh name hn
      · refine same.refreshed name (h.refreshed name ?_ (settled name))
        exact fun operation ho he => hn (he ▸ touched operation ho)
    rw [documents_eq, ← settled_of_nil done, same.settled, taken]
  · have done := orderly.resolve_left (by simp [immediate]) name
    rw [documents_eq, ← settled_of_nil done, taken]

end MemoryEngine

/-! ## After the last item -/

namespace Place

variable {place : Place} {session later : Session} {moment : Moment} {host host' : HostedQueue}
  {origin engine engine' : MemoryEngine} {taken : List WorkItem} {number : Nat}

theorem Turn.completed (turn : place.Turn moment host engine host' engine')
    (done : number ∈ host.queue.completed.map (·.1.number)) :
    number ∈ host'.queue.completed.map (·.1.number) := by
  rcases turn.queue_cases with hq | ⟨job, hq⟩ | ⟨outcome, hq⟩ | hq
  · rw [(writing_of_run hq).2]
    exact done
  · rw [(Queue.writing_startNext hq).2.2]
    exact done
  · rw [hq, Queue.finish]
    split
    · rw [List.map_append]
      exact List.mem_append_left _ done
    · exact done
  · rw [hq]
    exact done

/-- Whether a caller is told at a moment how a job has ended. -/
def Tells (place : Place) (job : Nat) (moment : Moment) : Prop :=
  ∃ outcome, moment.before.serve? (.queue place.number (.outcome job)) = some (outcome, moment.after)

namespace Filled

theorem spent_turn (h : place.Filled origin session host engine taken)
    (turn : place.Turn moment host engine host' engine')
    (none : host.queue.accepted (place.steps moment) = []) (spent : host.queue.Spent number) :
    host'.queue.Spent number := by
  rcases turn.queue_cases with hq | ⟨job, hq⟩ | ⟨outcome, hq⟩ | hq
  · obtain ⟨step, wait, cut, hc, hr⟩ := run_steps place moment host.queue
    rw [none] at hc
    rw [hq, hr]
    exact hc.spent h.sound spent
  · exact spent.startNext hq
  · rw [hq]
    exact spent.finish outcome
  · rw [hq]
    refine ⟨spent.pending, fun job hj => spent.later job ?_⟩
    simp only [Queue.jobs, Queue.breakDown, Option.toList_none, List.append_nil] at hj
    exact List.mem_append_left _ (List.mem_append_left _ hj)

theorem completed_of_tells (h : place.Filled origin moment.before host engine taken)
    (tells : place.Tells number moment) : number ∈ host.queue.completed.map (·.1.number) := by
  obtain ⟨outcome, served⟩ := tells
  change moment.before.serveQueue? place.number (.outcome number) = _ at served
  simp only [Session.serveQueue?, h.hosts.queue] at served
  obtain ⟨own, ho, -⟩ := Option.map_eq_some_iff.mp served
  exact Queue.completed_of_outcome? h.sound ho

/-- **After the last item**: in a run in which nothing is accepted any more, nothing gets into later
jobs, and a job of which a caller is told how it has ended is completed and stays so. -/
theorem drain {events : List SessionEvent} :
    ∀ {moments : List Moment} {session : Session} {host : HostedQueue} {engine : MemoryEngine},
      place.Filled origin session host engine taken → host.queue.Spent number →
        session.play? events = some moments →
        (∀ moment ∈ moments, moment.event ≠ .write place.number → moment.Calm True) →
        (∀ moment ∈ moments, moment.accepted place.number = []) →
        (number ∈ host.queue.completed.map (·.1.number) ∨ ∃ moment ∈ moments,
          place.Tells number moment) →
          ∃ host' engine', place.Filled origin (session.last moments) host' engine' taken ∧
            host'.queue.Spent number ∧ number ∈ host'.queue.completed.map (·.1.number) := by
  induction events with
  | nil =>
    intro moments session host engine h spent run calm none done
    cases run
    refine ⟨host, engine, h, spent, done.resolve_right ?_⟩
    rintro ⟨moment, hm, -⟩
    cases hm
  | cons event rest ih =>
    intro moments session host engine h spent run calm none done
    obtain ⟨after, tail, ha, ht, rfl⟩ := Session.play?_cons run
    obtain ⟨host', engine', h', turn⟩ := h.after ha (calm _ List.mem_cons_self)
    have quiet := none _ List.mem_cons_self
    rw [quiet, List.append_nil] at h'
    have spent' : host'.queue.Spent number := by
      refine h.spent_turn turn ?_ spent
      rw [← @accepted_eq place ⟨session, event, after⟩ host engine h.hosts]
      exact quiet
    have done' : number ∈ host'.queue.completed.map (·.1.number) ∨
        ∃ moment ∈ tail, place.Tells number moment := by
      rcases done with done | ⟨moment, hm, tells⟩
      · exact .inl (turn.completed done)
      rcases List.mem_cons.mp hm with rfl | hm
      · exact .inl (turn.completed (h.completed_of_tells tells))
      · exact .inr ⟨moment, hm, tells⟩
    obtain ⟨last, engine'', ended⟩ := ih h' spent' ht
      (fun moment hm => calm moment (List.mem_cons_of_mem _ hm))
      (fun moment hm => none moment (List.mem_cons_of_mem _ hm)) done'
    exact ⟨last, engine'', ended⟩

end Filled

end Place

/-! ## Main result -/

/-- A run in which a queue is used from its start on, up to a flush for which somebody waits and which
is not refused, after which nothing is accepted any more. The engine is held in memory and has no
writes that wait at first, nobody else writes, and nothing goes wrong. -/
structure Session.Flushes (session : Session) (number : Nat) (settings : QueueSettings)
    (schema : SchemaSource) (moments : List Moment) : Prop where
  hosted : session.queues[number]? = some (hostQueue settings schema .engine)
  unscripted : session.outcomes = []
  memory : ∃ engine, session.engine = some engine ∧ engine.faults.Harmless ∧
    ∀ name, (engine.index name).unrefreshed = []
  run : ∃ events, session.play? events = some moments
  calm : ∀ moment ∈ moments, moment.event ≠ .write number → moment.Calm True
  flushed : ∃ early late own result, moments = early ++ late ∧ own.Sublist late ∧
    (QueueCall.flushAndWait.procedure.expand (System.queueing number)).CarriedOut own result ∧
    result ≠ .error .queueStopped ∧ ∀ moment ∈ late, moment.accepted number = []

namespace Session

variable {session other : Session} {number number' : Nat} {settings settings' : QueueSettings}
  {schema schema' : SchemaSource} {moments moments' : List Moment}

/-- A flush that is not refused cuts a job and waits for it. -/
theorem spent_of_flush {place : Place} {host host' : HostedQueue} {origin engine engine' : MemoryEngine}
    {taken : List WorkItem} {first : Moment} {own : List Moment} {result : Except BridgeError Unit}
    (filled : place.Filled origin first.before host engine taken)
    (turn : place.Turn first host engine host' engine')
    (call : (QueueCall.flushAndWait.procedure.expand (System.queueing place.number)).CarriedOut
      (first :: own) result)
    (unrefused : result ≠ .error .queueStopped) :
    ∃ job, host'.queue.Spent job ∧ ∃ wait ∈ own, place.Tells job wait := by
  obtain ⟨_, waits, reply, same, event, served, -, refused, awaited⟩ :=
    QueueCall.returns_of_carriedOut .flushAndWait call
  cases same
  have made : first.request? = some (.queue place.number (.perform .flushAndWait)) := by
    rw [Moment.request?, event]
    rfl
  have one : place.steps first = [.perform place.resolver first.before.batchClock .flushAndWait] := by
    rw [Place.steps, made]
    exact if_pos rfl
  have queue := turn.queue_of_request event
  rw [one] at queue
  change host'.queue = (host.queue.flushAndWait first.before.batchClock).queue at queue
  have answer : (host.queue.flushAndWait first.before.batchClock).result = reply := by
    have answered : (first.before.perform place.number .flushAndWait).1 = reply :=
      congrArg Prod.fst (Option.some.inj served)
    rw [← answered, perform, filled.hosts.queue]
    rfl
  rcases host.queue.result_flushAndWait first.before.batchClock with stopped | ⟨job, cut⟩
  · exact absurd (refused _ (answer.symm.trans stopped)) unrefused
  · obtain ⟨wait, hw, told⟩ := awaited job (answer.symm.trans cut)
    rw [queue]
    exact ⟨job, Queue.spent_of_flushAndWait filled.sound cut, wait, hw, _, told⟩

/-- **After the flush** the engine has taken all items that were accepted, in their order, on top of
what it had at first. -/
theorem Flushes.applied (flushes : session.Flushes number settings schema moments) :
    ∃ origin engine, session.engine = some origin ∧ (session.last moments).engine = some engine ∧
      (∀ name, (origin.index name).unrefreshed = []) ∧ engine.Orderly ∧ engine.faults.Harmless ∧
      Applied ((Moment.acceptedIn moments number).filterMap (session.resolver schema).operation?) []
        origin engine := by
  let host := hostQueue settings schema .engine
  let place : Place := ⟨number, host.writer, schema, session.resolver schema⟩
  obtain ⟨origin, memory, harmless, settled⟩ := flushes.memory
  obtain ⟨events, run⟩ := flushes.run
  have begun : place.Filled origin session host origin [] :=
    .start ⟨flushes.hosted, memory, flushes.unscripted, rfl, rfl, rfl, rfl⟩ (.inr settled) harmless
  obtain ⟨early, late, own, result, rfl, course, call, unrefused, quiet⟩ := flushes.flushed
  obtain ⟨first, waits, -, rfl, -⟩ := QueueCall.returns_of_carriedOut .flushAndWait call
  obtain ⟨begin, rest, rfl, hfirst, hwaits⟩ := List.cons_sublist_iff.mp course
  obtain ⟨before, between, rfl⟩ := List.append_of_mem hfirst
  have split : early ++ ((before ++ first :: between) ++ rest) =
      (early ++ before) ++ first :: (between ++ rest) := by
    rw [List.append_assoc, List.append_assoc]
    rfl
  have calm := flushes.calm
  rw [split] at run calm ⊢
  have silent : ∀ moment ∈ first :: (between ++ rest), moment.accepted number = [] := by
    intro moment hm
    refine quiet moment ?_
    rw [List.append_assoc]
    exact List.mem_append_right _ hm
  have all : Moment.acceptedIn ((early ++ before) ++ first :: (between ++ rest)) number =
      Moment.acceptedIn (early ++ before) number := by
    rw [Moment.acceptedIn, List.flatMap_append, List.flatMap_eq_nil_iff.mpr silent, List.append_nil]
    rfl
  obtain ⟨head, tail, runHead, runTail⟩ := play?_append run
  obtain ⟨own, _, filled⟩ := begun.run runHead fun moment hm => calm moment (List.mem_append_left _ hm)
  obtain ⟨same, ha, events', runRest⟩ := play?_head runTail
  rw [← same] at filled ha
  obtain ⟨own', engine', filled', turn⟩ := filled.after ha
    (calm first (List.mem_append_right _ List.mem_cons_self))
  rw [silent first List.mem_cons_self, List.append_nil] at filled'
  obtain ⟨job, spent, wait, hw, tells⟩ := spent_of_flush filled turn call unrefused
  obtain ⟨last, engine, ended, spent', done⟩ := filled'.drain spent runRest
    (fun moment hm => calm moment (List.mem_append_right _ (List.mem_cons_of_mem _ hm)))
    (fun moment hm => silent moment (List.mem_cons_of_mem _ hm))
    (.inr ⟨wait, List.mem_append_right _ (hwaits.subset hw), tells⟩)
  obtain ⟨contents, rests⟩ := Queue.contents_of_spent ended.sound spent' done
  obtain ⟨took, orderly, harmless'⟩ := ended.rested rests
  rw [Place.Took, ← contents, ended.contents, List.nil_append] at took
  rw [last_append, all]
  exact ⟨origin, engine, memory, ended.hosts.engine, settled, orderly, harmless', took⟩

/-- **Batching is transparent.** Two runs in which queues accept the same items under the same schema,
with engines that have the same documents at first, leave the same documents behind in the same order,
once the writes to the indices of the items are visible. The queues may be set up differently, their
batches may be cut at different moments, and writes may have to wait in one of the engines only. -/
theorem documents_eq_of_flushes (first : session.Flushes number settings schema moments)
    (second : other.Flushes number' settings' schema' moments')
    (schemas : session.resolver schema = other.resolver schema')
    (items : Moment.acceptedIn moments number = Moment.acceptedIn moments' number')
    (same : ∀ engine engine', session.engine = some engine → other.engine = some engine' →
      ∀ name, engine.documents name = engine'.documents name) :
    let touched := (BulkPlan.ofItems (session.resolver schema)
      (Moment.acceptedIn moments number)).indices
    ∃ engine engine', (session.last moments).engine = some engine ∧
      (other.last moments').engine = some engine' ∧
      (∃ after, engine.refresh touched = (after, .ok ())) ∧
      (∃ after, engine'.refresh touched = (after, .ok ())) ∧
      ∀ after after', engine.Visible touched after → engine'.Visible touched after' →
        ∀ name, after.documents name = after'.documents name := by
  intro touched
  obtain ⟨origin, engine, memory, reached, settled, orderly, harmless, applied⟩ := first.applied
  obtain ⟨origin', engine', memory', reached', settled', orderly', harmless', applied'⟩ :=
    second.applied
  rw [← schemas, ← items] at applied'
  have written : ∀ operation ∈ (Moment.acceptedIn moments number).filterMap
      (session.resolver schema).operation?, operation.index ∈ touched := by
    intro operation ho
    rw [← BulkPlan.operations_ofItems] at ho
    exact BulkPlan.mem_indices.mpr ⟨operation, ho, rfl⟩
  have present : ∀ {start last : MemoryEngine}, Applied ((Moment.acceptedIn moments number).filterMap
      (session.resolver schema).operation?) [] start last → last.faults.Harmless →
        ∃ after, last.refresh touched = (after, .ok ()) := by
    intro start last taken still
    refine ⟨_, Prod.ext rfl (MemoryEngine.refresh_ok still fun name hn => ?_)⟩
    obtain ⟨operation, ho, hi⟩ := BulkPlan.mem_indices.mp hn
    rw [BulkPlan.operations_ofItems] at ho
    exact taken.present name (.inr ⟨operation, ho, List.not_mem_nil, hi⟩)
  refine ⟨engine, engine', reached, reached', present applied harmless, present applied' harmless',
    fun after after' visible visible' name => ?_⟩
  rw [applied.documents orderly settled written visible,
    applied'.documents orderly' settled' written visible', same origin origin' memory memory']

/-! ## Two ways to cut batches -/

/-- An entity type with an index. -/
def oneIndex : Registry := .registerAll {} [⟨"A", "main", "id", .string, []⟩]

/-- Two items are enough for a batch. -/
def pairs : QueueSettings where
  limits := { flushCount := 2 }

/-- Every flush waits until its items are visible. -/
def strictly : QueueSettings where
  strict := true

/-- A session with a queue that cuts pairs. -/
def pairSession : Session where
  queues := [hostQueue pairs (.own oneIndex) .engine]

/-- A session with a strict queue, whose engine makes writes wait for a refresh. -/
def strictSession : Session where
  engine := some { postpones := true }
  queues := [hostQueue strictly (.own oneIndex) .engine]

/-- A caller hands over an item. -/
def handOver (item : WorkItem) : SessionEvent := .request (.queue 0 (.perform (.enqueue item)))

/-- A job is written, in a number of requests. -/
def writeJob (requests : Nat) : List SessionEvent :=
  .start 0 :: List.replicate requests (.write 0) ++ [.finish 0]

/-- The second item fills a batch. -/
def pairRun : List SessionEvent :=
  [handOver (.add "A" "1"), handOver (.add "A" "2")] ++ writeJob 4 ++
    [handOver (.delete "A" "1"), .request (.queue 0 (.perform .flushAndWait))] ++ writeJob 4 ++
    [.request (.queue 0 (.outcome 1))]

/-- The first item is flushed. -/
def strictRun : List SessionEvent :=
  [handOver (.add "A" "1"), .request (.queue 0 (.perform .flush))] ++ writeJob 8 ++
    [handOver (.add "A" "2"), handOver (.delete "A" "1"),
      .request (.queue 0 (.perform .flushAndWait))] ++ writeJob 8 ++
    [.request (.queue 0 (.outcome 1))]

theorem pairRun_isSome : (pairSession.play? pairRun).isSome = true := rfl

theorem strictRun_isSome : (strictSession.play? strictRun).isSome = true := rfl

/-- The moments of the run that cuts a pair. -/
def pairMoments : List Moment := (pairSession.play? pairRun).get pairRun_isSome

/-- The moments of the run with a strict queue. -/
def strictMoments : List Moment := (strictSession.play? strictRun).get strictRun_isSome

/-- Whether a caller flushes the queue and waits, or is told how the job has ended. -/
def isOfLastFlush (moment : Moment) : Bool :=
  match moment.event with
  | .request (.queue _ (.perform .flushAndWait)) | .request (.queue _ (.outcome _)) => true
  | _ => false

theorem silent_of_all (h : (moments.all fun moment => (moment.accepted number).isEmpty) = true) :
    ∀ moment ∈ moments, moment.accepted number = [] :=
  fun moment hm => List.isEmpty_iff.mp (List.all_eq_true.mp h moment hm)

theorem pairFlushes : pairSession.Flushes 0 pairs (.own oneIndex) pairMoments where
  hosted := rfl
  unscripted := rfl
  memory := ⟨_, rfl, ⟨rfl, rfl, rfl, rfl⟩, fun _ => rfl⟩
  run := ⟨pairRun, (Option.some_get _).symm⟩
  calm := calm_of_play (Option.some_get pairRun_isSome).symm (by decide)
  flushed := ⟨pairMoments.take 9, pairMoments.drop 9, _, .ok (), (List.take_append_drop 9 _).symm,
    List.filter_sublist (p := isOfLastFlush), .ask rfl rfl (.ask rfl rfl (.done _)), nofun,
    silent_of_all rfl⟩

theorem strictFlushes : strictSession.Flushes 0 strictly (.own oneIndex) strictMoments where
  hosted := rfl
  unscripted := rfl
  memory := ⟨_, rfl, ⟨rfl, rfl, rfl, rfl⟩, fun _ => rfl⟩
  run := ⟨strictRun, (Option.some_get _).symm⟩
  calm := calm_of_play (Option.some_get strictRun_isSome).symm (by decide)
  flushed := ⟨strictMoments.take 14, strictMoments.drop 14, _, .ok (),
    (List.take_append_drop 14 _).symm, List.filter_sublist (p := isOfLastFlush),
    .ask rfl rfl (.ask rfl rfl (.done _)), nofun, silent_of_all rfl⟩

/-- Both runs leave the second document behind. -/
theorem documents_eq_of_flushes_pairs :
    ∃ engine engine', (pairSession.last pairMoments).engine = some engine ∧
      (strictSession.last strictMoments).engine = some engine' ∧
      engine.documents "main" = engine'.documents "main" := by
  obtain ⟨engine, engine', reached, reached', -, ⟨after, refreshed⟩, visible⟩ :=
    documents_eq_of_flushes pairFlushes strictFlushes rfl rfl fun engine engine' h h' name => by
      cases h
      cases h'
      rfl
  cases reached
  cases reached'
  cases refreshed
  exact ⟨_, _, rfl, rfl, visible _ _ (.inr ⟨rfl, rfl⟩) (.inl rfl) "main"⟩

end Session

end EntitySearch
