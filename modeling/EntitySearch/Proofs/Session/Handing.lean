import EntitySearch.Proofs.Procedure.Leads
import EntitySearch.Proofs.Queue.Refusal
import EntitySearch.Proofs.Session.Batching
import EntitySearch.Proofs.Session.Readiness

/-!
# Handing many items over

Whoever hands many items to an open bridge asks it for its queue once, and whoever hands them over one
by one asks every time; otherwise both do the same. Nobody waits in a queue that is not strict, so
one item follows the other, whether batches are cut in between or not, up to the first one whose
entity type is not known. This one is refused without a trace, and those behind it stay with the
caller.

* `Resolver.Hands`: what becomes of items, by their entity types; `Resolver.Hands.ok_iff`.
* `BridgeClient.enqueueEach`: items that are handed over one by one.
* `Session.Opened`: a bridge that is open; `Session.Opened.perform_known`,
  `Session.Opened.perform_unknown`: what an item does to its session.
* `Session.Opened.handed`, `Session.hands_of_enqueueAll`: all items, alone and while other things
  happen.
* `Scene.opened_of_ready`: which bridges are open.
* `handed_over_in_order`: the main result.
-/

namespace EntitySearch

/-! ## Up to the first unknown item -/

/-- What becomes of items that are handed over in their order, where the first ones are taken: they are
counted, from `count` on, or the entity type of the next one is not known. -/
inductive Resolver.Hands (resolver : Resolver) (count : Nat) :
    List WorkItem → List WorkItem → Except BridgeError Nat → Prop
  | all {items : List WorkItem} (known : ∀ item ∈ items, resolver.Knows item) :
      Hands resolver count items items (.ok (count + items.length))
  | some {taken rest : List WorkItem} {item : WorkItem} {cause : SchemaError}
      (known : ∀ other ∈ taken, resolver.Knows other)
      (unknown : resolver.descriptor item.entityType = .error cause) :
      Hands resolver count (taken ++ item :: rest) taken (.error (.schema cause))

namespace Resolver

variable {resolver : Resolver} {count : Nat} {items taken : List WorkItem} {item : WorkItem}
  {result : Except BridgeError Nat}

theorem Hands.cons (known : resolver.Knows item) (h : resolver.Hands (count + 1) items taken result) :
    resolver.Hands count (item :: items) (item :: taken) result := by
  cases h with
  | all others =>
    have counted : count + 1 + items.length = count + (item :: items).length := by
      rw [List.length_cons]
      omega
    rw [counted]
    exact .all (List.forall_mem_cons.mpr ⟨known, others⟩)
  | some others unknown => exact .some (List.forall_mem_cons.mpr ⟨known, others⟩) unknown

/-- All items are counted exactly if all entity types are known. -/
theorem Hands.ok_iff (h : resolver.Hands count items taken result) :
    result = .ok (count + items.length) ↔ ∀ item ∈ items, resolver.Knows item := by
  cases h with
  | all known => exact iff_of_true rfl known
  | @some _ rest item _ _ unknown =>
    refine iff_of_false nofun fun known => not_knows unknown (known item ?_)
    exact List.mem_append_right _ List.mem_cons_self

end Resolver

/-- Hands items to a bridge one by one, up to the first one that fails; counts them from `count` on. -/
def BridgeClient.enqueueEach (count : Nat) :
    List WorkItem → Procedure BridgeUse (Except BridgeError Nat)
  | [] => return .ok count
  | item :: rest => do
    match ← enqueue item with
    | .error cause => return .error cause
    | .ok _ => enqueueEach (count + 1) rest

theorem BridgeClient.expand_enqueueEach {p : Protocol}
    (carryOut : (request : BridgeUse.Request) → Procedure p (BridgeUse.Reply request)) (count : Nat)
    (item : WorkItem) (rest : List WorkItem) :
    (enqueueEach count (item :: rest)).expand carryOut =
      ((enqueue item).expand carryOut).bind fun
        | .error cause => .done (.error cause)
        | .ok _ => (enqueueEach (count + 1) rest).expand carryOut := by
  change ((enqueue item).bind _).expand carryOut = _
  rw [Procedure.expand_bind]
  congr
  funext result
  cases result <;> rfl

/-! ## Open bridges -/

namespace Session

/-- What a procedure leads to whose requests are carried out one after the other: its result, and the
session after it. There is nothing if a request has to wait. -/
def carryOut? {α : Type} (session : Session) (procedure : Procedure System α) :
    Option (α × Session) :=
  Procedure.run (p := System) serve? session procedure

/-- Whether a bridge is open and has a queue for whose jobs nobody waits: the bridge is ready, its queue
takes items, and the writer of the queue is at work. -/
structure Opened (session : Session) (number queue : Nat) (host : HostedQueue) : Prop where
  ready : ∃ owner, session.bridges[number]? = some owner ∧ owner.bridge.state = .ready ∧
    owner.bridge.queue = some queue
  hosted : session.queues[queue]? = some host
  running : host.queue.stopped = false
  relaxed : host.queue.strict = false
  writer : host.queue.writerGone = false

variable {session later : Session} {number queue : Nat} {host : HostedQueue} {item : WorkItem}

theorem carryOut?_ask {α : Type} {request : SystemRequest} {reply : System.Reply request}
    (served : session.serve? request = some (reply, later))
    (next : System.Reply request → Procedure System α) :
    session.carryOut? (.ask (p := System) request next) = later.carryOut? (next reply) :=
  Procedure.run_ask (p := System) served next

theorem carryOut?_bind {α β : Type} {procedure : Procedure System α} {value : α}
    (first : session.carryOut? procedure = some (value, later)) (f : α → Procedure System β) :
    session.carryOut? (procedure.bind f) = later.carryOut? (f value) :=
  Procedure.run_bind (p := System) first f

theorem serveBridge?_look {owner : HostedBridge} (hosted : session.bridges[number]? = some owner)
    {request : BridgeRequest} {reply : Bridging.Reply request}
    (starts : ∀ host, session.startQueueFor host request = session)
    (looks : owner.bridge.serve? session.queues.length request = some (reply, owner.bridge)) :
    session.serve? (.bridge number request) = some (reply, session) := by
  have same : session.bridges.modify number (fun host => { host with bridge := owner.bridge }) =
      session.bridges := by
    refine List.ext_getElem? fun other => ?_
    rw [List.getElem?_modify]
    by_cases here : number = other
    · rw [← here, hosted]
      simp
    · simp [here]
  rw [serve?, serveBridge?, hosted]
  dsimp only
  rw [looks]
  dsimp only
  rw [starts, same]

theorem serve?_state {owner : HostedBridge} (hosted : session.bridges[number]? = some owner) :
    session.serve? (.bridge number .state) = some (owner.bridge.state, session) :=
  serveBridge?_look hosted (fun _ => rfl) rfl

theorem serve?_queue_look {owner : HostedBridge} (hosted : session.bridges[number]? = some owner) :
    session.serve? (.bridge number .queue) = some (owner.bridge.queue, session) :=
  serveBridge?_look hosted (fun _ => rfl) rfl

theorem perform_hosted (hosted : session.queues[queue]? = some host) (action : QueueAction) :
    let step := host.queue.perform (session.resolver host.schema) session.batchClock action
    (session.perform queue action).1 = step.result ∧
      (session.perform queue action).2.queues[queue]? = some { host with queue := step.queue } := by
  unfold perform
  rw [hosted]
  dsimp only
  rw [queues_summonWriter]
  exact ⟨rfl, queue_modify hosted _⟩

theorem resolver_perform (session : Session) (queue : Nat) (action : QueueAction)
    (schema : SchemaSource) :
    (session.perform queue action).2.resolver schema = session.resolver schema := by
  have alike := alike_perform session queue action
  cases schema with
  | own registry => rfl
  | shared => rw [resolver, resolver, alike.registry, alike.hidden]

namespace Opened

/-- **An item that is known** is taken, and nobody waits for it. -/
theorem perform_known (h : session.Opened number queue host)
    (known : (session.resolver host.schema).Knows item) :
    ∃ later own, session.serve? (.queue queue (.perform (.enqueue item))) = some (.ok none, later) ∧
      later.Opened number queue own ∧
      later.resolver own.schema = session.resolver host.schema ∧
      own.queue.contents = host.queue.contents ++ [item] := by
  have takes : host.queue.Takes item
      (host.queue.enqueue (session.resolver host.schema) session.batchClock item) :=
    Queue.enqueue_takes h.writer h.running known
  obtain ⟨result, hosted⟩ := perform_hosted h.hosted (.enqueue item)
  refine ⟨_, _, ?_, ⟨?_, hosted, ?_, ?_, ?_⟩, ?_, takes.contents⟩
  · exact congrArg some (Prod.ext (result.trans (takes.unawaited h.relaxed)) rfl)
  · rw [bridges_perform]
    exact h.ready
  · exact takes.stopped.trans h.running
  · exact takes.strict.trans h.relaxed
  · exact takes.writer.trans h.writer
  · exact resolver_perform session queue (.enqueue item) host.schema

/-- **An item that is not known** is refused. -/
theorem perform_unknown (h : session.Opened number queue host) {cause : SchemaError}
    (unknown : (session.resolver host.schema).descriptor item.entityType = .error cause) :
    ∃ later, session.serve? (.queue queue (.perform (.enqueue item))) =
        some (.error (.schema cause), later) ∧
      later.Opened number queue host := by
  have refused : host.queue.perform (session.resolver host.schema) session.batchClock
      (.enqueue item) = ⟨.error (.schema cause), host.queue, []⟩ := Queue.enqueue_unknown unknown
  obtain ⟨result, hosted⟩ := perform_hosted h.hosted (.enqueue item)
  rw [refused] at result hosted
  refine ⟨(session.perform queue (.enqueue item)).2, ?_, ⟨?_, hosted, h.running, h.relaxed, h.writer⟩⟩
  · exact congrArg some (Prod.ext result rfl)
  · rw [bridges_perform]
    exact h.ready

/-! ## All items at once -/

/-- An open bridge is asked for its queue, and the queue is used. -/
theorem carryOut?_withQueue {α : Type} (h : session.Opened number queue host)
    (procedure : Procedure Queueing (Except BridgeError α)) :
    session.carryOut? ((BridgeClient.withQueue procedure).expand (System.bridgeUse number)) =
      session.carryOut? (procedure.expand (System.queueing queue)) := by
  obtain ⟨owner, hosted, ready, current⟩ := h.ready
  have state := serve?_state hosted
  have found := serve?_queue_look hosted
  rw [ready] at state
  rw [current] at found
  refine (carryOut?_ask state _).trans ?_
  refine (carryOut?_ask found _).trans ?_
  change session.carryOut? (((useQueue queue procedure).right : Procedure BridgeUse _).expand _) = _
  rw [BridgeCall.useQueue_eq]

theorem carryOut?_enqueue_known
    (served : session.serve? (.queue queue (.perform (.enqueue item))) = some (.ok none, later)) :
    session.carryOut? ((QueueClient.enqueue item).expand (System.queueing queue)) =
      some (.ok (), later) :=
  carryOut?_ask served _

theorem carryOut?_enqueue_unknown {cause : BridgeError}
    (served : session.serve? (.queue queue (.perform (.enqueue item))) = some (.error cause, later)) :
    session.carryOut? ((QueueClient.enqueue item).expand (System.queueing queue)) =
      some (.error cause, later) :=
  carryOut?_ask served _

/-- Items are taken up to the first one that is not known. -/
theorem carryOut?_enqueueAll (items : List WorkItem) : ∀ {session : Session} {host : HostedQueue}
    (count : Nat), session.Opened number queue host →
      ∃ taken result later own,
        (session.resolver host.schema).Hands count items taken result ∧
        session.carryOut? ((QueueClient.enqueueAll count items).expand (System.queueing queue)) =
          some (result, later) ∧
        later.Opened number queue own ∧
        own.queue.contents = host.queue.contents ++ taken := by
  induction items with
  | nil =>
    intro session host count h
    exact ⟨[], _, session, host, .all nofun, rfl, h, (List.append_nil _).symm⟩
  | cons item rest ih =>
    intro session host count h
    rw [BridgeCall.expand_enqueueAll (System.queueing queue)]
    rcases (session.resolver host.schema).knows_or_unknown item with known | ⟨cause, unknown⟩
    · obtain ⟨next, own, served, opened, same, contents⟩ := h.perform_known known
      obtain ⟨taken, result, later, last, hands, run, still, all⟩ := ih (count + 1) opened
      rw [same] at hands
      refine ⟨item :: taken, result, later, last, hands.cons known, ?_, still, ?_⟩
      · exact (carryOut?_bind (carryOut?_enqueue_known served) _).trans run
      · rw [all, contents, List.append_assoc, List.singleton_append]
    · obtain ⟨later, served, still⟩ := h.perform_unknown unknown
      refine ⟨[], .error (.schema cause), later, host, ?_, ?_, still, (List.append_nil _).symm⟩
      · exact @Resolver.Hands.some _ count [] rest item cause nofun unknown
      · exact carryOut?_bind (carryOut?_enqueue_unknown served) _

theorem carryOut?_enqueueEach (items : List WorkItem) : ∀ {session : Session} {host : HostedQueue}
    (count : Nat), session.Opened number queue host →
      session.carryOut? ((BridgeClient.enqueueEach count items).expand (System.bridgeUse number)) =
        session.carryOut? ((QueueClient.enqueueAll count items).expand (System.queueing queue)) := by
  induction items with
  | nil => exact fun _ _ => rfl
  | cons item rest ih =>
    intro session host count h
    have one := h.carryOut?_withQueue (QueueClient.enqueue item)
    rw [BridgeCall.expand_enqueueAll (System.queueing queue),
      BridgeClient.expand_enqueueEach (System.bridgeUse number)]
    rcases (session.resolver host.schema).knows_or_unknown item with known | ⟨cause, unknown⟩
    · obtain ⟨next, own, served, opened, -, -⟩ := h.perform_known known
      have first := carryOut?_enqueue_known served
      refine (carryOut?_bind (one.trans first) _).trans ?_
      refine Eq.trans ?_ (carryOut?_bind first _).symm
      exact ih (count + 1) opened
    · obtain ⟨later, served, -⟩ := h.perform_unknown unknown
      have first := carryOut?_enqueue_unknown served
      refine (carryOut?_bind (one.trans first) _).trans ?_
      refine Eq.trans ?_ (carryOut?_bind first _).symm
      rfl

end Opened

/-! ## While other things happen -/

/-- Whether a bridge is open whenever somebody is served, with the same schema. -/
def OpenedAt (own : List Moment) (number queue : Nat) (resolver : Resolver) : Prop :=
  ∀ moment ∈ own, ∃ host, moment.before.Opened number queue host ∧
    moment.before.resolver host.schema = resolver

variable {own : List Moment} {resolver : Resolver} {result : Except BridgeError Nat}

theorem accepted_of_served {moment : Moment} {action : QueueAction}
    {reply : Except BridgeError (Option Nat)}
    (event : moment.event = .request (.queue queue (.perform action)))
    (served : moment.before.serve? (.queue queue (.perform action)) = some (reply, moment.after)) :
    moment.accepted queue = action.accepted reply := by
  have same : (moment.before.perform queue action).1 = reply :=
    congrArg Prod.fst (Option.some.inj served)
  rw [← same]
  simp [Moment.accepted, Moment.request?, event]

theorem accepted_look {moment : Moment} {request : BridgeRequest}
    (event : moment.event = .request (.bridge number request)) : moment.accepted queue = [] := by
  simp [Moment.accepted, Moment.request?, event]

/-- **Items are taken up to the first one that is not known**, whatever happens between them. -/
theorem hands_of_enqueueAll (items : List WorkItem) : ∀ {own : List Moment} (count : Nat),
    OpenedAt own number queue resolver →
      ((QueueClient.enqueueAll count items).expand (System.queueing queue)).CarriedOut own result →
        resolver.Hands count items (Moment.acceptedIn own queue) result := by
  induction items with
  | nil =>
    intro own count _ carried
    have ended : @Procedure.CarriedOut (Except BridgeError Nat) (.done (.ok count)) own result :=
      carried
    cases ended
    exact .all nofun
  | cons item rest ih =>
    intro own count opened carried
    obtain ⟨reply, first, others, rfl, event, served, goes⟩ :=
      @Procedure.CarriedOut.of_ask _ _ _ (.queue queue (.perform (.enqueue item))) _ carried
    have accepted := accepted_of_served event served
    obtain ⟨host, here, same⟩ := opened first List.mem_cons_self
    have later : OpenedAt others number queue resolver :=
      fun moment hm => opened moment (List.mem_cons_of_mem first hm)
    rw [Moment.acceptedIn, List.flatMap_cons, accepted]
    rcases resolver.knows_or_unknown item with known | ⟨cause, unknown⟩
    · obtain ⟨next, own, answer, -⟩ := here.perform_known (same ▸ known)
      have taken : reply = .ok none :=
        congrArg Prod.fst (Option.some.inj (served.symm.trans answer))
      subst taken
      exact (ih (count + 1) later goes).cons known
    · obtain ⟨next, answer, -⟩ := here.perform_unknown (same ▸ unknown)
      have refused : reply = .error (.schema cause) :=
        congrArg Prod.fst (Option.some.inj (served.symm.trans answer))
      subst refused
      have ended : @Procedure.CarriedOut (Except BridgeError Nat) (.done (.error (.schema cause)))
        others result := goes
      cases ended
      exact @Resolver.Hands.some _ count [] rest item cause nofun unknown

theorem carriedOut_withQueue {α : Type} {result : Except BridgeError α}
    {procedure : Procedure Queueing (Except BridgeError α)} (opened : OpenedAt own number queue resolver)
    (carried : ((BridgeClient.withQueue procedure).expand (System.bridgeUse number)).CarriedOut own
      result) :
    ∃ looks others, own = looks ++ others ∧ Moment.acceptedIn looks queue = [] ∧
      (procedure.expand (System.queueing queue)).CarriedOut others result := by
  obtain ⟨state, first, others, rfl, event, served, goes⟩ :=
    @Procedure.CarriedOut.of_ask _ _ _ (.bridge number .state) _ carried
  obtain ⟨host, here, -⟩ := opened first List.mem_cons_self
  obtain ⟨owner, hosted, ready, -⟩ := here.ready
  have answer := serve?_state hosted
  rw [ready] at answer
  obtain rfl : state = BridgeState.ready :=
    congrArg Prod.fst (Option.some.inj (served.symm.trans answer))
  obtain ⟨found, second, others, rfl, event', served', goes⟩ :=
    @Procedure.CarriedOut.of_ask _ _ _ (.bridge number .queue) _ goes
  obtain ⟨host', here', -⟩ := opened second (List.mem_cons_of_mem first List.mem_cons_self)
  obtain ⟨owner', hosted', -, current⟩ := here'.ready
  have answer' := serve?_queue_look hosted'
  rw [current] at answer'
  obtain rfl : found = some queue :=
    congrArg Prod.fst (Option.some.inj (served'.symm.trans answer'))
  refine ⟨[first, second], others, rfl, ?_, ?_⟩
  · simp [Moment.acceptedIn, accepted_look event, accepted_look event']
  · rw [← @BridgeCall.useQueue_eq _ number queue procedure]
    exact goes

end Session

/-- A bridge that callers have opened is open in this sense while it is ready, unless its queue is
strict or its writer has broken down. -/
theorem Scene.opened_of_ready {session : Session} (fresh : session.Fresh) {events : List SceneEvent}
    {scene : Scene} (run : (start session).run? events = some scene) {number : Nat}
    {owner : HostedBridge} (hosted : scene.session.bridges[number]? = some owner)
    (ready : owner.bridge.state = .ready) :
    ∃ queue host, owner.bridge.queue = some queue ∧ scene.session.queues[queue]? = some host ∧
      (host.queue.strict = false → host.queue.writerGone = false →
        scene.session.Opened number queue host) := by
  obtain ⟨grips, h⟩ : ∃ grips, scene.Orderly False grips :=
    orderly_of_run ⟨_, orderly_start fresh⟩ run False.elim
  have present : scene.session.bridge? number = some owner.bridge := by
    rw [Session.bridge?, hosted]
    rfl
  obtain ⟨queue, host, current, here, running⟩ := h.running present ready
  refine ⟨queue, host, current, here, fun relaxed writer => ?_⟩
  exact ⟨⟨owner, hosted, ready, current⟩, here, running, relaxed, writer⟩

/-! ## Main result -/

/-- What becomes of a session in which items are handed to a bridge, of which the first ones are
taken. -/
structure Session.Handed (session : Session) (number queue : Nat) (host : HostedQueue)
    (items taken : List WorkItem) (result : Except BridgeError Nat) (later : Session) : Prop where
  hands : (session.resolver host.schema).Hands 0 items taken result
  counted : result = .ok items.length ↔ ∀ item ∈ items, (session.resolver host.schema).Knows item
  atOnce : session.carryOut?
    ((BridgeClient.enqueueAll items).expand (System.bridgeUse number)) = some (result, later)
  oneByOne : session.carryOut?
    ((BridgeClient.enqueueEach 0 items).expand (System.bridgeUse number)) = some (result, later)
  /-- The bridge stays open, and its queue gets the items that are taken and no others. -/
  contents : ∃ own, later.Opened number queue own ∧ own.queue.contents = host.queue.contents ++ taken

theorem Session.Opened.handed {session : Session} {number queue : Nat} {host : HostedQueue}
    (h : session.Opened number queue host) (items : List WorkItem) :
    ∃ taken result later, session.Handed number queue host items taken result later := by
  obtain ⟨taken, result, later, own, hands, run, opened, contents⟩ := h.carryOut?_enqueueAll items 0
  have counted := hands.ok_iff
  rw [Nat.zero_add] at counted
  refine ⟨taken, result, later, hands, counted, ?_, ?_, own, opened, contents⟩
  · exact (h.carryOut?_withQueue (QueueClient.enqueueAll 0 items)).trans run
  · exact (h.carryOut?_enqueueEach items 0).trans run

/-- **Refused items leave no trace.** Whatever the state of a queue, an item whose entity type is not
known and every item that comes too late is refused, and the queue stays as it is; no other items are
refused while the writer of the queue is at work. Items that are handed to an open bridge all at once
are taken as if they were handed over one by one, in their order and up to the first one whose entity
type is not known, whether other things happen in between or not; the result is their number if all of
them are known, and only then. Bridges that are ready in a run of callers are open in this sense,
unless their queues are strict or the writers of these have broken down. -/
theorem handed_over_in_order :
    (∀ (queue : Queue) (resolver : Resolver) (now : Duration) (item : WorkItem),
      (∀ cause, resolver.descriptor item.entityType = .error cause →
        queue.Refuses (queue.enqueue resolver now item) (.schema cause)) ∧
      (resolver.Knows item → queue.stopped = true →
        queue.Refuses (queue.enqueue resolver now item) .queueStopped) ∧
      (queue.writerGone = false → ∀ cause, (queue.enqueue resolver now item).result = .error cause →
        ¬ resolver.Knows item ∨ queue.stopped = true)) ∧
    (∀ (number queue : Nat) (items : List WorkItem),
      (∀ (session : Session) (host : HostedQueue), session.Opened number queue host →
        ∃ taken result later, session.Handed number queue host items taken result later) ∧
      ∀ (own : List Moment) (resolver : Resolver) (result : Except BridgeError Nat),
        Session.OpenedAt own number queue resolver →
        ((BridgeClient.enqueueAll items).expand (System.bridgeUse number)).CarriedOut own result →
          resolver.Hands 0 items (Moment.acceptedIn own queue) result) ∧
    ∀ (session : Session), session.Fresh → ∀ (events : List SceneEvent) (scene : Scene),
      (Scene.start session).run? events = some scene → ∀ (number : Nat) (owner : HostedBridge),
        scene.session.bridges[number]? = some owner → owner.bridge.state = .ready →
          ∃ queue host, owner.bridge.queue = some queue ∧
            scene.session.queues[queue]? = some host ∧
            (host.queue.strict = false → host.queue.writerGone = false →
              scene.session.Opened number queue host) := by
  refine ⟨fun queue resolver now item => ?_, fun number queue items => ⟨fun session host opened =>
    opened.handed items, fun own resolver result opened carried => ?_⟩,
    fun session fresh events scene run number owner => Scene.opened_of_ready fresh run⟩
  · obtain ⟨unknown, late⟩ := queue.refuses_of_unfit resolver now item
    exact ⟨unknown, late, fun writer cause => Queue.unfit_of_refused writer⟩
  · obtain ⟨looks, others, rfl, silent, goes⟩ := Session.carriedOut_withQueue opened carried
    have still : Session.OpenedAt others number queue resolver :=
      fun moment hm => opened moment (List.mem_append_right looks hm)
    rw [Moment.acceptedIn, List.flatMap_append]
    change resolver.Hands 0 items (Moment.acceptedIn looks queue ++ Moment.acceptedIn others queue) result
    rw [silent, List.nil_append]
    exact Session.hands_of_enqueueAll items 0 still goes

/-! ## An unknown item among others -/

namespace Session

/-- Three items whose entity type is known, and one that is not. -/
def strangeItems : List WorkItem := [.add "A" "1", .delete "A" "2", .add "Z" "3", .add "A" "4"]

/-- A session with an open bridge, whose queue cuts pairs. -/
def openSession : Session where
  queues := [hostQueue pairs (.own oneIndex) .engine]
  bridges := [{
    bridge := { state := .ready, queue := some 0 }
    config := {}
    schema := .own oneIndex
    route := .engine
    table := 0 }]

theorem opened_openSession :
    openSession.Opened 0 0 (hostQueue pairs (.own oneIndex) .engine) :=
  ⟨⟨_, rfl, rfl, rfl⟩, rfl, rfl, rfl, rfl⟩

/-- The items are handed over, and the timer ticks before the unknown one. -/
def strangeRun : List SessionEvent :=
  [.request (.bridge 0 .state), .request (.bridge 0 .queue), handOver (.add "A" "1"),
    handOver (.delete "A" "2"), .request (.queue 0 (.perform .tick)), handOver (.add "Z" "3")]

theorem strangeRun_isSome : (openSession.play? strangeRun).isSome = true := rfl

/-- The moments of the run at which the caller is served. -/
def strangeMoments : List Moment := ((openSession.play? strangeRun).get strangeRun_isSome).eraseIdx 4

theorem openedAt_strangeMoments : OpenedAt strangeMoments 0 0 oneIndex.resolver := by
  refine List.forall_mem_cons.mpr ⟨⟨_, ⟨⟨_, rfl, rfl, rfl⟩, rfl, rfl, rfl, rfl⟩, rfl⟩, ?_⟩
  refine List.forall_mem_cons.mpr ⟨⟨_, ⟨⟨_, rfl, rfl, rfl⟩, rfl, rfl, rfl, rfl⟩, rfl⟩, ?_⟩
  refine List.forall_mem_cons.mpr ⟨⟨_, ⟨⟨_, rfl, rfl, rfl⟩, rfl, rfl, rfl, rfl⟩, rfl⟩, ?_⟩
  refine List.forall_mem_cons.mpr ⟨⟨_, ⟨⟨_, rfl, rfl, rfl⟩, rfl, rfl, rfl, rfl⟩, rfl⟩, ?_⟩
  exact List.forall_mem_singleton.mpr ⟨_, ⟨⟨_, rfl, rfl, rfl⟩, rfl, rfl, rfl, rfl⟩, rfl⟩

/-- The two items in front of the unknown one are taken, all at once and one by one. -/
theorem handed_over_in_order_strange :
    oneIndex.resolver.Hands 0 strangeItems [.add "A" "1", .delete "A" "2"]
        (.error (.schema (.unknownEntity "Z"))) ∧
      (∃ taken result later, openSession.Handed 0 0
        (hostQueue pairs (.own oneIndex) .engine) strangeItems taken result later) ∧
      (Queue.start pairs).Refuses ((Queue.start pairs).enqueue oneIndex.resolver .zero (.add "Z" "3"))
        (.schema (.unknownEntity "Z")) := by
  obtain ⟨refuses, hands, -⟩ := handed_over_in_order
  have carried : ((BridgeClient.enqueueAll strangeItems).expand (System.bridgeUse 0)).CarriedOut
      strangeMoments (.error (.schema (.unknownEntity "Z"))) :=
    .ask rfl rfl (.ask rfl rfl (.ask rfl rfl (.ask rfl rfl (.ask rfl rfl (.done _)))))
  refine ⟨?_, (hands 0 0 strangeItems).1 openSession _ opened_openSession, ?_⟩
  · exact (hands 0 0 strangeItems).2 strangeMoments _ _ openedAt_strangeMoments carried
  · exact (refuses (Queue.start pairs) oneIndex.resolver .zero (.add "Z" "3")).1 _ rfl

end Session

end EntitySearch
