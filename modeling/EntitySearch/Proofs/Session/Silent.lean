import EntitySearch.Proofs.Index.Requests
import EntitySearch.Proofs.Queue.Requests
import EntitySearch.Proofs.Session.Bridges
import EntitySearch.Proofs.Session.Scene
import EntitySearch.Proofs.Session.Speaking

/-!
# Who says nothing of the state of a bridge

Only those who open or close a bridge change its state and say so. Neither those who use a bridge, nor
the writers of queues, nor those who set up indices do that, whatever they are told.

* `SystemRequest.Silent`: a request that neither changes the state of a bridge nor tells one.
* `Lifecycle.asks_setUp_silent`, `BridgeCall.asks_silent`: setting up indices, and using a bridge.
* `Session.Silent`, `Session.Silent.after?`: the writers of a session.
-/

namespace EntitySearch

/-- Whether an observation is that a bridge entered a state. -/
def Measurement.OfState : Measurement → Prop
  | .bridgeState _ => True
  | _ => False

theorem Measurement.OfIndex.ofState {measurement : Measurement} (h : measurement.OfIndex) :
    ¬ measurement.OfState := by
  cases measurement <;> first | exact id | exact h.elim

theorem Measurement.OfJob.ofState {measurement : Measurement} (h : measurement.OfJob) :
    ¬ measurement.OfState := by
  cases measurement <;> first | exact id | exact h.elim

/-- Whether a request to the engine tells no state. -/
def Link.Silent : Link.Request → Prop
  | .record measurement => ¬ measurement.OfState
  | _ => True

/-- Whether a request neither changes the state of a bridge nor tells one. -/
def SystemRequest.Silent : SystemRequest → Prop
  | .record measurement => ¬ measurement.OfState
  | .bridge _ (.enter _) => False
  | _ => True

theorem SystemRequest.Waits.silent {request : SystemRequest} (h : request.Waits) :
    request.Silent := by
  cases request <;> trivial

namespace System

variable {route : Route} {schema : SchemaSource} {table queue : Nat}

theorem asks_link_silent {request : LinkRequest} (h : Link.Silent request) :
    (link route request).Asks SystemRequest.Silent fun _ => True := by
  refine asks_link (fun _ => SystemRequest.Waits.silent) ?_
  cases request with
  | record measurement => exact h
  | _ => trivial

theorem asks_administering_silent {request : Administering.Request}
    (h : Administering.Plain request) :
    (administering route schema table request).Asks SystemRequest.Silent fun _ => True := by
  refine asks_administering (fun _ => SystemRequest.Waits.silent) ?_ (fun _ => trivial)
    fun _ => trivial
  rintro made rfl
  cases made with
  | record measurement => exact Measurement.OfIndex.ofState h
  | _ => trivial

end System

/-- **Setting up the indices of a bridge.** -/
theorem Lifecycle.asks_setUp_silent {route : Route} {schema : SchemaSource} {table number : Nat}
    (admin : IndexAdmin) (recreates : Bool) :
    ((setUp admin recreates).expand (System.living route schema table number)).Asks
      SystemRequest.Silent fun _ => True := by
  have carries : ∀ request, Administering.Plain request →
      (System.living route schema table number (.inl request)).Asks SystemRequest.Silent
        fun _ => True := fun _ => System.asks_administering_silent
  unfold setUp
  cases recreates
  · exact .expand_left carries IndexAdmin.asks_createAll
  · exact .expand_left carries IndexAdmin.asks_recreateAll

/-! ## Those who use a bridge -/

namespace Searcher

variable {searcher : Searcher} {search : Search}

theorem asks_recordAll {measurements : List Measurement} {page : Except BridgeError SearchPage}
    (h : ∀ measurement ∈ measurements, ¬ measurement.OfState) :
    ((recordAll measurements).bind fun _ => .done page).Asks Link.Silent fun _ => True := by
  induction measurements with
  | nil => trivial
  | cons measurement rest ih =>
    rw [List.forall_mem_cons] at h
    exact ⟨h.1, fun _ => ih h.2⟩

theorem asks_execute_silent : (searcher.execute search).Asks Link.Silent fun _ => True := by
  unfold execute
  split
  · trivial
  · trivial
  · next request first rest _ _ =>
    refine ⟨trivial, fun outcome => ?_⟩
    cases outcome with
    | error cause => exact ⟨id, fun _ => trivial⟩
    | ok response =>
      refine asks_recordAll fun measurement hm => ?_
      unfold measurements at hm
      split at hm
      · cases List.mem_singleton.mp hm
        exact id
      · simp only [List.mem_cons, List.not_mem_nil, or_false] at hm
        rcases hm with rfl | rfl <;> exact id
      · cases hm

end Searcher

/-- Whether an access to a bridge or a queue does not change the state of the bridge. -/
def BridgeUse.Silent : BridgeUse.Request → Prop
  | .inl (.enter _) => False
  | _ => True

namespace BridgeCall

variable {α : Type} {number : Nat} {call : BridgeCall}

theorem asks_queueing (queue : Nat) (procedure : Procedure Queueing α) :
    ((useQueue queue procedure).right : Procedure BridgeUse α).Asks BridgeUse.Silent
      fun _ => True := by
  induction procedure with
  | done result => trivial
  | ask request next ih => exact ⟨trivial, ih⟩

theorem asks_openQueue : BridgeClient.openQueue.Asks BridgeUse.Silent fun _ => True := by
  refine ⟨trivial, fun state : BridgeState => ?_⟩
  dsimp only [Procedure.bind]
  by_cases ready : state = .ready
  swap
  · rw [if_neg ready]
    trivial
  rw [if_pos ready]
  refine ⟨trivial, fun queue : Option Nat => ?_⟩
  cases queue <;> trivial

theorem asks_withQueue (procedure : Procedure Queueing (Except BridgeError α)) :
    (BridgeClient.withQueue procedure).Asks BridgeUse.Silent fun _ => True := by
  refine .bind (fun result _ => ?_) asks_openQueue
  cases result with
  | error cause => trivial
  | ok queue => exact asks_queueing queue procedure

theorem asks_bridgeUse {procedure : Procedure BridgeUse α}
    (h : procedure.Asks BridgeUse.Silent fun _ => True) :
    (procedure.expand (System.bridgeUse number)).Asks SystemRequest.Silent fun _ => True := by
  refine .expand (fun request silent => ?_) h
  rcases request with access | ⟨queue, request⟩
  · cases access with
    | enter state => exact silent.elim
    | _ => exact ⟨trivial, fun _ => trivial⟩
  · exact ⟨trivial, fun _ => trivial⟩

theorem asks_searching (session : Session) (host : HostedBridge) (sought : Search) :
    (session.searching number host sought).Asks SystemRequest.Silent fun _ => True := by
  refine ⟨trivial, fun state : BridgeState => ?_⟩
  dsimp only [Procedure.bind]
  by_cases ready : state = .ready
  · rw [if_pos ready]
    exact .expand_left (fun _ => System.asks_link_silent) Searcher.asks_execute_silent
  · rw [if_neg ready]
    trivial

/-- **Using a bridge.** -/
theorem asks_silent (session : Session) (number : Nat) (host : HostedBridge)
    (uses : call.moves = false) :
    (call.procedure session number host).Asks SystemRequest.Silent fun _ => True := by
  have mapped : ∀ {β : Type} {procedure : Procedure System (Except BridgeError β)},
      procedure.Asks SystemRequest.Silent (fun _ => True) →
        (procedure.bind fun result => .done (result.map fun _ => ())).Asks SystemRequest.Silent
          fun _ => True := by
    intro β procedure h
    refine .bind (fun result _ => ?_) h
    trivial
  cases call with
  | opening => cases uses
  | closing => cases uses
  | enqueue item => exact asks_bridgeUse (asks_withQueue _)
  | enqueueAll items => exact mapped (asks_bridgeUse (asks_withQueue _))
  | flush => exact asks_bridgeUse (asks_withQueue _)
  | flushAndWait => exact asks_bridgeUse (asks_withQueue _)
  | search sought => exact mapped (asks_searching session host sought)
  | subscribe => exact mapped (asks_bridgeUse asks_openQueue)

end BridgeCall

/-! ## Writers -/

/-- Whether the writer of a queue says nothing of the state of a bridge. -/
def HostedQueue.Silent (host : HostedQueue) : Prop :=
  ∀ rest, host.job = some (.waiting rest) → rest.Asks SystemRequest.Silent fun _ => True

/-- Whether the writers of a session say nothing of the states of bridges. -/
def Session.Silent (session : Session) : Prop :=
  ∀ (number : Nat) (host : HostedQueue), session.queues[number]? = some host → host.Silent

/-- Whether a request that is made for a job tells no state. -/
def Writing.Silent : Writing.Request → Prop
  | .inl request => Link.Silent request
  | .inr _ => True

theorem Writer.write_silent (writer : Writer) (resolver : Resolver) (items : List WorkItem) :
    (writer.write resolver items).Asks Writing.Silent fun _ => True := by
  have retried : ∀ policy operation call,
      (Link.retried policy operation call).Asks (OfLink Writing.Silent) fun _ => True :=
    fun policy operation call =>
      Link.asks_retried trivial (fun _ => id) (fun _ => trivial) trivial policy operation
  refine (write_asks_allowed_iff (fun _ => Measurement.OfJob.ofState) (fun _ => trivial) writer items
    resolver (retried _ _ _)).mpr (.inr (retried _ _ _))

namespace HostedQueue

variable {number : Nat} {moment : Moment} {host host' : HostedQueue}

theorem writing_silent (host : HostedQueue) (number : Nat) (resolver : Resolver) (job : Job) :
    (host.writing number resolver job).Asks SystemRequest.Silent fun _ => True := by
  refine .expand (fun request silent => ?_) (host.writer.write_silent resolver job.items)
  cases request with
  | inl request => exact System.asks_link_silent silent
  | inr failure => exact ⟨trivial, fun _ => trivial⟩

theorem Turn.silent (turn : host.Turn number moment host') (h : host.Silent) : host'.Silent := by
  intro rest waits
  cases turn with
  | elsewhere steps => exact h rest (steps.job.symm.trans waits)
  | request event made before serves later steps after =>
    rw [after] at waits
    cases waits
    exact (h _ before).2 _
  | start event free next same =>
    rw [same] at waits
    cases waits
    exact writing_silent _ _ _ _
  | finish event before same =>
    rw [same] at waits
    cases waits
  | breakDown event before same =>
    rw [same] at waits
    cases waits

end HostedQueue

namespace Session

variable {session later : Session}

/-- **Writers say nothing of the states of bridges**, whatever happens. -/
theorem Silent.after? (h : session.Silent) {event : SessionEvent}
    (ha : session.after? event = some later) : later.Silent := by
  intro number host hosted
  cases before : session.queues[number]? with
  | none =>
    obtain ⟨settings, schema, route, rfl⟩ := fresh_of_after? before ha hosted
    intro rest waits
    cases waits
  | some own =>
    obtain ⟨after, present, turn⟩ := turn_of_after? before ha
    rw [hosted] at present
    cases present
    exact turn.silent (h number own before)

/-- What is requested at a moment is silent, if what happens is not a request of somebody else. -/
theorem Silent.request (h : session.Silent) {event : SessionEvent}
    (only : ∀ request, event = .request request → request.Silent) {request : SystemRequest}
    (made : Moment.request? ⟨session, event, later⟩ = some request) : request.Silent := by
  unfold Moment.request? at made
  split at made
  · next own same =>
    cases made
    exact only _ same
  · next queue same =>
    split at made
    · next asked next writing =>
      cases made
      obtain ⟨host, hosted, job⟩ := Session.writing?_eq_some writing
      exact (h queue host hosted _ job).1
    · cases made
  · cases made

end Session

end EntitySearch
