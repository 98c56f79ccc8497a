import EntitySearch.Proofs.Session.Orderly

/-!
# When a bridge is open

A bridge that says it is ready has a queue that takes items, at every moment, whatever happens. While
nobody opens or closes it, its state and its queue go together, and whoever uses it then is told that
it is not open exactly if it is not ready.

* `Scene.Orderly.running`: the queue of a bridge that is ready.
* `Scene.Orderly.settled`, `Scene.Orderly.calm`: a bridge that nobody opens or closes, which stays as
  it is.
* `Scene.Asking`: that somebody uses such a bridge.
* `Scene.lifecycle_of_run`: all of it, after every run.
-/

namespace EntitySearch

/-- Whether something that happens is not the beginning of opening or closing a bridge. -/
def SceneEvent.Spares (number : Nat) : SceneEvent → Prop
  | .call other called => other = number → called.moves = false
  | _ => True

/-- The result of a caller who has come to the end. -/
def Scene.result? (scene : Scene) (index : Nat) : Option (Except BridgeError Unit) :=
  match (scene.callers[index]?).map Caller.rest with
  | some (.done result) => some result
  | _ => none

/-- Whether somebody uses a bridge that stays as it is. -/
def Scene.Asking (scene : Scene) (number : Nat) (bridge : Bridge) (index : Nat) (call : BridgeCall) :
    Prop :=
  ∃ caller, scene.callers[index]? = some caller ∧
    caller.rest.Ensures (System.using number (some bridge))
      (BridgeCall.Ends call.items (some bridge)) caller.usage

/-! ## What those are told who use a bridge -/

section Session

variable {session later : Session} {intact : Prop} {moments : List Moment} {number : Nat}
  {bridge : Bridge}

theorem Session.opened_perform (session : Session) (queue : Nat) (action : QueueAction) :
    Opened (session.perform queue action).1 := by
  unfold perform
  split
  · exact nofun
  · exact Queue.result_perform _ _ _ action

theorem Session.opened_outcome (staffed : session.Staffed intact moments) {queue job : Nat}
    {reply : Queueing.Reply (.outcome job)}
    (h : session.serveQueue? queue (.outcome job) = some (reply, later)) :
    reply ≠ .error .notOpen := by
  simp only [serveQueue?] at h
  split at h
  · cases h
    intro same
    cases same
  · next host hq =>
    obtain ⟨outcome, ho, same⟩ := Option.map_eq_some_iff.mp h
    cases same
    unfold Queue.outcome? at ho
    split at ho
    · next entry found =>
      cases ho
      exact ((staffed.employed hq).completed _ (List.mem_of_find?_eq_some found)).1
    · split at ho
      · cases ho
        intro same
        cases same
      · cases ho

/-- What somebody is told of a bridge is how it is, and queues never say that it is not open. -/
theorem Session.tells_of_serve? (staffed : session.Staffed intact moments)
    (hosted : session.bridge? number = some bridge) {usage : Usage} {still : Option Bridge}
    {request : SystemRequest} (permitted : (System.using number still).permits usage request)
    {reply : System.Reply request} (served : session.serve? request = some (reply, later)) :
    request.Tells bridge reply := by
  cases request with
  | bridge other access =>
    obtain ⟨rfl, reads⟩ := permitted
    obtain ⟨_, after, present, serves, -⟩ := bridge?_serveBridge? served
    rw [hosted] at present
    cases present
    rcases reads with rfl | rfl <;> cases serves <;> rfl
  | queue queue request =>
    cases request with
    | perform action =>
      have result := congrArg Prod.fst (Option.some.inj served)
      subst result
      exact session.opened_perform queue action
    | outcome job => exact Session.opened_outcome staffed served
    | drained => trivial
  | _ => trivial

theorem Session.bridge?_of_moving {final : BridgeState → Prop} {grip : Grip}
    {request : SystemRequest} (permitted : (System.moving number intact final).permits grip request)
    {reply : System.Reply request} (served : session.serve? request = some (reply, later))
    {other : Nat} (different : other ≠ number) : later.bridge? other = session.bridge? other := by
  by_cases access : ∃ number access, request = .bridge number access
  swap
  · obtain ⟨bridges, -⟩ := bridges_serve? (fun _ _ same => access ⟨_, _, same⟩) served
    rw [bridge?, bridges, bridge?]
  obtain ⟨own, access, rfl⟩ := access
  obtain rfl := System.own_of_moving permitted
  obtain ⟨_, _, -, -, bridges⟩ := bridge?_serveBridge? served
  rw [bridges, if_neg different]

end Session

namespace Scene

variable {scene later : Scene} {intact : Prop} {grips : Grips} {number index : Nat}
  {bridge : Bridge} {call : BridgeCall}

/-! ## Bridges that are ready, and bridges that nobody opens or closes -/

theorem Orderly.running (h : scene.Orderly intact grips)
    (hosted : scene.session.bridge? number = some bridge) (ready : bridge.state = .ready) :
    ∃ queue host, bridge.queue = some queue ∧ scene.session.queues[queue]? = some host ∧
      host.queue.stopped = false := by
  have watched := h.held.watched number bridge hosted
  obtain ⟨queue, present⟩ := Option.isSome_iff_exists.mp (watched.ready ready)
  obtain ⟨-, host, hq, running⟩ := watched.current queue present
  exact ⟨queue, host, present, hq, running⟩

/-- Nobody has the lock of a bridge that nobody opens or closes. -/
theorem Orderly.settled (h : scene.Orderly intact grips)
    (hosted : scene.session.bridge? number = some bridge) (calm : scene.Calm number) :
    bridge.Settled := by
  have free : grips number = none := by
    cases known : grips number with
    | none => rfl
    | some entry =>
      obtain ⟨holder, hold⟩ := entry
      obtain ⟨caller, hc, own, moves⟩ := h.holders known
      obtain ⟨grip, held, ensures⟩ := (h.movers hc moves).rest
      have finished := calm caller (List.mem_of_getElem? hc) own moves
      rw [Caller.isOver] at finished
      split at finished
      · next result ended =>
        rw [ended] at ensures
        obtain rfl := ensures grip rfl
        rw [own, Grips.of?, known] at held
        dsimp only at held
        rw [if_pos rfl] at held
        cases held
      · cases finished
  have watched := h.held.watched number bridge hosted
  rw [free] at watched
  exact (watched.free rfl).1

/-- A bridge that nobody opens or closes stays as it is. -/
theorem Orderly.calm (h : scene.Orderly intact grips) (calm : scene.Calm number)
    {event : SceneEvent} (spares : event.Spares number) (ha : scene.after? event = some later) :
    later.Calm number ∧ later.session.bridge? number = scene.session.bridge? number := by
  cases event with
  | call other call =>
    obtain ⟨host, -, rfl⟩ := after?_call ha
    refine ⟨fun caller hc own moves => ?_, rfl⟩
    rcases List.mem_append.mp hc with hc | hc
    · exact calm caller hc own moves
    · cases List.mem_singleton.mp hc
      exact absurd ((spares own).symm.trans moves) Bool.false_ne_true
  | learn registry hidden =>
    obtain rfl := Option.some.inj ha
    exact ⟨calm, rfl⟩
  | elsewhere event =>
    obtain ⟨foreign, session, happens, rfl⟩ := after?_elsewhere ha
    have quiet := (h.held.staffed.foreign happens foreign).1
    exact ⟨calm, congrFun (Session.quiet_after? happens quiet).1 number⟩
  | step index =>
    obtain ⟨caller, request, next, reply, session, hc, asks, served, rfl⟩ := after?_step ha
    have elsewhere : ¬ (caller.bridge = number ∧ caller.call.moves = true) := by
      rintro ⟨own, moves⟩
      have finished := calm caller (List.mem_of_getElem? hc) own moves
      rw [Caller.isOver, asks] at finished
      cases finished
    refine ⟨fun own ho same moves => ?_, ?_⟩
    · obtain ⟨other, ho⟩ := List.mem_iff_getElem?.mp ho
      rcases getElem?_modify_cases hc ho with ⟨-, rfl⟩ | ⟨-, ho⟩
      · exact absurd ⟨same, moves⟩ elsewhere
      · exact calm own (List.mem_of_getElem? ho) same moves
    · cases moves : caller.call.moves with
      | false =>
        have ensures := (h.users hc moves).rest
        rw [asks] at ensures
        have quiet := (System.quiet_of_using (ensures caller.usage rfl).1).1
        exact congrFun (Session.quiet_serve? quiet served) number
      | true =>
        have different : number ≠ caller.bridge := fun same => elsewhere ⟨same.symm, moves⟩
        obtain ⟨grip, -, ensures⟩ := (h.movers hc moves).rest
        rw [asks] at ensures
        exact Session.bridge?_of_moving (ensures grip rfl).1 served different

/-! ## Those who use a bridge -/

theorem Orderly.asking (h : scene.Orderly intact grips)
    (hosted : scene.session.bridge? number = some bridge)
    (asking : scene.Asking number bridge index call) {event : SceneEvent}
    (ha : scene.after? event = some later) : later.Asking number bridge index call := by
  obtain ⟨caller, hc, ensures⟩ := asking
  cases event with
  | call other made =>
    obtain ⟨host, -, rfl⟩ := after?_call ha
    exact ⟨caller, (List.getElem?_append_left (List.getElem?_eq_some_iff.mp hc).1).trans hc, ensures⟩
  | learn registry hidden =>
    obtain rfl := Option.some.inj ha
    exact ⟨caller, hc, ensures⟩
  | elsewhere event =>
    obtain ⟨-, session, -, rfl⟩ := after?_elsewhere ha
    exact ⟨caller, hc, ensures⟩
  | step other =>
    obtain ⟨own, request, next, reply, session, ho, asks, served, rfl⟩ := after?_step ha
    by_cases same : other = index
    · subst same
      rw [hc] at ho
      cases ho
      rw [asks] at ensures
      obtain ⟨permitted, rest⟩ := ensures caller.usage rfl
      refine ⟨caller.told request reply (next reply), ?_, rest reply _ ⟨?_, rfl⟩⟩
      · simp [hc]
      · rintro _ ⟨⟩
        exact Session.tells_of_serve? h.held.staffed hosted permitted served
    · refine ⟨caller, ?_, ensures⟩
      simp [same, hc]

theorem asking_call (bridge : Bridge) (uses : call.moves = false)
    (ha : scene.after? (.call number call) = some later) :
    later.Asking number bridge scene.callers.length call := by
  obtain ⟨host, -, rfl⟩ := after?_call ha
  exact ⟨_, List.getElem?_concat_length, BridgeCall.ensures scene.session host call uses⟩

theorem asking_of_run {events : List SceneEvent} (h : ∃ grips, scene.Orderly intact grips)
    (calm : scene.Calm number) (hosted : scene.session.bridge? number = some bridge)
    (asking : scene.Asking number bridge index call) (run : scene.run? events = some later)
    (spares : ∀ event ∈ events, (intact → event.isWhole = true) ∧ event.Spares number) :
    later.Asking number bridge index call := by
  have kept := keeps_of_run
    (fun scene => (∃ grips, scene.Orderly intact grips) ∧ scene.Calm number ∧
      scene.session.bridge? number = some bridge ∧ scene.Asking number bridge index call)
    (fun event => (intact → event.isWhole = true) ∧ event.Spares number) ?_ run spares
    ⟨h, calm, hosted, asking⟩
  · exact kept.2.2.2
  rintro scene event later ⟨whole, spares⟩ ⟨⟨grips, h⟩, calm, hosted, asking⟩ ha
  obtain ⟨still, same⟩ := h.calm calm spares ha
  exact ⟨h.after event whole ha, still, same.trans hosted, h.asking hosted asking ha⟩

/-- Whoever uses a bridge that stays as it is and is in order is told that it is not open exactly if
it is not ready. -/
theorem Asking.result (h : scene.Asking number bridge index call) (settled : bridge.Settled)
    {result : Except BridgeError Unit} (ended : scene.result? index = some result) :
    result = .error .notOpen ↔ bridge.state ≠ .ready := by
  obtain ⟨caller, hc, ensures⟩ := h
  rw [result?, hc] at ended
  dsimp only [Option.map_some] at ended
  split at ended
  · next done same =>
    cases ended
    rw [Option.some.inj same] at ensures
    exact (ensures caller.usage rfl).notOpen bridge rfl settled
  · cases ended

end Scene

/-! ## Whoever finds a bridge not ready -/

/-- Whether the first request of a procedure asks a bridge for its state, and is the last one if the
bridge is not ready. -/
def Procedure.Minds {α : Type} (number : Nat) (procedure : Procedure System (Except BridgeError α)) :
    Prop :=
  ∃ next, procedure = .ask (SystemRequest.bridge number .state) next ∧
    ∀ state : BridgeState, state ≠ .ready → next state = .done (.error .notOpen)

namespace BridgeCall

variable {α β : Type} {number : Nat} {call : BridgeCall}

theorem minds_openQueue {f : Except BridgeError Nat → Procedure System (Except BridgeError α)}
    (closed : f (.error .notOpen) = .done (.error .notOpen)) :
    ((BridgeClient.openQueue.expand (System.bridgeUse number)).bind f).Minds number := by
  refine ⟨_, rfl, fun state other => ?_⟩
  dsimp only [Procedure.bind]
  rw [if_neg other]
  exact closed

theorem minds_withQueue (procedure : Procedure Queueing (Except BridgeError α)) :
    ((BridgeClient.withQueue procedure).expand (System.bridgeUse number)).Minds number := by
  change ((BridgeClient.openQueue.bind _).expand _).Minds _
  rw [Procedure.expand_bind]
  exact minds_openQueue rfl

theorem minds_map {procedure : Procedure System (Except BridgeError α)}
    (h : procedure.Minds number) (f : α → β) :
    (procedure.bind fun result => .done (result.map f)).Minds number := by
  obtain ⟨next, rfl, ends⟩ := h
  refine ⟨fun state : BridgeState => (next state).bind fun result => .done (result.map f), rfl, ?_⟩
  exact fun state other => congrArg (Procedure.bind · _) (ends state other)

theorem minds (session : Session) (number : Nat) (host : HostedBridge) (uses : call.moves = false) :
    (call.procedure session number host).Minds number := by
  cases call with
  | opening => cases uses
  | closing => cases uses
  | enqueue item => exact minds_withQueue _
  | enqueueAll items => exact minds_map (minds_withQueue _) _
  | flush => exact minds_withQueue _
  | flushAndWait => exact minds_withQueue _
  | subscribe => exact minds_openQueue rfl
  | search sought =>
    refine minds_map ⟨_, rfl, fun state other => ?_⟩ _
    dsimp only [Procedure.bind]
    rw [if_neg other]
    rfl

end BridgeCall

namespace Scene

variable {scene : Scene} {number : Nat} {host : HostedBridge} {call : BridgeCall}

theorem result_of_notReady (hosted : scene.session.bridges[number]? = some host)
    (uses : call.moves = false) (notReady : host.bridge.state ≠ .ready) :
    ∃ first later, scene.after? (.call number call) = some first ∧
      first.after? (.step scene.callers.length) = some later ∧
      later.result? scene.callers.length = some (.error .notOpen) := by
  obtain ⟨next, asks, ends⟩ := BridgeCall.minds scene.session number host uses
  have called : scene.after? (.call number call) = some { scene with
      callers := scene.callers ++
        [⟨number, call, .ask (SystemRequest.bridge number .state) next, {}⟩] } := by
    rw [after?, hosted, Option.map_some, asks]
  obtain ⟨session, served⟩ : ∃ session, scene.session.serve? (.bridge number .state) =
      some (host.bridge.state, session) := by
    rw [Session.serve?, Session.serveBridge?, hosted]
    exact ⟨_, rfl⟩
  refine ⟨_, _, called, after?_step_of List.getElem?_concat_length rfl served, ?_⟩
  rw [result?]
  simp [Caller.told, ends _ notReady]

/-- **The life of a bridge.** At every moment of a run in which callers open, close and use bridges,
whatever becomes of their indices, a bridge that is ready has a queue that takes items. While nobody
opens or closes it, it is new, ready or closed, and has a queue exactly if it is ready; and whoever
begins to use it then is told that it is not open exactly if it is not ready, in that case with the
first step, and otherwise never while nobody begins to open or close it. -/
theorem lifecycle_of_run {session : Session} (fresh : session.Fresh) {events : List SceneEvent}
    (run : (start session).run? events = some scene)
    (hosted : scene.session.bridges[number]? = some host) :
    (host.bridge.state = .ready → ∃ queue own, host.bridge.queue = some queue ∧
      scene.session.queues[queue]? = some own ∧ own.queue.stopped = false) ∧
    (scene.Calm number → host.bridge.Settled ∧ ∀ call : BridgeCall, call.moves = false →
      (host.bridge.state ≠ .ready → ∃ first later,
        scene.after? (.call number call) = some first ∧
        first.after? (.step scene.callers.length) = some later ∧
        later.result? scene.callers.length = some (.error .notOpen)) ∧
      ∀ rest later result, scene.run? (.call number call :: rest) = some later →
        (∀ event ∈ rest, event.Spares number) →
        later.result? scene.callers.length = some result →
        (result = .error .notOpen ↔ host.bridge.state ≠ .ready)) := by
  obtain ⟨grips, h⟩ : ∃ grips, scene.Orderly False grips :=
    orderly_of_run ⟨_, orderly_start fresh⟩ run False.elim
  have present : scene.session.bridge? number = some host.bridge := by
    rw [Session.bridge?, hosted]
    rfl
  refine ⟨h.running present, fun calm => ?_⟩
  have settled := h.settled present calm
  refine ⟨settled, fun call uses => ⟨result_of_notReady hosted uses, ?_⟩⟩
  intro rest later result run spares ended
  obtain ⟨first, called, goes⟩ := run?_cons run
  have spared : SceneEvent.Spares number (.call number call) := fun _ => uses
  obtain ⟨still, same⟩ := h.calm calm spared called
  have asking := asking_of_run (h.after (.call number call) False.elim called) still
    (same.trans present) (asking_call host.bridge uses called) goes fun event he =>
      ⟨False.elim, spares event he⟩
  exact asking.result settled ended

/-- A session with a bridge for which nothing is declared. -/
def bareSession : Session where
  tables := [{}]
  bridges := [{ config := {}, schema := .shared, route := .engine, table := 0 }]

theorem fresh_bareSession : bareSession.Fresh where
  queues := rfl
  bridges host hm := by
    cases List.mem_singleton.mp hm
    rfl

/-- Somebody opens the bridge. -/
def openingRun : List SceneEvent := .call 0 .opening :: List.replicate 8 (.step 0)

theorem openingRun_isSome : ((start bareSession).run? openingRun).isSome = true := rfl

/-- The scene in which the bridge has been opened. -/
def openedScene : Scene := ((start bareSession).run? openingRun).get openingRun_isSome

theorem calm_openedScene : openedScene.Calm 0 := by
  intro caller hc _ _
  cases List.mem_singleton.mp hc
  rfl

/-- The bridge that has been opened has a queue, and somebody who subscribes is not told that it is not
open. -/
theorem lifecycle_of_openingRun :
    ∃ host, openedScene.session.bridges[0]? = some host ∧
      (∃ queue own, host.bridge.queue = some queue ∧
        openedScene.session.queues[queue]? = some own ∧ own.queue.stopped = false) ∧
      host.bridge.Settled ∧ ∃ later result,
        openedScene.run? (.call 0 .subscribe :: [.step 1, .step 1]) = some later ∧
        later.result? 1 = some result ∧ ¬ result = .error .notOpen := by
  obtain ⟨running, calm⟩ :=
    lifecycle_of_run fresh_bareSession (Option.some_get openingRun_isSome).symm
      (show openedScene.session.bridges[0]? = some _ from rfl)
  obtain ⟨settled, uses⟩ := calm calm_openedScene
  have told := (uses .subscribe rfl).2 [.step 1, .step 1] _ (.ok ()) rfl ?_ rfl
  · exact ⟨_, rfl, running rfl, settled, _, _, rfl, rfl, fun same => told.mp same rfl⟩
  · intro event he
    cases List.eq_of_mem_replicate (n := 2) he
    trivial

end Scene

end EntitySearch
