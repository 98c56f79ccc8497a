import EntitySearch.Proofs.Session.Events
import EntitySearch.Session.Use

/-!
# Callers of bridges

Any number of callers open, close and use the bridges of a session at the same time. Each makes its
requests one after the other, and between any two of them everything else may happen: requests of
other callers, turns of writers and timers, requests of others to the engine, and changes of the
schema that the bridges share.

* `BridgeCall`: what is called of a bridge.
* `Attempt`, `Usage`: what a caller has come by.
* `Caller`, `Scene`: the callers of a session, and what has happened so far.
* `Scene.after?`, `Scene.run?`: the scene after something that happens, and after a run.
* `Scene.Calm`: that nobody opens or closes a bridge.
-/

namespace EntitySearch

/-- What is called of a bridge. -/
inductive BridgeCall where
  | opening
  | closing
  | enqueue (item : WorkItem)
  | enqueueAll (items : List WorkItem)
  | flush
  | flushAndWait
  | search (search : Search)
  | subscribe

namespace BridgeCall

/-- Whether a call opens or closes the bridge. -/
def moves : BridgeCall → Bool
  | .opening | .closing => true
  | _ => false

/-- The items of a call. -/
def items : BridgeCall → List WorkItem
  | .enqueue item => [item]
  | .enqueueAll items => items
  | _ => []

/-- What a caller does, but for what it is told when it succeeds. -/
def procedure (session : Session) (number : Nat) (host : HostedBridge) :
    BridgeCall → Procedure System (Except BridgeError Unit)
  | .opening => session.opening number host
  | .closing => host.closing number
  | .enqueue item => (BridgeClient.enqueue item).expand (System.bridgeUse number)
  | .enqueueAll items =>
    ((BridgeClient.enqueueAll items).expand (System.bridgeUse number)).bind fun result =>
      .done (result.map fun _ => ())
  | .flush => BridgeClient.flush.expand (System.bridgeUse number)
  | .flushAndWait => BridgeClient.flushAndWait.expand (System.bridgeUse number)
  | .search sought =>
    (session.searching number host sought).bind fun result => .done (result.map fun _ => ())
  | .subscribe =>
    (BridgeClient.openQueue.expand (System.bridgeUse number)).bind fun result =>
      .done (result.map fun _ => ())

end BridgeCall

/-! ## What a caller comes by -/

/-- An item that was handed to a queue, and the reply. -/
structure Attempt where
  queue : Nat
  item : WorkItem
  reply : Except BridgeError (Option Nat)

/-- What a caller of a bridge has come by: the queue, once it was told it, and the replies to what it
has handed over, the first one first. -/
structure Usage where
  queue : Option Nat := none
  attempts : List Attempt := []

/-- What a caller has come by after a request. -/
def Usage.note (usage : Usage) : (request : SystemRequest) → System.Reply request → Usage
  | .bridge _ .queue, queue => { usage with queue := queue }
  | .queue queue (.perform (.enqueue item)), reply =>
    { usage with attempts := usage.attempts ++ [⟨queue, item, reply⟩] }
  | _, _ => usage

/-- The bridge for which a request starts a queue. -/
def SystemRequest.starts : SystemRequest → List Nat
  | .bridge number .startQueue => [number]
  | _ => []

/-! ## Scenes -/

/-- A caller of a bridge. -/
structure Caller where
  bridge : Nat
  call : BridgeCall
  /-- What it has left to do. -/
  rest : Procedure System (Except BridgeError Unit)
  usage : Usage := {}

/-- Whether a caller has come to its end. -/
def Caller.isOver (caller : Caller) : Bool :=
  match caller.rest with
  | .done _ => true
  | .ask _ _ => false

/-- A caller after a request, with what it has left to do. -/
def Caller.told (caller : Caller) (request : SystemRequest) (reply : System.Reply request)
    (rest : Procedure System (Except BridgeError Unit)) : Caller :=
  { caller with rest, usage := caller.usage.note request reply }

/-- A session and the callers of its bridges. -/
structure Scene where
  session : Session
  callers : List Caller := []
  /-- The bridges for which the queues were started, the first queue first. -/
  owners : List Nat := []
  /-- What has happened in the session, the first thing first. -/
  moments : List Moment := []

/-- Something that happens in a scene. -/
inductive SceneEvent where
  /-- Somebody calls a bridge. -/
  | call (bridge : Nat) (call : BridgeCall)
  /-- The next request of a caller is carried out. -/
  | step (caller : Nat)
  /-- Something happens that is not done by callers. -/
  | elsewhere (event : SessionEvent)
  /-- The schema changes that the bridges share. -/
  | learn (registry : Registry) (hidden : List String)

/-- Whether a request may be made by others than callers of bridges. They use no bridge and hand
nothing to a queue, but timers tick. -/
def SystemRequest.isForeign : SystemRequest → Bool
  | .bridge _ _ => false
  | .queue _ (.perform .tick) => true
  | .queue _ (.perform _) => false
  | _ => true

/-- Whether something may happen that is not done by callers of bridges. -/
def SessionEvent.isForeign : SessionEvent → Bool
  | .request made => made.isForeign
  | _ => true

namespace Scene

/-- A scene without callers. -/
def start (session : Session) : Scene where
  session := session

/-- The scene after something that happens; there is none if it cannot happen now. -/
def after? (scene : Scene) : SceneEvent → Option Scene
  | .call bridge call =>
    (scene.session.bridges[bridge]?).map fun host =>
      { scene with
        callers :=
          scene.callers ++ [{ bridge, call, rest := call.procedure scene.session bridge host }] }
  | .step caller =>
    match (scene.callers[caller]?).map Caller.rest with
    | some (.ask request next) =>
      (scene.session.serve? request).map fun (reply, session) =>
        { session
          callers := scene.callers.modify caller (·.told request reply (next reply))
          owners := scene.owners ++ request.starts
          moments := scene.moments ++ [⟨scene.session, .request request, session⟩] }
    | _ => none
  | .elsewhere event =>
    if event.isForeign then
      (scene.session.after? event).map fun session =>
        { scene with session, moments := scene.moments ++ [⟨scene.session, event, session⟩] }
    else none
  | .learn registry hidden =>
    some { scene with session := { scene.session with registry, hidden } }

/-- The scene after a run; there is none if something in it cannot happen. -/
def run? (scene : Scene) : List SceneEvent → Option Scene
  | [] => some scene
  | event :: rest => (scene.after? event).bind (·.run? rest)

/-- Whether nobody opens or closes a bridge. -/
def Calm (scene : Scene) (number : Nat) : Prop :=
  ∀ caller ∈ scene.callers, caller.bridge = number → caller.call.moves = true →
    caller.isOver = true

variable {scene later : Scene} {number : Nat}

/-! ## What an event does -/

theorem after?_call {call : BridgeCall} (h : scene.after? (.call number call) = some later) :
    ∃ host, scene.session.bridges[number]? = some host ∧
      later = { scene with
        callers := scene.callers ++
          [{ bridge := number, call, rest := call.procedure scene.session number host }] } := by
  obtain ⟨host, hb, hl⟩ := Option.map_eq_some_iff.mp h
  exact ⟨host, hb, hl.symm⟩

theorem after?_step (h : scene.after? (.step number) = some later) :
    ∃ caller request next reply session, scene.callers[number]? = some caller ∧
      caller.rest = .ask request next ∧ scene.session.serve? request = some (reply, session) ∧
      later = {
        session
        callers := scene.callers.modify number (·.told request reply (next reply))
        owners := scene.owners ++ request.starts
        moments := scene.moments ++ [⟨scene.session, .request request, session⟩] } := by
  rw [after?] at h
  split at h
  · next request next hr =>
    obtain ⟨caller, hc, hr⟩ := Option.map_eq_some_iff.mp hr
    obtain ⟨⟨reply, session⟩, hs, hl⟩ := Option.map_eq_some_iff.mp h
    exact ⟨caller, request, next, reply, session, hc, hr, hs, hl.symm⟩
  · cases h

theorem after?_step_of {caller : Caller} {request : SystemRequest}
    {next : System.Reply request → Procedure System (Except BridgeError Unit)}
    {reply : System.Reply request} {session : Session}
    (hc : scene.callers[number]? = some caller) (asks : caller.rest = .ask request next)
    (served : scene.session.serve? request = some (reply, session)) :
    scene.after? (.step number) = some {
      session
      callers := scene.callers.modify number (·.told request reply (next reply))
      owners := scene.owners ++ request.starts
      moments := scene.moments ++ [⟨scene.session, .request request, session⟩] } := by
  rw [after?, hc, Option.map_some, asks]
  dsimp only
  rw [served]
  rfl

theorem after?_elsewhere {event : SessionEvent} (h : scene.after? (.elsewhere event) = some later) :
    event.isForeign = true ∧ ∃ session, scene.session.after? event = some session ∧
      later = { scene with
        session, moments := scene.moments ++ [⟨scene.session, event, session⟩] } := by
  rw [after?] at h
  split at h
  · next foreign =>
    obtain ⟨session, ha, hl⟩ := Option.map_eq_some_iff.mp h
    exact ⟨foreign, session, ha, hl.symm⟩
  · cases h

/-! ## Runs -/

theorem run?_cons {event : SceneEvent} {rest : List SceneEvent}
    (h : scene.run? (event :: rest) = some later) :
    ∃ next, scene.after? event = some next ∧ next.run? rest = some later :=
  Option.bind_eq_some_iff.mp h

theorem keeps_of_run (property : Scene → Prop) (allowed : SceneEvent → Prop)
    (step : ∀ {scene event later}, allowed event → property scene →
      scene.after? event = some later → property later) :
    ∀ {events : List SceneEvent} {scene later : Scene}, scene.run? events = some later →
      (∀ event ∈ events, allowed event) → property scene → property later
  | [], _, _, run, _, h => by
    cases run
    exact h
  | event :: rest, scene, later, run, permitted, h => by
    obtain ⟨next, ha, hr⟩ := run?_cons run
    have first := step (permitted event List.mem_cons_self) h ha
    have others := fun other ho => permitted other (List.mem_cons_of_mem event ho)
    exact keeps_of_run property allowed step hr others first

end Scene

end EntitySearch
