import EntitySearch.Bridge.Operations
import EntitySearch.Queue.Writer

/-!
# The requests of tasks

The parts of a bridge make requests of different kinds. All of them are carried out by one kind of
requests, which name the queue, the bridge and the table of guards that they mean, and of which
only one lets time pass.

* `Route`: where a request to the engine goes.
* `SchemaSource`: where a part has its schema from.
* `System`: the requests of tasks.
* `System.link`, `System.guarding`, `System.writing`, `System.bridging`, `System.living`: how the
  requests of the parts are carried out.
-/

namespace EntitySearch

/-- Where a request to the engine goes. -/
inductive Route where
  /-- To the engine of the session. -/
  | engine
  /-- To an address where no engine answers. -/
  | nowhere (address : String)
deriving DecidableEq

/-- Where a part has its schema from. -/
inductive SchemaSource where
  /-- From the session, as it is when it is asked. -/
  | shared
  /-- From its own configuration. -/
  | own (registry : Registry)

/-- What becomes of a request to the engine at first. -/
inductive Receipt (call : Call) where
  /-- It has an outcome. -/
  | answered (outcome : call.Outcome)
  /-- Its answer takes some time. -/
  | takes (delay : Duration)

/-- What a task asks for. -/
inductive SystemRequest where
  /-- Sends a request to the engine. -/
  | send (route : Route) (call : Call)
  /-- The answer of the engine after some time; there is none if the engine breaks off. -/
  | receive (call : Call) (delay : Duration)
  /-- Lets time pass. -/
  | sleep (delay : Duration)
  /-- Notes a measurement. -/
  | record (measurement : Measurement)
  /-- Breaks off the task. -/
  | abandon
  /-- Asks for the mapping of an index. -/
  | mapping (schema : SchemaSource) (index : String)
  /-- An access to a table of guards. -/
  | guard (table : Nat) (request : GuardRequest)
  /-- Publishes a failure of a queue. -/
  | publish (queue : Nat) (failure : BulkFailure)
  /-- A step on a queue, or a wait for it. -/
  | queue (number : Nat) (request : QueueRequest)
  /-- An access to a bridge. -/
  | bridge (number : Nat) (request : BridgeRequest)
  /-- Waits for a task that was started; there is no result if it was broken off. -/
  | join (number : Nat)

/-- The requests of tasks. -/
def System : Protocol where
  Request := SystemRequest
  Reply
    | .send _ call => Receipt call
    | .receive call _ => Option call.Outcome
    | .sleep _ => Unit
    | .record _ => Unit
    | .abandon => Empty
    | .mapping _ _ => Except BridgeError Json
    | .guard _ request => Guarding.Reply request
    | .publish _ _ => Unit
    | .queue _ request => Queueing.Reply request
    | .bridge _ request => Bridging.Reply request
    | .join _ => Option (Except BridgeError Unit)

namespace System

/-- A request of a task. -/
def ask (request : SystemRequest) : Procedure System (System.Reply request) :=
  .request (p := System) request

/-- The answer of the engine after some time. An engine that breaks off breaks off the task. -/
def receive (call : Call) (delay : Duration) : Procedure System call.Outcome := do
  let answer : Option call.Outcome ← ask (.receive call delay)
  match answer with
  | some outcome => return outcome
  | none => .ask .abandon nofun

/-- A request to the engine, and its answer when the time for it has passed. -/
def call (route : Route) (call : Call) : Procedure System call.Outcome := do
  let receipt : Receipt call ← ask (.send route call)
  match receipt with
  | .answered outcome => return outcome
  | .takes delay =>
    ask (.sleep delay)
    receive call delay

/-- A request to the engine, and its answer if it takes no longer than a limit. -/
def callWithin (route : Route) (limit : Duration) (call : Call) :
    Procedure System (Option call.Outcome) := do
  let receipt : Receipt call ← ask (.send route call)
  match receipt with
  | .answered outcome => return some outcome
  | .takes delay =>
    if delay.limited ≤ limit then
      ask (.sleep delay)
      let outcome ← receive call delay
      return some outcome
    else
      ask (.sleep limit)
      return none

/-- Speaking to an engine. -/
def link (route : Route) : (request : LinkRequest) → Procedure System (Link.Reply request)
  | .call c => call route c
  | .callWithin limit c => callWithin route limit c
  | .wait delay => ask (.sleep delay)
  | .record measurement => ask (.record measurement)
  | .abandon => ask .abandon

/-- Accesses to a table of guards. -/
def guarding (table : Nat) (request : GuardRequest) : Procedure System (Guarding.Reply request) :=
  ask (.guard table request)

/-- Administering indices. -/
def administering (route : Route) (schema : SchemaSource) (table : Nat) :
    (request : Administering.Request) → Procedure System (Administering.Reply request)
  | .inl (.inl request) => link route request
  | .inl (.inr index) => ask (.mapping schema index)
  | .inr request => guarding table request

/-- Writing the jobs of a queue. -/
def writing (route : Route) (queue : Nat) :
    (request : Writing.Request) → Procedure System (Writing.Reply request)
  | .inl request => link route request
  | .inr failure => ask (.publish queue failure)

/-- Using a queue. -/
def queueing (queue : Nat) (request : QueueRequest) : Procedure System (Queueing.Reply request) :=
  ask (.queue queue request)

/-- Using a bridge and its queues. -/
def bridgeUse (bridge : Nat) :
    (request : BridgeUse.Request) → Procedure System (BridgeUse.Reply request)
  | .inl request => ask (.bridge bridge request)
  | .inr (queue, request) => queueing queue request

/-- Searching through a bridge. -/
def searching (route : Route) (bridge : Nat) :
    (request : (Link.or BridgeUse).Request) → Procedure System ((Link.or BridgeUse).Reply request)
  | .inl request => link route request
  | .inr request => bridgeUse bridge request

/-- Opening and closing a bridge. -/
def living (route : Route) (schema : SchemaSource) (table bridge : Nat) :
    (request : Living.Request) → Procedure System (Living.Reply request)
  | .inl request => administering route schema table request
  | .inr request => bridgeUse bridge request

end System

end EntitySearch
