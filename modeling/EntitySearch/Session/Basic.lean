import EntitySearch.Bridge.Config
import EntitySearch.Engine.Memory
import EntitySearch.Engine.Rest
import EntitySearch.Session.System

/-!
# Sessions

A session holds an engine, a schema that its parts share, and any number of bridges and queues. It
has a clock of its own, which moves only while a task waits. Batches age by a second clock, which
moves only when somebody lets time pass on purpose.

* `Task`: where a task stands.
* `TaskName`, `Alarm`: the tasks of a session, and the moments for which they wait.
* `HostedQueue`, `HostedBridge`: queues and bridges with what they need.
* `Session`: the session.
* `Session.serve?`: carries out one request of a task.
-/

namespace EntitySearch

/-- Where a task stands. -/
inductive Task (α : Type) where
  /-- It has ended. -/
  | finished (result : α)
  /-- It goes on when its turn comes. -/
  | waiting (rest : Procedure System α)
  /-- It goes on when its next request can be carried out. -/
  | blocked (rest : Procedure System α)
  /-- It was broken off. -/
  | broken

/-- The tasks of a session. -/
inductive TaskName where
  /-- What the caller does. -/
  | caller
  /-- One of the tasks that the caller has started. -/
  | started (number : Nat)
  /-- The writer of a queue. -/
  | writer (queue : Nat)
  /-- The timer of a queue. -/
  | timer (queue : Nat)
deriving DecidableEq

/-- The moment for which a task waits. -/
structure Alarm where
  moment : Duration
  task : TaskName
deriving DecidableEq

/-- Where the timer of a queue stands. -/
inductive Timer where
  /-- It has not had a turn. -/
  | fresh
  /-- It ticks at a moment. -/
  | running (tick : Duration)
  /-- It ticks no more. -/
  | ended
deriving DecidableEq

/-- A queue of a session. -/
structure HostedQueue where
  queue : Queue
  failures : FailureChannel
  writer : Writer
  schema : SchemaSource
  route : Route
  timer : Timer := .fresh
  /-- Where the writing of the current job stands. -/
  job : Option (Task (Except BridgeError Unit)) := none

/-- A bridge of a session. -/
structure HostedBridge where
  bridge : Bridge := {}
  config : BridgeConfig
  schema : SchemaSource
  route : Route
  /-- The table of the guards of its indices. -/
  table : Nat

/-- A session. -/
structure Session where
  clock : Duration := .zero
  /-- The clock by which batches age. -/
  batchClock : Duration := .zero
  /-- The engine, if it is held in memory. -/
  engine : Option MemoryEngine := some {}
  /-- The address of an engine that is not held in memory. Nobody answers there. -/
  address : String := ""
  /-- Outcomes that are given to the next requests of their methods. -/
  outcomes : List ((method : Method) × Outcome method) := []
  /-- The requests to the engine, the first one first. -/
  calls : List Call := []
  metrics : Metrics := {}
  registry : Registry := {}
  /-- The entity types that the shared schema has lost. -/
  hidden : List String := []
  tables : List ReadyTable := []
  queues : List HostedQueue := []
  bridges : List HostedBridge := []
  /-- The failure channels subscribed to, by queue, and how many reports were seen of each. -/
  subscriptions : List (Nat × Nat) := []
  /-- The tasks that the caller has started, the first one first. -/
  started : List (Task (Except BridgeError Unit)) := []
  /-- The tasks that can go on, the next one first. -/
  line : List TaskName := []
  /-- The moments for which tasks wait, in the order in which they began to wait. -/
  alarms : List Alarm := []
  /-- How many requests of tasks were carried out. -/
  served : Nat := 0

/-- The first outcome of a method, and the other outcomes. -/
def takeOutcome? (method : Method) :
    List ((method : Method) × Outcome method) →
      Option (Outcome method × List ((method : Method) × Outcome method))
  | [] => none
  | ⟨key, outcome⟩ :: rest =>
    if h : key = method then some (h ▸ outcome, rest)
    else (takeOutcome? method rest).map fun (found, others) => (found, ⟨key, outcome⟩ :: others)

namespace Session

/-- The schema of a part. -/
def resolver (session : Session) : SchemaSource → Resolver
  | .shared => session.registry.resolver.without session.hidden
  | .own registry => registry.resolver

/-- Notes measurements. -/
def observe (session : Session) (measurements : List Measurement) : Session :=
  { session with metrics := session.metrics.observeAll measurements }

/-! ## Turns -/

/-- Puts a task at the end of the line, unless it stands there already. -/
def summon (session : Session) (task : TaskName) : Session :=
  if session.line.contains task then session
  else { session with line := session.line ++ [task] }

/-- Lets a task wait for a moment, of which only whole milliseconds are told apart. -/
def setAlarm (session : Session) (moment : Duration) (task : TaskName) : Session :=
  { session with alarms := session.alarms ++ [⟨moment.upToMilli, task⟩] }

/-! ## The engine -/

/-- Sends a request to the engine. An outcome that waits for its method is given at once. -/
def send (session : Session) : Route → (call : Call) → Receipt call × Session
  | .nowhere address, call => (.answered (Rest.call (Rest.unreachable address) call), session)
  | .engine, call =>
    let session := { session with calls := session.calls ++ [call] }
    match takeOutcome? call.method session.outcomes with
    | some (outcome, outcomes) => (.answered outcome, { session with outcomes })
    | none =>
      match session.engine with
      | some engine =>
        (.takes (engine.delay call), { session with engine := some (engine.record call) })
      | none => (.answered (Rest.call (Rest.unreachable session.address) call), session)

/-- The answer of the engine after some time; there is none if the engine breaks off. -/
def receive (session : Session) (call : Call) (delay : Duration) : Option call.Outcome × Session :=
  match session.engine with
  | some engine =>
    let (engine, outcome) := engine.answer? delay call
    (outcome, { session with engine := some engine })
  | none => (some (Rest.call (Rest.unreachable session.address) call), session)

/-! ## Queues -/

/-- A queue that speaks to the engine over a route. -/
def hostQueue (settings : QueueSettings) (schema : SchemaSource)
    (route : Route) : HostedQueue where
  queue := .start settings
  failures := { capacity := max settings.failureCapacity 1 }
  writer := { bulkPolicy := settings.bulkPolicy, strict := settings.strict }
  schema := schema
  route := route

/-- Starts a queue with its timer; its number is that of queues before. -/
def startQueue (session : Session) (settings : QueueSettings) (schema : SchemaSource)
    (route : Route) : Session :=
  { session with queues := session.queues ++ [hostQueue settings schema route] }.summon
    (.timer session.queues.length)

/-- Changes a queue. -/
def modifyQueue (session : Session) (number : Nat) (change : HostedQueue → HostedQueue) : Session :=
  { session with queues := session.queues.modify number change }

/-- Summons the writer of a queue if it is free and there is something to write. -/
def summonWriter (session : Session) (number : Nat) : Session :=
  match session.queues[number]? with
  | none => session
  | some host =>
    if host.job.isNone && host.queue.startNext.isSome then session.summon (.writer number)
    else session

/-- Makes a step on a queue. -/
def perform (session : Session) (number : Nat) (action : QueueAction) :
    Except BridgeError (Option Nat) × Session :=
  match session.queues[number]? with
  | none => (.error .queueStopped, session)
  | some host =>
    let step := host.queue.perform (session.resolver host.schema) session.batchClock action
    let session := session.modifyQueue number fun host => { host with queue := step.queue }
    (step.result, (session.observe step.measurements).summonWriter number)

/-- Carries out a request to a queue; there is no answer while it has to wait. -/
def serveQueue? (session : Session) (number : Nat) :
    (request : QueueRequest) → Option (Queueing.Reply request × Session)
  | .perform action => some (session.perform number action)
  | .outcome job =>
    match session.queues[number]? with
    | none => some (.error .queueStopped, session)
    | some host => (host.queue.outcome? job).map fun outcome => (outcome, session)
  | .drained =>
    match session.queues[number]? with
    | none => some ((), session)
    | some host => if host.queue.isDrained then some ((), session) else none

/-- Publishes a failure of a queue. -/
def publish (session : Session) (number : Nat) (failure : BulkFailure) : Session :=
  session.modifyQueue number fun host => { host with failures := host.failures.publish failure }

/-! ## Bridges and tables -/

/-- Starts the queue that a bridge asks for. -/
def startQueueFor (session : Session) (host : HostedBridge) : BridgeRequest → Session
  | .startQueue => session.startQueue host.config.queueSettings host.schema host.route
  | _ => session

/-- Carries out an access to a bridge; there is no answer while it has to wait. -/
def serveBridge? (session : Session) (number : Nat) (request : BridgeRequest) :
    Option (Bridging.Reply request × Session) :=
  match session.bridges[number]? with
  | none => none
  | some host =>
    match host.bridge.serve? session.queues.length request with
    | none => none
    | some (reply, bridge) =>
      let session := session.startQueueFor host request
      let bridges := session.bridges.modify number fun host => { host with bridge }
      some (reply, { session with bridges })

/-- Carries out an access to a table of guards; there is no answer while it has to wait. -/
def serveGuard? (session : Session) (number : Nat) (request : GuardRequest) :
    Option (Guarding.Reply request × Session) :=
  match session.tables[number]? with
  | none => none
  | some table =>
    (table.serve? request).map fun (reply, table) =>
      (reply, { session with tables := session.tables.set number table })

/-! ## Requests of tasks -/

/-- Carries out a request of a task in no time; there is no answer while it has to wait. -/
def serve? (session : Session) : (request : SystemRequest) → Option (System.Reply request × Session)
  | .send route call => some (session.send route call)
  | .receive call delay => some (session.receive call delay)
  | .sleep _ => some ((), session)
  | .record measurement => some ((), session.observe [measurement])
  | .abandon => none
  | .mapping schema index => some (mergedMapping (session.resolver schema) index, session)
  | .guard table request => session.serveGuard? table request
  | .publish queue failure => some ((), session.publish queue failure)
  | .queue number request => session.serveQueue? number request
  | .bridge number request => session.serveBridge? number request
  | .join number =>
    match session.started[number]? with
    | some (.finished result) => some (some result, session)
    | some (.waiting _) | some (.blocked _) => none
    | some .broken | none => some (none, session)

end Session

end EntitySearch
