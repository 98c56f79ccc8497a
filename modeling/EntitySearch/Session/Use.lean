import EntitySearch.Session.Schedule

/-!
# Using a session

What callers of a session do: they let time pass, speak to its engine, and use its bridges,
queues, index administrations and searchers, which they know by numbers of their own choice.

* `Names`: things by the numbers that callers give them.
* `Session.opening`, `HostedBridge.closing`, `Session.searching`: what is done with a bridge.
* `Client`: a session and the names in it.
* the functions of `Client`: one for every kind of step.
-/

namespace EntitySearch

/-- Things by the numbers that callers give them. -/
abbrev Names (α : Type) := List (Nat × α)

namespace Names

variable {α : Type}

/-- The thing of a name. -/
def find? (names : Names α) (name : Nat) : Option α :=
  (List.find? (fun entry => entry.1 == name) names).map (·.2)

/-- Takes a name away. -/
def erase (names : Names α) (name : Nat) : Names α := names.filter fun entry => entry.1 ≠ name

/-- Gives a name to a thing. -/
def set (names : Names α) (name : Nat) (thing : α) : Names α := (name, thing) :: names.erase name

end Names

/-- Closing a bridge. -/
def HostedBridge.closing (host : HostedBridge) (number : Nat) :
    Procedure System (Except BridgeError Unit) :=
  Lifecycle.closing.expand (System.living host.route host.schema host.table number)

namespace Session

/-- How a bridge administers its indices. -/
def adminOf (session : Session) (host : HostedBridge) : IndexAdmin where
  resolver := session.resolver host.schema
  healthLimit := host.config.healthTimeout

/-- How a bridge searches. -/
def searcherOf (session : Session) (host : HostedBridge) : Searcher :=
  .new (session.resolver host.schema) host.config.maxPageSize

/-- Opening a bridge. -/
def opening (session : Session) (number : Nat) (host : HostedBridge) :
    Procedure System (Except BridgeError Unit) :=
  (Lifecycle.opening (session.adminOf host) host.config.recreateOnOpen).expand
    (System.living host.route host.schema host.table number)

/-- Searching through a bridge. -/
def searching (session : Session) (number : Nat) (host : HostedBridge) (search : Search) :
    Procedure System (Except BridgeError SearchPage) :=
  (BridgeClient.execute (session.searcherOf host) search).expand
    (System.searching host.route number)

end Session

/-- An administration of indices: its table of guards, and how it works. -/
structure HostedAdmin where
  table : Nat
  healthLimit : Duration
  policy : RetryPolicy := .admin

/-- A session and the names in it. -/
structure Client where
  session : Session
  /-- The configuration of the session. -/
  config : BridgeConfig
  bridges : Names Nat := []
  queues : Names Nat := []
  admins : Names HostedAdmin := []
  /-- The largest pages of searchers. -/
  searchers : Names Nat := []

namespace Client

/-- A client of a new session with an engine in memory. -/
def start (config : BridgeConfig) (registry : Registry) (engine : MemoryEngine) : Client where
  session := { registry, engine := some engine }
  config := config

/-- A client of a new session whose engine has an address. -/
def startRemote (config : BridgeConfig) (registry : Registry) (address : String) : Client where
  session := { registry, engine := none, address }
  config := config

/-- Runs a procedure to its end. -/
def run {α : Type} (client : Client) (procedure : Procedure System α) : Client × Option α :=
  let (session, result) := client.session.run procedure
  ({ client with session }, result)

/-- Changes the session. -/
def modify (client : Client) (change : Session → Session) : Client :=
  { client with session := change client.session }

/-- The shared schema. -/
def resolver (client : Client) : Resolver := client.session.resolver .shared

/-! ## The session -/

/-- Lets the shared schema lose an entity type. -/
def hide (client : Client) (entity : String) : Client :=
  client.modify fun session => { session with hidden := entity :: session.hidden }

/-- Lets the shared schema know an entity type again; whether it had lost it. -/
def restore (client : Client) (entity : String) : Client × Bool :=
  (client.modify fun session => { session with hidden := session.hidden.filter (· ≠ entity) },
    client.session.hidden.contains entity)

/-- Registers an entity type in the shared schema. -/
def register (client : Client) (descriptor : Descriptor) : Client :=
  client.modify fun session => { session with registry := session.registry.register descriptor }

/-- Lets time pass. -/
def letPass (client : Client) (time : Duration) : Client := client.modify (·.letPass time)

/-- The failures that wait for a subscriber, and how many it has missed. -/
def readFailures (client : Client) (subscription : Nat) :
    Client × Option (Nat × List BulkFailure) :=
  match client.session.subscriptions[subscription]? with
  | none => (client, none)
  | some (queue, seen) =>
    match client.session.queues[queue]? with
    | none => (client, none)
    | some host =>
      let subscriptions := client.session.subscriptions.set subscription (queue, host.failures.size)
      (client.modify fun session => { session with subscriptions },
        some (host.failures.read seen))

/-- Subscribes to the failures of a queue. -/
def subscribe (client : Client) (queue : Nat) : Client × Nat :=
  let seen := ((client.session.queues[queue]?).map (·.failures.size)).getD 0
  (client.modify fun session =>
    { session with subscriptions := session.subscriptions ++ [(queue, seen)] },
    client.session.subscriptions.length)

/-- The lines of a report of all metrics. -/
def report (client : Client) : Client × List String :=
  (client.modify fun session => { session with metrics := session.metrics.afterReport },
    client.session.metrics.report)

/-! ## The engine -/

/-- Sends a request to the engine. -/
def call (client : Client) (call : Call) : Client × Option call.Outcome :=
  client.run (System.call .engine call)

/-- Prepares outcomes for the next requests of their methods. -/
def prepare (client : Client) (outcomes : List ((method : Method) × Outcome method)) : Client :=
  client.modify fun session => { session with outcomes := session.outcomes ++ outcomes }

/-- The requests sent to the engine since this was asked last. -/
def takeCalls (client : Client) : Client × List Call :=
  (client.modify fun session => { session with calls := [] }, client.session.calls)

/-- Changes the engine in memory. -/
def modifyEngine (client : Client) (change : MemoryEngine → MemoryEngine) : Client :=
  client.modify fun session => { session with engine := session.engine.map change }

/-- Changes what is to go wrong in the engine. -/
def modifyFaults (client : Client) (change : Faults → Faults) : Client :=
  client.modifyEngine fun engine => { engine with faults := change engine.faults }

/-! ## Bridges -/

/-- Adds a table of guards. -/
def addTable (client : Client) : Client × Nat :=
  (client.modify fun session => { session with tables := session.tables ++ [{}] },
    client.session.tables.length)

/-- Forgets a queue that nobody uses any more. -/
def discardQueue (client : Client) (number : Nat) : Client :=
  client.modify fun session =>
    session.modifyQueue number fun host => { host with queue := host.queue.discard }

/-- Forgets the bridge of a name. -/
def discardBridge (client : Client) (name : Nat) : Client :=
  match (client.bridges.find? name).bind (client.session.bridges[·]?) with
  | some host => (host.bridge.queue.map client.discardQueue).getD client
  | none => client

/-- Adds a bridge, in the place of one of the same name. -/
def addBridge (client : Client) (name : Nat) (config : BridgeConfig) (schema : SchemaSource)
    (route : Route) : Client :=
  let client := client.discardBridge name
  let (client, table) := client.addTable
  let number := client.session.bridges.length
  let client := client.modify fun session =>
    { session with bridges := session.bridges ++ [{ config, schema, route, table }] }
  { client with bridges := client.bridges.set name number }

/-- Adds a bridge with a schema of its own. -/
def addOwnBridge (client : Client) (name : Nat) (config : BridgeConfig) (route : Route) :
    Except SchemaError Client :=
  config.registry.map fun registry => client.addBridge name config (.own registry) route

/-- The bridge of a name, and its number. -/
def bridge? (client : Client) (name : Nat) : Option (Nat × HostedBridge) := do
  let number ← client.bridges.find? name
  let host ← client.session.bridges[number]?
  return (number, host)

/-- How a bridge searches. -/
def searcherOf (client : Client) (host : HostedBridge) : Searcher := client.session.searcherOf host

/-- Opens a bridge. -/
def openBridge (client : Client) (number : Nat) (host : HostedBridge) :
    Client × Option (Except BridgeError Unit) :=
  client.run (client.session.opening number host)

/-- Closes a bridge. -/
def closeBridge (client : Client) (number : Nat) (host : HostedBridge) :
    Client × Option (Except BridgeError Unit) :=
  client.run (host.closing number)

/-- Uses the queue of a bridge. -/
def useBridge {α : Type} (client : Client) (number : Nat)
    (procedure : Procedure BridgeUse (Except BridgeError α)) :
    Client × Option (Except BridgeError α) :=
  client.run (procedure.expand (System.bridgeUse number))

/-- Administers the indices of a bridge. -/
def administerBridge {α : Type} (client : Client) (host : HostedBridge)
    (procedure : IndexAdmin → Procedure Administering (Except BridgeError α)) :
    Client × Option (Except BridgeError α) :=
  client.run ((procedure (client.session.adminOf host)).expand
    (System.administering host.route host.schema host.table))

/-- Searches through a bridge. -/
def searchBridge (client : Client) (number : Nat) (host : HostedBridge) (search : Search) :
    Client × Option (Except BridgeError SearchPage) :=
  client.run (client.session.searching number host search)

/-- Searches through a bridge and loads what is found. -/
def loadBridge {α : Type} (client : Client) (number : Nat) (host : HostedBridge)
    (loader : List EntityReference → Except BridgeError (List α)) (search : Search) :
    Client × Option (Except BridgeError (BridgeClient.LoadedPage α)) :=
  client.run ((BridgeClient.load loader (client.searcherOf host) search).expand
    (System.searching host.route number))

/-- What can be observed of a bridge. -/
def bridgeStatus (client : Client) (host : HostedBridge) : BridgeStatus :=
  host.bridge.status host.config.strict
    ((host.bridge.queue.bind (client.session.queues[·]?)).map (·.queue))

/-- Whether an index exists, as the engine tells over the route of a bridge. -/
def askExists (client : Client) (host : HostedBridge) (index : String) :
    Client × Option (Outcome .indexExists) :=
  client.run (System.call host.route (.indexExists index))

/-! ## Queues -/

/-- Adds a queue, in the place of one of the same name. -/
def addQueue (client : Client) (name : Nat) (settings : QueueSettings) : Client :=
  let client := ((client.queues.find? name).map client.discardQueue).getD client
  let number := client.session.queues.length
  let client := client.modify fun session => session.startQueue settings .shared .engine
  { client with queues := client.queues.set name number }

/-- Drops the queue of a name; whether there was one. -/
def dropQueue (client : Client) (name : Nat) : Client × Bool :=
  match client.queues.find? name with
  | none => (client, false)
  | some number =>
    ({ client.discardQueue number with queues := client.queues.erase name }, true)

/-- Uses a queue. -/
def useQueue {α : Type} (client : Client) (number : Nat) (procedure : Procedure Queueing α) :
    Client × Option α :=
  client.run (procedure.expand (System.queueing number))

/-! ## Administrations and searchers -/

/-- Adds an administration of indices, in the place of one of the same name. -/
def addAdmin (client : Client) (name : Nat) (healthLimit : Duration) (policy : RetryPolicy) :
    Client :=
  let (client, table) := client.addTable
  { client with admins := client.admins.set name ⟨table, healthLimit, policy⟩ }

/-- What an administration does. -/
def administering {α : Type} (client : Client) (admin : HostedAdmin)
    (procedure : IndexAdmin → Procedure Administering (Except BridgeError α)) :
    Procedure System (Except BridgeError α) :=
  (procedure ⟨client.resolver, admin.healthLimit, admin.policy⟩).expand
    (System.administering .engine .shared admin.table)

/-- Administers indices. -/
def administer {α : Type} (client : Client) (admin : HostedAdmin)
    (procedure : IndexAdmin → Procedure Administering (Except BridgeError α)) :
    Client × Option (Except BridgeError α) :=
  client.run (client.administering admin procedure)

/-- Waits for tasks that were started, one after the other, up to the first one that was broken
off. -/
def joinAll : List Nat → Procedure System (Option (List (Except BridgeError Unit)))
  | [] => return some []
  | number :: rest => do
    let result : Option (Except BridgeError Unit) ← System.ask (.join number)
    match result with
    | none => return none
    | some result => return (← joinAll rest).map (result :: ·)

/-- Creates the indices of entity types, all started before any is waited for. There are no results
if a task was broken off, but those not waited for go on. -/
def createTogether (client : Client) (admin : HostedAdmin) (entities : List String) :
    Client × Option (List (Except BridgeError Unit)) :=
  let first := client.session.started.length
  let client := client.modify fun session =>
    entities.foldl
      (fun session entity => session.start (client.administering admin (·.create entity))) session
  let (client, results) := client.run (joinAll (List.range' first entities.length))
  (client, results.join)

/-- Whether an administration knows that an index is ready. -/
def isKnown (client : Client) (admin : HostedAdmin) (index : String) : Bool :=
  ((client.session.tables[admin.table]?).map (·.isKnown index)).getD false

/-- Adds a searcher, in the place of one of the same name. -/
def addSearcher (client : Client) (name : Nat) (maxPageSize : Nat) : Client :=
  { client with searchers := client.searchers.set name maxPageSize }

/-- A searcher with the shared schema. -/
def searcher (client : Client) (maxPageSize : Nat) : Searcher := .new client.resolver maxPageSize

/-- Searches for entities. -/
def search (client : Client) (maxPageSize : Nat) (search : Search) :
    Client × Option (Except BridgeError SearchPage) :=
  client.run (((client.searcher maxPageSize).execute search).expand (System.link .engine))

end Client

end EntitySearch
