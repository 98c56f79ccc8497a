import EntitySearch.Bridge.Lifecycle
import EntitySearch.Search.Execution

/-!
# Using a bridge

Items are handed to the queue of an open bridge, and searches are made through it. Indices can be
administered in every state.

* `BridgeClient.openQueue`: the queue of an open bridge.
* `BridgeClient.enqueue` and others: what is done with the queue.
* `BridgeClient.execute`, `BridgeClient.load`: searches, and searches whose results are loaded.
* `BridgeStatus`: what can be observed of a bridge.
-/

namespace EntitySearch

namespace BridgeClient

/-- An access to the bridge. -/
def access (request : BridgeRequest) : Procedure BridgeUse (Bridging.Reply request) :=
  .request (p := BridgeUse) (.inl request)

/-- The queue of an open bridge, to be used or subscribed to. The state and the queue are looked at
one after the other. -/
def openQueue : Procedure BridgeUse (Except BridgeError Nat) := do
  let state : BridgeState ← access .state
  if state = .ready then
    let queue : Option Nat ← access .queue
    match queue with
    | some number => return .ok number
    | none => return .error .notOpen
  else return .error .notOpen

/-- Uses the queue of an open bridge. -/
def withQueue {α : Type} (procedure : Procedure Queueing (Except BridgeError α)) :
    Procedure BridgeUse (Except BridgeError α) := do
  match ← openQueue with
  | .error cause => return .error cause
  | .ok number => (useQueue number procedure).right

/-- Hands an item to the queue. -/
def enqueue (item : WorkItem) : Procedure BridgeUse (Except BridgeError Unit) :=
  withQueue (QueueClient.enqueue item)

/-- Hands items to the queue up to the first one that fails, and counts them. -/
def enqueueAll (items : List WorkItem) : Procedure BridgeUse (Except BridgeError Nat) :=
  withQueue (QueueClient.enqueueAll 0 items)

/-- Cuts a batch. -/
def flush : Procedure BridgeUse (Except BridgeError Unit) := withQueue QueueClient.flush

/-- Cuts a batch and waits for it and for all earlier ones. -/
def flushAndWait : Procedure BridgeUse (Except BridgeError Unit) :=
  withQueue QueueClient.flushAndWait

/-! ## Searches -/

/-- A page of results that were loaded. -/
structure LoadedPage (α : Type) where
  total : Nat
  entities : List α

/-- Searches for entities, if the bridge is open. -/
def execute (searcher : Searcher) (search : Search) :
    Procedure (Link.or BridgeUse) (Except BridgeError SearchPage) := do
  let state : BridgeState ← .request (p := Link.or BridgeUse) (.inr (.inl .state))
  if state = .ready then (searcher.execute search).left
  else return .error .notOpen

/-- Searches for entities and loads those that were found. Nothing is loaded if none was found. -/
def load {α : Type} (loader : List EntityReference → Except BridgeError (List α))
    (searcher : Searcher) (search : Search) :
    Procedure (Link.or BridgeUse) (Except BridgeError (LoadedPage α)) := do
  match ← execute searcher search with
  | .error cause => return .error cause
  | .ok page =>
    if page.references.isEmpty then return .ok ⟨page.total, []⟩
    else
      match loader page.references with
      | .error cause => return .error cause
      | .ok entities => return .ok ⟨page.total, entities⟩

end BridgeClient

/-- What can be observed of a bridge. -/
structure BridgeStatus where
  state : BridgeState
  queue : Option QueueState
  pending : Nat
  strict : Bool

/-- Whether all items that were taken are written or reported. -/
def BridgeStatus.isQuiescent (status : BridgeStatus) : Bool :=
  status.state == .ready && status.pending == 0 && status.queue == some .idle

/-- What can be observed of a bridge and its queue. -/
def Bridge.status (bridge : Bridge) (strict : Bool) (queue : Option Queue) : BridgeStatus where
  state := bridge.state
  queue := queue.map (·.state)
  pending := (queue.map (·.pending.size)).getD 0
  strict := strict

end EntitySearch
