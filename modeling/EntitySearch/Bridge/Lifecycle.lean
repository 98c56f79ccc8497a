import EntitySearch.Index.Administration
import EntitySearch.Queue.Client

/-!
# Opening and closing a bridge

A bridge is opened by making sure that all indices exist and starting a queue, and closed by
stopping the queue. Of several callers who open or close it one goes on at a time. A bridge that
was closed can be opened again.

* `BridgeState`: the states of a bridge.
* `Bridge`: the state, the queue, and who holds the lock.
* `BridgeRequest`: the requests to a bridge, each of them one access.
* `Lifecycle.opening`, `Lifecycle.closing`: the procedures.
-/

namespace EntitySearch

/-- The states of a bridge. -/
inductive BridgeState where
  | created
  | opening
  | ready
  | closing
  | closed
deriving DecidableEq

/-- The name of a state. -/
def BridgeState.name : BridgeState → String
  | .created => "Created"
  | .opening => "Opening"
  | .ready => "Ready"
  | .closing => "Closing"
  | .closed => "Closed"

/-- A bridge, whose queues are known by numbers. -/
structure Bridge where
  state : BridgeState := .created
  queue : Option Nat := none
  /-- Whether somebody is opening or closing it. -/
  locked : Bool := false
deriving DecidableEq

namespace Bridge

/-- Whether a bridge is open. -/
def isReady (bridge : Bridge) : Bool := bridge.state == .ready

/-- The queue of a bridge that is open. -/
def openQueue (bridge : Bridge) : Except BridgeError Nat :=
  if bridge.isReady then
    match bridge.queue with
    | some queue => .ok queue
    | none => .error .notOpen
  else .error .notOpen

end Bridge

/-- What is asked of a bridge. -/
inductive BridgeRequest where
  /-- Waits until nobody else is opening or closing the bridge. -/
  | lock
  /-- Lets the next one open or close the bridge. -/
  | unlock
  /-- The state. -/
  | state
  /-- Enters a state. -/
  | enter (state : BridgeState)
  /-- Starts a queue. -/
  | startQueue
  /-- Takes the queue away. -/
  | takeQueue
  /-- The queue. -/
  | queue

/-- Accesses to a bridge. -/
def Bridging : Protocol where
  Request := BridgeRequest
  Reply
    | .lock => Unit
    | .unlock => Unit
    | .state => BridgeState
    | .enter _ => Unit
    | .startQueue => Unit
    | .takeQueue => Option Nat
    | .queue => Option Nat

/-- One access to a bridge, where a queue that is started gets the number `fresh`; there is no
answer while it has to wait. -/
def Bridge.serve? (bridge : Bridge) (fresh : Nat) :
    (request : BridgeRequest) → Option (Bridging.Reply request × Bridge)
  | .lock => if bridge.locked then none else some ((), { bridge with locked := true })
  | .unlock => some ((), { bridge with locked := false })
  | .state => some (bridge.state, bridge)
  | .enter state => some ((), { bridge with state })
  | .startQueue => some ((), { bridge with queue := some fresh })
  | .takeQueue => some (bridge.queue, { bridge with queue := none })
  | .queue => some (bridge.queue, bridge)

/-- Using some queue. -/
def QueueUse : Protocol where
  Request := Nat × QueueRequest
  Reply request := Queueing.Reply request.2

/-- Uses the queue of a number. -/
def useQueue {α : Type} (number : Nat) (procedure : Procedure Queueing α) : Procedure QueueUse α :=
  procedure.expand fun request => .request (p := QueueUse) (number, request)

/-- Using a bridge and its queues. -/
abbrev BridgeUse : Protocol := Bridging.or QueueUse

/-- Opening and closing a bridge. -/
abbrev Living : Protocol := Administering.or BridgeUse

namespace Lifecycle

/-- An access to the bridge. -/
def access (request : BridgeRequest) : Procedure Living (Bridging.Reply request) :=
  .request (p := Living) (.inr (.inl request))

/-- Enters a state. -/
def enter (state : BridgeState) : Procedure Living Unit := do
  access (.enter state)
  (Link.record (.bridgeState state.name)).left.left.left

/-- Makes sure that all indices exist, or recreates them. -/
def setUp (admin : IndexAdmin) (recreates : Bool) :
    Procedure Living (Except BridgeError Unit) :=
  if recreates then admin.recreateAll.left else admin.createAll.left

/-- Opens a bridge. One that is open already stays as it is. -/
def opening (admin : IndexAdmin) (recreates : Bool) :
    Procedure Living (Except BridgeError Unit) := do
  access .lock
  let state : BridgeState ← access .state
  let result ←
    if state = .ready then pure (.ok ())
    else do
      enter .opening
      match ← setUp admin recreates with
      | .error cause =>
        enter .created
        pure (.error cause)
      | .ok _ =>
        access .startQueue
        enter .ready
        pure (.ok ())
  access .unlock
  return result

/-- Closes a bridge, after its queue has written all it has taken. -/
def closing : Procedure Living (Except BridgeError Unit) := do
  access .lock
  let state : BridgeState ← access .state
  let result ←
    if state = .ready then do
      enter .closing
      let queue : Option Nat ← access .takeQueue
      let result ←
        match queue with
        | some number => (useQueue number QueueClient.stop).right.right
        | none => pure (.ok ())
      enter .closed
      pure result
    else do
      enter .closed
      pure (.ok ())
  access .unlock
  return result

end Lifecycle

end EntitySearch
