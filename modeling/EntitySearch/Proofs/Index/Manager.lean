import EntitySearch.Bridge.Lifecycle
import EntitySearch.Proofs.Engine.Answers
import EntitySearch.Proofs.Index.Guards
import EntitySearch.Proofs.Procedure.Leads

/-!
# Managers of indices

A manager is whoever makes sure that indices exist: it has a table of guards for the indices it knows
to be ready, and, if it belongs to a bridge, the bridge that it opens and closes. Its calls are made
one after another, and the engine may answer anything to its requests.

* `Manager`: a manager, with all answers it has received.
* `Manager.service`: what is answered to its requests.
* `ManagerCall`: the calls, with the indices that they are to cover.
* `Manager.Performs`: a call, to its end or until it is broken off.
* `Manager.Reached`: the managers after any number of calls.
-/

namespace EntitySearch

/-- A manager of indices, and the answers it has received. -/
structure Manager where
  bridge : Bridge := {}
  table : ReadyTable := {}
  answers : List Answer := []

namespace Manager

/-! ## Answers -/

/-- A manager that has received some more answers. -/
def heard (manager : Manager) (more : List Answer) : Manager :=
  { manager with answers := manager.answers ++ more }

theorem heard_nil (manager : Manager) : manager.heard [] = manager := by
  rw [heard, List.append_nil]

theorem heard_heard (manager : Manager) (first more : List Answer) :
    (manager.heard first).heard more = manager.heard (first ++ more) := by
  simp only [heard, List.append_assoc]

/-- What may be answered while speaking to the engine. -/
def Hears (manager : Manager) : (request : LinkRequest) → Link.Reply request → Manager → Prop
  | .call call, outcome, later => later = manager.heard [⟨call, outcome⟩]
  | .callWithin _ call, reply, later => later = manager.heard (reply.map (Answer.mk call)).toList
  | .wait _, _, later => later = manager
  | .record _, _, later => later = manager
  | .abandon, _, _ => False

/-- What may be answered to a request of a manager. Only the table of guards and the bridge answer as
they must. -/
def Answers (manager : Manager) : (request : Living.Request) → Living.Reply request → Manager → Prop
  | .inl (.inl (.inl request)), reply, later => manager.Hears request reply later
  | .inl (.inl (.inr _)), _, later => later = manager
  | .inl (.inr request), reply, later =>
    ∃ table, manager.table.serve? request = some (reply, table) ∧ later = { manager with table }
  | .inr (.inl request), reply, later =>
    ∃ fresh bridge, manager.bridge.serve? fresh request = some (reply, bridge) ∧
      later = { manager with bridge }
  | .inr (.inr _), _, later => later = manager

/-- Who answers the requests of a manager. -/
def service : Service Living Manager where
  answers := Answers
  isLast
    | .inl request => Administering.isLast request
    | .inr _ => false
  halts {state request reply after} breaks h := by
    match request with
    | .inl (.inl (.inl .abandon)) => exact h
    | .inl (.inl (.inl (.call _))) => cases breaks
    | .inl (.inl (.inl (.callWithin _ _))) => cases breaks
    | .inl (.inl (.inl (.wait _))) => cases breaks
    | .inl (.inl (.inl (.record _))) => cases breaks
    | .inl (.inl (.inr _)) => cases breaks
    | .inl (.inr _) => cases breaks
    | .inr _ => cases breaks

/-- Who answers what is asked for while indices are administered. -/
abbrev administering : Service Administering Manager := service.left

/-- Who answers what is asked for while an index is set up. -/
abbrev preparing : Service Preparing Manager := administering.left

/-- Who answers what is asked for while speaking to the engine. -/
abbrev linking : Service Link Manager := preparing.left

end Manager

/-! ## Calls -/

/-- A call of a manager, or of the bridge it belongs to. -/
inductive ManagerCall where
  | create (entity : String)
  | delete (entity : String)
  | recreate (entity : String)
  /-- Opens the bridge, and recreates all indices if this is wanted. -/
  | opening (recreates : Bool)
  | closing

namespace ManagerCall

/-- What a call does. -/
def procedure (admin : IndexAdmin) : ManagerCall → Procedure Living (Except BridgeError Unit)
  | .create entity => (admin.create entity).left
  | .delete entity =>
    ((admin.delete entity).bind fun result => .done (result.map fun _ => ())).left
  | .recreate entity => (admin.recreate entity).left
  | .opening recreates => Lifecycle.opening admin recreates
  | .closing => Lifecycle.closing

/-- Whether a call is to make sure that an index exists. Opening a bridge that is open is not. -/
def Covers (call : ManagerCall) (admin : IndexAdmin) (manager : Manager) (index : String) : Prop :=
  match call with
  | .create entity | .recreate entity => admin.resolver.indexName entity = .ok index
  | .opening _ => manager.bridge.state ≠ .ready ∧
    ∃ entity ∈ admin.resolver.entityTypes, admin.resolver.indexName entity = .ok index
  | .delete _ | .closing => False

end ManagerCall

namespace Manager

/-- Whether a call can come to an outcome. A call that is broken off has none, and lets go of the
bridge. -/
inductive Performs (manager : Manager) (admin : IndexAdmin) (call : ManagerCall) :
    Option (Except BridgeError Unit) → Manager → Prop
  | ended {result later} (leads : (call.procedure admin).Leads service manager (some result) later) :
    Performs manager admin call (some result) later
  | broken {later : Manager}
    (leads : (call.procedure admin).Leads service manager none later) :
    Performs manager admin call none
      { later with bridge := { later.bridge with locked := false } }

/-- A manager after any number of calls, one after another. -/
inductive Reached : Manager → Prop
  | new : Reached {}
  | performed {manager later admin call outcome} (reached : Reached manager)
    (performs : manager.Performs admin call outcome later) : Reached later

end Manager

end EntitySearch
