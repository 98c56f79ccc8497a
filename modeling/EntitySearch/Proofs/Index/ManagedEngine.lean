import EntitySearch.Proofs.Engine.Replies
import EntitySearch.Proofs.Index.Manager

/-!
# A manager with an engine in memory

A manager whose requests an engine in memory answers, all in time: the calls of the manager can be run.

* `ManagedEngine`: a manager and its engine; `ManagedEngine.perform?` runs a call.
* `ManagedEngine.performs`: what is run is what the manager can come to, and the answers are those of
  the engine.
-/

namespace EntitySearch

/-- A manager and its engine. -/
structure ManagedEngine where
  manager : Manager := {}
  engine : MemoryEngine := {}

namespace ManagedEngine

/-- Sends a request to the engine; there is no answer if the engine breaks it off. -/
def send? (state : ManagedEngine) (call : Call) : Option (call.Outcome × ManagedEngine) :=
  match state.engine.handle call with
  | (engine, some outcome) => some (outcome, ⟨state.manager.heard [⟨call, outcome⟩], engine⟩)
  | (_, none) => none

/-- Answers what is asked while speaking to the engine. -/
def link? (state : ManagedEngine) :
    (request : LinkRequest) → Option (Link.Reply request × ManagedEngine)
  | .call call => state.send? call
  | .callWithin _ call => (state.send? call).map fun (outcome, state) => (some outcome, state)
  | .wait _ => some ((), state)
  | .record _ => some ((), state)
  | .abandon => none

/-- Answers the requests of a manager, except for the use of queues. -/
def serve? (resolver : Resolver) (state : ManagedEngine) :
    (request : Living.Request) → Option (Living.Reply request × ManagedEngine)
  | .inl (.inl (.inl request)) => state.link? request
  | .inl (.inl (.inr index)) => some (mergedMapping resolver index, state)
  | .inl (.inr request) =>
    (state.manager.table.serve? request).map fun (reply, table) =>
      (reply, { state with manager := { state.manager with table } })
  | .inr (.inl request) =>
    (state.manager.bridge.serve? 0 request).map fun (reply, bridge) =>
      (reply, { state with manager := { state.manager with bridge } })
  | .inr (.inr _) => none

/-- Runs a call. -/
def perform? (state : ManagedEngine) (admin : IndexAdmin) (call : ManagerCall) :
    Option (Except BridgeError Unit × ManagedEngine) :=
  (call.procedure admin).run (serve? admin.resolver) state

/-! ## What is run -/

variable {state after : ManagedEngine}

theorem of_send? {call : Call} {outcome : call.Outcome}
    (h : state.send? call = some (outcome, after)) :
    after.manager = state.manager.heard [⟨call, outcome⟩] ∧
      state.engine.handle call = (after.engine, some outcome) := by
  rw [send?] at h
  split at h
  · next handled =>
    cases h
    exact ⟨rfl, handled⟩
  · cases h

/-- Whether a manager has received some answers, and they are those of the engine. -/
def Answered (state after : ManagedEngine) : Prop :=
  ∃ own, after.manager.answers = state.manager.answers ++ own ∧
    state.engine.Replies own after.engine

theorem Answered.of_same (answers : after.manager.answers = state.manager.answers)
    (engine : after.engine = state.engine) : Answered state after :=
  ⟨[], by rw [answers, List.append_nil], .nil (engine ▸ .refl _)⟩

theorem Answered.trans {first second third : ManagedEngine} (h : Answered first second)
    (h' : Answered second third) : Answered first third := by
  obtain ⟨own, answers, replies⟩ := h
  obtain ⟨more, answers', replies'⟩ := h'
  exact ⟨own ++ more, by rw [answers', answers, List.append_assoc], replies.append replies'⟩

theorem answered_of_send? {call : Call} {outcome : call.Outcome}
    (h : state.send? call = some (outcome, after)) : Answered state after := by
  obtain ⟨heard, handled⟩ := of_send? h
  exact ⟨_, by rw [heard]; rfl, .of_handle handled⟩

theorem hears_of_link? {request : LinkRequest} {reply : Link.Reply request}
    (h : state.link? request = some (reply, after)) :
    state.manager.Hears request reply after.manager ∧ Answered state after := by
  cases request with
  | call call => exact ⟨(of_send? h).1, answered_of_send? h⟩
  | callWithin limit call =>
    obtain ⟨⟨outcome, _⟩, sent, same⟩ := Option.map_eq_some_iff.mp h
    cases same
    exact ⟨(of_send? sent).1, answered_of_send? sent⟩
  | wait delay =>
    cases h
    exact ⟨rfl, .of_same rfl rfl⟩
  | record measurement =>
    cases h
    exact ⟨rfl, .of_same rfl rfl⟩
  | abandon => cases h

theorem answers_of_serve? {resolver : Resolver} {request : Living.Request}
    {reply : Living.Reply request} (h : state.serve? resolver request = some (reply, after)) :
    state.manager.Answers request reply after.manager ∧ Answered state after := by
  match request with
  | .inl (.inl (.inl request)) => exact hears_of_link? h
  | .inl (.inl (.inr index)) =>
    cases h
    exact ⟨rfl, .of_same rfl rfl⟩
  | .inl (.inr request) =>
    obtain ⟨⟨_, table⟩, served, same⟩ := Option.map_eq_some_iff.mp h
    cases same
    exact ⟨⟨table, served, rfl⟩, .of_same rfl rfl⟩
  | .inr (.inl request) =>
    obtain ⟨⟨_, bridge⟩, served, same⟩ := Option.map_eq_some_iff.mp h
    cases same
    exact ⟨⟨0, bridge, served, rfl⟩, .of_same rfl rfl⟩
  | .inr (.inr request) => cases h

/-- **A call that is run** is a call that the manager can perform, and the answers are those of the
engine. -/
theorem performs {admin : IndexAdmin} {call : ManagerCall} {result : Except BridgeError Unit}
    (h : state.perform? admin call = some (result, after)) :
    state.manager.Performs admin call (some result) after.manager ∧ Answered state after :=
  ⟨.ended (Procedure.Leads.of_run (fun served => (answers_of_serve? served).1) h),
    Procedure.relates_of_run Answered (fun _ => .of_same rfl rfl) Answered.trans
      (fun served => (answers_of_serve? served).2) h⟩

end ManagedEngine

end EntitySearch
