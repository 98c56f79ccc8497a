import EntitySearch.Proofs.Procedure.Ensures
import EntitySearch.Session.System

/-!
# The requests by which tasks speak to an engine

A task sends a request to the engine, and after it only waits for the answer. So what is asked for
while it speaks to the engine comes down to what it begins with.

* `SystemRequest.Waits`: whether a request only waits.
* `LinkRequest.first`: the request with which something is begun that is asked of an engine.
* `System.asks_link`, `System.asks_administering`: what is asked for in all.
-/

namespace EntitySearch

/-- Whether a request only waits for something, or breaks off the task. -/
def SystemRequest.Waits : SystemRequest → Prop
  | .receive _ _ | .sleep _ | .abandon => True
  | _ => False

/-- The request with which something is begun that is asked of an engine. -/
def LinkRequest.first (route : Route) : LinkRequest → SystemRequest
  | .call sent | .callWithin _ sent => .send route sent
  | .wait delay => .sleep delay
  | .record measurement => .record measurement
  | .abandon => .abandon

namespace System

variable {allowed : SystemRequest → Prop} {route : Route} {schema : SchemaSource} {table : Nat}
  (waits : ∀ request : SystemRequest, request.Waits → allowed request)

include waits

theorem asks_receive (call : Call) (delay : Duration) :
    (receive call delay).Asks allowed fun _ => True := by
  refine ⟨waits _ trivial, fun answer => ?_⟩
  cases answer with
  | some outcome => trivial
  | none => exact ⟨waits .abandon trivial, nofun⟩

theorem asks_call {call : Call} (sends : allowed (.send route call)) :
    (System.call route call).Asks allowed fun _ => True := by
  refine ⟨sends, fun receipt => ?_⟩
  cases receipt with
  | answered outcome => trivial
  | takes delay => exact ⟨waits _ trivial, fun _ => asks_receive waits call delay⟩

theorem asks_callWithin {call : Call} (sends : allowed (.send route call)) (limit : Duration) :
    (callWithin route limit call).Asks allowed fun _ => True := by
  refine ⟨sends, fun receipt => ?_⟩
  cases receipt with
  | answered outcome => trivial
  | takes delay =>
    have last : ((receive call delay).bind fun outcome => .done (some outcome)).Asks allowed
        fun _ => True := by
      refine Procedure.Asks.bind (fun _ _ => ?_) (asks_receive waits call delay)
      trivial
    dsimp only [Procedure.bind]
    by_cases soon : delay.limited ≤ limit
    · rw [if_pos soon]
      exact ⟨waits _ trivial, fun _ => last⟩
    · rw [if_neg soon]
      exact ⟨waits _ trivial, fun _ => trivial⟩

/-- **What is asked for while a task speaks to an engine.** -/
theorem asks_link {request : LinkRequest} (begins : allowed (request.first route)) :
    (link route request).Asks allowed fun _ => True := by
  cases request with
  | call call => exact asks_call waits begins
  | callWithin limit call => exact asks_callWithin waits begins limit
  | wait delay => exact ⟨begins, fun _ => trivial⟩
  | record measurement => exact ⟨begins, fun _ => trivial⟩
  | abandon => exact ⟨begins, nofun⟩

theorem asks_administering {request : Administering.Request}
    (begins : ∀ made : LinkRequest, request = .inl (.inl made) → allowed (made.first route))
    (maps : ∀ index, allowed (.mapping schema index))
    (guards : ∀ request, allowed (.guard table request)) :
    (administering route schema table request).Asks allowed fun _ => True := by
  rcases request with (request | index) | request
  · exact asks_link waits (begins request rfl)
  · exact ⟨maps index, fun _ => trivial⟩
  · exact ⟨guards request, fun _ => trivial⟩

end System

end EntitySearch
