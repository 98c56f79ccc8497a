import EntitySearch.Engine.Error

/-!
# The health of an index

* `HealthStatus`: red, yellow or green, in this order.
* `HealthStatus.ofName`: the status of a name.
* `IndexHealth`: what the engine says after waiting for a status.
-/

namespace EntitySearch

/-- How usable an index is. -/
inductive HealthStatus where
  | red
  | yellow
  | green
deriving DecidableEq

namespace HealthStatus

/-- The place in the order of usability. -/
def rank : HealthStatus → Nat
  | .red => 0
  | .yellow => 1
  | .green => 2

instance : LE HealthStatus := ⟨fun a b => a.rank ≤ b.rank⟩

instance : LT HealthStatus := ⟨fun a b => a.rank < b.rank⟩

instance (a b : HealthStatus) : Decidable (a ≤ b) := inferInstanceAs (Decidable (a.rank ≤ b.rank))

instance (a b : HealthStatus) : Decidable (a < b) := inferInstanceAs (Decidable (a.rank < b.rank))

/-- The name of a status. -/
def name : HealthStatus → String
  | .red => "red"
  | .yellow => "yellow"
  | .green => "green"

/-- The status of a name. -/
def ofName : String → Except EngineError HealthStatus
  | "green" => .ok .green
  | "yellow" => .ok .yellow
  | "red" => .ok .red
  | other => .error (.decode ("unknown health status '" ++ other ++ "'"))

end HealthStatus

/-- The health of an index after waiting for a status. -/
structure IndexHealth where
  status : HealthStatus
  timedOut : Bool
deriving DecidableEq

end EntitySearch
