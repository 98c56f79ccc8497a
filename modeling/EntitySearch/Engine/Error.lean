import EntitySearch.Duration

/-!
# What can go wrong with a request to the engine

* `EngineError`: the causes.
* `EngineError.message`, `EngineError.kind`: their wording and their names.
* `EngineError.isRetryable`: whether sending the same request again could succeed.
-/

namespace EntitySearch

/-- Why a request to the engine has no answer. -/
inductive EngineError where
  /-- The engine cannot be reached. -/
  | connection (text : String)
  /-- The engine did not answer in time. -/
  | timeout (limit : Duration)
  /-- The engine refused, with the status of its answer. -/
  | status (code : Nat) (body : String)
  /-- There is no such index. -/
  | notFound (index : String)
  /-- The answer has not the expected form. -/
  | decode (text : String)
deriving DecidableEq

namespace EngineError

/-- The wording of an error. -/
def message : EngineError → String
  | .connection text => "connection error: " ++ text
  | .timeout limit => "request timed out after " ++ limit.text
  | .status code body => "engine returned HTTP " ++ toString code ++ ": " ++ body
  | .notFound index => "index '" ++ index ++ "' not found"
  | .decode text => "malformed engine response: " ++ text

/-- The name of a cause. -/
def kind : EngineError → String
  | .connection _ => "Transport.Connection"
  | .timeout _ => "Transport.Timeout"
  | .status _ _ => "Transport.Status"
  | .notFound _ => "Transport.NotFound"
  | .decode _ => "Transport.Decode"

/-- Lost connections, timeouts, throttling and faults of the server may pass. -/
def isRetryable : EngineError → Bool
  | .connection _ | .timeout _ => true
  | .status code _ => code == 429 || 500 ≤ code
  | .notFound _ | .decode _ => false

end EngineError

end EntitySearch
