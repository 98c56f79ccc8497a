import EntitySearch.Engine.Call
import EntitySearch.Metrics
import EntitySearch.Retry

/-!
# Speaking to an engine

What the parts of a bridge ask of their surroundings: answers of an engine, time, and a place for
their measurements.

* `Link`: the protocol.
* `Link.call`, `Link.callWithin`: a request to the engine, also with a limit of time.
* `Link.isLast`: whether a request breaks off the task.
* `Link.retried`: a request that is sent again as a policy says.
-/

namespace EntitySearch

/-- What is asked for while speaking to an engine. -/
inductive LinkRequest where
  /-- Sends a request to the engine. -/
  | call (call : Call)
  /-- Sends a request and gives up on the answer after some time. -/
  | callWithin (limit : Duration) (call : Call)
  /-- Lets time pass. -/
  | wait (delay : Duration)
  /-- Notes a measurement. -/
  | record (measurement : Measurement)
  /-- Breaks off the task. -/
  | abandon

/-- Speaking to an engine. A request with a limit of time may stay without an answer. -/
def Link : Protocol where
  Request := LinkRequest
  Reply
    | .call call => call.Outcome
    | .callWithin _ call => Option call.Outcome
    | .wait _ => Unit
    | .record _ => Unit
    | .abandon => Empty

namespace Link

/-- Sends a request to the engine. -/
def call (call : Call) : Procedure Link call.Outcome := .request (p := Link) (.call call)

/-- Sends a request to the engine and gives up on the answer after some time. -/
def callWithin (limit : Duration) (call : Call) : Procedure Link (Option call.Outcome) :=
  .request (p := Link) (.callWithin limit call)

/-- Notes a measurement. -/
def record (measurement : Measurement) : Procedure Link Unit :=
  .request (p := Link) (.record measurement)

/-- Whether a request breaks off the task. -/
def isLast : Link.Request → Bool
  | .abandon => true
  | _ => false

/-- How the attempts at a request are made. -/
def attempt (operation : String) (call : Call) :
    (request : AttemptRequest) →
      Procedure Link ((Attempts EngineError call.Answer).Reply request)
  | .attempt => Link.call call
  | .pause delay => do
    record (.retry operation)
    .request (p := Link) (.wait delay)
  | .abandon => .request (p := Link) .abandon

/-- Sends a request to the engine, again if that may help and the policy allows it. -/
def retried (policy : RetryPolicy) (operation : String) (call : Call) :
    Procedure Link (Except (Exhausted EngineError) call.Answer) :=
  (policy.retry EngineError.isRetryable).expand (attempt operation call)

end Link

end EntitySearch
