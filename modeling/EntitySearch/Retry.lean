import EntitySearch.Duration
import EntitySearch.Procedure

/-!
# Retrying with growing delays

An operation that fails in a way that may pass is tried again a bounded number of times, after a
delay that grows by a factor from one retry to the next, up to a maximum.

* `RetryPolicy`: how often and after which delays.
* `RetryPolicy.delayFor`: the delay before a retry.
* `RetryPolicy.retry`: the attempts at an operation.
-/

namespace EntitySearch

/-- How often an operation is tried, and after which delays. -/
structure RetryPolicy where
  /-- How often the operation is tried at most; it is tried once in any case. -/
  maxAttempts : Nat
  /-- The delay before the first retry. -/
  initial : Duration
  /-- The longest delay. -/
  maximum : Duration
  /-- How much longer each delay is than the one before. -/
  factor : Binary64

namespace RetryPolicy

/-- Delays that double. -/
def doubling (maxAttempts : Nat) (initial maximum : Duration) : RetryPolicy :=
  ⟨max maxAttempts 1, initial, maximum, (Binary64.ofNat? 2).getD default⟩

/-- The policy for bulk requests: five attempts, a fifth of a second up to five seconds apart. -/
def bulk : RetryPolicy := doubling 5 (.ofMillis 200) (.ofMillis 5000)

/-- The policy for other requests: three attempts in quick succession. -/
def admin : RetryPolicy := doubling 3 (.ofMillis 100) (.ofMillis 2000)

/-- One attempt. -/
def never : RetryPolicy := doubling 1 .zero .zero

/-- The delay before a retry, counted from one. It grows through the first 33 retries. There is no
delay if the grown delay, before it is cut to the maximum, is no time span at all. -/
def delayFor (policy : RetryPolicy) (retry : Nat) : Option Duration :=
  let growth := (Binary64.Extended.finite policy.factor).pow (min (retry - 1) 32)
  (policy.initial.scale? growth).map fun delay => min delay policy.maximum

end RetryPolicy

/-! ## Attempts -/

/-- What the attempts at an operation ask for. -/
inductive AttemptRequest where
  /-- Tries the operation. -/
  | attempt
  /-- Lets time pass before the next attempt. -/
  | pause (delay : Duration)
  /-- Breaks off, since there is no delay to wait for. -/
  | abandon

/-- The attempts at an operation. -/
def Attempts (ε α : Type) : Protocol where
  Request := AttemptRequest
  Reply
    | .attempt => Except ε α
    | .pause _ => Unit
    | .abandon => Empty

/-- The last error of an operation, and how often it was tried. -/
structure Exhausted (ε : Type) where
  error : ε
  attempts : Nat

namespace RetryPolicy

variable {ε α : Type}

/-- The attempts from a given one on, with `left` more after it. -/
def retryFrom (policy : RetryPolicy) (retryable : ε → Bool) (attempts : Nat) :
    (left : Nat) → Procedure (Attempts ε α) (Except (Exhausted ε) α)
  | 0 => .ask .attempt fun
    | .ok result => .done (.ok result)
    | .error error => .done (.error ⟨error, attempts⟩)
  | left + 1 => .ask .attempt fun
    | .ok result => .done (.ok result)
    | .error error =>
      if retryable error then
        match policy.delayFor attempts with
        | some delay =>
          .ask (.pause delay) fun _ => retryFrom policy retryable (attempts + 1) left
        | none => .ask .abandon nofun
      else .done (.error ⟨error, attempts⟩)

/-- Tries an operation until it succeeds, fails for good, or was tried as often as allowed. -/
def retry (policy : RetryPolicy) (retryable : ε → Bool) :
    Procedure (Attempts ε α) (Except (Exhausted ε) α) :=
  policy.retryFrom retryable 1 (policy.maxAttempts - 1)

end RetryPolicy

end EntitySearch
