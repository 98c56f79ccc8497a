import EntitySearch.Retry

/-!
# Rehearsing a retry policy

A policy can be tried out on outcomes that are known beforehand, without letting time pass. The
pauses are summed up as they would be made: in whole milliseconds, and none longer than any wait.

* `Rehearsal`: what attempts have led to so far.
* `RetryPolicy.rehearse`: the attempts at an operation with given outcomes.
-/

namespace EntitySearch

/-- What attempts have led to so far. -/
structure Rehearsal (ε α : Type) where
  /-- The outcome of the next attempt. -/
  next : Except ε α
  /-- The outcomes of the attempts after it; the last one is repeated. -/
  later : List (Except ε α)
  attempts : Nat := 0
  waited : Duration := .zero

namespace Rehearsal

variable {ε α : Type}

/-- The rehearsal after an attempt. -/
def attempted (rehearsal : Rehearsal ε α) : Rehearsal ε α :=
  match rehearsal.later with
  | [] => { rehearsal with attempts := rehearsal.attempts + 1 }
  | next :: later => { rehearsal with next, later, attempts := rehearsal.attempts + 1 }

/-- Answers what attempts ask for; there is no answer if they are broken off. -/
def serve? (rehearsal : Rehearsal ε α) :
    (request : AttemptRequest) → Option ((Attempts ε α).Reply request × Rehearsal ε α)
  | .attempt => some (rehearsal.next, rehearsal.attempted)
  | .pause delay =>
    some ((), { rehearsal with waited := rehearsal.waited + delay.limited.upToMilli })
  | .abandon => none

end Rehearsal

/-- The attempts at an operation whose outcomes are `first` and `later`, the last one again and
again. There is no end if they are broken off. -/
def RetryPolicy.rehearse {ε α : Type} (policy : RetryPolicy) (retryable : ε → Bool)
    (first : Except ε α) (later : List (Except ε α)) :
    Option (Except (Exhausted ε) α × Rehearsal ε α) :=
  (policy.retry retryable).run Rehearsal.serve? { next := first, later }

end EntitySearch
