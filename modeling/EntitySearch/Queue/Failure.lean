import EntitySearch.Error
import EntitySearch.WorkItem

/-!
# Reports of failures

Items that could not be written are reported on a channel. The channel keeps the newest reports;
a subscriber that reads too late is told how many it has missed.

* `BulkFailure`: a report.
* `FailureChannel`: the reports published so far.
* `FailureChannel.read`: what is waiting for a subscriber.
-/

namespace EntitySearch

/-- What went wrong with items. -/
inductive FailureKind where
  /-- The bulk request was not delivered. -/
  | submission
  /-- The request was delivered, but the documents were not taken. -/
  | rejected
  /-- The documents were written but not made visible to searches. -/
  | refresh
deriving DecidableEq

/-- The name of a kind of failure. -/
def FailureKind.name : FailureKind → String
  | .submission => "submission"
  | .rejected => "rejected"
  | .refresh => "refresh"

/-- A report of items that could not be written. -/
structure BulkFailure where
  kind : FailureKind
  attempts : Nat
  reason : String
  items : List WorkItem

/-- A report as an error. -/
def BulkFailure.error (failure : BulkFailure) : BridgeError :=
  match failure.kind with
  | .refresh => .refresh failure.attempts failure.reason
  | .submission | .rejected => .bulkSubmission failure.attempts failure.reason

/-- The reports published so far, the first one first, and how many are kept at least. -/
structure FailureChannel where
  capacity : Nat
  published : List BulkFailure := []

namespace FailureChannel

/-- The least power of two from `power` on that is at least `n`, after `fuel` doublings at
most. -/
def powerFrom (n : Nat) : Nat → Nat → Nat
  | 0, power => power
  | fuel + 1, power => if n ≤ power then power else powerFrom n fuel (2 * power)

/-- How many reports are kept: the capacity, rounded up to a power of two. -/
def kept (channel : FailureChannel) : Nat := powerFrom channel.capacity 64 1

/-- Publishes a report. -/
def publish (channel : FailureChannel) (failure : BulkFailure) : FailureChannel :=
  { channel with published := channel.published ++ [failure] }

/-- How many reports were published. -/
def size (channel : FailureChannel) : Nat := channel.published.length

/-- What is waiting for a subscriber that has read `seen` reports: how many it has missed, and the
reports that are kept. -/
def read (channel : FailureChannel) (seen : Nat) : Nat × List BulkFailure :=
  let first := channel.size - channel.kept
  (first - seen, channel.published.drop (max seen first))

end FailureChannel

end EntitySearch
