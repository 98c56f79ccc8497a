import EntitySearch.Duration

/-!
# Batches

Items are collected in their order until there are enough of them, or until the oldest one has
waited long enough. The batcher is told the time; it has no clock of its own.

* `BatchLimits`: how many items are enough, and how long is long enough.
* `Batcher`: the items that wait.
* `Batcher.push`, `Batcher.take`, `Batcher.takeIfReady`: what can be done with them.
-/

namespace EntitySearch

/-- Why a batch is cut. -/
inductive FlushReason where
  /-- The oldest item has waited long enough. -/
  | time
  /-- There are enough items. -/
  | count
  /-- A caller asks for it. -/
  | manual
  /-- No more items are taken. -/
  | shutdown
deriving DecidableEq

/-- The name of a reason. -/
def FlushReason.name : FlushReason → String
  | .time => "time"
  | .count => "count"
  | .manual => "manual"
  | .shutdown => "shutdown"

/-- When a batch is ready. -/
structure BatchLimits where
  flushMillis : Nat := 3000
  flushCount : Nat := 100
deriving DecidableEq

/-- How long the oldest item waits at most: one millisecond or more. -/
def BatchLimits.interval (limits : BatchLimits) : Duration := .ofMillis (max limits.flushMillis 1)

/-- Items that are written together. -/
structure Batch (α : Type) where
  items : List α
  reason : FlushReason
  /-- How long the oldest item waited. -/
  age : Duration

/-- Items that wait for a batch. -/
structure Batcher (α : Type) where
  limits : BatchLimits := {}
  items : List α := []
  /-- When the oldest item came. -/
  oldestAt : Option Duration := none

namespace Batcher

variable {α : Type}

/-- How many items wait. -/
def size (batcher : Batcher α) : Nat := batcher.items.length

/-- Whether no item waits. -/
def isEmpty (batcher : Batcher α) : Bool := batcher.items.isEmpty

/-- Whether there are enough items. -/
def isFull (batcher : Batcher α) : Bool := batcher.limits.flushCount ≤ batcher.items.length

/-- How long the oldest item has waited. -/
def age (batcher : Batcher α) (now : Duration) : Duration :=
  (batcher.oldestAt.map (now - ·)).getD .zero

/-- Whether the oldest item has waited long enough. -/
def isDue (batcher : Batcher α) (now : Duration) : Bool :=
  !batcher.isEmpty && batcher.limits.interval ≤ batcher.age now

/-- Adds an item, and says whether there are enough now. -/
def push (batcher : Batcher α) (now : Duration) (item : α) : Batcher α × Option FlushReason :=
  let oldestAt := if batcher.isEmpty then some now else batcher.oldestAt
  let batcher := { batcher with items := batcher.items ++ [item], oldestAt }
  (batcher, if batcher.isFull then some .count else none)

/-- A batch of all items; none if there are no items. -/
def take (batcher : Batcher α) (now : Duration) (reason : FlushReason) :
    Batcher α × Option (Batch α) :=
  if batcher.isEmpty then (batcher, none)
  else
    ({ batcher with items := [], oldestAt := none },
      some ⟨batcher.items, reason, batcher.age now⟩)

/-- A batch of all items, if there are enough or if the oldest one has waited long enough. -/
def takeIfReady (batcher : Batcher α) (now : Duration) : Batcher α × Option (Batch α) :=
  if batcher.isFull then batcher.take now .count
  else if batcher.isDue now then batcher.take now .time
  else (batcher, none)

end Batcher

end EntitySearch
