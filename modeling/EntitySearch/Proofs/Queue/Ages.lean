import EntitySearch.Proofs.Queue.Plan

/-!
# How old a batch may get

A batcher remembers one moment only, that at which the first of its items came. Whatever is done
with it, its items are those that were pushed since a batch was last taken. As the clock does not go
back, no other of them has waited longer than the first; so it has waited for a full interval as
soon as any of them has. The timer of a queue asks for a batch at every tick, so that no item is
left then which has waited that long.

* `BatcherUse`, `Batcher.use`: what is done with a batcher, and the batch that is taken.
* `Watch`: a batcher, and the items pushed since a batch was last taken, each with its moment.
* `Watch.ready`: the batch that is ready, by these items and their moments.
* `Watch.Kept`, `Watch.Kept.run`: that they are the items that wait, and that it stays so.
* `Watch.Kept.isDue_iff`, `Watch.Kept.takeIfReady_eq`, `Watch.Kept.fresh`: what follows.
* `Queue.Kept.perform`: the items that wait in a queue after a step.
-/

namespace EntitySearch

/-! ## Moments -/

namespace Duration

theorem le_sub_iff {interval first now : Duration} (some : zero < interval) :
    interval ≤ now - first ↔ first + interval ≤ now := by
  change 0 < interval.nanos at some
  change interval.nanos ≤ now.nanos - first.nanos ↔ first.nanos + interval.nanos ≤ now.nanos
  omega

theorem add_le_of_le {interval first other now : Duration} (h : first ≤ other)
    (late : other + interval ≤ now) : first + interval ≤ now :=
  Nat.le_trans (Nat.add_le_add_right h _) late

theorem sub_le_sub_left {first other : Duration} (now : Duration) (h : first ≤ other) :
    now - other ≤ now - first :=
  Nat.sub_le_sub_left h _

theorem lt_of_not_le {first now : Duration} (h : ¬ first ≤ now) : now < first :=
  Nat.lt_of_not_le h

end Duration

theorem BatchLimits.zero_lt_interval (limits : BatchLimits) : Duration.zero < limits.interval := by
  change 0 < max limits.flushMillis 1 * 1000000
  omega

/-! ## Using a batcher -/

/-- What is done with a batcher. -/
inductive BatcherUse (α : Type) where
  | push (item : α)
  | take (reason : FlushReason)
  | takeIfReady

/-- An item and the moment at which it came. -/
structure Arrival (α : Type) where
  moment : Duration
  item : α

/-- The item that is pushed. -/
def BatcherUse.arrival {α : Type} (now : Duration) : BatcherUse α → List (Arrival α)
  | .push item => [⟨now, item⟩]
  | .take _ | .takeIfReady => []

/-- A batcher after something is done with it, and the batch that is taken. -/
def Batcher.use {α : Type} (batcher : Batcher α) (now : Duration) :
    BatcherUse α → Batcher α × Option (Batch α)
  | .push item => ((batcher.push now item).1, none)
  | .take reason => batcher.take now reason
  | .takeIfReady => batcher.takeIfReady now

/-- A batcher, and the items that were pushed since a batch was last taken, the first one first. -/
structure Watch (α : Type) where
  batcher : Batcher α
  since : List (Arrival α) := []

namespace Watch

variable {α : Type} {watch : Watch α} {before now : Duration}

/-- A new batcher. -/
def start (limits : BatchLimits) : Watch α where
  batcher := { limits }

/-- What is noted when something is done with the batcher. Asking for a batch in vain changes
nothing. -/
def after (watch : Watch α) (now : Duration) (use : BatcherUse α) : Watch α :=
  match watch.batcher.use now use with
  | (batcher, some _) => ⟨batcher, []⟩
  | (batcher, none) => ⟨batcher, watch.since ++ use.arrival now⟩

/-- What is noted when many things are done with the batcher, each at its moment. -/
def run (watch : Watch α) (uses : List (Duration × BatcherUse α)) : Watch α :=
  uses.foldl (fun watch use => watch.after use.1 use.2) watch

/-- The batch that is ready, by what is noted: one of all items, if they are enough or if some item
has waited for a full interval. -/
def ready (watch : Watch α) (limits : BatchLimits) (now : Duration) : Option (Batch α) :=
  match watch.since with
  | [] => none
  | first :: rest =>
    let batch (reason : FlushReason) : Batch α :=
      ⟨(first :: rest).map (·.item), reason, now - first.moment⟩
    if limits.flushCount ≤ (first :: rest).length then some (batch .count)
    else if ∃ arrival ∈ first :: rest, arrival.moment + limits.interval ≤ now then
      some (batch .time)
    else none

theorem ready_nil {limits : BatchLimits} (none : watch.since = []) :
    watch.ready limits now = .none := by
  rw [ready, none]

theorem ready_cons {limits : BatchLimits} {first : Arrival α} {rest : List (Arrival α)}
    (since : watch.since = first :: rest) :
    watch.ready limits now =
      if limits.flushCount ≤ watch.since.length then
        some ⟨watch.since.map (·.item), .count, now - first.moment⟩
      else if ∃ arrival ∈ watch.since, arrival.moment + limits.interval ≤ now then
        some ⟨watch.since.map (·.item), .time, now - first.moment⟩
      else none := by
  rw [ready, since]

theorem after_of_some (use : BatcherUse α) {batcher : Batcher α} {batch : Batch α}
    (taken : watch.batcher.use now use = (batcher, some batch)) :
    watch.after now use = ⟨batcher, []⟩ := by
  rw [after, taken]

theorem after_of_none (use : BatcherUse α) (nothing : use.arrival now = [])
    (vain : watch.batcher.use now use = (watch.batcher, none)) : watch.after now use = watch := by
  rw [after, vain, nothing, List.append_nil]

/-- That a batcher holds the items that are noted, and the moment of the first one. -/
structure Kept (watch : Watch α) (limits : BatchLimits) (now : Duration) : Prop where
  limits : watch.batcher.limits = limits
  items : watch.batcher.items = watch.since.map (·.item)
  oldest : watch.batcher.oldestAt = watch.since.head?.map (·.moment)
  past : ∀ arrival ∈ watch.since, arrival.moment ≤ now
  ordered : watch.since.Pairwise (·.moment ≤ ·.moment)

theorem kept_start (limits : BatchLimits) (now : Duration) :
    (start limits : Watch α).Kept limits now :=
  ⟨rfl, rfl, rfl, nofun, .nil⟩

namespace Kept

variable {limits : BatchLimits}

theorem later (h : watch.Kept limits before) (hn : before ≤ now) : watch.Kept limits now :=
  { h with past := fun arrival ha => Nat.le_trans (h.past arrival ha) hn }

theorem isEmpty_iff (h : watch.Kept limits now) :
    watch.batcher.isEmpty = true ↔ watch.since = [] := by
  rw [Batcher.isEmpty, h.items, List.isEmpty_iff, List.map_eq_nil_iff]

theorem isFull_iff (h : watch.Kept limits now) :
    watch.batcher.isFull = true ↔ limits.flushCount ≤ watch.since.length := by
  rw [Batcher.isFull, h.limits, h.items, List.length_map, decide_eq_true_iff]

theorem age_eq (h : watch.Kept limits now) {first : Arrival α} {rest : List (Arrival α)}
    (since : watch.since = first :: rest) : watch.batcher.age now = now - first.moment := by
  rw [Batcher.age, h.oldest, since]
  rfl

theorem first_le (h : watch.Kept limits now) {first : Arrival α} {rest : List (Arrival α)}
    (since : watch.since = first :: rest) {arrival : Arrival α} (ha : arrival ∈ watch.since) :
    first.moment ≤ arrival.moment := by
  have ordered := h.ordered
  rw [since] at ha ordered
  rcases List.mem_cons.mp ha with rfl | ha
  · exact Nat.le_refl _
  · exact List.rel_of_pairwise_cons ordered ha

/-- **The oldest item has waited long enough** exactly if some item has. -/
theorem isDue_iff (h : watch.Kept limits now) :
    watch.batcher.isDue now = true ↔
      ∃ arrival ∈ watch.since, arrival.moment + limits.interval ≤ now := by
  rw [Batcher.isDue, Bool.and_eq_true, Bool.not_eq_true', decide_eq_true_iff, h.limits,
    Bool.eq_false_iff, Ne, h.isEmpty_iff]
  cases hs : watch.since with
  | nil => exact ⟨fun due => absurd rfl due.1, fun ⟨_, ha, _⟩ => absurd ha List.not_mem_nil⟩
  | cons first rest =>
    rw [h.age_eq hs, Duration.le_sub_iff limits.zero_lt_interval]
    constructor
    · exact fun due => ⟨first, List.mem_cons_self, due.2⟩
    · rintro ⟨arrival, ha, late⟩
      exact ⟨nofun, Duration.add_le_of_le (h.first_le hs (hs ▸ ha)) late⟩

/-! ### What a batcher gives away -/

theorem take_nil (h : watch.Kept limits now) (none : watch.since = []) (reason : FlushReason) :
    watch.batcher.take now reason = (watch.batcher, .none) :=
  if_pos (h.isEmpty_iff.mpr none)

theorem take_cons (h : watch.Kept limits now) {first : Arrival α} {rest : List (Arrival α)}
    (since : watch.since = first :: rest) (reason : FlushReason) :
    watch.batcher.take now reason = ({ limits },
      some ⟨watch.since.map (·.item), reason, now - first.moment⟩) := by
  have nonempty : ¬ watch.batcher.isEmpty = true := by
    rw [h.isEmpty_iff, since]
    nofun
  rw [Batcher.take, if_neg nonempty, h.age_eq since, h.limits, h.items]

/-- A batcher gives away the batch that is ready by what is noted, and is as new then. -/
theorem takeIfReady_eq (h : watch.Kept limits now) :
    watch.batcher.takeIfReady now =
      match watch.ready limits now with
      | some batch => ({ limits }, some batch)
      | none => (watch.batcher, none) := by
  unfold Batcher.takeIfReady
  cases hs : watch.since with
  | nil =>
    have idle : ¬ watch.batcher.isDue now = true := by
      rw [h.isDue_iff, hs]
      exact fun ⟨_, ha, _⟩ => List.not_mem_nil ha
    rw [ready_nil hs, h.take_nil hs, if_neg idle]
    exact ite_self _
  | cons first rest =>
    rw [ready_cons hs, h.take_cons hs, h.take_cons hs]
    by_cases full : limits.flushCount ≤ watch.since.length
    · rw [if_pos (h.isFull_iff.mpr full), if_pos full]
    rw [if_neg (fun hf => full (h.isFull_iff.mp hf)), if_neg full]
    by_cases due : ∃ arrival ∈ watch.since, arrival.moment + limits.interval ≤ now
    · rw [if_pos (h.isDue_iff.mpr due), if_pos due]
    · rw [if_neg (fun hd => due (h.isDue_iff.mp hd)), if_neg due]

/-- A batch that is ready has at least one item, and none has waited longer than it says. -/
theorem ready_spec (h : watch.Kept limits now) {batch : Batch α}
    (ready : watch.ready limits now = some batch) :
    batch.items ≠ [] ∧ ∀ arrival ∈ watch.since, now - arrival.moment ≤ batch.age := by
  cases hs : watch.since with
  | nil =>
    rw [ready_nil hs] at ready
    cases ready
  | cons first rest =>
    have given : batch.items = watch.since.map (·.item) ∧ batch.age = now - first.moment := by
      rw [ready_cons hs] at ready
      split at ready
      · cases ready
        exact ⟨rfl, rfl⟩
      split at ready
      · cases ready
        exact ⟨rfl, rfl⟩
      · cases ready
    rw [given.1, given.2, ← hs]
    refine ⟨fun none => ?_, fun arrival ha => Duration.sub_le_sub_left now (h.first_le hs ha)⟩
    rw [hs] at none
    cases none

/-! ### What keeps it so -/

theorem after_push (h : watch.Kept limits now) (item : α) :
    (watch.after now (.push item)).Kept limits now := by
  refine ⟨h.limits, ?_, ?_, ?_, ?_⟩
  · change watch.batcher.items ++ [item] = (watch.since ++ [(⟨now, item⟩ : Arrival α)]).map (·.item)
    rw [List.map_append, h.items]
    rfl
  · change (if watch.batcher.isEmpty then some now else watch.batcher.oldestAt) =
      (watch.since ++ [(⟨now, item⟩ : Arrival α)]).head?.map (·.moment)
    cases hs : watch.since with
    | nil => rw [if_pos (h.isEmpty_iff.mpr hs)]; rfl
    | cons first rest =>
      rw [if_neg (fun he => by rw [h.isEmpty_iff, hs] at he; cases he), h.oldest, hs]
      rfl
  · intro arrival ha
    rcases List.mem_append.mp ha with ha | ha
    · exact h.past arrival ha
    · rw [List.mem_singleton.mp ha]
      exact Nat.le_refl _
  · refine List.pairwise_append.mpr ⟨h.ordered, List.pairwise_singleton _ _, ?_⟩
    intro arrival ha last hl
    rw [List.mem_singleton.mp hl]
    exact h.past arrival ha

/-- **Whatever is done with a batcher**, it holds the items that are noted. -/
theorem after (h : watch.Kept limits before) (hn : before ≤ now) (use : BatcherUse α) :
    (watch.after now use).Kept limits now := by
  have h := h.later hn
  cases use with
  | push item => exact h.after_push item
  | take reason =>
    cases hs : watch.since with
    | nil =>
      rw [after_of_none (.take reason) rfl (h.take_nil hs reason)]
      exact h
    | cons first rest =>
      rw [after_of_some (.take reason) (h.take_cons hs reason)]
      exact kept_start limits now
  | takeIfReady =>
    have taken := h.takeIfReady_eq
    cases hr : watch.ready limits now with
    | none =>
      rw [hr] at taken
      rw [after_of_none .takeIfReady rfl taken]
      exact h
    | some batch =>
      rw [hr] at taken
      rw [after_of_some .takeIfReady taken]
      exact kept_start limits now

/-- The clock does not go back while a batcher is used. -/
theorem run (uses : List (Duration × BatcherUse α)) (h : watch.Kept limits before)
    (clock : (before :: (uses.map (·.1) ++ [now])).Pairwise (· ≤ ·)) :
    (watch.run uses).Kept limits now := by
  induction uses generalizing watch before with
  | nil => exact h.later (List.rel_of_pairwise_cons clock List.mem_cons_self)
  | cons use rest ih =>
    obtain ⟨first, clock⟩ := List.pairwise_cons.mp clock
    exact ih (h.after (first use.1 List.mem_cons_self) use.2) clock

/-- After a batch was asked for no item has waited for a full interval. -/
theorem fresh (h : watch.Kept limits now) {arrival : Arrival α}
    (ha : arrival ∈ (watch.after now .takeIfReady).since) :
    now < arrival.moment + limits.interval := by
  have taken := h.takeIfReady_eq
  cases hr : watch.ready limits now with
  | some batch =>
    rw [hr] at taken
    rw [after_of_some .takeIfReady taken] at ha
    cases ha
  | none =>
    rw [hr] at taken
    rw [after_of_none .takeIfReady rfl taken] at ha
    obtain ⟨first, rest, hs⟩ := List.exists_cons_of_ne_nil (List.ne_nil_of_mem ha)
    rw [ready_cons hs] at hr
    split at hr
    · cases hr
    split at hr
    · cases hr
    · next none => exact Duration.lt_of_not_le fun due => none ⟨arrival, ha, due⟩

end Kept

end Watch

/-! ## The batcher of a queue -/

namespace Queue

variable {queue : Queue} {late : List (Arrival WorkItem)} {limits : BatchLimits}
  {before now : Duration}

/-- That the items which wait in a queue are those that are noted. -/
def Kept (queue : Queue) (late : List (Arrival WorkItem)) (limits : BatchLimits)
    (now : Duration) : Prop :=
  (⟨queue.pending, late⟩ : Watch WorkItem).Kept limits now

/-- What a step leaves behind: of the items that were noted and of those that it accepts, the last
ones wait. -/
def Leaves (late : List (Arrival WorkItem)) (accepted : List WorkItem) (limits : BatchLimits)
    (now : Duration) (left : List (Arrival WorkItem)) (queue : Queue) : Prop :=
  left <:+ late ++ accepted.map (Arrival.mk now) ∧ queue.Kept left limits now

theorem Kept.unchanged (h : queue.Kept late limits now) :
    Leaves late [] limits now late queue :=
  ⟨⟨[], (List.append_nil late).symm⟩, h⟩

theorem Kept.submit (h : queue.Kept late limits now) (reason : FlushReason) (wait : Bool) :
    (queue.submit now reason wait).queue.Kept [] limits now := by
  rw [Kept, submit_eq, pending_send]
  cases late with
  | nil =>
    rw [h.take_nil rfl reason]
    exact h
  | cons first rest =>
    rw [h.take_cons rfl reason]
    exact Watch.kept_start limits now

theorem Kept.enqueue (h : queue.Kept late limits now) (resolver : Resolver) (item : WorkItem) :
    ∃ left, Leaves late ((QueueAction.enqueue item).accepted
      (queue.enqueue resolver now item).result) limits now left
        (queue.enqueue resolver now item).queue := by
  obtain ⟨-, cause, eq⟩ | ⟨-, eq⟩ := queue.enqueue_cases resolver now item
  · rw [eq]
    exact ⟨late, h.unchanged⟩
  · have pushed : { queue with pending := (queue.pending.push now item).1 }.Kept
        (late ++ [Arrival.mk now item]) limits now := Watch.Kept.after_push h item
    cases full : (queue.pending.push now item).2 with
    | none =>
      rw [full] at eq
      rw [eq]
      exact ⟨_, List.suffix_refl _, pushed⟩
    | some reason =>
      rw [full] at eq
      rw [eq]
      exact ⟨[], List.nil_suffix, pushed.submit reason queue.strict⟩

/-- After a tick no item that waits has waited for a full interval. -/
theorem Kept.tick (h : queue.Kept late limits now) :
    ∃ left, Leaves late [] limits now left (queue.tick now).queue ∧
      ∀ arrival ∈ left, now < arrival.moment + limits.interval := by
  obtain ⟨watch, hw⟩ : ∃ watch : Watch WorkItem, watch = ⟨queue.pending, late⟩ := ⟨_, rfl⟩
  have kept : watch.Kept limits now := hw ▸ h
  have taken := kept.takeIfReady_eq
  have pending : queue.pending = watch.batcher := by rw [hw]
  unfold Queue.tick
  rw [pending]
  cases hr : watch.ready limits now with
  | none =>
    rw [hr] at taken
    rw [taken]
    refine ⟨late, h.unchanged, fun arrival ha => kept.fresh ?_⟩
    rw [Watch.after_of_none .takeIfReady rfl taken, hw]
    exact ha
  | some batch =>
    rw [hr] at taken
    rw [taken]
    refine ⟨[], ⟨List.nil_suffix, ?_⟩, nofun⟩
    rw [Kept, pending_send]
    exact Watch.kept_start limits now

/-- **What waits in a queue** after a step of a caller or of the timer: the last of the items that
were noted and of the one that is accepted. -/
theorem Kept.perform (h : queue.Kept late limits before) (hn : before ≤ now) (resolver : Resolver)
    (action : QueueAction) :
    ∃ left, Leaves late (action.accepted (queue.perform resolver now action).result) limits now left
        (queue.perform resolver now action).queue ∧
      (action = .tick → ∀ arrival ∈ left, now < arrival.moment + limits.interval) := by
  have h : queue.Kept late limits now := Watch.Kept.later h hn
  have nothing : ∀ reason wait, Leaves late [] limits now [] (queue.submit now reason wait).queue :=
    fun reason wait => ⟨List.nil_suffix, h.submit reason wait⟩
  cases action with
  | enqueue item =>
    obtain ⟨left, leaves⟩ := h.enqueue resolver item
    exact ⟨left, leaves, nofun⟩
  | flush => exact ⟨[], nothing .manual queue.strict, nofun⟩
  | flushAndWait => exact ⟨[], nothing .manual true, nofun⟩
  | tick =>
    obtain ⟨left, leaves, fresh⟩ := h.tick
    exact ⟨left, leaves, fun _ => fresh⟩
  | beginStop =>
    change ∃ left, Leaves late [] limits now left (queue.beginStop now).queue ∧ _
    unfold beginStop
    by_cases stopped : queue.stopped = true
    · rw [if_pos stopped]
      exact ⟨late, h.unchanged, nofun⟩
    · rw [if_neg stopped]
      exact ⟨[], nothing .shutdown true, nofun⟩

end Queue

end EntitySearch
