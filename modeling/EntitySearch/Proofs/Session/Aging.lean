import EntitySearch.Proofs.Queue.Ages
import EntitySearch.Proofs.Session.Turn

/-!
# Items do not grow old

The clock by which batches age never goes back in a session, and whatever else happens, the items
that wait in a queue are the last ones that it has accepted. So a tick of its timer leaves no item
behind that has waited for a full interval.

* `Session.batchClock_after?`: the clock.
* `Moment.arrivalsIn`: the items that a queue accepts in a run, each with its moment.
* `HostedQueue.Turn.waits`, `Session.kept_of_run`: the items that wait in a queue.
* `Session.flushed_by_age`: the main result, for a batcher by itself and for the timer of a queue.
-/

namespace EntitySearch

/-! ## The clock -/

namespace Session

variable {session later : Session}

theorem batchClock_summon (session : Session) (task : TaskName) :
    (session.summon task).batchClock = session.batchClock := by
  unfold summon
  split <;> rfl

theorem batchClock_perform (session : Session) (number : Nat) (action : QueueAction) :
    (session.perform number action).2.batchClock = session.batchClock := by
  unfold perform
  split
  · rfl
  · unfold summonWriter
    dsimp only
    split
    · rfl
    split
    · exact batchClock_summon _ _
    · rfl

theorem batchClock_serveQueue? {number : Nat} {request : QueueRequest}
    {reply : Queueing.Reply request}
    (h : session.serveQueue? number request = some (reply, later)) :
    later.batchClock = session.batchClock := by
  cases request with
  | perform action =>
    have hp := congrArg Prod.snd (Option.some.inj h)
    subst hp
    exact batchClock_perform session number action
  | outcome job =>
    simp only [serveQueue?] at h
    split at h
    · cases h
      rfl
    · obtain ⟨outcome, -, ho⟩ := Option.map_eq_some_iff.mp h
      cases ho
      rfl
  | drained =>
    simp only [serveQueue?] at h
    split at h
    · cases h
      rfl
    split at h
    · cases h
      rfl
    · cases h

theorem batchClock_serveBridge? {number : Nat} {request : BridgeRequest}
    {reply : Bridging.Reply request}
    (h : session.serveBridge? number request = some (reply, later)) :
    later.batchClock = session.batchClock := by
  unfold serveBridge? at h
  split at h
  · cases h
  split at h
  · cases h
  · cases h
    dsimp only
    unfold startQueueFor
    split
    · exact batchClock_summon _ _
    · rfl

theorem batchClock_serve? {request : SystemRequest} {reply : System.Reply request}
    (h : session.serve? request = some (reply, later)) :
    later.batchClock = session.batchClock := by
  cases request with
  | send route call =>
    have hs := congrArg Prod.snd (Option.some.inj h)
    subst hs
    cases route with
    | nowhere address => rfl
    | engine =>
      unfold send
      dsimp only
      split
      · rfl
      split <;> rfl
  | receive call delay =>
    have hr := congrArg Prod.snd (Option.some.inj h)
    subst hr
    unfold receive
    split <;> rfl
  | abandon => cases h
  | guard table request =>
    simp only [serve?, serveGuard?] at h
    split at h
    · cases h
    · obtain ⟨answer, -, ha⟩ := Option.map_eq_some_iff.mp h
      cases ha
      rfl
  | queue number request => exact batchClock_serveQueue? h
  | bridge number request => exact batchClock_serveBridge? h
  | join task => rw [eq_of_join h]
  | _ =>
    cases h
    rfl

/-- **The clock by which batches age** does not go back. -/
theorem batchClock_after? {event : SessionEvent} (h : session.after? event = some later) :
    session.batchClock ≤ later.batchClock := by
  have same : later.batchClock = session.batchClock → session.batchClock ≤ later.batchClock :=
    fun eq => eq ▸ Nat.le_refl _
  cases event with
  | request request =>
    obtain ⟨reply, hs⟩ := after?_request h
    exact same (batchClock_serve? hs)
  | start number =>
    obtain ⟨host, job, queue, -, -, -, rfl⟩ := after?_start h
    exact same rfl
  | write number =>
    obtain ⟨request, next, reply, mid, -, hs, rfl⟩ := after?_write h
    have served : mid.batchClock = session.batchClock := batchClock_serve? hs
    exact same served
  | finish number =>
    obtain ⟨outcome, -, rfl⟩ := after?_finish h
    exact same rfl
  | breakDown number =>
    obtain ⟨next, -, rfl⟩ := after?_breakDown h
    exact same rfl
  | pass time aging =>
    cases h
    exact Nat.le_add_right _ _
  | inject faults =>
    cases h
    exact same rfl

end Session

/-! ## The items that wait in a queue -/

namespace Moment

/-- The item that a queue accepts at a moment. -/
def arrivals (moment : Moment) (number : Nat) : List (Arrival WorkItem) :=
  (moment.accepted number).map (Arrival.mk moment.before.batchClock)

/-- The items that a queue accepts in a run, in the order in which it accepts them. -/
def arrivalsIn (moments : List Moment) (number : Nat) : List (Arrival WorkItem) :=
  moments.flatMap (·.arrivals number)

/-- The last of the items that were noted and of the one that is accepted are the last ones that are
accepted. -/
theorem suffix_arrivalsIn {moments : List Moment} {moment : Moment} {number : Nat}
    {late left : List (Arrival WorkItem)} (h : late <:+ arrivalsIn moments number)
    (last : left <:+ late ++ moment.arrivals number) :
    left <:+ arrivalsIn (moments ++ [moment]) number := by
  obtain ⟨past, whole⟩ := h
  refine last.trans ⟨past, ?_⟩
  rw [arrivalsIn, List.flatMap_append, List.flatMap_singleton, ← arrivalsIn, ← whole,
    List.append_assoc]

/-- Whether the timer of a queue ticks at a moment. -/
def Ticks (moment : Moment) (number : Nat) : Prop :=
  moment.request? = some (.queue number (.perform .tick))

end Moment

namespace HostedQueue

variable {number : Nat} {moment : Moment} {host host' : HostedQueue}
  {late : List (Arrival WorkItem)} {limits : BatchLimits} {before : Duration}

/-- What waits in a queue after a moment: the last of the items that were noted and of the one that
is accepted. After a tick none of them has waited for a full interval. -/
def Waits (late : List (Arrival WorkItem)) (limits : BatchLimits) (number : Nat) (moment : Moment)
    (queue : Queue) : Prop :=
  ∃ left, left <:+ late ++ moment.arrivals number ∧
    queue.Kept left limits moment.before.batchClock ∧
    (moment.Ticks number → ∀ arrival ∈ left,
      moment.before.batchClock < arrival.moment + limits.interval)

theorem waits_of_pending (quiet : moment.request? = none)
    (h : host.queue.Kept late limits moment.before.batchClock)
    (same : host'.queue.pending = host.queue.pending) :
    Waits late limits number moment host'.queue := by
  have none : moment.arrivals number = [] := by
    rw [Moment.arrivals, Moment.accepted, quiet]
    rfl
  refine ⟨late, ?_, ?_, fun tick => ?_⟩
  · rw [none]
    exact ⟨[], (List.append_nil late).symm⟩
  · rw [Queue.Kept, same]
    exact h
  · rw [Moment.Ticks, quiet] at tick
    cases tick

theorem waits_of_steps (hosted : moment.before.queues[number]? = some host)
    (h : host.queue.Kept late limits moment.before.batchClock)
    (same : host'.queue = host.queue.run (moment.stepsOn number host)) :
    Waits late limits number moment host'.queue := by
  have accepted := Moment.accepted_of_hosted hosted
  rcases moment.stepsOn_cases number host with idle | ⟨action, made, one⟩
  · rw [idle] at same accepted
    refine ⟨late, ?_, same ▸ h, fun tick => ?_⟩
    · rw [Moment.arrivals, accepted]
      exact ⟨[], (List.append_nil late).symm⟩
    · rw [Moment.stepsOn, tick] at idle
      simp only [Session.stepsOf, if_pos] at idle
      cases idle
  · rw [one] at same accepted
    obtain ⟨left, ⟨suffix, kept⟩, fresh⟩ :=
      h.perform (Nat.le_refl _) (moment.before.resolver host.schema) action
    refine ⟨left, ?_, same ▸ kept, fun tick => fresh ?_⟩
    · rw [Moment.arrivals, accepted, Queue.accepted, Queue.accepted, List.append_nil]
      exact suffix
    · rw [Moment.Ticks, made] at tick
      cases tick
      rfl

/-- **What waits in a queue** after a moment of a run. -/
theorem Turn.waits (turn : host.Turn number moment host')
    (hosted : moment.before.queues[number]? = some host)
    (h : host.queue.Kept late limits before) (hn : before ≤ moment.before.batchClock) :
    Waits late limits number moment host'.queue := by
  have h : host.queue.Kept late limits moment.before.batchClock := Watch.Kept.later h hn
  cases turn with
  | elsewhere steps => exact waits_of_steps hosted h steps.queue
  | request event made before serves later steps => exact waits_of_steps hosted h steps.queue
  | start event free next same =>
    refine waits_of_pending (by rw [Moment.request?, event]) h ?_
    obtain ⟨waiting, -, -, rfl⟩ := Queue.startNext_eq_some next
    rw [same]
  | finish event before same =>
    refine waits_of_pending (by rw [Moment.request?, event]) h ?_
    rw [same]
    exact Queue.pending_finish _ _
  | breakDown event before same =>
    refine waits_of_pending (by rw [Moment.request?, event]) h ?_
    rw [same]
    rfl

end HostedQueue

namespace Session

variable {session : Session} {number : Nat} {settings : QueueSettings} {schema : SchemaSource}
  {route : Route} {events : List SessionEvent} {moments : List Moment}

/-- The items that wait in a queue are the last ones that it has accepted, whatever has happened. -/
theorem kept_of_run (hosted : session.queues[number]? = some (hostQueue settings schema route))
    (run : session.play? events = some moments) :
    ∃ host, (session.last moments).queues[number]? = some host ∧
      ∃ late, late <:+ Moment.arrivalsIn moments number ∧
        host.queue.Kept late settings.limits (session.last moments).batchClock := by
  refine queue_induction (motive := fun host moments =>
    ∃ late, late <:+ Moment.arrivalsIn moments number ∧
      host.queue.Kept late settings.limits (session.last moments).batchClock) hosted run
        ⟨[], List.suffix_refl [], Watch.kept_start settings.limits _⟩ ?_
  rintro own own' earlier moment same ha ho turn ⟨late, suffix, kept⟩
  obtain ⟨left, last, kept, -⟩ := turn.waits ho kept (same ▸ Nat.le_refl _)
  refine ⟨left, Moment.suffix_arrivalsIn suffix last, ?_⟩
  rw [last_append]
  exact Watch.Kept.later kept (batchClock_after? ha)

/-- **The age of what waits.** Whatever is done with a new batcher, in which order and at which
moments, as long as the clock does not go back: it is due exactly if some item that was pushed since
a batch was last taken came a full interval ago or earlier. A batch that is asked for has all these
items in their order, because they are enough or else because it is due, and says how long the first
of them has waited, which is longest; there is no batch without items. After it no item that is left
has waited for a full interval. The same holds of a queue after every tick of its timer, whatever
has happened in the session: the items that wait then are the last ones that it has accepted. -/
theorem flushed_by_age {α : Type} (limits : BatchLimits) (uses : List (Duration × BatcherUse α))
    (now : Duration) (clock : (uses.map (·.1) ++ [now]).Pairwise (· ≤ ·)) :
    (let watch := (Watch.start limits).run uses;
      (watch.batcher.isDue now = true ↔
        ∃ arrival ∈ watch.since, arrival.moment + limits.interval ≤ now) ∧
      (watch.batcher.takeIfReady now).2 = watch.ready limits now ∧
      (∀ batch, watch.ready limits now = some batch →
        batch.items ≠ [] ∧ ∀ arrival ∈ watch.since, now - arrival.moment ≤ batch.age) ∧
      ∀ arrival ∈ (watch.after now .takeIfReady).since, now < arrival.moment + limits.interval) ∧
    ∀ (session : Session) (number : Nat) (settings : QueueSettings) (schema : SchemaSource)
      (route : Route) (events : List SessionEvent) (moments : List Moment) (moment : Moment),
      session.queues[number]? = some (hostQueue settings schema route) →
      session.play? events = some (moments ++ [moment]) → moment.Ticks number →
        ∃ host late, moment.after.queues[number]? = some host ∧
          late <:+ Moment.arrivalsIn (moments ++ [moment]) number ∧
          host.queue.pending.items = late.map (·.item) ∧
          ∀ arrival ∈ late,
            moment.before.batchClock < arrival.moment + settings.limits.interval := by
  refine ⟨?_, ?_⟩
  · have begun : (Duration.zero :: (uses.map (·.1) ++ [now])).Pairwise (· ≤ ·) :=
      List.pairwise_cons.mpr ⟨fun _ _ => Nat.zero_le _, clock⟩
    have kept := (Watch.kept_start limits .zero).run uses begun
    refine ⟨kept.isDue_iff, ?_, fun batch => kept.ready_spec, fun arrival => kept.fresh⟩
    rw [kept.takeIfReady_eq]
    split
    · next ready => exact ready.symm
    · next none => exact none.symm
  · intro session number settings schema route events moments moment hosted run ticks
    obtain ⟨first, second, before, tick⟩ := play?_append run
    obtain ⟨same, ha, -⟩ := play?_head tick
    obtain ⟨own, ho, late, suffix, kept⟩ := kept_of_run hosted before
    rw [← same] at ho kept ha
    obtain ⟨host, hosted', turn⟩ := turn_of_after? ho ha
    obtain ⟨left, last, kept, fresh⟩ := turn.waits ho kept (Nat.le_refl _)
    exact ⟨host, left, hosted', Moment.suffix_arrivalsIn suffix last, kept.items, fresh ticks⟩

/-- A batch is cut after ten milliseconds. -/
def briefly : BatchLimits where
  flushMillis := 10

/-- Two items are pushed, one after the other. -/
def twoPushes : List (Duration × BatcherUse Nat) :=
  [(.zero, .push 1), (.ofMillis 5, .push 2)]

/-- A session with a queue that cuts a batch after ten milliseconds. -/
def briefSession : Session where
  queues := [hostQueue { limits := briefly } (.own (.registerAll {} [⟨"A", "main", "id", .string, []⟩])) .engine]

/-- Two items are accepted, one before a tick that cuts a batch and one before a tick that does
not. -/
def briefRun : List SessionEvent :=
  [.request (.queue 0 (.perform (.enqueue (.add "A" "1")))), .pass .zero (.ofMillis 10),
    .request (.queue 0 (.perform .tick)), .request (.queue 0 (.perform (.enqueue (.add "A" "2")))),
    .pass .zero (.ofMillis 5), .request (.queue 0 (.perform .tick))]

theorem briefRun_isSome : (briefSession.play? briefRun).isSome = true := rfl

/-- The moments of the run. -/
def briefMoments : List Moment := (briefSession.play? briefRun).get briefRun_isSome

/-- Both items that were pushed are taken after ten milliseconds, and the second item that the queue
has accepted is left after five. -/
theorem flushed_by_age_briefly :
    (((Watch.start briefly).run twoPushes).batcher.takeIfReady (.ofMillis 10)).2 =
      some ⟨[1, 2], .time, .ofMillis 10⟩ ∧
    ∃ (host : HostedQueue) (late : List (Arrival WorkItem)),
      (briefSession.last briefMoments).queues[0]? = some host ∧
      host.queue.pending.items = late.map (·.item) ∧ late.length = 1 ∧
      ∀ arrival ∈ late, Duration.ofMillis 15 < arrival.moment + briefly.interval := by
  obtain ⟨⟨-, taken, -, -⟩, ticks⟩ := flushed_by_age briefly twoPushes (.ofMillis 10) (by decide)
  refine ⟨taken, ?_⟩
  obtain ⟨host, late, hosted, -, items, fresh⟩ := ticks briefSession 0 { limits := briefly } _ _
    briefRun (briefMoments.take 5) _ rfl (Option.some_get briefRun_isSome).symm rfl
  have last : (briefSession.last briefMoments).queues[0]? = some host := hosted
  have one : ((briefSession.last briefMoments).queues[0]?).map (·.queue.pending.size) = some 1 :=
    rfl
  rw [last, Option.map_some, Batcher.size, items, List.length_map] at one
  exact ⟨host, late, last, items, Option.some.inj one, fresh⟩

end Session

end EntitySearch
