import EntitySearch.Proofs.Session.Moving
import EntitySearch.Proofs.Session.Staff

/-!
# A bridge and the queues that were started for it

Whoever has the lock of a bridge is right about it, and while nobody has it its state and its queue go
together. The queue of the bridge takes items, also while the bridge is not ready. While a queue leaves
the bridge, the bridge has no other, so that no bridge loses its queue by the stop. All its other queues
are stopped and have nothing left to do, as long as writers do not break down.

* `Session.Reaches`: that a queue has come as far as a stage says.
* `Bridge.Watched`: what holds of a bridge and its queues at every moment.
* `Bridge.Watched.frame`: that it does not depend on what happens elsewhere.
* `Bridge.Watched.over_of_running`: the other queues of a bridge, while one of its queues takes items.
* `Bridge.Watched.access`, `Bridge.Watched.stop`: what those do who have the lock.
-/

namespace EntitySearch

/-- Whether a queue has come as far as a stage says. A writer that breaks down drains no queue. -/
def Session.Reaches (session : Session) (intact : Prop) (queue : Nat) : Stage → Prop
  | .running => ∃ host, session.queues[queue]? = some host ∧ host.queue.stopped = false
  | .stopped => ∃ host, session.queues[queue]? = some host ∧ host.queue.stopped = true
  | .drained => intact → ∃ host, session.queues[queue]? = some host ∧ host.queue.Over

/-- What holds of a bridge and of the queues that were started for it, where `grip` is what somebody
knows who has its lock. -/
structure Bridge.Watched (bridge : Bridge) (number : Nat) (intact : Prop) (owners : List Nat)
    (session : Session) (grip : Option Hold) : Prop where
  free : grip = none → bridge.Settled ∧ bridge.locked = false
  held : ∀ hold, grip = some hold → hold.bridge = bridge ∧ bridge.locked = true
  ready : bridge.state = .ready → bridge.queue.isSome = true
  current : ∀ queue, bridge.queue = some queue →
    owners[queue]? = some number ∧ session.Reaches intact queue .running
  leaving : ∀ hold queue stage, grip = some hold → hold.leaving = some (queue, stage) →
    owners[queue]? = some number ∧ bridge.queue = none ∧ session.Reaches intact queue stage
  others : ∀ queue, owners[queue]? = some number → bridge.queue ≠ some queue →
    (∀ hold stage, grip = some hold → hold.leaving ≠ some (queue, stage)) →
      session.Reaches intact queue .drained

variable {session later : Session} {intact : Prop} {moments : List Moment} {number queue : Nat}
  {stage : Stage} {owners : List Nat} {bridge : Bridge} {grip : Option Hold} {hold : Hold}
  {final : BridgeState → Prop}

/-- Only somebody who stops a queue brings it further. -/
theorem Session.Reaches.after (h : session.Reaches intact queue stage)
    (staffed : session.Staffed intact moments) {event : SessionEvent}
    (ha : session.after? event = some later)
    (other : (⟨session, event, later⟩ : Moment).request? ≠
      some (.queue queue (.perform .beginStop))) :
    later.Reaches intact queue stage := by
  cases stage with
  | running | stopped =>
    obtain ⟨host, hq, stopped⟩ := h
    obtain ⟨host', hq', turn⟩ := turn_of_after? hq ha
    exact ⟨host', hq', (turn.stopped other).trans stopped⟩
  | drained =>
    intro whole
    obtain ⟨host, hq, finished⟩ := h whole
    obtain ⟨host', hq', turn⟩ := turn_of_after? hq ha
    have same := turn.over (staffed.employed hq) (staffed.kept whole hq).sound finished
    exact ⟨host', hq', same ▸ finished⟩

namespace Bridge.Watched

/-- What happens elsewhere does not concern a bridge and its queues. -/
theorem frame (h : bridge.Watched number intact owners session grip) {owners' : List Nat}
    (owned : ∀ queue : Nat, owners'[queue]? = some number ↔ owners[queue]? = some number)
    (reaches : ∀ (queue : Nat) stage, owners[queue]? = some number →
      session.Reaches intact queue stage → later.Reaches intact queue stage) :
    bridge.Watched number intact owners' later grip where
  free := h.free
  held := h.held
  ready := h.ready
  current queue present := by
    obtain ⟨own, running⟩ := h.current queue present
    exact ⟨(owned queue).mpr own, reaches queue _ own running⟩
  leaving hold queue stage has leaves := by
    obtain ⟨own, gone, reached⟩ := h.leaving hold queue stage has leaves
    exact ⟨(owned queue).mpr own, gone, reaches queue _ own reached⟩
  others queue own gone apart :=
    reaches queue _ ((owned queue).mp own) (h.others queue ((owned queue).mp own) gone apart)

theorem after (h : bridge.Watched number intact owners session grip)
    (staffed : session.Staffed intact moments) {event : SessionEvent}
    (ha : session.after? event = some later)
    (other : ∀ queue : Nat, owners[queue]? = some number →
      (⟨session, event, later⟩ : Moment).request? ≠ some (.queue queue (.perform .beginStop))) :
    bridge.Watched number intact owners later grip :=
  h.frame (fun _ => .rfl) fun queue _ own reached => reached.after staffed ha (other queue own)

/-- **While a queue of a bridge takes items**, nothing is left to do for its other queues: the one that
takes items is the queue of the bridge or the one that leaves it, and a bridge that a queue leaves has no
queue. -/
theorem over_of_running (h : bridge.Watched number intact owners session grip) (whole : intact)
    (owned : owners[queue]? = some number) (running : session.Reaches intact queue .running)
    {other : Nat} (different : other ≠ queue) (own : owners[other]? = some number) :
    ∃ host, session.queues[other]? = some host ∧ host.queue.Over := by
  have present : bridge.queue = some queue ∨
      ∃ hold stage, grip = some hold ∧ hold.leaving = some (queue, stage) := by
    by_contra neither
    obtain ⟨host, hq, finished⟩ := h.others queue owned (fun current => neither (.inl current))
      (fun hold stage known leaves => neither (.inr ⟨hold, stage, known, leaves⟩)) whole
    obtain ⟨same, hs, going⟩ := running
    rw [hq] at hs
    cases hs
    rw [finished.stopped] at going
    cases going
  rcases present with current | ⟨hold, stage, known, leaves⟩
  · refine h.others other own ?_ ?_ whole
    · rw [current]
      rintro ⟨⟩
      exact different rfl
    · intro hold stage known leaves
      have empty := (h.leaving hold other stage known leaves).2.1
      rw [current] at empty
      cases empty
  · refine h.others other own ?_ ?_ whole
    · rw [(h.leaving hold queue stage known leaves).2.1]
      nofun
    · intro hold' stage' known' leaves'
      rw [known] at known'
      cases known'
      rw [leaves] at leaves'
      cases leaves'
      exact different rfl

/-! ## Accesses of those who have the lock -/

/-- The lock is free for somebody to take it. -/
theorem lock (h : bridge.Watched number intact owners session grip)
    (unlocked : bridge.locked = false) :
    grip = none ∧ ({ bridge with locked := true } : Bridge).Settled ∧
      ({ bridge with locked := true } : Bridge).Watched number intact owners session
        (some { bridge := { bridge with locked := true } }) := by
  obtain rfl : grip = none := by
    cases grip with
    | none => rfl
    | some hold =>
      rw [(h.held hold rfl).2] at unlocked
      cases unlocked
  have settled := (h.free rfl).1
  refine ⟨rfl, ⟨settled.state, settled.queue⟩, nofun, ?_, h.ready, h.current, ?_, ?_⟩
  · rintro hold ⟨⟩
    exact ⟨rfl, rfl⟩
  · rintro hold queue stage ⟨⟩ leaves
    cases leaves
  · exact fun queue own gone _ => h.others queue own gone nofun

theorem enter (h : bridge.Watched number intact owners session (some hold)) {state : BridgeState}
    (permitted : state = .ready → bridge.queue.isSome = true) :
    ({ bridge with state } : Bridge).Watched number intact owners session
      (some { hold with bridge := { bridge with state } }) := by
  refine ⟨nofun, ?_, permitted, h.current, ?_, ?_⟩
  · rintro other ⟨⟩
    exact ⟨rfl, (h.held hold rfl).2⟩
  · rintro other queue stage ⟨⟩ leaves
    exact h.leaving hold queue stage rfl leaves
  · intro queue own gone apart
    refine h.others queue own gone ?_
    rintro other stage ⟨⟩
    exact fun leaves => apart _ stage rfl leaves

theorem startQueue (h : bridge.Watched number intact owners session (some hold))
    (empty : bridge.queue = none) (unleft : hold.leaving = none)
    (length : owners.length = session.queues.length)
    {settings : QueueSettings} {schema : SchemaSource} {route : Route}
    (more : later.queues = session.queues ++ [Session.hostQueue settings schema route])
    (reaches : ∀ {queue stage}, session.Reaches intact queue stage →
      later.Reaches intact queue stage) :
    ({ bridge with queue := some session.queues.length } : Bridge).Watched number intact
      (owners ++ [number]) later
      (some { hold with bridge := { bridge with queue := some session.queues.length } }) := by
  refine ⟨nofun, ?_, fun _ => rfl, ?_, ?_, ?_⟩
  · rintro other ⟨⟩
    exact ⟨rfl, (h.held hold rfl).2⟩
  · rintro queue ⟨⟩
    refine ⟨?_, Session.hostQueue settings schema route, ?_, rfl⟩
    · rw [← length]
      exact List.getElem?_concat_length
    · rw [more]
      exact List.getElem?_concat_length
  · rintro other queue stage ⟨⟩ leaves
    rw [unleft] at leaves
    cases leaves
  · intro queue own fresh apart
    have old : owners[queue]? = some number := by
      by_cases short : queue < owners.length
      · rwa [List.getElem?_append_left short] at own
      · rw [List.getElem?_append_right (by omega), List.getElem?_singleton] at own
        split at own
        · next last =>
          refine absurd ?_ fresh
          rw [← length]
          exact congrArg some (by omega)
        · cases own
    refine reaches (h.others queue old ?_ ?_)
    · rw [empty]
      nofun
    · rintro other stage ⟨⟩
      exact fun leaves => apart _ stage rfl leaves

theorem takeQueue (h : bridge.Watched number intact owners session (some hold))
    (moved : bridge.state ≠ .ready) (unleft : hold.leaving = none) :
    ({ bridge with queue := none } : Bridge).Watched number intact owners session
      (some ⟨{ bridge with queue := none }, bridge.queue.map (·, .running)⟩) := by
  refine ⟨nofun, ?_, fun ready => absurd ready moved, nofun, ?_, ?_⟩
  · rintro other ⟨⟩
    exact ⟨rfl, (h.held hold rfl).2⟩
  · rintro other queue stage ⟨⟩ leaves
    obtain ⟨current, present, same⟩ := Option.map_eq_some_iff.mp leaves
    cases same
    exact ⟨(h.current _ present).1, rfl, (h.current _ present).2⟩
  · intro queue own _ apart
    refine h.others queue own ?_ ?_
    · intro present
      refine apart _ .running rfl ?_
      rw [present]
      rfl
    · rintro other stage ⟨⟩
      rw [unleft]
      nofun

theorem unlock (h : bridge.Watched number intact owners session (some hold))
    (settled : bridge.Settled)
    (drained : intact → ∀ queue stage, hold.leaving = some (queue, stage) → stage = .drained) :
    ({ bridge with locked := false } : Bridge).Watched number intact owners session none := by
  refine ⟨fun _ => ⟨⟨settled.state, settled.queue⟩, rfl⟩, nofun, h.ready, h.current, nofun, ?_⟩
  intro queue own gone _ whole
  by_cases leaves : ∃ stage, hold.leaving = some (queue, stage)
  · obtain ⟨stage, leaves⟩ := leaves
    obtain ⟨-, -, reached⟩ := h.leaving hold queue stage rfl leaves
    rw [drained whole queue stage leaves] at reached
    exact reached whole
  · refine h.others queue own gone ?_ whole
    rintro other stage ⟨⟩ same
    exact leaves ⟨stage, same⟩

/-- What becomes of a bridge at an access of somebody who opens or closes it. -/
theorem access {held : Option Hold} (h : bridge.Watched number intact owners session held)
    (hosted : session.bridge? number = some bridge) (length : owners.length = session.queues.length)
    (staffed : session.Staffed intact moments) {grip : Grip}
    (own : ∀ hold, grip = .inside hold → held = some hold) {access : BridgeRequest}
    (permitted : (System.moving number intact final).permits grip (.bridge number access))
    {reply : Bridging.Reply access}
    (served : session.serve? (.bridge number access) = some (reply, later)) :
    ∃ after grip', later.bridge? number = some after ∧
      (System.moving number intact final).answers grip (.bridge number access) reply grip' ∧
      after.Watched number intact (owners ++ (SystemRequest.bridge number access).starts) later
        grip'.hold? := by
  obtain ⟨_, after, present, serves, bridges⟩ := Session.bridge?_serveBridge? served
  rw [hosted] at present
  cases present
  have becomes : later.bridge? number = some after := by
    rw [bridges, if_pos rfl]
  have ha : session.after? (.request (.bridge number access)) = some later :=
    congrArg (Option.map Prod.snd) served
  have reaches : ∀ {queue stage}, session.Reaches intact queue stage →
      later.Reaches intact queue stage := fun reached => reached.after staffed ha nofun
  have framed : ∀ {bridge : Bridge} {grip : Option Hold},
      bridge.Watched number intact owners session grip →
      bridge.Watched number intact (owners ++ []) later grip := by
    intro bridge grip h
    rw [List.append_nil]
    exact h.frame (fun _ => .rfl) fun _ _ _ => reaches
  refine ⟨after, ?_⟩
  cases grip with
  | through => exact permitted.elim
  | outside =>
    obtain ⟨-, rfl⟩ := permitted
    rw [Bridge.serve?] at serves
    split at serves
    · cases serves
    · next unlocked =>
      cases serves
      obtain ⟨-, settled, locked⟩ := h.lock (Bool.eq_false_iff.mpr unlocked)
      exact ⟨_, becomes, ⟨_, settled, rfl⟩, framed locked⟩
  | inside hold =>
    obtain ⟨-, permitted⟩ := permitted
    obtain rfl := own hold rfl
    obtain ⟨rfl, -⟩ := h.held hold rfl
    cases access with
    | lock => exact permitted.elim
    | queue => exact permitted.elim
    | state =>
      cases serves
      exact ⟨_, becomes, ⟨rfl, rfl⟩, framed h⟩
    | enter state =>
      cases serves
      exact ⟨_, becomes, rfl, framed (h.enter permitted)⟩
    | startQueue =>
      cases serves
      rcases Session.queues_serveBridge?_eq served with ⟨other, -⟩ | ⟨-, _, _, _, more⟩
      · exact absurd rfl other
      · have started := h.startQueue permitted.1 permitted.2 length more reaches
        exact ⟨_, becomes, ⟨_, rfl⟩, started⟩
    | takeQueue =>
      cases serves
      exact ⟨_, becomes, ⟨rfl, rfl⟩, framed (h.takeQueue permitted.1 permitted.2)⟩
    | unlock =>
      cases serves
      exact ⟨_, becomes, rfl, framed (h.unlock permitted.1 permitted.2.2)⟩

/-! ## Stopping the queue that leaves -/

/-- The queue that leaves a bridge comes to another stage, and all others stay as they are. -/
theorem advance (h : bridge.Watched number intact owners session (some hold)) {next : Stage}
    (leaves : hold.leaving = some (queue, stage)) (reached : later.Reaches intact queue next)
    (stays : ∀ {other stage}, other ≠ queue → session.Reaches intact other stage →
      later.Reaches intact other stage) :
    bridge.Watched number intact owners later
      (some { hold with leaving := some (queue, next) }) := by
  obtain ⟨own, gone, -⟩ := h.leaving hold queue stage rfl leaves
  refine ⟨nofun, ?_, h.ready, fun current present => ?_, ?_, fun other owned absent apart => ?_⟩
  · rintro other ⟨⟩
    exact h.held hold rfl
  · rw [gone] at present
    cases present
  · rintro other last last' ⟨⟩ same
    cases same
    exact ⟨own, gone, reached⟩
  · have different : other ≠ queue := by
      rintro rfl
      exact apart _ next rfl rfl
    refine stays different (h.others other owned absent ?_)
    rintro last last' ⟨⟩ same
    rw [leaves] at same
    cases same
    exact different rfl

theorem beginStop (h : bridge.Watched number intact owners session (some hold))
    (staffed : session.Staffed intact moments) (leaves : hold.leaving = some (queue, .running))
    (ha : session.after? (.request (.queue queue (.perform .beginStop))) = some later) :
    (intact → ∃ job, (session.perform queue .beginStop).1 = .ok (some job)) ∧
      bridge.Watched number intact owners later
        (some { hold with leaving := some (queue, .stopped) }) := by
  obtain ⟨-, -, host, hq, running⟩ := h.leaving hold queue .running rfl leaves
  obtain ⟨host', hq', turn⟩ := Session.turn_of_after? hq ha
  refine ⟨fun whole => ?_, h.advance leaves ⟨host', hq', turn.stops rfl⟩ ?_⟩
  · obtain ⟨job, hj⟩ := Queue.result_beginStop (staffed.kept whole hq).sound.writer running
      session.batchClock
    refine ⟨job, ?_⟩
    rw [Session.perform, hq]
    exact hj
  · intro other stage different reached
    refine reached.after staffed ha fun same => different ?_
    cases same
    rfl

/-- Whoever has stopped the queue that leaves waits until nothing is left of it. -/
theorem drained (h : bridge.Watched number intact owners session (some hold))
    (staffed : session.Staffed intact moments) (leaves : hold.leaving = some (queue, .stopped))
    {reply : Queueing.Reply .drained}
    (served : session.serve? (.queue queue .drained) = some (reply, later)) :
    bridge.Watched number intact owners later
      (some { hold with leaving := some (queue, .drained) }) := by
  obtain ⟨-, -, host, hq, stopped⟩ := h.leaving hold queue .stopped rfl leaves
  have empty := Session.isDrained_of_drained hq served
  obtain rfl := Session.eq_of_drained served
  refine h.advance leaves (fun whole => ⟨host, hq, ?_⟩) fun _ => id
  exact Queue.over_of_isDrained (staffed.kept whole hq).sound stopped empty

/-- What becomes of the queue that leaves a bridge when somebody who has the lock stops it or waits
for it. -/
theorem stop (h : bridge.Watched number intact owners session (some hold))
    (staffed : session.Staffed intact moments) {request : QueueRequest}
    (permitted : (System.moving number intact final).permits (.inside hold) (.queue queue request))
    {reply : Queueing.Reply request}
    (served : session.serve? (.queue queue request) = some (reply, later)) :
    ∃ grip, (System.moving number intact final).answers (.inside hold) (.queue queue request) reply
        grip ∧
      bridge.Watched number intact owners later grip.hold? := by
  have ha : session.after? (.request (.queue queue request)) = some later :=
    congrArg (Option.map Prod.snd) served
  cases request with
  | perform action =>
    obtain ⟨rfl, leaves⟩ := permitted
    obtain ⟨told, watched⟩ := h.beginStop staffed leaves ha
    have result : (session.perform queue .beginStop).1 = reply :=
      congrArg Prod.fst (Option.some.inj served)
    exact ⟨.inside _, ⟨result ▸ told, rfl⟩, watched⟩
  | outcome job => exact ⟨.inside hold, rfl, h.after staffed ha fun _ _ => nofun⟩
  | drained => exact ⟨.inside _, rfl, h.drained staffed permitted served⟩

end Bridge.Watched

end EntitySearch
