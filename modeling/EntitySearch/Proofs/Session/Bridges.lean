import EntitySearch.Proofs.Session.Turn

/-!
# Bridges and queues of a session

Only accesses to bridges change bridges, and only one of them adds a queue: it starts behind all
others, so that no two bridges ever come by the same one.

* `Session.bridge?`: the bridge of a number; `Session.bridge?_serveBridge?`: what becomes of it.
* `Session.queues_serveBridge?_eq`, `Session.fresh_of_after?`: which queues appear.
* `Moment.Quiet`: that a moment neither changes a bridge nor stops a queue; `Session.quiet_after?`.
-/

namespace EntitySearch

/-- Whether a request concerns neither a bridge nor a queue. -/
def SystemRequest.Apart : SystemRequest → Prop
  | .bridge _ _ | .queue _ _ => False
  | _ => True

/-- Whether a request neither changes a bridge nor stops a queue. -/
def SystemRequest.Quiet : SystemRequest → Prop
  | .bridge _ .state | .bridge _ .queue => True
  | .bridge _ _ => False
  | .queue _ (.perform action) => action ≠ .beginStop
  | _ => True

/-- Whether a moment neither changes a bridge nor stops a queue. -/
def Moment.Quiet (moment : Moment) : Prop :=
  ∀ request, moment.request? = some request → request.Quiet

theorem SystemRequest.Apart.quiet {request : SystemRequest} (h : request.Apart) : request.Quiet := by
  cases request with
  | queue other request => exact h.elim
  | bridge other request => exact h.elim
  | _ => trivial

namespace Session

/-- The bridge of a number. -/
def bridge? (session : Session) (number : Nat) : Option Bridge :=
  (session.bridges[number]?).map (·.bridge)

variable {session later : Session} {number : Nat}

/-! ## Requests that are not accesses to bridges -/

theorem bridges_summon (session : Session) (task : TaskName) :
    (session.summon task).bridges = session.bridges := by
  unfold summon
  split <;> rfl

theorem bridges_summonWriter (session : Session) (number : Nat) :
    (session.summonWriter number).bridges = session.bridges := by
  unfold summonWriter
  split
  · rfl
  split
  · exact bridges_summon session _
  · rfl

theorem bridges_perform (session : Session) (number : Nat) (action : QueueAction) :
    (session.perform number action).2.bridges = session.bridges := by
  unfold perform
  split
  · rfl
  · exact bridges_summonWriter _ number

theorem length_perform (session : Session) (number : Nat) (action : QueueAction) :
    (session.perform number action).2.queues.length = session.queues.length := by
  unfold perform
  split
  · rfl
  · dsimp only
    rw [queues_summonWriter]
    exact List.length_modify _ _ _

theorem bridges_send (session : Session) (route : Route) (call : Call) :
    (session.send route call).2.bridges = session.bridges := by
  cases route with
  | nowhere address => rfl
  | engine =>
    unfold send
    dsimp only
    split
    · rfl
    split <;> rfl

theorem bridges_receive (session : Session) (call : Call) (delay : Duration) :
    (session.receive call delay).2.bridges = session.bridges := by
  unfold receive
  split <;> rfl

theorem bridges_serveGuard? {table : Nat} {request : GuardRequest} {reply : Guarding.Reply request}
    (h : session.serveGuard? table request = some (reply, later)) :
    later.bridges = session.bridges := by
  unfold serveGuard? at h
  split at h
  · cases h
  · obtain ⟨answer, -, ha⟩ := Option.map_eq_some_iff.mp h
    cases ha
    rfl

theorem isDrained_of_drained {host : HostedQueue} (hq : session.queues[number]? = some host)
    {reply : Queueing.Reply .drained}
    (h : session.serveQueue? number .drained = some (reply, later)) :
    host.queue.isDrained = true := by
  simp only [serveQueue?, hq] at h
  split at h
  · next drained => exact drained
  · cases h

theorem bridges_serve? {request : SystemRequest} {reply : System.Reply request}
    (elsewhere : ∀ number access, request ≠ .bridge number access)
    (h : session.serve? request = some (reply, later)) :
    later.bridges = session.bridges ∧ later.queues.length = session.queues.length := by
  cases request with
  | send route call =>
    have hs := congrArg Prod.snd (Option.some.inj h)
    subst hs
    exact ⟨bridges_send session route call, congrArg List.length (queues_send session route call)⟩
  | receive call delay =>
    have hr := congrArg Prod.snd (Option.some.inj h)
    subst hr
    exact ⟨bridges_receive session call delay, congrArg List.length (queues_receive session call delay)⟩
  | abandon => cases h
  | guard table request => exact ⟨bridges_serveGuard? h, congrArg List.length (queues_serveGuard? h)⟩
  | publish queue failure =>
    cases h
    exact ⟨rfl, List.length_modify _ _ _⟩
  | queue number request =>
    cases request with
    | perform action =>
      have hp := congrArg Prod.snd (Option.some.inj h)
      subst hp
      exact ⟨bridges_perform session number action, length_perform session number action⟩
    | outcome job =>
      rw [eq_of_outcome h]
      exact ⟨rfl, rfl⟩
    | drained =>
      rw [eq_of_drained h]
      exact ⟨rfl, rfl⟩
  | bridge number access => exact absurd rfl (elsewhere number access)
  | join task =>
    rw [eq_of_join h]
    exact ⟨rfl, rfl⟩
  | _ =>
    cases h
    exact ⟨rfl, rfl⟩

/-! ## Accesses to bridges -/

/-- What an access to a bridge does to it and to the others. -/
theorem bridge?_serveBridge? {access : BridgeRequest} {reply : Bridging.Reply access}
    (h : session.serveBridge? number access = some (reply, later)) :
    ∃ bridge after, session.bridge? number = some bridge ∧
      bridge.serve? session.queues.length access = some (reply, after) ∧
      ∀ other, later.bridge? other = if other = number then some after else session.bridge? other := by
  have started : ∀ host, (session.startQueueFor host access).bridges = session.bridges := by
    intro host
    unfold startQueueFor
    split
    · exact bridges_summon _ _
    · rfl
  unfold serveBridge? at h
  cases hb : session.bridges[number]? with
  | none =>
    rw [hb] at h
    cases h
  | some host =>
    rw [hb] at h
    dsimp only at h
    cases hs : host.bridge.serve? session.queues.length access with
    | none =>
      rw [hs] at h
      cases h
    | some served =>
      rw [hs] at h
      cases h
      refine ⟨host.bridge, served.2, by rw [bridge?, hb]; rfl, hs, fun other => ?_⟩
      rw [bridge?, started, List.getElem?_modify]
      by_cases same : other = number
      · rw [if_pos same, same, hb]
        simp
      · rw [if_neg same, bridge?]
        simp [Ne.symm same]

/-- An access to a bridge that starts a queue puts it behind all others, and no other access changes
the queues. -/
theorem queues_serveBridge?_eq {access : BridgeRequest} {reply : Bridging.Reply access}
    (h : session.serveBridge? number access = some (reply, later)) :
    (access ≠ .startQueue ∧ later.queues = session.queues) ∨
      (access = .startQueue ∧ ∃ settings schema route,
        later.queues = session.queues ++ [hostQueue settings schema route]) := by
  unfold serveBridge? at h
  split at h
  · cases h
  · next host _ =>
    split at h
    · cases h
    · cases h
      cases access with
      | startQueue =>
        refine .inr ⟨rfl, host.config.queueSettings, host.schema, host.route, ?_⟩
        change (session.startQueue _ _ _).queues = _
        rw [startQueue, queues_summon]
      | _ =>
        refine .inl ⟨fun starts => ?_, rfl⟩
        cases starts

/-! ## Everything that happens -/

theorem length_serve? {request : SystemRequest} {reply : System.Reply request}
    (unstarted : ∀ bridge, request ≠ .bridge bridge .startQueue)
    (h : session.serve? request = some (reply, later)) :
    later.queues.length = session.queues.length := by
  by_cases access : ∃ bridge access, request = .bridge bridge access
  swap
  · exact (bridges_serve? (fun _ _ same => access ⟨_, _, same⟩) h).2
  obtain ⟨bridge, access, rfl⟩ := access
  rcases queues_serveBridge?_eq h with ⟨-, same⟩ | ⟨started, -⟩
  · rw [same]
  · exact absurd (congrArg (SystemRequest.bridge bridge) started) (unstarted bridge)

theorem length_after? {event : SessionEvent} (ha : session.after? event = some later)
    (unstarted : ∀ bridge,
      (⟨session, event, later⟩ : Moment).request? ≠ some (.bridge bridge .startQueue)) :
    later.queues.length = session.queues.length := by
  cases event with
  | request request =>
    obtain ⟨reply, hs⟩ := after?_request ha
    exact length_serve? (fun bridge same => unstarted bridge (congrArg some same)) hs
  | start queue =>
    obtain ⟨host, job, next, -, -, -, rfl⟩ := after?_start ha
    exact List.length_modify _ _ _
  | write queue =>
    obtain ⟨request, next, reply, mid, hw, hs, rfl⟩ := after?_write ha
    refine (List.length_modify _ _ _).trans (length_serve? (fun bridge same => ?_) hs)
    refine unstarted bridge ?_
    simp only [Moment.request?, hw, same]
  | finish queue =>
    obtain ⟨outcome, -, rfl⟩ := after?_finish ha
    exact List.length_modify _ _ _
  | breakDown queue =>
    obtain ⟨next, -, rfl⟩ := after?_breakDown ha
    exact List.length_modify _ _ _
  | _ =>
    cases ha
    rfl

theorem quiet_serve? {request : SystemRequest} {reply : System.Reply request} (quiet : request.Quiet)
    (h : session.serve? request = some (reply, later)) : later.bridge? = session.bridge? := by
  by_cases access : ∃ number access, request = .bridge number access
  swap
  · obtain ⟨bridges, -⟩ := bridges_serve? (fun _ _ same => access ⟨_, _, same⟩) h
    exact funext fun number => by rw [bridge?, bridge?, bridges]
  obtain ⟨number, access, rfl⟩ := access
  obtain ⟨bridge, after, hosted, served, bridges⟩ := bridge?_serveBridge? h
  have unchanged : after = bridge := by
    cases access with
    | state | queue =>
      cases served
      rfl
    | _ => exact quiet.elim
  refine funext fun other => ?_
  rw [bridges, unchanged]
  by_cases same : other = number
  · rw [if_pos same, same, hosted]
  · rw [if_neg same]

theorem quiet_after? {event : SessionEvent} (ha : session.after? event = some later)
    (quiet : (⟨session, event, later⟩ : Moment).Quiet) :
    later.bridge? = session.bridge? ∧ later.queues.length = session.queues.length := by
  refine ⟨?_, length_after? ha fun bridge made => quiet _ made⟩
  cases event with
  | request request =>
    obtain ⟨reply, hs⟩ := after?_request ha
    exact quiet_serve? (quiet request rfl) hs
  | start queue =>
    obtain ⟨host, job, next, -, -, -, rfl⟩ := after?_start ha
    rfl
  | write queue =>
    obtain ⟨request, next, reply, mid, hw, hs, rfl⟩ := after?_write ha
    have made : request.Quiet := by
      refine quiet request ?_
      simp only [Moment.request?, hw]
    have bridges : mid.bridge? = session.bridge? := quiet_serve? made hs
    exact bridges
  | finish queue =>
    obtain ⟨outcome, -, rfl⟩ := after?_finish ha
    rfl
  | breakDown queue =>
    obtain ⟨next, -, rfl⟩ := after?_breakDown ha
    rfl
  | _ =>
    cases ha
    rfl

theorem present_of_serve? {request : SystemRequest} {reply : System.Reply request} {bridge : Bridge}
    (hosted : session.bridge? number = some bridge) (h : session.serve? request = some (reply, later)) :
    ∃ after, later.bridge? number = some after := by
  by_cases access : ∃ other access, request = .bridge other access
  swap
  · obtain ⟨bridges, -⟩ := bridges_serve? (fun _ _ same => access ⟨_, _, same⟩) h
    refine ⟨bridge, ?_⟩
    rw [bridge?, bridges]
    exact hosted
  obtain ⟨other, access, rfl⟩ := access
  obtain ⟨_, after, -, -, bridges⟩ := bridge?_serveBridge? h
  rw [bridges]
  by_cases same : number = other
  · exact ⟨after, if_pos same⟩
  · exact ⟨bridge, (if_neg same).trans hosted⟩

theorem fresh_of_serve? {request : SystemRequest} {reply : System.Reply request} {host : HostedQueue}
    (absent : session.queues[number]? = none) (h : session.serve? request = some (reply, later))
    (hosted : later.queues[number]? = some host) :
    ∃ settings schema route, host = hostQueue settings schema route := by
  have long : session.queues.length ≤ number := List.getElem?_eq_none_iff.mp absent
  have short : number < later.queues.length := (List.getElem?_eq_some_iff.mp hosted).1
  by_cases access : ∃ bridge access, request = .bridge bridge access
  swap
  · have same := (bridges_serve? (fun _ _ same => access ⟨_, _, same⟩) h).2
    omega
  obtain ⟨bridge, access, rfl⟩ := access
  rcases queues_serveBridge?_eq h with ⟨-, same⟩ | ⟨-, settings, schema, route, more⟩
  · rw [same, absent] at hosted
    cases hosted
  · rw [more, List.getElem?_append_right long, List.getElem?_singleton] at hosted
    split at hosted
    · exact ⟨settings, schema, route, (Option.some.inj hosted).symm⟩
    · cases hosted

theorem fresh_of_after? {event : SessionEvent} {host : HostedQueue}
    (absent : session.queues[number]? = none) (ha : session.after? event = some later)
    (hosted : later.queues[number]? = some host) :
    ∃ settings schema route, host = hostQueue settings schema route := by
  have changed : ∀ {base : Session} {other : Nat} {change : HostedQueue → HostedQueue},
      (base.modifyQueue other change).queues[number]? = some host → other ≠ number →
        base.queues[number]? = some host := by
    intro base other change hm hn
    rwa [queues_modifyQueue, if_neg hn] at hm
  have present : ∀ {other : Nat} {own : HostedQueue}, session.queues[other]? = some own →
      other ≠ number := by
    rintro other own ho rfl
    rw [absent] at ho
    cases ho
  cases event with
  | request request =>
    obtain ⟨reply, hs⟩ := after?_request ha
    exact fresh_of_serve? absent hs hosted
  | write queue =>
    obtain ⟨request, next, reply, mid, hw, hs, rfl⟩ := after?_write ha
    obtain ⟨own, ho, -⟩ := writing?_eq_some hw
    exact fresh_of_serve? absent hs (changed hosted (present ho))
  | start queue =>
    obtain ⟨own, job, next, ho, -, -, rfl⟩ := after?_start ha
    rw [changed hosted (present ho)] at absent
    cases absent
  | finish queue =>
    obtain ⟨outcome, hw, rfl⟩ := after?_finish ha
    obtain ⟨own, ho, -⟩ := writing?_eq_some hw
    rw [changed hosted (present ho)] at absent
    cases absent
  | breakDown queue =>
    obtain ⟨next, hw, rfl⟩ := after?_breakDown ha
    obtain ⟨own, ho, -⟩ := writing?_eq_some hw
    rw [changed hosted (present ho)] at absent
    cases absent
  | pass time aging =>
    cases ha
    rw [show session.queues[number]? = some host from hosted] at absent
    cases absent
  | inject faults =>
    cases ha
    rw [show session.queues[number]? = some host from hosted] at absent
    cases absent

end Session

end EntitySearch
