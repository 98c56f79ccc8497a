import EntitySearch.Proofs.Queue.Metered
import EntitySearch.Proofs.Session.Measured
import EntitySearch.Proofs.Session.Silent

/-!
# The states that a bridge enters, and their gauge

A bridge is in the state that it has entered last. Whoever makes it enter a state tells the state right
after that, and for every state that was ever told there is a gauge of its own. It is set to one and
never to anything else.

* `Moment.enteredIn`, `Moment.toldIn`: the states that are entered and told in a run.
* `Session.state_after?`: the state after a moment.
* `Metrics.state?`, `Session.state?_after?`: the gauge of a state after a moment.
-/

namespace EntitySearch

namespace SystemRequest

/-- The state that a request makes a bridge enter. -/
def entered (number : Nat) : SystemRequest → List BridgeState
  | .bridge other (.enter state) => if other = number then [state] else []
  | _ => []

/-- The name of the state that a request tells. -/
def told : SystemRequest → List String
  | .record (.bridgeState name) => [name]
  | _ => []

variable {request : SystemRequest}

theorem Silent.entered (h : request.Silent) (number : Nat) : request.entered number = [] := by
  unfold SystemRequest.entered
  split
  · exact h.elim
  · rfl

theorem Silent.told (h : request.Silent) : request.told = [] := by
  unfold SystemRequest.told
  split
  · exact absurd trivial h
  · rfl

end SystemRequest

namespace Moment

/-- The state that a bridge enters at a moment. -/
def entered (moment : Moment) (number : Nat) : List BridgeState :=
  match moment.request? with
  | some request => request.entered number
  | none => []

/-- The name of the state that is told at a moment. -/
def told (moment : Moment) : List String :=
  match moment.request? with
  | some request => request.told
  | none => []

/-- The states that a bridge enters in a run, the first one first. -/
def enteredIn (moments : List Moment) (number : Nat) : List BridgeState :=
  moments.flatMap (·.entered number)

/-- The names of the states that are told in a run. -/
def toldIn (moments : List Moment) : List String := moments.flatMap told

theorem enteredIn_concat (moments : List Moment) (moment : Moment) (number : Nat) :
    enteredIn (moments ++ [moment]) number = enteredIn moments number ++ moment.entered number := by
  simp [enteredIn]

theorem toldIn_concat (moments : List Moment) (moment : Moment) :
    toldIn (moments ++ [moment]) = toldIn moments ++ moment.told := by
  simp [toldIn]

section Silent

variable {moment : Moment} (silent : ∀ request, moment.request? = some request → request.Silent)
include silent

theorem entered_of_silent (number : Nat) : moment.entered number = [] := by
  unfold Moment.entered
  split
  · next request made => exact (silent request made).entered number
  · rfl

theorem told_of_silent : moment.told = [] := by
  unfold Moment.told
  split
  · next request made => exact (silent request made).told
  · rfl

end Silent

end Moment

/-! ## The state of a bridge -/

namespace Session

variable {session later : Session} {number : Nat} {bridge : Bridge}

theorem state_serve? (hosted : session.bridge? number = some bridge) {request : SystemRequest}
    {reply : System.Reply request} (h : session.serve? request = some (reply, later)) :
    ∃ after, later.bridge? number = some after ∧
      after.state = ((request.entered number).getLast?).getD bridge.state := by
  by_cases access : ∃ other access, request = .bridge other access
  swap
  · obtain ⟨bridges, -⟩ := bridges_serve? (fun _ _ same => access ⟨_, _, same⟩) h
    have silent : request.entered number = [] := by
      unfold SystemRequest.entered
      split
      · exact absurd ⟨_, _, rfl⟩ access
      · rfl
    rw [silent]
    exact ⟨bridge, by rw [bridge?, bridges]; exact hosted, rfl⟩
  obtain ⟨other, access, rfl⟩ := access
  obtain ⟨own, after, present, served, bridges⟩ := bridge?_serveBridge? h
  by_cases same : number = other
  · subst same
    rw [hosted] at present
    cases present
    refine ⟨after, (bridges number).trans (if_pos rfl), ?_⟩
    cases access with
    | lock =>
      rw [Bridge.serve?] at served
      split at served
      · cases served
      · cases served
        rfl
    | enter state =>
      cases served
      rw [SystemRequest.entered, if_pos rfl]
      rfl
    | _ =>
      cases served
      rfl
  · have silent : (SystemRequest.bridge other access).entered number = [] := by
      cases access with
      | enter state => exact if_neg (Ne.symm same)
      | _ => rfl
    rw [silent]
    exact ⟨bridge, (bridges number).trans ((if_neg same).trans hosted), rfl⟩

/-- **The state of a bridge after a moment**: the one that it enters, if it enters one. -/
theorem state_after? (hosted : session.bridge? number = some bridge) {event : SessionEvent}
    (ha : session.after? event = some later) : ∃ after, later.bridge? number = some after ∧
      after.state = ((Moment.entered ⟨session, event, later⟩ number).getLast?).getD bridge.state := by
  cases event with
  | request request =>
    obtain ⟨reply, hs⟩ := after?_request ha
    exact state_serve? hosted hs
  | start queue =>
    obtain ⟨_, _, _, -, -, -, rfl⟩ := after?_start ha
    exact ⟨bridge, hosted, rfl⟩
  | write queue =>
    obtain ⟨request, next, reply, served, hw, hs, rfl⟩ := after?_write ha
    obtain ⟨after, present, same⟩ := state_serve? hosted hs
    refine ⟨after, present, ?_⟩
    simp only [Moment.entered, Moment.request?, hw]
    exact same
  | finish queue =>
    obtain ⟨_, -, rfl⟩ := after?_finish ha
    exact ⟨bridge, hosted, rfl⟩
  | breakDown queue =>
    obtain ⟨_, -, rfl⟩ := after?_breakDown ha
    exact ⟨bridge, hosted, rfl⟩
  | _ =>
    cases ha
    exact ⟨bridge, hosted, rfl⟩

end Session

/-! ## The gauge -/

/-- What the gauge of a state shows, if it was ever set. -/
def Metrics.state? (metrics : Metrics) (name : String) : Option Nat :=
  metrics.gauge? ⟨"state", [("state", name)]⟩

namespace Metrics

theorem state?_observe (metrics : Metrics) (measurement : Measurement) (name : String) :
    (metrics.observe measurement).state? name =
      if name ∈ (SystemRequest.record measurement).told then some 1 else metrics.state? name := by
  have shows := gauge?_observe metrics measurement ⟨"state", [("state", name)]⟩
  cases measurement with
  | bridgeState state =>
    have same : (⟨"state", [("state", state)]⟩ : Series) = ⟨"state", [("state", name)]⟩ ↔
        name ∈ (SystemRequest.record (.bridgeState state)).told := by
      simp [SystemRequest.told, eq_comm]
    simp only [Measurement.setting?, same] at shows
    exact shows
  | pending items =>
    refine shows.trans ?_
    simp [Measurement.setting?, SystemRequest.told]
    rfl
  | _ => exact shows

theorem state?_observeAll_of_queue {measurements : List Measurement}
    (h : ∀ measurement ∈ measurements, measurement.OfQueue) (metrics : Metrics) (name : String) :
    (metrics.observeAll measurements).state? name = metrics.state? name := by
  refine gauge?_observeAll (fun measurement hm setting set => ?_) metrics
  have own := h measurement hm
  cases measurement with
  | pending items =>
    cases set
    simp
  | bridgeState state => exact own.elim
  | _ => cases set

end Metrics

/-- **The gauge of a state after a moment**: it shows one if the state is told, and else what it did. -/
theorem Session.state?_after? {session later : Session} {event : SessionEvent}
    (ha : session.after? event = some later) (name : String) :
    later.metrics.state? name =
      if name ∈ Moment.told ⟨session, event, later⟩ then some 1 else session.metrics.state? name := by
  rw [after?_metrics ha]
  unfold Moment.measured Moment.told
  cases (⟨session, event, later⟩ : Moment).request? with
  | none => exact (if_neg List.not_mem_nil).symm
  | some request =>
    dsimp only
    have idle : session.measured request = [] → request.told = [] →
        (session.metrics.observeAll (session.measured request)).state? name =
          if name ∈ request.told then some 1 else session.metrics.state? name := by
      intro quiet silent
      rw [quiet, silent]
      exact (if_neg List.not_mem_nil).symm
    cases request with
    | record measurement => exact session.metrics.state?_observe measurement name
    | queue number request =>
      cases request with
      | perform action =>
        refine (Metrics.state?_observeAll_of_queue (fun measurement hm => ?_) _ name).trans
          (if_neg List.not_mem_nil).symm
        unfold measured at hm
        dsimp only at hm
        split at hm
        · exact Queue.ofQueue_perform _ _ _ _ hm
        · cases hm
      | _ => exact idle rfl rfl
    | _ => exact idle rfl rfl

end EntitySearch
