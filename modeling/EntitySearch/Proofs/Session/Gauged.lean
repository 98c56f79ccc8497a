import EntitySearch.Proofs.Session.Entered
import EntitySearch.Proofs.Session.Readiness

/-!
# What the gauge of the states of a bridge shows

Whoever opens or closes a bridge tells every state that it enters before it enters another one, and
enters no state but `closed` unless the bridge has been opened. So while nobody opens or closes the
bridge the gauges show all states that it ever entered, and not just the one that it is in: that is the
case only until the bridge is opened for the first time.

* `Telling`, `System.telling`: what those know who open or close a bridge.
* `Session.opening_tells`, `HostedBridge.closing_tells`: what they tell.
* `Scene.Gauged`, `Scene.gauged_of_run`: what has been told and what is about to be told.
* `Scene.Gauged.shows_of_calm`, `Scene.Gauged.closed_of_unopened`: while nobody opens or closes the bridge.
* `Scene.gauges_of_run`, `Scene.not_gauges_tell`: the main results.
-/

namespace EntitySearch

/-! ## What those tell who open or close a bridge -/

/-- What somebody who opens or closes a bridge knows of its states. -/
structure Telling where
  /-- A state that was entered and is not told yet. -/
  owed : Option BridgeState := none
  /-- Whether it is known that the bridge has been opened. -/
  opened : Prop := False

namespace Telling

/-- What is known after a request. -/
def note (number : Nat) (telling : Telling) :
    (request : SystemRequest) → System.Reply request → Telling
  | .bridge _ (.enter state), _ => ⟨some state, telling.opened ∨ state = .opening⟩
  | .bridge other .state, state =>
    { telling with opened := telling.opened ∨ other = number ∧ state = BridgeState.ready }
  | .record (.bridgeState _), _ => { telling with owed := none }
  | _, _ => telling

/-- Whether a request may be made: a state that is owed is told first. -/
def Permits (telling : Telling) (number : Nat) (request : SystemRequest) : Prop :=
  match telling.owed with
  | some state => request = .record (.bridgeState state.name)
  | none => request.Silent ∨ ∃ state, request = .bridge number (.enter state) ∧
      (state = .opening ∨ state = .closed ∨ telling.opened)

end Telling

/-- A session as those see it who tell the states of a bridge. -/
def System.telling (number : Nat) : Surroundings System Telling :=
  .noting (·.note number) (·.Permits number)

section Procedures

variable {α : Type} {route : Route} {schema : SchemaSource} {table number : Nat}
  {post : α → Telling → Prop} {telling : Telling}

theorem System.telling_ask {request : SystemRequest}
    {next : System.Reply request → Procedure System α} (permitted : telling.Permits number request)
    (rest : ∀ reply, (next reply).Ensures (System.telling number) post
      (telling.note number request reply)) :
    (Procedure.ask (p := System) request next).Ensures (System.telling number) post telling := by
  rintro _ rfl
  refine ⟨permitted, ?_⟩
  rintro reply _ rfl
  exact rest reply

theorem System.telling_idle {request : SystemRequest}
    {next : System.Reply request → Procedure System α} {opened : Prop} (silent : request.Silent)
    (idle : ∀ reply, Telling.note number ⟨none, opened⟩ request reply = ⟨none, opened⟩)
    (rest : ∀ reply, (next reply).Ensures (System.telling number) post ⟨none, opened⟩) :
    (Procedure.ask (p := System) request next).Ensures (System.telling number) post
      ⟨none, opened⟩ := by
  refine telling_ask (.inl silent) fun reply => ?_
  rw [idle]
  exact rest reply

theorem Lifecycle.enter_tells {state : BridgeState} {rest : Unit → Procedure Living α} {opened : Prop}
    (permitted : state = .opening ∨ state = .closed ∨ opened)
    (h : ((rest ()).expand (System.living route schema table number)).Ensures (System.telling number)
      post ⟨none, opened ∨ state = .opening⟩) :
    (((enter state).bind rest).expand (System.living route schema table number)).Ensures
      (System.telling number) post ⟨none, opened⟩ := by
  refine System.telling_ask (.inr ⟨state, rfl, permitted⟩) fun _ => ?_
  exact System.telling_ask rfl fun _ => h

theorem Lifecycle.unlock_tells {result : α} {opened : Prop} :
    (((access .unlock).bind fun _ => .done result).expand
      (System.living route schema table number)).Ensures (System.telling number)
      (fun _ telling => telling.owed = none) ⟨none, opened⟩ := by
  refine System.telling_idle trivial (fun _ => rfl) fun _ => ?_
  rintro _ rfl
  rfl

theorem Lifecycle.setUp_tells (admin : IndexAdmin) (recreates : Bool) {opened : Prop} :
    ((setUp admin recreates).expand (System.living route schema table number)).Ensures
      (System.telling number) (fun _ telling => telling = ⟨none, opened⟩) ⟨none, opened⟩ := by
  have apart : ((setUp admin recreates).expand (System.living route schema table number)).Asks
      SystemRequest.Apart fun _ => True := asks_setUp admin recreates
  refine .weaken (fun _ _ => And.right) ((apart.and (asks_setUp_silent admin recreates)).ensures ?_ id)
  rintro request ⟨apart, silent⟩
  refine ⟨.inl silent, ?_⟩
  rintro reply _ rfl
  cases request with
  | bridge other access => exact apart.elim
  | record measurement => cases measurement <;> rfl
  | _ => rfl

/-- **Whoever opens a bridge** tells the states that it enters. -/
theorem Session.opening_tells (session : Session) (number : Nat) (host : HostedBridge) :
    (session.opening number host).Ensures (System.telling number)
      (fun _ telling => telling.owed = none) {} := by
  refine System.telling_idle trivial (fun _ => rfl) fun _ => ?_
  refine System.telling_ask (.inl trivial) fun (state : BridgeState) => ?_
  dsimp only [Procedure.bind]
  by_cases ready : state = .ready
  · rw [if_pos ready]
    exact Lifecycle.unlock_tells
  rw [if_neg ready]
  refine Lifecycle.enter_tells (.inl rfl) ?_
  change ((Procedure.bind _ _).expand _).Ensures _ _ _
  rw [Procedure.expand_bind]
  refine .bind (.weaken ?_ (Lifecycle.setUp_tells _ _))
  rintro result _ rfl
  cases result with
  | error cause =>
    refine Lifecycle.enter_tells (.inr (.inr (.inr rfl))) ?_
    exact Lifecycle.unlock_tells
  | ok _ =>
    refine System.telling_idle trivial (fun _ => rfl) fun _ => ?_
    refine Lifecycle.enter_tells (.inr (.inr (.inr rfl))) ?_
    exact Lifecycle.unlock_tells

/-- **Whoever closes a bridge** tells the states that it enters. -/
theorem HostedBridge.closing_tells (host : HostedBridge) (number : Nat) :
    (host.closing number).Ensures (System.telling number)
      (fun _ telling => telling.owed = none) {} := by
  have closes : ∀ {result : Except BridgeError Unit} {opened : Prop},
      (((Lifecycle.enter .closed).bind fun _ => (Lifecycle.access .unlock).bind fun _ =>
        .done result).expand (System.living host.route host.schema host.table number)).Ensures
        (System.telling number) (fun _ telling => telling.owed = none) ⟨none, opened⟩ := by
    intro result opened
    refine Lifecycle.enter_tells (.inr (.inl rfl)) ?_
    exact Lifecycle.unlock_tells
  refine System.telling_idle trivial (fun _ => rfl) fun _ => ?_
  refine System.telling_ask (.inl trivial) fun (state : BridgeState) => ?_
  dsimp only [Procedure.bind]
  by_cases ready : state = .ready
  swap
  · rw [if_neg ready]
    exact closes
  rw [if_pos ready]
  refine Lifecycle.enter_tells (.inr (.inr (.inr ⟨rfl, ready⟩))) ?_
  refine System.telling_idle trivial (fun _ => rfl) fun (queue : Option Nat) => ?_
  cases queue with
  | none => exact closes
  | some queue =>
    refine System.telling_idle trivial (fun _ => rfl) fun reply => ?_
    rcases reply with cause | _ | job
    · exact closes
    · exact closes
    · refine System.telling_idle trivial (fun _ => rfl) fun result => ?_
      refine System.telling_idle trivial (fun _ => rfl) fun _ => ?_
      exact closes

theorem BridgeCall.moving_tells (session : Session) (number : Nat) (host : HostedBridge)
    {call : BridgeCall} (moves : call.moves = true) :
    (call.procedure session number host).Ensures (System.telling number)
      (fun _ telling => telling.owed = none) {} := by
  cases call with
  | opening => exact session.opening_tells number host
  | closing => exact host.closing_tells number
  | _ => cases moves

end Procedures

/-! ## Callers -/

/-- Whether what somebody knows of the states of a bridge is right. -/
structure Telling.Right (telling : Telling) (entered : List BridgeState) : Prop where
  owed : ∀ state, telling.owed = some state → state ∈ entered
  opened : telling.opened → .opening ∈ entered

/-- The name of the state that a caller tells next. -/
def Caller.due (caller : Caller) : List String :=
  match caller.rest with
  | .ask request _ => SystemRequest.told request
  | .done _ => []

theorem Caller.due_of_silent {caller : Caller} {gives : Except BridgeError Unit → Prop}
    (h : caller.rest.Asks SystemRequest.Silent gives) : caller.due = [] := by
  unfold due
  cases rest : caller.rest with
  | done result => rfl
  | ask request next =>
    rw [rest] at h
    exact h.1.told

theorem Caller.due_of_isOver {caller : Caller} (h : caller.isOver = true) : caller.due = [] := by
  unfold isOver at h
  unfold due
  cases rest : caller.rest with
  | done result => rfl
  | ask request next =>
    rw [rest] at h
    cases h

/-- What holds of a caller when a bridge has entered some states: whoever uses a bridge says nothing of
its state, and whoever opens or closes one does that with the one that reports, and tells its states. -/
structure Caller.Tells (caller : Caller) (number : Nat) (entered : List BridgeState) : Prop where
  users : caller.call.moves = false → caller.rest.Asks SystemRequest.Silent fun _ => True
  movers : caller.call.moves = true → caller.bridge = number ∧
    ∃ telling : Telling, telling.Right entered ∧ caller.rest.Ensures (System.telling number)
      (fun _ telling => telling.owed = none) telling

section Callers

variable {number : Nat} {entered more : List BridgeState} {telling : Telling} {caller : Caller}
  {request : SystemRequest} {reply : System.Reply request} {session later : Session} {bridge : Bridge}
  {next : System.Reply request → Procedure System (Except BridgeError Unit)}

theorem Telling.Right.append (h : telling.Right entered) (more : List BridgeState) :
    telling.Right (entered ++ more) where
  owed state owes := List.mem_append_left _ (h.owed state owes)
  opened known := List.mem_append_left _ (h.opened known)

theorem Caller.Tells.append (h : caller.Tells number entered) (more : List BridgeState) :
    caller.Tells number (entered ++ more) := by
  refine ⟨h.users, fun moves => ?_⟩
  obtain ⟨own, telling, right, ensures⟩ := h.movers moves
  exact ⟨own, telling, right.append more, ensures⟩

/-- A silent request may tell that the bridge is ready, and thus that it has been opened. -/
theorem Telling.Right.note (h : telling.Right entered) (silent : request.Silent)
    (hosted : session.bridge? number = some bridge)
    (ready : bridge.state = .ready → .opening ∈ entered)
    (served : session.serve? request = some (reply, later)) :
    (telling.note number request reply).Right entered := by
  cases request with
  | bridge other access =>
    cases access with
    | enter state => exact silent.elim
    | state =>
      refine ⟨h.owed, ?_⟩
      rintro (known | ⟨rfl, same⟩)
      · exact h.opened known
      · obtain ⟨own, after, present, serves, -⟩ := Session.bridge?_serveBridge? served
        rw [hosted] at present
        cases present
        cases serves
        exact ready same
    | _ => exact h
  | record measurement =>
    cases measurement with
    | bridgeState name => exact absurd trivial silent
    | _ => exact h
  | _ => exact h

/-- Somebody who owes a state tells it next. -/
theorem Caller.mem_due_of_owed {state : BridgeState}
    (ensures : caller.rest.Ensures (System.telling number) (fun _ telling => telling.owed = none)
      telling) (owed : telling.owed = some state) : state.name ∈ caller.due := by
  unfold due
  cases rest : caller.rest with
  | done result =>
    rw [rest] at ensures
    have told : telling.owed = none := ensures telling rfl
    rw [owed] at told
    cases told
  | ask request next =>
    rw [rest] at ensures
    have permitted := (ensures telling rfl).1
    simp only [System.telling, Surroundings.noting, Telling.Permits, owed] at permitted
    subst permitted
    exact List.mem_singleton.mpr rfl

/-- What holds of a caller after a request: it has told a state that was entered, or has entered one
that it tells next. -/
structure Caller.Goes (caller : Caller) (number : Nat) (entered : List BridgeState)
    (request : SystemRequest) : Prop where
  told : ∀ name ∈ request.told, ∃ state ∈ entered, state.name = name
  opened : ∀ state ∈ request.entered number,
    state = .closed ∨ .opening ∈ entered ++ request.entered number
  due : ∀ state ∈ request.entered number, state.name ∈ caller.due
  tells : caller.Tells number (entered ++ request.entered number)

theorem Caller.Goes.of_silent (silent : request.Silent) (tells : caller.Tells number entered) :
    caller.Goes number entered request := by
  refine ⟨?_, ?_, ?_, ?_⟩
  · rw [silent.told]
    exact List.forall_mem_nil _
  · rw [silent.entered number]
    exact List.forall_mem_nil _
  · rw [silent.entered number]
    exact List.forall_mem_nil _
  · rw [silent.entered number, List.append_nil]
    exact tells

/-- **A request of a caller.** -/
theorem Caller.Tells.step (h : caller.Tells number entered)
    (hosted : session.bridge? number = some bridge)
    (ready : bridge.state = .ready → .opening ∈ entered) (asks : caller.rest = .ask request next)
    (served : session.serve? request = some (reply, later)) :
    (caller.told request reply (next reply)).Goes number entered request := by
  cases moves : caller.call.moves with
  | false =>
    have silent := h.users moves
    rw [asks] at silent
    refine .of_silent silent.1 ⟨fun _ => silent.2 reply, fun moved => ?_⟩
    cases moves.symm.trans moved
  | true =>
    obtain ⟨own, telling, right, ensures⟩ := h.movers moves
    rw [asks] at ensures
    obtain ⟨permitted, goes⟩ := ensures telling rfl
    have rest := goes reply _ rfl
    have tells : ∀ {states}, (telling.note number request reply).Right states →
        (caller.told request reply (next reply)).Tells number states := fun right =>
      ⟨fun used => (Bool.noConfusion (moves.symm.trans used)), fun _ => ⟨own, _, right, rest⟩⟩
    cases owed : telling.owed with
    | some state =>
      simp only [System.telling, Surroundings.noting, Telling.Permits, owed] at permitted
      subst permitted
      refine ⟨fun name hn => ?_, List.forall_mem_nil _, List.forall_mem_nil _, tells ?_⟩
      · cases List.mem_singleton.mp hn
        exact ⟨state, right.owed state owed, rfl⟩
      · refine ⟨fun _ => nofun, fun known => ?_⟩
        exact List.mem_append_left _ (right.opened known)
    | none =>
      simp only [System.telling, Surroundings.noting, Telling.Permits, owed] at permitted
      rcases permitted with silent | ⟨state, rfl, known⟩
      · exact .of_silent silent (tells (right.note silent hosted ready served))
      have enters : (SystemRequest.bridge number (.enter state)).entered number = [state] := if_pos rfl
      refine ⟨List.forall_mem_nil _, ?_, ?_, ?_⟩
      · rw [enters, List.forall_mem_singleton, List.mem_append, List.mem_singleton]
        rcases known with rfl | rfl | known
        · exact .inr (.inr rfl)
        · exact .inl rfl
        · exact .inr (.inl (right.opened known))
      · rw [enters, List.forall_mem_singleton]
        exact Caller.mem_due_of_owed rest rfl
      · rw [enters]
        refine tells ⟨?_, ?_⟩
        · rintro _ ⟨⟩
          exact List.mem_append_right _ List.mem_cons_self
        · rintro (known | rfl)
          · exact List.mem_append_left _ (right.opened known)
          · exact List.mem_append_right _ List.mem_cons_self

end Callers

/-! ## Scenes -/

/-- Whether something that happens leaves one bridge the only one that is opened or closed, and is not
that somebody else tells a state. -/
def SceneEvent.ReportsOnly (number : Nat) : SceneEvent → Prop
  | .call other called => called.moves = true → other = number
  | .elsewhere (.request made) => made.Silent
  | _ => True

/-- What holds of a scene in which one bridge reports: the gauges show the states that were told, which
are those that were entered but for those that are about to be told. -/
structure Scene.Gauged (scene : Scene) (number : Nat) : Prop where
  gauge : ∀ name, scene.session.metrics.state? name =
    if name ∈ Moment.toldIn scene.moments then some 1 else none
  state : ∃ bridge, scene.session.bridge? number = some bridge ∧
    bridge.state = ((Moment.enteredIn scene.moments number).getLast?).getD .created
  told : ∀ name ∈ Moment.toldIn scene.moments,
    ∃ state ∈ Moment.enteredIn scene.moments number, state.name = name
  opened : ∀ state ∈ Moment.enteredIn scene.moments number,
    state = .closed ∨ .opening ∈ Moment.enteredIn scene.moments number
  due : ∀ state ∈ Moment.enteredIn scene.moments number,
    state.name ∈ Moment.toldIn scene.moments ∨ ∃ caller ∈ scene.callers, state.name ∈ caller.due
  writers : scene.session.Silent
  callers : ∀ caller ∈ scene.callers,
    caller.Tells number (Moment.enteredIn scene.moments number)

namespace Scene

variable {scene later : Scene} {number : Nat} {event : SessionEvent} {session : Session}

theorem Gauged.call (h : scene.Gauged number) {other : Nat} {call : BridgeCall}
    (only : call.moves = true → other = number)
    (ha : scene.after? (.call other call) = some later) : later.Gauged number := by
  obtain ⟨host, -, rfl⟩ := after?_call ha
  refine ⟨h.gauge, h.state, h.told, h.opened, fun state hs => ?_, h.writers, fun caller hc => ?_⟩
  · rcases h.due state hs with told | ⟨caller, hc, due⟩
    · exact .inl told
    · exact .inr ⟨caller, List.mem_append_left _ hc, due⟩
  · rcases List.mem_append.mp hc with hc | hc
    · exact h.callers caller hc
    cases List.mem_singleton.mp hc
    refine ⟨BridgeCall.asks_silent scene.session other host, fun moves => ?_⟩
    obtain rfl := only moves
    exact ⟨rfl, {}, ⟨nofun, False.elim⟩, BridgeCall.moving_tells scene.session other host moves⟩

theorem Gauged.learn (h : scene.Gauged number) {registry : Registry} {hidden : List String}
    (ha : scene.after? (.learn registry hidden) = some later) : later.Gauged number := by
  obtain rfl := Option.some.inj ha
  exact ⟨h.gauge, h.state, h.told, h.opened, h.due, h.writers, h.callers⟩

theorem Gauged.gauge_after? (h : scene.Gauged number)
    (ha : scene.session.after? event = some session) (name : String) :
    session.metrics.state? name =
      if name ∈ Moment.toldIn (scene.moments ++ [⟨scene.session, event, session⟩]) then some 1
      else none := by
  rw [Session.state?_after? ha name, h.gauge name, Moment.toldIn_concat]
  by_cases told : name ∈ Moment.toldIn scene.moments
  · simp [told]
  · simp [told, List.mem_append]

theorem Gauged.state_after? (h : scene.Gauged number)
    (ha : scene.session.after? event = some session) :
    ∃ bridge, session.bridge? number = some bridge ∧ bridge.state =
      ((Moment.enteredIn (scene.moments ++ [⟨scene.session, event, session⟩])
        number).getLast?).getD .created := by
  obtain ⟨bridge, hosted, same⟩ := h.state
  obtain ⟨after, present, state⟩ := Session.state_after? hosted ha
  refine ⟨after, present, ?_⟩
  rw [state, same, Moment.enteredIn_concat, List.getLast?_append]
  cases (Moment.entered ⟨scene.session, event, session⟩ number).getLast? <;> rfl

theorem Gauged.elsewhere (h : scene.Gauged number)
    (only : SceneEvent.ReportsOnly number (.elsewhere event))
    (ha : scene.after? (.elsewhere event) = some later) : later.Gauged number := by
  obtain ⟨-, session, happens, rfl⟩ := after?_elsewhere ha
  have gauge := h.gauge_after? happens
  have state := h.state_after? happens
  have silent : ∀ request, (⟨scene.session, event, session⟩ : Moment).request? = some request →
      request.Silent := by
    intro request made
    refine h.writers.request ?_ made
    rintro own rfl
    exact only
  have untold : Moment.told ⟨scene.session, event, session⟩ = [] := Moment.told_of_silent silent
  have unentered : Moment.entered ⟨scene.session, event, session⟩ number = [] :=
    Moment.entered_of_silent silent number
  rw [Moment.toldIn_concat, untold, List.append_nil] at gauge
  refine ⟨?_, state, ?_, ?_, ?_, h.writers.after? happens, ?_⟩ <;>
    simp only [Moment.toldIn_concat, Moment.enteredIn_concat, untold, unentered, List.append_nil]
  · exact gauge
  · exact h.told
  · exact h.opened
  · exact h.due
  · exact h.callers

theorem Gauged.opened_of_ready (h : scene.Gauged number) {bridge : Bridge}
    (hosted : scene.session.bridge? number = some bridge) (ready : bridge.state = .ready) :
    .opening ∈ Moment.enteredIn scene.moments number := by
  obtain ⟨own, present, same⟩ := h.state
  rw [hosted] at present
  cases present
  rw [ready] at same
  cases last : (Moment.enteredIn scene.moments number).getLast? with
  | none =>
    rw [last] at same
    cases same
  | some state =>
    rw [last] at same
    obtain rfl : BridgeState.ready = state := same
    exact (h.opened _ (List.mem_of_getLast? last)).resolve_left nofun

theorem Gauged.step (h : scene.Gauged number) {index : Nat}
    (ha : scene.after? (.step index) = some later) : later.Gauged number := by
  obtain ⟨caller, request, next, reply, session, hc, asks, served, rfl⟩ := after?_step ha
  have happens : scene.session.after? (.request request) = some session :=
    congrArg (Option.map Prod.snd) served
  obtain ⟨bridge, hosted, -⟩ := h.state
  have goes := (h.callers caller (List.mem_of_getElem? hc)).step hosted (h.opened_of_ready hosted)
    asks served
  have here : (scene.callers.modify index (·.told request reply (next reply)))[index]? =
      some (caller.told request reply (next reply)) := by
    simp [hc]
  have told : Moment.toldIn (scene.moments ++ [⟨scene.session, .request request, session⟩]) =
      Moment.toldIn scene.moments ++ request.told := Moment.toldIn_concat _ _
  have entered : Moment.enteredIn (scene.moments ++ [⟨scene.session, .request request, session⟩])
      number = Moment.enteredIn scene.moments number ++ request.entered number :=
    Moment.enteredIn_concat _ _ _
  refine ⟨h.gauge_after? happens, h.state_after? happens, ?_, ?_, ?_, h.writers.after? happens, ?_⟩
  all_goals simp only [told, entered]
  · intro name hn
    rcases List.mem_append.mp hn with hn | hn
    · obtain ⟨state, hs, same⟩ := h.told name hn
      exact ⟨state, List.mem_append_left _ hs, same⟩
    · obtain ⟨state, hs, same⟩ := goes.told name hn
      exact ⟨state, List.mem_append_left _ hs, same⟩
  · intro state hs
    rcases List.mem_append.mp hs with hs | hs
    · exact (h.opened state hs).imp_right (List.mem_append_left _)
    · exact goes.opened state hs
  · intro state hs
    rcases List.mem_append.mp hs with hs | hs
    swap
    · exact .inr ⟨_, List.mem_of_getElem? here, goes.due state hs⟩
    rcases h.due state hs with told | ⟨own, ho, due⟩
    · exact .inl (List.mem_append_left _ told)
    obtain ⟨other, ho⟩ := List.mem_iff_getElem?.mp ho
    by_cases same : index = other
    · -- The caller that was to tell the state has just told it.
      subst same
      rw [hc] at ho
      cases ho
      unfold Caller.due at due
      rw [asks] at due
      exact .inl (List.mem_append_right _ due)
    · have there : (scene.callers.modify index (·.told request reply (next reply)))[other]? =
          some own := by
        simp [same, ho]
      exact .inr ⟨own, List.mem_of_getElem? there, due⟩
  · intro own ho
    obtain ⟨other, ho⟩ := List.mem_iff_getElem?.mp ho
    rcases getElem?_modify_cases hc ho with ⟨-, rfl⟩ | ⟨-, ho⟩
    · exact goes.tells
    · exact (h.callers own (List.mem_of_getElem? ho)).append _

/-! ### Runs -/

theorem gauged_start {session : Session} (fresh : session.Fresh)
    (unset : session.metrics.gauges = []) {host : HostedBridge}
    (hosted : session.bridges[number]? = some host) : (start session).Gauged number := by
  refine ⟨fun name => ?_, ⟨host.bridge, ?_, ?_⟩, List.forall_mem_nil _, List.forall_mem_nil _,
    List.forall_mem_nil _, fun queue own present => ?_, List.forall_mem_nil _⟩
  · change session.metrics.gauges.find? _ = none
    rw [unset]
    rfl
  · change (session.bridges[number]?).map _ = _
    rw [hosted]
    rfl
  · rw [fresh.bridges host (List.mem_of_getElem? hosted)]
    rfl
  · change session.queues[queue]? = some own at present
    rw [fresh.queues] at present
    cases present

/-- **At every moment of a run** in which one bridge reports the gauges show the states that were
told. -/
theorem gauged_of_run {events : List SceneEvent} (h : scene.Gauged number)
    (run : scene.run? events = some later) (only : ∀ event ∈ events, event.ReportsOnly number) :
    later.Gauged number := by
  refine keeps_of_run (·.Gauged number) (·.ReportsOnly number) ?_ run only h
  intro scene event later only h ha
  cases event with
  | call other call => exact h.call only ha
  | step index => exact h.step ha
  | elsewhere event => exact h.elsewhere only ha
  | learn registry hidden => exact h.learn ha

/-! ### While nobody opens or closes the bridge -/

theorem Gauged.told_of_calm (h : scene.Gauged number) (calm : scene.Calm number)
    {state : BridgeState} (hs : state ∈ Moment.enteredIn scene.moments number) :
    state.name ∈ Moment.toldIn scene.moments := by
  refine (h.due state hs).resolve_right ?_
  rintro ⟨caller, hc, due⟩
  have tells := h.callers caller hc
  have nothing : caller.due = [] := by
    cases moves : caller.call.moves with
    | false => exact Caller.due_of_silent (tells.users moves)
    | true => exact Caller.due_of_isOver (calm caller hc (tells.movers moves).1 moves)
  rw [nothing] at due
  cases due

/-- While nobody opens or closes the bridge, the gauges show the states that it has entered. -/
theorem Gauged.shows_of_calm (h : scene.Gauged number) (calm : scene.Calm number) (name : String) :
    scene.session.metrics.state? name =
      if name ∈ (Moment.enteredIn scene.moments number).map BridgeState.name then some 1 else none := by
  have same : name ∈ Moment.toldIn scene.moments ↔
      name ∈ (Moment.enteredIn scene.moments number).map BridgeState.name := by
    rw [List.mem_map]
    refine ⟨h.told name, ?_⟩
    rintro ⟨state, hs, rfl⟩
    exact h.told_of_calm calm hs
  rw [h.gauge name]
  simp only [same]

/-- A bridge that has entered a state and has never been opened is closed. -/
theorem Gauged.closed_of_unopened (h : scene.Gauged number) {bridge : Bridge}
    (hosted : scene.session.bridge? number = some bridge)
    (some : Moment.enteredIn scene.moments number ≠ [])
    (unopened : .opening ∉ Moment.enteredIn scene.moments number) :
    bridge.state = .closed ∧ ∀ state, state ∈ Moment.enteredIn scene.moments number ↔ state = .closed := by
  obtain ⟨own, present, state⟩ := h.state
  rw [hosted] at present
  cases present
  have closed : ∀ state ∈ Moment.enteredIn scene.moments number, state = .closed :=
    fun state hs => (h.opened state hs).resolve_right unopened
  have member := List.getLast_mem some
  have last := closed _ member
  refine ⟨?_, fun state => ⟨closed state, ?_⟩⟩
  · rw [state, List.getLast?_eq_some_getLast some]
    exact last
  · rintro rfl
    rw [← last]
    exact member

end Scene

theorem BridgeState.name_injective : Function.Injective BridgeState.name := by
  intro first second same
  cases first <;> cases second <;> first | rfl | exact absurd same (by decide)

/-- Whether exactly one state has a gauge that shows one. -/
def Metrics.Tells (metrics : Metrics) (state : BridgeState) : Prop :=
  ∀ name, metrics.state? name = some 1 ↔ name = state.name

namespace Scene

variable {scene : Scene} {number : Nat}

/-- **What the gauges show.** While nobody opens or closes the only bridge that is ever opened or
closed, it is in the state that it has entered last, and the gauges show one for all states that it has
entered, and nothing for all others. So they tell the one that it is in exactly if it has been closed
and never opened. -/
theorem gauges_of_run {session : Session} (fresh : session.Fresh)
    (unset : session.metrics.gauges = []) {host : HostedBridge}
    (hosted : session.bridges[number]? = some host) {events : List SceneEvent}
    (run : (start session).run? events = some scene)
    (only : ∀ event ∈ events, event.ReportsOnly number) (calm : scene.Calm number) :
    ∃ bridge, scene.session.bridge? number = some bridge ∧
      let entered := Moment.enteredIn scene.moments number
      bridge.state = (entered.getLast?).getD .created ∧
      (∀ name, scene.session.metrics.state? name =
        if name ∈ entered.map BridgeState.name then some 1 else none) ∧
      (scene.session.metrics.Tells bridge.state ↔ entered ≠ [] ∧ .opening ∉ entered) := by
  have gauged := gauged_of_run (gauged_start fresh unset hosted) run only
  obtain ⟨bridge, present, state⟩ := gauged.state
  obtain ⟨grips, orderly⟩ : ∃ grips, scene.Orderly False grips :=
    orderly_of_run ⟨_, orderly_start fresh⟩ run False.elim
  have settled := orderly.settled present calm
  have shows : ∀ name, scene.session.metrics.state? name = some 1 ↔
      name ∈ (Moment.enteredIn scene.moments number).map BridgeState.name := by
    intro name
    rw [gauged.shows_of_calm calm name]
    split_ifs with shown <;> simp [shown]
  refine ⟨bridge, present, state, gauged.shows_of_calm calm, fun tells => ⟨?_, fun opened => ?_⟩, ?_⟩
  · intro unentered
    have own := (shows _).mp ((tells bridge.state.name).mpr rfl)
    rw [unentered] at own
    cases own
  · -- Nobody is opening the bridge, so the gauge of `opening` is not the one of its state.
    have opening := (tells _).mp ((shows _).mpr (List.mem_map_of_mem opened))
    have other : BridgeState.opening = bridge.state := BridgeState.name_injective opening
    rcases settled.state with it | it | it <;> exact nomatch other.trans it
  · rintro ⟨some, unopened⟩ name
    obtain ⟨now, closed⟩ := gauged.closed_of_unopened present some unopened
    rw [shows, now, List.mem_map]
    simp only [closed, exists_eq_left, eq_comm]

theorem reportsOnly_openingRun : ∀ event ∈ openingRun, event.ReportsOnly 0 := by
  intro event he
  rcases List.mem_cons.mp he with rfl | he
  · exact fun _ => rfl
  · cases List.eq_of_mem_replicate he
    trivial

/-- A bridge that has been opened is ready, and the gauges show that it is opening, too. -/
theorem gauges_of_openingRun :
    openedScene.session.metrics.state? "Ready" = some 1 ∧
      openedScene.session.metrics.state? "Opening" = some 1 ∧
      openedScene.session.metrics.state? "Closed" = none ∧
      ∃ bridge, openedScene.session.bridge? 0 = some bridge ∧ bridge.state = .ready ∧
        ¬ openedScene.session.metrics.Tells bridge.state := by
  obtain ⟨bridge, present, state, gauges, tells⟩ := gauges_of_run fresh_bareSession rfl rfl
    (Option.some_get openingRun_isSome).symm reportsOnly_openingRun calm_openedScene
  refine ⟨gauges "Ready", gauges "Opening", gauges "Closed", bridge, present, state, fun claimed => ?_⟩
  exact (tells.mp claimed).2 List.mem_cons_self

/-- The gauges need not tell one state. -/
theorem not_gauges_tell :
    ¬ ∀ (session : Session) (number : Nat) (host : HostedBridge) (events : List SceneEvent)
        (scene : Scene) (bridge : Bridge), session.Fresh → session.metrics.gauges = [] →
      session.bridges[number]? = some host → (start session).run? events = some scene →
      (∀ event ∈ events, event.ReportsOnly number) → scene.Calm number →
      scene.session.bridge? number = some bridge →
      Moment.enteredIn scene.moments number ≠ [] →
      scene.session.metrics.Tells bridge.state := by
  intro claim
  have tells := claim bareSession 0 _ openingRun openedScene _ fresh_bareSession rfl rfl
    (Option.some_get openingRun_isSome).symm reportsOnly_openingRun calm_openedScene rfl nofun
  have opening : "Opening" = BridgeState.ready.name := (tells "Opening").mp rfl
  exact absurd opening (by decide)

end Scene

end EntitySearch
