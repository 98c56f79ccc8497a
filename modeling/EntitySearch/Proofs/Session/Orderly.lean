import EntitySearch.Proofs.Schema.Resolved
import EntitySearch.Proofs.Session.Held
import EntitySearch.Proofs.Session.Using

/-!
# Callers keep a session in order

However the requests of callers come one after the other, those who open and close bridges know what
they rely on, those who use a bridge come by no queue but those that were started for it, and what
queues accept is what callers have handed over with success.

* `Caller.Moves`, `Caller.Uses`: how far callers have come.
* `Scene.Orderly`, `Scene.orderly_of_run`: that a scene is in order, at every moment of a run.
-/

namespace EntitySearch

/-! ## Callers -/

/-- The states in which a call may leave its bridge. -/
def BridgeCall.leaves : BridgeCall → BridgeState → Prop
  | .closing => (· = .closed)
  | _ => fun _ => True

/-- Whether an item may be refused with a cause: since the queue is stopped, or since the entity type
of the item was not known at a moment. -/
def Attempt.Refusal (moments : List Moment) (item : WorkItem) (cause : BridgeError) : Prop :=
  cause = .queueStopped ∨ cause = .schema (.unknownEntity item.entityType) ∧
    ∃ moment ∈ moments, ∃ schema, (moment.before.resolver schema).descriptor item.entityType =
      .error (.unknownEntity item.entityType)

/-- The items that a queue has accepted from somebody. -/
def Usage.accepted (usage : Usage) (queue : Nat) : List WorkItem :=
  usage.attempts.flatMap fun attempt =>
    if attempt.queue = queue then (QueueAction.enqueue attempt.item).accepted attempt.reply else []

/-- What holds of a caller who opens or closes a bridge, and knows `held` if it has the lock. -/
structure Caller.Moves (caller : Caller) (intact : Prop) (held : Option Hold) : Prop where
  rest : ∃ grip : Grip, grip.hold? = held ∧
    caller.rest.Ensures (System.moving caller.bridge intact caller.call.leaves)
      (fun _ grip => grip = .through) grip
  idle : caller.usage.attempts = []

/-- What holds of a caller who uses a bridge. -/
structure Caller.Uses (caller : Caller) (owners : List Nat) (moments : List Moment) : Prop where
  rest : caller.rest.Ensures (System.using caller.bridge none)
    (BridgeCall.Ends caller.call.items none) caller.usage
  queue : ∀ queue, caller.usage.queue = some queue → owners[queue]? = some caller.bridge
  owned : ∀ attempt ∈ caller.usage.attempts, owners[attempt.queue]? = some caller.bridge
  refused : ∀ attempt ∈ caller.usage.attempts, ∀ cause, attempt.reply = .error cause →
    Attempt.Refusal moments attempt.item cause

section Callers

variable {session later : Session} {intact : Prop} {owners : List Nat} {moments : List Moment}
  {grips : Grips} {number : Nat} {bridge : Bridge} {caller : Caller} {request : SystemRequest}
  {next : System.Reply request → Procedure System (Except BridgeError Unit)}
  {reply : System.Reply request} {held : Option Hold}

theorem Attempt.Refusal.append {item : WorkItem} {cause : BridgeError}
    (h : Attempt.Refusal moments item cause) (more : List Moment) :
    Attempt.Refusal (moments ++ more) item cause := by
  refine h.imp_right fun ⟨same, moment, hm, unknown⟩ => ⟨same, moment, ?_, unknown⟩
  exact List.mem_append_left _ hm

theorem BridgeCall.moving_ensures (session : Session) (number : Nat) (host : HostedBridge)
    {call : BridgeCall} (moves : call.moves = true) :
    (call.procedure session number host).Ensures (System.moving number intact call.leaves)
      (fun _ grip => grip = .through) .outside := by
  cases call with
  | opening => exact session.opening_ensures number host
  | closing => exact host.closing_ensures number
  | _ => cases moves

theorem Session.unknown_of_descriptor {schema : SchemaSource} {entity : String}
    {cause : SchemaError} (h : (session.resolver schema).descriptor entity = .error cause) :
    cause = .unknownEntity entity := by
  cases schema with
  | own registry => exact Registry.unknown_of_descriptor h
  | shared =>
    rw [Session.resolver, Resolver.without] at h
    dsimp only at h
    split at h
    · cases h
      rfl
    · exact Registry.unknown_of_descriptor h

theorem Session.refusal_of_perform {queue : Nat} {item : WorkItem} {cause : BridgeError}
    (h : (session.perform queue (.enqueue item)).1 = .error cause)
    (noted : ∃ moment ∈ moments, moment.before = session) :
    Attempt.Refusal moments item cause := by
  obtain ⟨moment, hm, rfl⟩ := noted
  unfold perform at h
  split at h
  · cases h
    exact .inl rfl
  · next host _ =>
    rcases host.queue.refused_enqueue _ _ item h with stopped | ⟨unknown, missing, rfl⟩
    · exact .inl stopped
    · obtain rfl := unknown_of_descriptor missing
      exact .inr ⟨rfl, moment, hm, host.schema, missing⟩

theorem Usage.accepted_note (usage : Usage) (served : session.serve? request = some (reply, later))
    (queue : Nat) :
    (usage.note request reply).accepted queue = usage.accepted queue ++
      (⟨session, .request request, later⟩ : Moment).accepted queue := by
  have idle : (usage.note request reply).attempts = usage.attempts →
      (⟨session, .request request, later⟩ : Moment).accepted queue = [] →
      (usage.note request reply).accepted queue = usage.accepted queue ++
        (⟨session, .request request, later⟩ : Moment).accepted queue := by
    intro same none
    rw [accepted, same, none, List.append_nil, accepted]
  cases request with
  | queue other request =>
    cases request with
    | perform action =>
      cases action with
      | enqueue item =>
        have result := congrArg Prod.fst (Option.some.inj served)
        subst result
        simp only [accepted, note, List.flatMap_append, List.flatMap_singleton]
        by_cases same : other = queue
        · subst same
          rfl
        · rw [if_neg same]
          exact congrArg _ (if_neg same).symm
      | _ => exact idle rfl (ite_self _)
    | _ => exact idle rfl rfl
  | bridge other request => cases request <;> exact idle rfl rfl
  | _ => exact idle rfl rfl

theorem Caller.Uses.append (h : caller.Uses owners moments) (more : List Nat)
    (moment : Moment) : caller.Uses (owners ++ more) (moments ++ [moment]) where
  rest := h.rest
  queue queue known := by
    have own := h.queue queue known
    rwa [List.getElem?_append_left (List.getElem?_eq_some_iff.mp own).1]
  owned attempt ha := by
    have own := h.owned attempt ha
    rwa [List.getElem?_append_left (List.getElem?_eq_some_iff.mp own).1]
  refused attempt ha cause hc := (h.refused attempt ha cause hc).append [moment]

theorem System.quiet_of_using {usage : Usage} {still : Option Bridge}
    (permitted : (System.using number still).permits usage request) :
    request.Quiet ∧ request.starts = [] := by
  cases request with
  | bridge other access =>
    rcases permitted.2 with rfl | rfl <;> exact ⟨trivial, rfl⟩
  | queue other request =>
    cases request with
    | perform action => exact ⟨permitted.2, rfl⟩
    | _ => exact ⟨trivial, rfl⟩
  | _ => exact ⟨trivial, rfl⟩

/-- A request of a caller who uses a bridge. -/
theorem Caller.Uses.step (h : caller.Uses owners moments)
    (kept : session.Held intact owners moments grips)
    (hosted : session.bridge? caller.bridge = some bridge) (asks : caller.rest = .ask request next)
    (served : session.serve? request = some (reply, later)) :
    (caller.told request reply (next reply)).Uses owners
      (moments ++ [⟨session, .request request, later⟩]) := by
  have ensures := h.rest
  rw [asks] at ensures
  obtain ⟨permitted, rest⟩ := ensures caller.usage rfl
  have more := h.append [] ⟨session, .request request, later⟩
  rw [List.append_nil] at more
  have ensured := rest reply _ ⟨nofun, rfl⟩
  -- all but an item that is handed over is as before
  have idle : (caller.usage.note request reply).attempts = caller.usage.attempts →
      (∀ queue, (caller.usage.note request reply).queue = some queue →
        owners[queue]? = some caller.bridge) →
      (caller.told request reply (next reply)).Uses owners
        (moments ++ [⟨session, .request request, later⟩]) := fun same queue =>
    ⟨ensured, queue, fun attempt ha => more.owned attempt (same ▸ ha),
      fun attempt ha => more.refused attempt (same ▸ ha)⟩
  cases request with
  | bridge other access =>
    obtain ⟨rfl, rfl | rfl⟩ := permitted
    · exact idle rfl h.queue
    · refine idle rfl fun queue known => ?_
      obtain ⟨_, after, present, serves, -⟩ := Session.bridge?_serveBridge? served
      rw [hosted] at present
      cases present
      cases serves
      exact ((kept.watched _ bridge hosted).current queue known).1
  | queue queue request =>
    cases request with
    | perform action =>
      cases action with
      | enqueue item =>
        have result := congrArg Prod.fst (Option.some.inj served)
        refine ⟨ensured, h.queue, fun attempt ha => ?_, fun attempt ha cause hc => ?_⟩
        · rcases List.mem_append.mp ha with ha | ha
          · exact h.owned attempt ha
          · cases List.mem_singleton.mp ha
            exact h.queue queue permitted.1
        · rcases List.mem_append.mp ha with ha | ha
          · exact more.refused attempt ha cause hc
          · cases List.mem_singleton.mp ha
            exact Session.refusal_of_perform (result.trans hc)
              ⟨⟨session, _, later⟩, List.mem_concat_self, rfl⟩
      | _ => exact idle rfl h.queue
    | _ => exact idle rfl h.queue
  | _ => exact idle rfl h.queue

theorem System.attempts_of_moving {final : BridgeState → Prop} {grip : Grip}
    (permitted : (System.moving number intact final).permits grip request) (usage : Usage)
    (reply : System.Reply request) : (usage.note request reply).attempts = usage.attempts := by
  cases request with
  | queue queue request =>
    cases request with
    | perform action =>
      cases action with
      | enqueue item =>
        rcases cases_of_moving permitted with ⟨-, same⟩ | ⟨hold, rfl⟩
        · cases same
        · cases permitted.1
      | _ => rfl
    | _ => rfl
  | bridge other access => cases access <;> rfl
  | _ => rfl

end Callers

/-! ## Scenes -/

/-- What callers of a scene have handed over to a queue with success, caller by caller. -/
def Scene.acceptedOf (scene : Scene) (queue : Nat) : List WorkItem :=
  scene.callers.flatMap (·.usage.accepted queue)

/-- What holds of a scene at every moment of a run, where writers do not break down unless `intact`
is false, and `grips` says who has the locks of bridges. -/
structure Scene.Orderly (scene : Scene) (intact : Prop) (grips : Grips) : Prop where
  held : scene.session.Held intact scene.owners scene.moments grips
  placed : ∀ {index : Nat} {caller : Caller}, scene.callers[index]? = some caller →
    ∃ bridge, scene.session.bridge? caller.bridge = some bridge
  holders : ∀ {number index : Nat} {hold : Hold}, grips number = some (index, hold) →
    ∃ caller, scene.callers[index]? = some caller ∧ caller.bridge = number ∧
      caller.call.moves = true
  movers : ∀ {index : Nat} {caller : Caller}, scene.callers[index]? = some caller →
    caller.call.moves = true → caller.Moves intact (grips.of? caller.bridge index)
  users : ∀ {index : Nat} {caller : Caller}, scene.callers[index]? = some caller →
    caller.call.moves = false → caller.Uses scene.owners scene.moments
  accepted : ∀ queue, (Moment.acceptedIn scene.moments queue).Perm (scene.acceptedOf queue)

/-- Whether something that happens is not that a writer breaks down. -/
def SceneEvent.isWhole : SceneEvent → Bool
  | .elsewhere (.breakDown _) => false
  | _ => true

/-- Whether nothing has been done with the bridges of a session yet, and it has no queues. -/
structure Session.Fresh (session : Session) : Prop where
  queues : session.queues = []
  bridges : ∀ host ∈ session.bridges, host.bridge = {}

namespace Scene

variable {scene later : Scene} {intact : Prop} {grips : Grips} {number index : Nat}
  {caller : Caller}

/-! ### Somebody calls a bridge -/

theorem getElem?_concat_cases {callers : List Caller} {new : Caller}
    (hc : (callers ++ [new])[index]? = some caller) :
    callers[index]? = some caller ∨ index = callers.length ∧ caller = new := by
  by_cases short : index < callers.length
  · rw [List.getElem?_append_left short] at hc
    exact .inl hc
  · rw [List.getElem?_append_right (by omega), List.getElem?_singleton] at hc
    split at hc
    · exact .inr ⟨by omega, (Option.some.inj hc).symm⟩
    · cases hc

theorem Orderly.call (h : scene.Orderly intact grips) {call : BridgeCall}
    (ha : scene.after? (.call number call) = some later) : later.Orderly intact grips := by
  obtain ⟨host, hb, rfl⟩ := after?_call ha
  have hosted : scene.session.bridge? number = some host.bridge := by
    rw [Session.bridge?, hb]
    rfl
  have free : grips.of? number scene.callers.length = none := by
    rw [Option.eq_none_iff_forall_ne_some]
    intro hold known
    obtain ⟨caller, hc, -⟩ := h.holders (Grips.of?_eq_some known)
    rw [List.getElem?_eq_none (Nat.le_refl _)] at hc
    cases hc
  refine ⟨h.held, fun {index caller} hc => ?_, fun {other index hold} known => ?_,
    fun {index caller} hc moves => ?_, fun {index caller} hc uses => ?_, fun queue => ?_⟩
  · rcases getElem?_concat_cases hc with hc | ⟨-, rfl⟩
    · exact h.placed hc
    · exact ⟨host.bridge, hosted⟩
  · obtain ⟨caller, hc, own⟩ := h.holders known
    refine ⟨caller, ?_, own⟩
    rw [List.getElem?_append_left (List.getElem?_eq_some_iff.mp hc).1, hc]
  · rcases getElem?_concat_cases hc with hc | ⟨rfl, rfl⟩
    · exact h.movers hc moves
    · refine ⟨⟨.outside, free.symm, ?_⟩, rfl⟩
      exact BridgeCall.moving_ensures scene.session number host moves
  · rcases getElem?_concat_cases hc with hc | ⟨-, rfl⟩
    · exact h.users hc uses
    · -- A call that begins has been told no queue and has handed nothing over.
      refine ⟨BridgeCall.ensures scene.session host call uses, fun queue told => ?_,
        fun attempt made => ?_, fun attempt made => ?_⟩
      · cases told
      · cases made
      · cases made
  · rw [acceptedOf, List.flatMap_append]
    change (Moment.acceptedIn scene.moments queue).Perm (_ ++ [])
    rw [List.append_nil]
    exact h.accepted queue

/-! ### Something happens elsewhere -/

theorem Orderly.learn (h : scene.Orderly intact grips) {registry : Registry} {hidden : List String}
    (ha : scene.after? (.learn registry hidden) = some later) : later.Orderly intact grips := by
  obtain rfl := Option.some.inj ha
  have staffed : ({ scene.session with registry, hidden } : Session).Staffed intact
      scene.moments := ⟨h.held.staffed.employed, h.held.staffed.kept, h.held.staffed.silent⟩
  refine ⟨⟨staffed, h.held.length, fun number bridge hosted => ?_⟩, h.placed, h.holders, h.movers,
    h.users, h.accepted⟩
  refine (h.held.watched number bridge hosted).frame (fun _ => .rfl) fun queue stage _ reached => ?_
  cases stage <;> exact reached

theorem Orderly.elsewhere (h : scene.Orderly intact grips) {event : SessionEvent}
    (whole : intact → SceneEvent.isWhole (.elsewhere event) = true)
    (ha : scene.after? (.elsewhere event) = some later) : later.Orderly intact grips := by
  obtain ⟨foreign, session, happens, rfl⟩ := after?_elsewhere ha
  obtain ⟨quiet, unaccepted⟩ := h.held.staffed.foreign happens foreign
  have bridges := (Session.quiet_after? happens quiet).1
  refine ⟨h.held.quiet happens ?_ quiet, fun hc => ?_, h.holders, h.movers, fun hc uses => ?_,
    fun queue => ?_⟩
  · rintro hi number rfl
    cases whole hi
  · rw [bridges]
    exact h.placed hc
  · have more := (h.users hc uses).append [] ⟨scene.session, event, session⟩
    rwa [List.append_nil] at more
  · rw [Moment.acceptedIn_append, unaccepted, List.append_nil]
    exact h.accepted queue

/-! ### A caller goes on -/

theorem perm_flatMap_modify {α β : Type} {f : α → α} {g : α → List β} {more : List β} {value : α}
    (adds : g (f value) = g value ++ more) : ∀ {list : List α} {index : Nat},
      list[index]? = some value → ((list.modify index f).flatMap g).Perm (list.flatMap g ++ more)
  | [], index, h => by cases h
  | head :: rest, 0, h => by
    cases h
    rw [List.modify_zero_cons, List.flatMap_cons, List.flatMap_cons, adds, List.append_assoc,
      List.append_assoc]
    exact List.perm_append_comm.append_left _
  | head :: rest, index + 1, h => by
    have tail : ((rest.modify index f).flatMap g).Perm (rest.flatMap g ++ more) :=
      perm_flatMap_modify adds h
    rw [List.modify_succ_cons, List.flatMap_cons, List.flatMap_cons, List.append_assoc]
    exact tail.append_left _

/-- What is accepted when a caller goes on is accepted from this caller. -/
theorem Orderly.accepted_step (h : scene.Orderly intact grips) {request : SystemRequest}
    {reply : System.Reply request} {session : Session}
    (hc : scene.callers[index]? = some caller)
    (served : scene.session.serve? request = some (reply, session))
    (rest : Procedure System (Except BridgeError Unit)) (queue : Nat) :
    (Moment.acceptedIn (scene.moments ++ [⟨scene.session, .request request, session⟩]) queue).Perm
      ((scene.callers.modify index (·.told request reply rest)).flatMap
        (·.usage.accepted queue)) := by
  rw [Moment.acceptedIn_append]
  refine ((h.accepted queue).append_right _).trans (perm_flatMap_modify ?_ hc).symm
  exact Usage.accepted_note caller.usage served queue

theorem getElem?_modify_cases {callers : List Caller} {change : Caller → Caller}
    {other : Nat} {own : Caller} (hc : callers[index]? = some caller)
    (ho : (callers.modify index change)[other]? = some own) :
    (other = index ∧ own = change caller) ∨ (other ≠ index ∧ callers[other]? = some own) := by
  rw [List.getElem?_modify] at ho
  by_cases same : index = other
  · subst same
    rw [hc] at ho
    simp at ho
    exact .inl ⟨rfl, ho.symm⟩
  · simp [same] at ho
    exact .inr ⟨Ne.symm same, ho⟩

section Step

variable {request : SystemRequest} {reply : System.Reply request} {session : Session}
  {next : System.Reply request → Procedure System (Except BridgeError Unit)}

theorem Orderly.placed_step (h : scene.Orderly intact grips)
    (hc : scene.callers[index]? = some caller)
    (served : scene.session.serve? request = some (reply, session))
    (rest : Procedure System (Except BridgeError Unit)) {other : Nat} {own : Caller}
    (ho : (scene.callers.modify index (·.told request reply rest))[other]? = some own) :
    ∃ bridge, session.bridge? own.bridge = some bridge := by
  rcases getElem?_modify_cases hc ho with ⟨-, rfl⟩ | ⟨-, ho⟩
  · obtain ⟨_, present⟩ := h.placed hc
    exact Session.present_of_serve? present served
  · obtain ⟨_, present⟩ := h.placed ho
    exact Session.present_of_serve? present served

theorem moves_modify {callers : List Caller} {other : Nat} {own : Caller}
    (ho : callers[other]? = some own) (moves : own.call.moves = true)
    (rest : Procedure System (Except BridgeError Unit)) :
    ∃ after, (callers.modify index (·.told request reply rest))[other]? = some after ∧
      after.bridge = own.bridge ∧ after.call.moves = true := by
  rw [List.getElem?_modify, ho]
  by_cases here : index = other
  · exact ⟨_, congrArg some (if_pos here), rfl, moves⟩
  · exact ⟨_, congrArg some (if_neg here), rfl, moves⟩

theorem Orderly.step_using (h : scene.Orderly intact grips)
    (hc : scene.callers[index]? = some caller) (uses : caller.call.moves = false)
    (asks : caller.rest = .ask request next)
    (served : scene.session.serve? request = some (reply, session)) :
    Scene.Orderly ⟨session, scene.callers.modify index (·.told request reply (next reply)),
      scene.owners ++ request.starts,
      scene.moments ++ [⟨scene.session, .request request, session⟩]⟩ intact grips := by
  have ha : scene.session.after? (.request request) = some session :=
    congrArg (Option.map Prod.snd) served
  obtain ⟨bridge, hosted⟩ := h.placed hc
  have user := h.users hc uses
  have ensures := user.rest
  rw [asks] at ensures
  obtain ⟨quiet, unstarted⟩ := System.quiet_of_using (ensures caller.usage rfl).1
  have held := h.held.quiet ha (fun _ _ => nofun) fun made hm => by
    cases hm
    exact quiet
  rw [unstarted, List.append_nil]
  refine ⟨held, h.placed_step hc served _, fun known => ?_, fun ho moves => ?_, fun ho using' => ?_,
    h.accepted_step hc served _⟩
  · obtain ⟨holder, hh, rfl, moves⟩ := h.holders known
    exact moves_modify hh moves _
  · rcases getElem?_modify_cases hc ho with ⟨rfl, rfl⟩ | ⟨-, ho⟩
    · exact absurd (uses.symm.trans moves) Bool.false_ne_true
    · exact h.movers ho moves
  · rcases getElem?_modify_cases hc ho with ⟨rfl, rfl⟩ | ⟨-, ho⟩
    · exact user.step h.held hosted asks served
    · have more := (h.users ho using').append [] ⟨scene.session, .request request, session⟩
      rwa [List.append_nil] at more

theorem Orderly.step_moving (h : scene.Orderly intact grips)
    (hc : scene.callers[index]? = some caller) (moves : caller.call.moves = true)
    (asks : caller.rest = .ask request next)
    (served : scene.session.serve? request = some (reply, session)) :
    ∃ grips, Scene.Orderly ⟨session, scene.callers.modify index (·.told request reply (next reply)),
      scene.owners ++ request.starts,
      scene.moments ++ [⟨scene.session, .request request, session⟩]⟩ intact grips := by
  obtain ⟨bridge, hosted⟩ := h.placed hc
  obtain ⟨⟨grip, own, ensures⟩, idle⟩ := h.movers hc moves
  rw [asks] at ensures
  obtain ⟨permitted, rest⟩ := ensures grip rfl
  obtain ⟨grip', answers, held⟩ := h.held.moving hosted own permitted served
  refine ⟨_, held, h.placed_step hc served _, fun {number holder hold} known => ?_,
    fun ho moves' => ?_, fun ho using' => ?_, h.accepted_step hc served _⟩
  · by_cases same : number = caller.bridge
    · rw [same, Grips.set_self] at known
      obtain ⟨_, -, ⟨⟩⟩ := Option.map_eq_some_iff.mp known
      exact same ▸ moves_modify hc moves _
    · rw [Grips.set_other same] at known
      obtain ⟨own, hh, rfl, moves'⟩ := h.holders known
      exact moves_modify hh moves' _
  · rcases getElem?_modify_cases hc ho with ⟨rfl, rfl⟩ | ⟨different, ho⟩
    · refine ⟨⟨grip', (Grips.of?_set_self _ _ _ _).symm, rest reply grip' answers⟩, ?_⟩
      exact (System.attempts_of_moving permitted _ _).trans idle
    · rw [Grips.of?_set_other different (h.held.alone hosted own permitted served different)]
      exact h.movers ho moves'
  · rcases getElem?_modify_cases hc ho with ⟨rfl, rfl⟩ | ⟨-, ho⟩
    · exact absurd (using'.symm.trans moves) Bool.false_ne_true
    · exact (h.users ho using').append _ _

end Step

theorem Orderly.step (h : scene.Orderly intact grips)
    (ha : scene.after? (.step index) = some later) : ∃ grips, later.Orderly intact grips := by
  obtain ⟨caller, request, next, reply, session, hc, asks, served, rfl⟩ := after?_step ha
  cases moves : caller.call.moves with
  | false => exact ⟨grips, h.step_using hc moves asks served⟩
  | true => exact h.step_moving hc moves asks served

/-! ### Runs -/

theorem Orderly.after (h : scene.Orderly intact grips) (event : SceneEvent)
    (whole : intact → event.isWhole = true) (ha : scene.after? event = some later) :
    ∃ grips, later.Orderly intact grips := by
  cases event with
  | call number call => exact ⟨grips, h.call ha⟩
  | step index => exact h.step ha
  | elsewhere event => exact ⟨grips, h.elsewhere whole ha⟩
  | learn registry hidden => exact ⟨grips, h.learn ha⟩

theorem orderly_start {session : Session} (fresh : session.Fresh) :
    (start session).Orderly intact fun _ => none := by
  have absent : ∀ {number : Nat} {host : HostedQueue}, session.queues[number]? ≠ some host := by
    intro number host hosted
    rw [fresh.queues] at hosted
    cases hosted
  refine ⟨⟨⟨fun hosted => absurd hosted absent, fun _ _ _ hosted => absurd hosted absent,
    fun _ => ⟨rfl, rfl⟩⟩, ?_, fun number bridge hosted => ?_⟩, nofun, nofun, nofun, nofun,
    fun _ => .rfl⟩
  · rw [start, fresh.queues]
    rfl
  · obtain ⟨host, hb, rfl⟩ := Option.map_eq_some_iff.mp hosted
    rw [fresh.bridges host (List.mem_of_getElem? hb)]
    exact ⟨fun _ => ⟨⟨.inl rfl, by simp⟩, rfl⟩, nofun, nofun, nofun, nofun, nofun⟩

/-- **At every moment of a run** a scene is in order. -/
theorem orderly_of_run {events : List SceneEvent} (h : ∃ grips, scene.Orderly intact grips)
    (run : scene.run? events = some later) (whole : intact → ∀ event ∈ events, event.isWhole = true) :
    ∃ grips, later.Orderly intact grips := by
  refine keeps_of_run (fun scene => ∃ grips, scene.Orderly intact grips)
    (fun event => intact → event.isWhole = true) ?_ run
    (fun event he hi => whole hi event he) h
  rintro scene event later whole ⟨grips, h⟩ ha
  exact h.after event whole ha

end Scene

end EntitySearch
