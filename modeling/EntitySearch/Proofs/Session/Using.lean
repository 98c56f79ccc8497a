import EntitySearch.Proofs.Search.Opened
import EntitySearch.Proofs.Session.Moving
import EntitySearch.Proofs.Session.Scene

/-!
# Using a bridge

Whoever uses a bridge asks it for its state and for its queue, one after the other, and keeps to that
queue. Items are handed to it in their order up to the first one that is refused, and the result says
so. As long as the bridge stays as it is, the result is that the bridge is not open exactly if it is
not ready.

* `Attempt.Told`: that a result tells what became of the items of a call.
* `System.using`: a session as surroundings of those who use a bridge.
* `BridgeCall.Ends`, `BridgeCall.ensures`: how a call ends.
-/

namespace EntitySearch

/-- Whether a result tells what became of items: they are handed over in their order, a refusal is
the result, and all of them are handed over if there is success. -/
structure Attempt.Told {α : Type} (made : List Attempt) (items : List WorkItem)
    (result : Except BridgeError α) : Prop where
  order : made.map (·.item) <+: items
  refused : ∀ attempt ∈ made, ∀ cause, attempt.reply = .error cause → result = .error cause
  all : ∀ value, result = .ok value → made.map (·.item) = items

/-- Whether a reply is that of a bridge that stays as it is, or of a queue. -/
def SystemRequest.Tells (bridge : Bridge) : (request : SystemRequest) → System.Reply request → Prop
  | .bridge _ .state, state => state = bridge.state
  | .bridge _ .queue, found => found = bridge.queue
  | .queue _ (.perform _), reply => reply ≠ .error .notOpen
  | .queue _ (.outcome _), outcome => outcome ≠ .error .notOpen
  | _, _ => True

/-- A session as those see it who use a bridge, which may stay as it is. -/
def System.using (number : Nat) (still : Option Bridge) : Surroundings System Usage where
  answers usage request reply after :=
    (∀ bridge, still = some bridge → request.Tells bridge reply) ∧ after = usage.note request reply
  others usage later := later = usage
  permits
    | _, .bridge other request => other = number ∧ (request = .state ∨ request = .queue)
    | usage, .queue queue (.perform action) => usage.queue = some queue ∧ action ≠ .beginStop
    | _, .queue _ (.outcome _) => True
    | _, request => request.Apart
  others_refl _ := rfl
  others_trans h h' := h'.trans h

/-- How a call ends: whoever is not told the queue hands nothing over and says that the bridge is not
open. If the bridge stays as it is, this is said exactly if it is not ready. -/
structure BridgeCall.Ends {α : Type} (items : List WorkItem) (still : Option Bridge)
    (result : Except BridgeError α) (usage : Usage) : Prop where
  told : Attempt.Told usage.attempts items result
  untold : items ≠ [] → usage.attempts = [] → result = .error .notOpen
  notOpen : ∀ bridge, still = some bridge → bridge.Settled →
    (result = .error .notOpen ↔ bridge.state ≠ .ready)

namespace BridgeCall

variable {α β : Type} {number queue : Nat} {still : Option Bridge} {usage : Usage}
  {items : List WorkItem} {post : α → Usage → Prop}

theorem ask_ensures {request : SystemRequest} {next : System.Reply request → Procedure System α}
    (permitted : (System.using number still).permits usage request)
    (rest : ∀ reply, (∀ bridge, still = some bridge → request.Tells bridge reply) →
      (next reply).Ensures (System.using number still) post (usage.note request reply)) :
    (Procedure.ask (p := System) request next).Ensures (System.using number still) post usage := by
  rintro later rfl
  refine ⟨permitted, ?_⟩
  rintro reply after ⟨tells, rfl⟩
  exact rest reply tells

/-! ## Handing items over -/

theorem useQueue_eq (procedure : Procedure Queueing α) :
    ((useQueue queue procedure).right : Procedure BridgeUse α).expand (System.bridgeUse number) =
      procedure.expand (System.queueing queue) := by
  induction procedure with
  | done result => rfl
  | ask request next ih => exact congrArg (Procedure.ask _) (funext ih)

/-- What somebody who uses a queue has come by after handing items over. -/
structure Hands (items : List WorkItem) (still : Option Bridge) (usage : Usage)
    (result : Except BridgeError α) (after : Usage) (made : List Attempt) : Prop where
  queue : after.queue = usage.queue
  attempts : after.attempts = usage.attempts ++ made
  told : Attempt.Told made items result
  any : items ≠ [] → made ≠ []
  opened : ∀ bridge, still = some bridge → result ≠ .error .notOpen

theorem Hands.nothing {result : Except BridgeError α}
    (opened : ∀ bridge, still = some bridge → result ≠ .error .notOpen) :
    Hands [] still usage result usage [] :=
  ⟨rfl, (List.append_nil _).symm, ⟨List.prefix_rfl, nofun, fun _ _ => rfl⟩,
    fun any => absurd rfl any, opened⟩

theorem submit_ensures {action : QueueAction} (moves : action ≠ .beginStop)
    (known : usage.queue = some queue) :
    ((QueueClient.submit action).expand (System.queueing queue)).Ensures (System.using number still)
      (fun result after => ∃ reply,
        after = usage.note (.queue queue (.perform action)) reply ∧
          (∀ cause, reply = .error cause → result = .error cause) ∧
          ∀ bridge, still = some bridge → result ≠ .error .notOpen) usage := by
  refine ask_ensures ⟨known, moves⟩ fun reply tells => ?_
  rcases reply with cause | _ | job
  · rintro after rfl
    refine ⟨.error cause, rfl, fun _ hc => by cases hc; rfl, fun bridge hb same => ?_⟩
    cases same
    exact tells bridge hb rfl
  · rintro after rfl
    exact ⟨_, rfl, nofun, fun _ _ => nofun⟩
  · refine ask_ensures trivial fun outcome ends => ?_
    rintro after rfl
    exact ⟨_, rfl, nofun, ends⟩

theorem enqueue_ensures (item : WorkItem) (known : usage.queue = some queue) :
    ((QueueClient.enqueue item).expand (System.queueing queue)).Ensures (System.using number still)
      (fun result after => ∃ made, Hands [item] still usage result after made) usage := by
  refine .weaken ?_ (submit_ensures nofun known)
  rintro result after ⟨reply, rfl, refused, opened⟩
  refine ⟨[⟨queue, item, reply⟩], rfl, rfl, ⟨List.prefix_rfl, ?_, fun _ _ => rfl⟩, nofun, opened⟩
  intro attempt ha cause hc
  cases List.mem_singleton.mp ha
  exact refused cause hc

theorem idle_ensures {action : QueueAction} (moves : action ≠ .beginStop)
    (idle : ∀ reply, usage.note (.queue queue (.perform action)) reply = usage)
    (known : usage.queue = some queue) :
    ((QueueClient.submit action).expand (System.queueing queue)).Ensures (System.using number still)
      (fun result after => ∃ made, Hands [] still usage result after made) usage := by
  refine .weaken ?_ (submit_ensures moves known)
  rintro result after ⟨reply, same, -, opened⟩
  rw [idle] at same
  rw [same]
  exact ⟨[], .nothing opened⟩

theorem expand_enqueueAll {p : Protocol}
    (carryOut : (request : Queueing.Request) → Procedure p (Queueing.Reply request)) (count : Nat)
    (item : WorkItem) (rest : List WorkItem) :
    (QueueClient.enqueueAll count (item :: rest)).expand carryOut =
      ((QueueClient.enqueue item).expand carryOut).bind fun
        | .error cause => .done (.error cause)
        | .ok _ => (QueueClient.enqueueAll (count + 1) rest).expand carryOut := by
  change ((QueueClient.enqueue item).bind _).expand carryOut = _
  rw [Procedure.expand_bind]
  congr
  funext result
  cases result <;> rfl

theorem Hands.cut {item : WorkItem} {cause : BridgeError} {after : Usage} {made : List Attempt}
    (h : Hands [item] still usage (.error cause : Except BridgeError α) after made)
    (rest : List WorkItem) :
    Hands (item :: rest) still usage (.error cause : Except BridgeError β) after made := by
  obtain ⟨others, ho⟩ := h.told.order
  refine ⟨h.queue, h.attempts, ⟨⟨others ++ rest, ?_⟩, ?_, nofun⟩, fun _ => h.any nofun, ?_⟩
  · rw [← List.append_assoc, ho]
    rfl
  · intro attempt ha cause hc
    cases h.told.refused attempt ha cause hc
    rfl
  · intro bridge hb same
    cases same
    exact h.opened bridge hb rfl

theorem Hands.append {item : WorkItem} {rest : List WorkItem} {value : α}
    {result : Except BridgeError β} {after last : Usage} {first made : List Attempt}
    (h : Hands [item] still usage (.ok value : Except BridgeError α) after first)
    (more : Hands rest still after result last made) :
    Hands (item :: rest) still usage result last (first ++ made) := by
  have one : first.map (·.item) = [item] := h.told.all value rfl
  refine ⟨more.queue.trans h.queue, ?_, ⟨?_, ?_, ?_⟩, fun _ none => ?_, more.opened⟩
  · rw [more.attempts, h.attempts, List.append_assoc]
  · rw [List.map_append, one]
    exact (List.prefix_append_right_inj [item]).mpr more.told.order
  · intro attempt ha cause hc
    rcases List.mem_append.mp ha with ha | ha
    · cases h.told.refused attempt ha cause hc
    · exact more.told.refused attempt ha cause hc
  · intro result hr
    rw [List.map_append, one, more.told.all result hr]
    rfl
  · exact h.any nofun (List.append_eq_nil_iff.mp none).1

/-- Items are handed over one after the other, up to the first one that fails. -/
theorem enqueueAll_ensures (items : List WorkItem) : ∀ {usage : Usage} (count : Nat),
    usage.queue = some queue →
      ((QueueClient.enqueueAll count items).expand (System.queueing queue)).Ensures
        (System.using number still)
        (fun result after => ∃ made, Hands items still usage result after made) usage := by
  induction items with
  | nil =>
    rintro usage count known after rfl
    exact ⟨[], .nothing fun _ _ => nofun⟩
  | cons item rest ih =>
    intro usage count known
    rw [expand_enqueueAll (System.queueing queue)]
    refine .bind (.weaken ?_ (enqueue_ensures item known))
    rintro result after ⟨first, hands⟩
    cases result with
    | error cause =>
      rintro last rfl
      exact ⟨first, hands.cut rest⟩
    | ok _ =>
      refine .weaken ?_ (ih (count + 1) (hands.queue.trans known))
      rintro result last ⟨made, more⟩
      exact ⟨first ++ made, hands.append more⟩

/-! ## Searching -/

theorem asks_execute (searcher : Searcher) (search : Search) :
    (searcher.execute search).Asks (fun _ => True) Opened := by
  unfold Searcher.execute
  split
  · next cause failed =>
    intro same
    cases same
    exact (search.rejects_request searcher.resolver searcher.maxPageSize).opened failed
  · next cause _ failed =>
    intro same
    cases same
    exact (search.rejects_descriptors searcher.resolver).opened failed
  · next request first rest _ _ =>
    refine ⟨trivial, fun outcome => ?_⟩
    cases outcome with
    | error cause => exact ⟨trivial, fun _ => nofun⟩
    | ok response =>
      change ((Searcher.recordAll _).bind _).Asks _ _
      refine .bind (fun _ _ => ?_) (.any _)
      exact SearchPage.opened_ofResponse _ _ _ _

theorem idle_of_apart {request : SystemRequest} (apart : request.Apart) (usage : Usage) :
    (System.using number still).permits usage request ∧ ∀ reply after,
      (System.using number still).answers usage request reply after → after = usage := by
  cases request with
  | bridge other request => exact apart.elim
  | queue other request => exact apart.elim
  | _ => exact ⟨trivial, fun _ _ h => h.2⟩

/-! ## The calls -/

theorem Ends.map {result : Except BridgeError α} (h : Ends items still result usage) (f : α → β) :
    Ends items still (result.map f) usage := by
  cases result with
  | ok value =>
    refine ⟨⟨h.told.order, ?_, fun _ _ => h.told.all value rfl⟩, ?_, ?_⟩
    · intro attempt ha cause hc
      cases h.told.refused attempt ha cause hc
    · intro any none
      cases h.untold any none
    · intro bridge hb settled
      refine iff_of_false nofun fun moved => ?_
      cases (h.notOpen bridge hb settled).mpr moved
  | error cause =>
    have same : ∀ other, (Except.error cause : Except BridgeError α) = .error other →
        (Except.error cause : Except BridgeError α).map f = .error other := by
      rintro other ⟨⟩
      rfl
    refine ⟨⟨h.told.order, fun attempt ha cause hc => same _ (h.told.refused attempt ha cause hc),
      nofun⟩, fun any none => same _ (h.untold any none), fun bridge hb settled => ?_⟩
    refine ⟨fun told => ?_, fun moved => same _ ((h.notOpen bridge hb settled).mpr moved)⟩
    cases told
    exact (h.notOpen bridge hb settled).mp rfl

theorem ends_notOpen (notReady : ∀ bridge, still = some bridge → bridge.Settled →
      bridge.state ≠ .ready) (none : usage.attempts = []) :
    Ends items still (.error .notOpen : Except BridgeError α) usage := by
  refine ⟨⟨?_, ?_, nofun⟩, fun _ _ => rfl, fun bridge hb settled => ?_⟩
  · rw [none]
    exact List.nil_prefix
  · rw [none]
    nofun
  · exact iff_of_true rfl (notReady bridge hb settled)

/-- Somebody who is told the queue of a bridge goes on with it, and somebody who is not says that the
bridge is not open. -/
theorem openQueue_ensures {f : Except BridgeError Nat → Procedure System (Except BridgeError α)}
    (closed : f (.error .notOpen) = .done (.error .notOpen))
    (opened : ∀ queue, (f (.ok queue)).Ensures (System.using number still)
      (fun result after => ∃ made, Hands items still { queue := some queue } result after made)
      { queue := some queue }) :
    ((BridgeClient.openQueue.expand (System.bridgeUse number)).bind f).Ensures
      (System.using number still) (Ends items still) {} := by
  refine ask_ensures ⟨rfl, .inl rfl⟩ fun (state : BridgeState) tells => ?_
  dsimp only [Procedure.bind]
  by_cases ready : state = .ready
  swap
  · rw [if_neg ready]
    change (f (.error .notOpen)).Ensures _ _ _
    rw [closed]
    rintro after rfl
    refine ends_notOpen (fun bridge hb _ same => ready ?_) rfl
    rw [tells bridge hb, same]
  rw [if_pos ready]
  refine ask_ensures ⟨rfl, .inr rfl⟩ fun queue found => ?_
  cases queue with
  | none =>
    change (f (.error .notOpen)).Ensures _ _ _
    rw [closed]
    rintro after rfl
    refine ends_notOpen (fun bridge hb settled same => ?_) rfl
    have present := settled.queue.mpr same
    rw [← show none = bridge.queue from found bridge hb] at present
    cases present
  | some queue =>
    refine .weaken ?_ (opened queue)
    rintro result after ⟨made, hands⟩
    have all : after.attempts = made := hands.attempts
    refine ⟨all ▸ hands.told, fun any none => absurd (all ▸ none) (hands.any any), ?_⟩
    intro bridge hb settled
    refine iff_of_false (hands.opened bridge hb) (not_not_intro ?_)
    rw [← show state = bridge.state from tells bridge hb, ready]

theorem withQueue_ensures {procedure : Procedure Queueing (Except BridgeError α)}
    (h : ∀ queue, (procedure.expand (System.queueing queue)).Ensures (System.using number still)
      (fun result after => ∃ made, Hands items still { queue := some queue } result after made)
      { queue := some queue }) :
    ((BridgeClient.withQueue procedure).expand (System.bridgeUse number)).Ensures
      (System.using number still) (Ends items still) {} := by
  change ((BridgeClient.openQueue.bind _).expand _).Ensures _ _ _
  rw [Procedure.expand_bind]
  refine openQueue_ensures rfl fun queue => ?_
  change ((useQueue queue procedure).right.expand _).Ensures _ _ _
  rw [useQueue_eq]
  exact h queue

theorem search_ensures (session : Session) (host : HostedBridge) (sought : Search) :
    (session.searching number host sought).Ensures (System.using number still) (Ends [] still)
      {} := by
  refine ask_ensures ⟨rfl, .inl rfl⟩ fun (state : BridgeState) tells => ?_
  dsimp only [Procedure.bind]
  by_cases ready : state = .ready
  swap
  · rw [if_neg ready]
    rintro after rfl
    refine ends_notOpen (fun bridge hb _ same => ready ?_) rfl
    rw [tells bridge hb, same]
  rw [if_pos ready]
  have executed : (((session.searcherOf host).execute sought).left.expand
      (System.searching host.route number)).Asks SystemRequest.Apart Opened :=
    .expand_left (fun request _ => System.link_apart request)
      (asks_execute (session.searcherOf host) sought)
  refine .weaken ?_ (executed.ensures (fun _ apart => idle_of_apart apart _) id)
  rintro result after ⟨opened, rfl⟩
  refine ⟨⟨List.nil_prefix, nofun, fun _ _ => rfl⟩, fun any => absurd rfl any, ?_⟩
  intro bridge hb settled
  refine iff_of_false opened (not_not_intro ?_)
  rw [← show state = bridge.state from tells bridge hb, ready]

/-- **How a call ends** that uses a bridge, whatever the replies. -/
theorem ensures (session : Session) (host : HostedBridge) (call : BridgeCall)
    (uses : call.moves = false) :
    (call.procedure session number host).Ensures (System.using number still)
      (Ends call.items still) {} := by
  have mapped : ∀ {γ : Type} {procedure : Procedure System (Except BridgeError γ)} {items},
      procedure.Ensures (System.using number still) (Ends items still) {} →
        (procedure.bind fun result => .done (result.map fun _ => ())).Ensures
          (System.using number still) (Ends items still) {} := by
    intro γ procedure items h
    refine .bind (.weaken ?_ h)
    rintro result after ends last rfl
    exact ends.map _
  cases call with
  | opening => cases uses
  | closing => cases uses
  | enqueue item => exact withQueue_ensures fun queue => enqueue_ensures item rfl
  | enqueueAll items => exact mapped (withQueue_ensures fun queue => enqueueAll_ensures items 0 rfl)
  | flush => exact withQueue_ensures fun queue => idle_ensures nofun (fun _ => rfl) rfl
  | flushAndWait => exact withQueue_ensures fun queue => idle_ensures nofun (fun _ => rfl) rfl
  | search sought => exact mapped (search_ensures session host sought)
  | subscribe =>
    refine openQueue_ensures rfl fun queue => ?_
    rintro after rfl
    exact ⟨[], .nothing fun _ _ => nofun⟩

end BridgeCall

end EntitySearch
