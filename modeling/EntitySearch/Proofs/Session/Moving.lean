import EntitySearch.Proofs.Procedure.Ensures
import EntitySearch.Proofs.Session.Bridges
import EntitySearch.Proofs.Session.Speaking
import EntitySearch.Session.Use

/-!
# Opening and closing a bridge

Whoever opens or closes a bridge has it to itself from the moment at which it gets the lock: the
state and the queue of the bridge are what it has made of them. What it knows of the bridge is enough
to say that it does everything in order: it never says that the bridge is ready while there is no
queue, it takes the queue away only while the bridge is not ready, it stops no queue but the one that
it has taken away, and it lets the lock go only when all is in order again.

* `Bridge.Settled`: that the state and the queue of a bridge go together.
* `Hold`: what somebody who has the lock knows.
* `System.moving`: a session as surroundings of those who open or close a bridge.
* `Session.opening_ensures`, `HostedBridge.closing_ensures`: what they do.
-/

namespace EntitySearch

/-- Whether the state and the queue of a bridge go together as they do while nobody opens or closes
it. -/
structure Bridge.Settled (bridge : Bridge) : Prop where
  state : bridge.state = .created ∨ bridge.state = .ready ∨ bridge.state = .closed
  queue : bridge.queue.isSome = true ↔ bridge.state = .ready

theorem Bridge.Settled.empty {bridge : Bridge} (h : bridge.Settled) (other : bridge.state ≠ .ready) :
    bridge.queue = none := by
  have absent := mt h.queue.mp other
  simpa using absent

/-- How far the queue has come that leaves a bridge. -/
inductive Stage where
  /-- It takes items. -/
  | running
  /-- It takes no more items. -/
  | stopped
  /-- Its writer has nothing left to do. -/
  | drained

/-- What somebody who opens or closes a bridge knows while it has the lock: the bridge, and the queue
that leaves it. -/
structure Hold where
  bridge : Bridge
  leaving : Option (Nat × Stage) := none

/-- Whether a request may be made of the bridge by somebody who has the lock. If writers do not break
down, a queue that leaves has to be drained before the lock is let go. -/
def Hold.Permits (hold : Hold) (intact : Prop) (final : BridgeState → Prop) : BridgeRequest → Prop
  | .lock | .queue => False
  | .state => True
  | .enter state => state = .ready → hold.bridge.queue.isSome = true
  | .startQueue => hold.bridge.queue = none ∧ hold.leaving = none
  | .takeQueue => hold.bridge.state ≠ .ready ∧ hold.leaving = none
  | .unlock => hold.bridge.Settled ∧ final hold.bridge.state ∧
      (intact → ∀ queue stage, hold.leaving = some (queue, stage) → stage = .drained)

/-- How far somebody has come who opens or closes a bridge. -/
inductive Grip where
  /-- It waits for the lock. -/
  | outside
  /-- It has the lock, and knows what it says. -/
  | inside (hold : Hold)
  /-- It has let the lock go. -/
  | through

/-- What somebody knows who has the lock. -/
def Grip.hold? : Grip → Option Hold
  | .inside hold => some hold
  | _ => none

/-- A session as those see it who open or close a bridge, and leave it in a state as `final` says. -/
def System.moving (number : Nat) (intact : Prop) (final : BridgeState → Prop) :
    Surroundings System Grip where
  answers
    | .outside, .bridge _ .lock, _, after =>
      ∃ bridge : Bridge, bridge.Settled ∧ after = .inside { bridge }
    | .inside hold, .bridge _ .state, state, after =>
      state = hold.bridge.state ∧ after = .inside hold
    | .inside hold, .bridge _ (.enter state), _, after =>
      after = .inside { hold with bridge := { hold.bridge with state } }
    | .inside hold, .bridge _ .startQueue, _, after =>
      ∃ queue, after = .inside { hold with bridge := { hold.bridge with queue := some queue } }
    | .inside hold, .bridge _ .takeQueue, queue, after =>
      queue = hold.bridge.queue ∧
        after = .inside ⟨{ hold.bridge with queue := none }, hold.bridge.queue.map (·, .running)⟩
    | .inside _, .bridge _ .unlock, _, after => after = .through
    | .inside hold, .queue queue (.perform .beginStop), reply, after =>
      (intact → ∃ job, reply = .ok (some job)) ∧
        after = .inside { hold with leaving := some (queue, .stopped) }
    | .inside hold, .queue queue .drained, _, after =>
      after = .inside { hold with leaving := some (queue, .drained) }
    | grip, _, _, after => after = grip
  others grip later := later = grip
  permits
    | .outside, .bridge other access => other = number ∧ access = .lock
    | .inside hold, .bridge other access => other = number ∧ hold.Permits intact final access
    | .inside hold, .queue queue (.perform action) =>
      action = .beginStop ∧ hold.leaving = some (queue, .running)
    | .inside hold, .queue queue .drained => hold.leaving = some (queue, .stopped)
    | .inside _, _ => True
    | _, _ => False
  others_refl _ := rfl
  others_trans h h' := h'.trans h

namespace System

variable {number : Nat} {intact : Prop} {final : BridgeState → Prop} {grip : Grip}

theorem cases_of_moving {request : SystemRequest}
    (permitted : (System.moving number intact final).permits grip request) :
    grip = .outside ∧ request = .bridge number .lock ∨ ∃ hold, grip = .inside hold := by
  cases grip with
  | through => cases request <;> exact permitted.elim
  | inside hold => exact .inr ⟨hold, rfl⟩
  | outside =>
    cases request with
    | bridge other access =>
      obtain ⟨rfl, rfl⟩ := permitted
      exact .inl ⟨rfl, rfl⟩
    | _ => exact permitted.elim

theorem own_of_moving {other : Nat} {access : BridgeRequest}
    (permitted : (System.moving number intact final).permits grip (.bridge other access)) :
    other = number := by
  rcases cases_of_moving permitted with ⟨rfl, -⟩ | ⟨hold, rfl⟩ <;> exact permitted.1

end System

/-! ## Indices are set up apart -/

theorem SystemRequest.Waits.apart {request : SystemRequest} (h : request.Waits) : request.Apart := by
  cases request <;> trivial

namespace System

variable {route : Route} {schema : SchemaSource} {table : Nat}

theorem apart_first (request : LinkRequest) : (request.first route).Apart := by
  cases request <;> trivial

theorem link_apart (request : LinkRequest) :
    (System.link route request).Asks SystemRequest.Apart fun _ => True :=
  asks_link (fun _ => SystemRequest.Waits.apart) (apart_first request)

theorem administering_apart (request : Administering.Request) :
    (System.administering route schema table request).Asks SystemRequest.Apart fun _ => True :=
  asks_administering (fun _ => SystemRequest.Waits.apart) (fun made _ => apart_first made)
    (fun _ => trivial) (fun _ => trivial)

end System

/-! ## The procedures -/

variable {α : Type} {route : Route} {schema : SchemaSource} {table number : Nat} {intact : Prop}
  {final : BridgeState → Prop} {post : α → Grip → Prop} {hold : Hold}

theorem System.moving_ask {request : SystemRequest} {next : System.Reply request → Procedure System α}
    {grip : Grip} (permitted : (System.moving number intact final).permits grip request)
    (rest : ∀ reply after, (System.moving number intact final).answers grip request reply after →
      (next reply).Ensures (System.moving number intact final) post after) :
    (Procedure.ask (p := System) request next).Ensures (System.moving number intact final) post
      grip := by
  rintro later rfl
  exact ⟨permitted, rest⟩

theorem Procedure.Asks.moving {gives : α → Prop} {procedure : Procedure System α}
    (h : procedure.Asks SystemRequest.Apart gives) :
    procedure.Ensures (System.moving number intact final)
      (fun result grip => gives result ∧ grip = .inside hold) (.inside hold) := by
  refine h.ensures ?_ id
  intro request apart
  cases request with
  | bridge other request => exact apart.elim
  | queue other request => exact apart.elim
  | _ => exact ⟨trivial, fun _ _ => id⟩

namespace Lifecycle

theorem enter_ensures {state : BridgeState} {rest : Unit → Procedure Living α}
    (permitted : state = .ready → hold.bridge.queue.isSome = true)
    (h : ((rest ()).expand (System.living route schema table number)).Ensures
      (System.moving number intact final) post
      (.inside { hold with bridge := { hold.bridge with state } })) :
    (((enter state).bind rest).expand (System.living route schema table number)).Ensures
      (System.moving number intact final) post (.inside hold) := by
  refine System.moving_ask ⟨rfl, permitted⟩ ?_
  rintro _ _ rfl
  refine System.moving_ask trivial ?_
  rintro _ _ rfl
  exact h

theorem unlock_ensures {result : α} (settled : hold.bridge.Settled) (ends : final hold.bridge.state)
    (drained : intact → ∀ queue stage, hold.leaving = some (queue, stage) → stage = .drained) :
    (((access .unlock).bind fun _ => .done result).expand
      (System.living route schema table number)).Ensures (System.moving number intact final)
      (fun _ grip => grip = .through) (.inside hold) := by
  refine System.moving_ask ⟨rfl, settled, ends, drained⟩ ?_
  rintro _ _ rfl
  exact fun _ ho => ho

theorem close_ensures {result : Except BridgeError Unit} (empty : hold.bridge.queue = none)
    (drained : intact → ∀ queue stage, hold.leaving = some (queue, stage) → stage = .drained) :
    (((enter .closed).bind fun _ => (access .unlock).bind fun _ => .done result).expand
      (System.living route schema table number)).Ensures (System.moving number intact (· = .closed))
      (fun _ grip => grip = .through) (.inside hold) := by
  refine enter_ensures nofun ?_
  exact unlock_ensures ⟨.inr (.inr rfl), by simp [empty]⟩ rfl drained

theorem asks_setUp (admin : IndexAdmin) (recreates : Bool) :
    ((setUp admin recreates).expand (System.living route schema table number)).Asks
      SystemRequest.Apart fun _ => True := by
  unfold setUp
  split
  · exact .expand_left (fun request _ => System.administering_apart request) (.any _)
  · exact .expand_left (fun request _ => System.administering_apart request) (.any _)

end Lifecycle

/-- **Opening a bridge** keeps everything in order, whatever becomes of the indices. -/
theorem Session.opening_ensures (session : Session) (number : Nat) (host : HostedBridge) :
    (session.opening number host).Ensures (System.moving number intact fun _ => True)
      (fun _ grip => grip = .through) .outside := by
  refine System.moving_ask ⟨rfl, rfl⟩ ?_
  rintro _ _ ⟨bridge, settled, rfl⟩
  refine System.moving_ask ⟨rfl, trivial⟩ ?_
  rintro _ _ ⟨rfl, rfl⟩
  dsimp only [Procedure.bind]
  by_cases ready : bridge.state = .ready
  · rw [if_pos ready]
    exact Lifecycle.unlock_ensures settled trivial fun _ _ _ => nofun
  rw [if_neg ready]
  have empty := settled.empty ready
  refine Lifecycle.enter_ensures nofun ?_
  change ((Procedure.bind _ _).expand _).Ensures _ _ _
  rw [Procedure.expand_bind]
  refine .bind (.weaken ?_ (Lifecycle.asks_setUp _ _).moving)
  rintro result _ ⟨-, rfl⟩
  cases result with
  | error cause =>
    refine Lifecycle.enter_ensures nofun ?_
    refine Lifecycle.unlock_ensures ⟨.inl rfl, ?_⟩ trivial fun _ _ _ => nofun
    simp [empty]
  | ok _ =>
    refine System.moving_ask ⟨rfl, empty, rfl⟩ ?_
    rintro _ _ ⟨queue, rfl⟩
    refine Lifecycle.enter_ensures (fun _ => rfl) ?_
    exact Lifecycle.unlock_ensures ⟨.inr (.inl rfl), by simp⟩ trivial fun _ _ _ => nofun

/-- **Closing a bridge** keeps everything in order, and leaves it closed. If writers do not break down
then the queue that leaves is drained, also when its last job fails. -/
theorem HostedBridge.closing_ensures (host : HostedBridge) (number : Nat) :
    (host.closing number).Ensures (System.moving number intact (· = .closed))
      (fun _ grip => grip = .through) .outside := by
  refine System.moving_ask ⟨rfl, rfl⟩ ?_
  rintro _ _ ⟨bridge, settled, rfl⟩
  refine System.moving_ask ⟨rfl, trivial⟩ ?_
  rintro _ _ ⟨rfl, rfl⟩
  dsimp only [Procedure.bind]
  by_cases ready : bridge.state = .ready
  swap
  · rw [if_neg ready]
    exact Lifecycle.close_ensures (settled.empty ready) fun _ _ _ => nofun
  rw [if_pos ready]
  refine Lifecycle.enter_ensures nofun ?_
  refine System.moving_ask ⟨rfl, nofun, rfl⟩ ?_
  rintro _ _ ⟨rfl, rfl⟩
  obtain ⟨queue, present⟩ := Option.isSome_iff_exists.mp (settled.queue.mpr ready)
  dsimp only
  rw [present]
  refine System.moving_ask ⟨rfl, rfl⟩ ?_
  rintro reply _ ⟨waits, rfl⟩
  rcases reply with cause | _ | job
  · refine Lifecycle.close_ensures rfl fun whole => ?_
    obtain ⟨job, hj⟩ := waits whole
    cases hj
  · refine Lifecycle.close_ensures rfl fun whole => ?_
    obtain ⟨job, hj⟩ := waits whole
    cases hj
  · refine System.moving_ask trivial ?_
    rintro result _ rfl
    refine System.moving_ask rfl ?_
    rintro _ _ rfl
    refine Lifecycle.close_ensures rfl fun _ queue stage leaves => ?_
    cases leaves
    rfl

end EntitySearch
