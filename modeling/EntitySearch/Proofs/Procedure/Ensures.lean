import EntitySearch.Engine.Link
import Mathlib.Tactic.Common

/-!
# What a procedure ensures

A procedure makes its requests while other tasks go on: between any two of its requests, and before
its end counts, others may change the state. It ensures something of its result and of the state if
that holds whatever replies it gets and whatever the others do in between, as far as they keep to
what is assumed of them.

* `Surroundings`: the replies to requests, what others do, and the requests that may be made.
* `Procedure.Ensures`: what a procedure ensures from a state on.
* `Ensures.weaken`, `Ensures.later`: its consequences, and what others cannot spoil.
* `Ensures.bind`, `ensures_request`, `Ensures.left`, `Ensures.expand`: procedures made of others.
* `Ensures.follow`, `Ensures.project`: the same in other surroundings, or with less noted of the state.
* `Procedure.Asks`: the requests that a procedure may make; `Asks.ensures`; `Link.asks_retried`.
* `Link.Attempted`, `Link.Ended`, `Link.retried_ensures`: a request that is sent again.
-/

namespace EntitySearch

/-- Who answers the requests of a procedure, and what others do between them. -/
structure Surroundings (p : Protocol) (σ : Type) where
  /-- The replies to a request in a state, each with the state after it. -/
  answers : σ → (request : p.Request) → p.Reply request → σ → Prop
  /-- What others may do to a state between two requests. -/
  others : σ → σ → Prop
  /-- The requests that may be made in a state. -/
  permits : σ → p.Request → Prop
  others_refl : ∀ state, others state state
  others_trans : ∀ {first second third}, others first second → others second third →
    others first third

namespace Surroundings

variable {p q : Protocol} {σ : Type}

/-- The surroundings of a procedure that makes requests of one kind only. -/
def left (around : Surroundings (p.or q) σ) : Surroundings p σ where
  answers state request := around.answers state (.inl request)
  others := around.others
  permits state request := around.permits state (.inl request)
  others_refl := around.others_refl
  others_trans := around.others_trans

/-- A state that answers requests, if nobody else changes it. -/
def serving (serve? : σ → (request : p.Request) → Option (p.Reply request × σ)) :
    Surroundings p σ where
  answers state request reply after := serve? state request = some (reply, after)
  others state later := later = state
  permits state request := (serve? state request).isSome = true
  others_refl _ := rfl
  others_trans h h' := h'.trans h

/-- What somebody keeps in mind of the requests that are made, and nobody else changes. -/
def noting (note : σ → (request : p.Request) → p.Reply request → σ)
    (permits : σ → p.Request → Prop) : Surroundings p σ where
  answers state request reply after := after = note state request reply
  others state later := later = state
  permits := permits
  others_refl _ := rfl
  others_trans h h' := h'.trans h

/-- Whether others keep a property of the state. -/
def Keeps (around : Surroundings p σ) (property : σ → Prop) : Prop :=
  ∀ {state later}, around.others state later → property state → property later

end Surroundings

variable {p q : Protocol} {σ α β : Type} {around : Surroundings p σ}

namespace Procedure

/-- Whether a procedure makes only requests that may be made and comes, if it comes to its end, to
a result and a state as `post` says. -/
def Ensures (around : Surroundings p σ) (post : α → σ → Prop) : Procedure p α → σ → Prop
  | .done result, state => ∀ later, around.others state later → post result later
  | .ask request next, state => ∀ later, around.others state later →
    around.permits later request ∧ ∀ reply after, around.answers later request reply after →
      (next reply).Ensures around post after

namespace Ensures

/-- What follows from something that is ensured is ensured. -/
theorem weaken {post weaker : α → σ → Prop} (h : ∀ result state, post result state →
    weaker result state) : ∀ {procedure : Procedure p α} {state : σ},
      procedure.Ensures around post state → procedure.Ensures around weaker state
  | .done result, _, hp => fun later ho => h result later (hp later ho)
  | .ask _ next, _, hp => fun later ho =>
    ⟨(hp later ho).1, fun reply after ha =>
      weaken h ((hp later ho).2 reply after ha : (next reply).Ensures around post after)⟩

/-- Others do not spoil what is ensured. -/
theorem later {post : α → σ → Prop} {procedure : Procedure p α} {state later : σ}
    (h : procedure.Ensures around post state) (ho : around.others state later) :
    procedure.Ensures around post later := by
  cases procedure with
  | done result => exact fun last hl => h last (around.others_trans ho hl)
  | ask request next => exact fun last hl => h last (around.others_trans ho hl)

/-- One procedure after the other. -/
theorem bind {post : β → σ → Prop} {f : α → Procedure p β} :
    ∀ {procedure : Procedure p α} {state : σ},
      procedure.Ensures around (fun result => (f result).Ensures around post) state →
        (procedure.bind f).Ensures around post state
  | .done _, state, h => h state (around.others_refl state)
  | .ask _ next, _, h => fun later ho =>
    ⟨(h later ho).1, fun reply after ha =>
      bind ((h later ho).2 reply after ha :
        (next reply).Ensures around (fun result => (f result).Ensures around post) after)⟩

end Ensures

theorem ensures_request {request : p.Request} {post : p.Reply request → σ → Prop} {state : σ}
    (keeps : ∀ reply, around.Keeps (post reply)) (h : ∀ later, around.others state later →
      around.permits later request ∧ ∀ reply after, around.answers later request reply after →
        post reply after) :
    (Procedure.request request).Ensures around post state :=
  fun later ho => ⟨(h later ho).1, fun reply after ha _ hl =>
    keeps reply hl ((h later ho).2 reply after ha)⟩

theorem bind_assoc {γ : Type} {f : α → Procedure p β} {g : β → Procedure p γ} :
    ∀ procedure : Procedure p α, (procedure.bind f).bind g = procedure.bind fun r => (f r).bind g
  | .done _ => rfl
  | .ask request next => congrArg (Procedure.ask request) (funext fun reply => bind_assoc (next reply))

theorem expand_bind {carryOut : (request : p.Request) → Procedure q (p.Reply request)}
    {f : α → Procedure p β} : ∀ procedure : Procedure p α,
      (procedure.bind f).expand carryOut =
        (procedure.expand carryOut).bind fun result => (f result).expand carryOut
  | .done _ => rfl
  | .ask request next => by
    rw [Procedure.bind, Procedure.expand, Procedure.expand, bind_assoc]
    exact congrArg _ (funext fun reply => expand_bind (next reply))

namespace Ensures

/-- A procedure among more requests. -/
theorem left {around : Surroundings (p.or q) σ} {post : α → σ → Prop} :
    ∀ {procedure : Procedure p α} {state : σ},
      procedure.Ensures around.left post state →
        (procedure.left : Procedure (p.or q) α).Ensures around post state
  | .done _, _, h => h
  | .ask _ next, _, h => fun later ho =>
    ⟨(h later ho).1, fun reply after ha =>
      left ((h later ho).2 reply after ha : (next reply).Ensures around.left post after)⟩

/-- A procedure whose requests are carried out by procedures that ensure the replies. -/
theorem expand {within : Surroundings q σ}
    {carryOut : (request : p.Request) → Procedure q (p.Reply request)}
    (same : ∀ {state later}, within.others state later → around.others state later)
    (carries : ∀ request state, around.permits state request →
      (carryOut request).Ensures within (around.answers state request) state)
    {post : α → σ → Prop} : ∀ {procedure : Procedure p α} {state : σ},
      procedure.Ensures around post state → (procedure.expand carryOut).Ensures within post state
  | .done _, _, h => fun later ho => h later (same ho)
  | .ask request next, state, h => by
    obtain ⟨permitted, hn⟩ := h state (around.others_refl state)
    exact bind (weaken (fun reply after ha => expand same carries (hn reply after ha))
      (carries request state permitted))

/-- A procedure ensures the same in surroundings in which everything has a counterpart. -/
theorem follow {τ : Type} {seen : Surroundings p τ} (sees : σ → τ → Prop)
    (others : ∀ {state view last}, sees state view → seen.others view last →
      ∃ later, around.others state later ∧ sees later last)
    (permits : ∀ {state view request}, sees state view → around.permits state request →
      seen.permits view request)
    (answers : ∀ {state view request reply last}, sees state view →
      seen.answers view request reply last →
        ∃ after, around.answers state request reply after ∧ sees after last)
    {post : α → σ → Prop} : ∀ {procedure : Procedure p α} {state : σ} {view : τ},
      sees state view → procedure.Ensures around post state →
        procedure.Ensures seen (fun result last => ∃ later, post result later ∧ sees later last) view
  | .done _, _, _, hs, h => by
    intro last hl
    obtain ⟨later, ho, same⟩ := others hs hl
    exact ⟨later, h later ho, same⟩
  | .ask _ next, _, _, hs, h => by
    intro last hl
    obtain ⟨later, ho, same⟩ := others hs hl
    obtain ⟨permitted, hn⟩ := h later ho
    refine ⟨permits same permitted, fun reply last hr => ?_⟩
    obtain ⟨after, ha, same⟩ := answers same hr
    exact follow sees others permits answers same (hn reply after ha)

/-- Less may be seen of a state than is known of it. -/
theorem project {τ : Type} {seen : Surroundings p τ} (view : σ → τ)
    (others : ∀ {state last}, seen.others (view state) last →
      ∃ later, around.others state later ∧ view later = last)
    (permits : ∀ {state request}, around.permits state request →
      seen.permits (view state) request)
    (answers : ∀ {state request reply last}, seen.answers (view state) request reply last →
      ∃ after, around.answers state request reply after ∧ view after = last)
    {post : α → τ → Prop} {procedure : Procedure p α} {state : σ}
    (h : procedure.Ensures around (fun result later => post result (view later)) state) :
    procedure.Ensures seen post (view state) := by
  refine weaken ?_ (h.follow (fun state seen => view state = seen) ?_ ?_ ?_ rfl)
  · rintro result _ ⟨later, hp, rfl⟩
    exact hp
  · rintro state _ last rfl hl
    exact others hl
  · rintro state _ request rfl permitted
    exact permits permitted
  · rintro state _ request reply last rfl hr
    exact answers hr

end Ensures

end Procedure

/-! ## Requests that change nothing -/

/-- Whether all requests of a procedure are allowed and all its results as given, whatever replies it
gets. -/
def Procedure.Asks (allowed : p.Request → Prop) (gives : α → Prop) : Procedure p α → Prop
  | .done result => gives result
  | .ask request next => allowed request ∧ ∀ reply, (next reply).Asks allowed gives

namespace Procedure.Asks

variable {allowed : p.Request → Prop} {allowed' : q.Request → Prop} {gives : α → Prop}

theorem any : ∀ procedure : Procedure p α, procedure.Asks (fun _ => True) fun _ => True
  | .done _ => trivial
  | .ask _ next => ⟨trivial, fun reply => any (next reply)⟩

theorem bind {gives' : β → Prop} {f : α → Procedure p β}
    (rest : ∀ result, gives result → (f result).Asks allowed gives') :
    ∀ {procedure : Procedure p α}, procedure.Asks allowed gives →
      (procedure.bind f).Asks allowed gives'
  | .done result, h => rest result h
  | .ask _ _, h => ⟨h.1, fun reply => bind rest (h.2 reply)⟩

theorem bind_iff {gives' : β → Prop} {f : α → Procedure p β} :
    ∀ {procedure : Procedure p α}, (procedure.bind f).Asks allowed gives' ↔
      procedure.Asks allowed fun result => (f result).Asks allowed gives'
  | .done _ => .rfl
  | .ask _ _ => and_congr_right fun _ => forall_congr' fun _ => bind_iff

theorem iff_of_gives (all : ∀ result, gives result) :
    ∀ {procedure : Procedure p α}, procedure.Asks allowed gives ↔
      procedure.Asks allowed fun _ => True
  | .done result => iff_true_intro (all result)
  | .ask _ _ => and_congr_right fun _ => forall_congr' fun _ => iff_of_gives all

theorem left_iff {allowed : (p.or q).Request → Prop} :
    ∀ {procedure : Procedure p α}, (procedure.left : Procedure (p.or q) α).Asks allowed gives ↔
      procedure.Asks (fun request => allowed (.inl request)) gives
  | .done _ => .rfl
  | .ask _ _ => and_congr_right fun _ => forall_congr' fun _ => left_iff

/-- A procedure asks what those ask that carry its requests out. -/
theorem expand {carryOut : (request : p.Request) → Procedure q (p.Reply request)}
    (carries : ∀ request, allowed request → (carryOut request).Asks allowed' fun _ => True) :
    ∀ {procedure : Procedure p α}, procedure.Asks allowed gives →
      (procedure.expand carryOut).Asks allowed' gives
  | .done _, h => h
  | .ask request _, h => bind (fun reply _ => expand carries (h.2 reply)) (carries request h.1)

/-- A procedure among more requests asks what those ask that carry its own out. -/
theorem expand_left {r : Protocol} {carried : r.Request → Prop}
    {carryOut : (request : (p.or q).Request) → Procedure r ((p.or q).Reply request)}
    (carries : ∀ request : p.Request, allowed request →
      (carryOut (.inl request)).Asks carried fun _ => True) :
    ∀ {procedure : Procedure p α}, procedure.Asks allowed gives →
      ((procedure.left : Procedure (p.or q) α).expand carryOut).Asks carried gives
  | .done _, h => h
  | .ask request _, h =>
    bind (fun reply _ => expand_left carries (h.2 reply)) (carries request h.1)

theorem and {other : p.Request → Prop} : ∀ {procedure : Procedure p α},
    procedure.Asks allowed gives → procedure.Asks other (fun _ => True) →
      procedure.Asks (fun request => allowed request ∧ other request) gives
  | .done _, h, _ => h
  | .ask _ _, h, ho => ⟨⟨h.1, ho.1⟩, fun reply => and (h.2 reply) (ho.2 reply)⟩

theorem before {isLast : p.Request → Bool} {first : Procedure p Unit}
    (breaks : first.Asks allowed fun _ => True) : ∀ {procedure : Procedure p α},
      procedure.Asks allowed gives → (Procedure.before first isLast procedure).Asks allowed gives
  | .done _, h => h
  | .ask request _, h => by
    have rest : (Procedure.ask request fun reply => Procedure.before first isLast _).Asks allowed
        gives := ⟨h.1, fun reply => before breaks (h.2 reply)⟩
    unfold Procedure.before
    by_cases last : isLast request = true
    · rw [if_pos last]
      exact bind (fun _ _ => rest) breaks
    · rw [if_neg last]
      exact rest

theorem closing {isLast : p.Request → Bool} {last : α → Procedure p Unit} {broken : Procedure p Unit}
    {procedure : Procedure p α} (h : procedure.Asks allowed gives)
    (lasts : ∀ result, (last result).Asks allowed fun _ => True)
    (breaks : broken.Asks allowed fun _ => True) :
    (procedure.closing isLast last broken).Asks allowed gives := by
  refine bind (fun result given => ?_) (before breaks h)
  refine bind (fun _ _ => ?_) (lasts result)
  exact given

/-- If the allowed requests may be made in a state and do not change it, then a procedure does not
change it. -/
theorem ensures {state : σ} (idle : ∀ request, allowed request → around.permits state request ∧
      ∀ reply after, around.answers state request reply after → after = state)
    (still : ∀ {later}, around.others state later → later = state) :
    ∀ {procedure : Procedure p α}, procedure.Asks allowed gives →
      procedure.Ensures around (fun result later => gives result ∧ later = state) state
  | .done _, h => fun _ ho => ⟨h, still ho⟩
  | .ask request next, h => by
    intro later ho
    rw [still ho]
    obtain ⟨permitted, same⟩ := idle request h.1
    refine ⟨permitted, fun reply after ha => ?_⟩
    rw [same reply after ha]
    exact ensures idle still (h.2 reply)

end Procedure.Asks

/-! ## Requests that are sent again -/

namespace Link

open Procedure

variable {σ : Type} {around : Surroundings Link σ} {call : Call}

/-- What is asked for by a request that is sent again. -/
theorem asks_retried {allowed : Link.Request → Prop} (sends : allowed (.call call))
    (records : ∀ operation, allowed (.record (.retry operation)))
    (waits : ∀ delay, allowed (.wait delay)) (abandons : allowed .abandon) (policy : RetryPolicy)
    (operation : String) :
    (Link.retried policy operation call).Asks allowed fun _ => True := by
  refine .expand (fun request _ => ?_) (.any _)
  cases request with
  | attempt => exact ⟨sends, fun _ => trivial⟩
  | pause delay => exact ⟨records _, fun _ => ⟨waits _, fun _ => trivial⟩⟩
  | abandon => exact ⟨abandons, nofun⟩

/-- What is ensured of an attempt at a request: an error that may pass must be such that the request
may be broken off after it. -/
def Attempted (around : Surroundings Link σ) (success : call.Answer → σ → Prop)
    (failure : σ → Prop) : call.Outcome → σ → Prop
  | .ok answer, state => success answer state
  | .error error, state =>
    failure state ∧ (error.isRetryable = true →
      ∀ later, around.others state later → around.permits later LinkRequest.abandon)

/-- What is ensured of the attempts at a request when they have ended. -/
def Ended (success : call.Answer → σ → Prop) (failure : σ → Prop) :
    Except (Exhausted EngineError) call.Answer → σ → Prop
  | .ok answer, state => success answer state
  | .error _, state => failure state

variable {before failure : σ → Prop} {success : call.Answer → σ → Prop}
  (keepsFailure : around.Keeps failure) (keepsSuccess : ∀ answer, around.Keeps (success answer))
  (again : ∀ {state}, failure state → before state)
  (attempt : ∀ {state}, before state →
    (Link.call call).Ensures around (Attempted around success failure) state)
  (record : ∀ measurement {state}, before state →
    (Link.record measurement).Ensures around (fun _ => before) state)
  (wait : ∀ delay {state}, before state →
    (Procedure.ask (p := Link) (.wait delay) .done).Ensures around (fun _ => before) state)

include keepsFailure keepsSuccess again attempt record wait

/-- The attempts that are left. What an attempt relies on holds again after every failed one. -/
theorem retryFrom_ensures (policy : RetryPolicy) (operation : String) (left : Nat) :
    ∀ (attempts : Nat) {state : σ}, before state →
      ((policy.retryFrom EngineError.isRetryable attempts left).expand
        (Link.attempt operation call)).Ensures around (Ended success failure) state := by
  induction left with
  | zero =>
    intro attempts state h
    refine Ensures.bind (Ensures.weaken ?_ (attempt h))
    intro outcome after ho
    cases outcome with
    | ok answer => exact fun later hl => keepsSuccess answer hl ho
    | error error => exact fun later hl => keepsFailure hl ho.1
  | succ left ih =>
    intro attempts state h
    refine Ensures.bind (Ensures.weaken ?_ (attempt h))
    intro outcome after ho
    cases outcome with
    | ok answer => exact fun later hl => keepsSuccess answer hl ho
    | error error =>
      dsimp only
      by_cases hr : error.isRetryable = true
      swap
      · rw [if_neg hr]
        exact fun later hl => keepsFailure hl ho.1
      rw [if_pos hr]
      cases policy.delayFor attempts with
      | none => exact fun later hl => ⟨ho.2 hr later hl, nofun⟩
      | some delay =>
        refine Ensures.bind (Ensures.bind (Ensures.weaken ?_ (record _ (again ho.1))))
        intro _ recorded hb
        refine Ensures.weaken ?_ (wait delay hb)
        intro _ waited hb
        exact ih (attempts + 1) hb

/-- **A request that is sent again** ensures what its last attempt ensures, if what an attempt
relies on holds again after every failed one. After an error that may pass it may have to be broken
off. -/
theorem retried_ensures (policy : RetryPolicy) (operation : String) {state : σ} (h : before state) :
    (Link.retried policy operation call).Ensures around (Ended success failure) state :=
  retryFrom_ensures keepsFailure keepsSuccess again attempt record wait policy operation _ 1 h

end Link

end EntitySearch
