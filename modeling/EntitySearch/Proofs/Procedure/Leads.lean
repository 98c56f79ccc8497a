import EntitySearch.Procedure
import Mathlib.Tactic.Common

/-!
# Where a procedure leads to

A procedure that nobody interferes with goes from state to state, one for each of its requests, until
it has a result or makes a request that breaks it off. What is known of the whole way is put together
from what is known of its parts, so every way of making a procedure of others comes with a lemma that
takes it apart again.

* `Service`: who answers the requests, and which of them break off.
* `Procedure.Leads`: from which state to which, and with which result; none if it is broken off.
* `Leads.of_bind`, `Leads.of_request`, `Leads.of_left`, `Leads.of_right`, `Leads.of_closing`: the parts
  of a procedure; `Leads.of_closing_idle` if what is done at the end changes nothing.
* `Leads.bind`, `Leads.request`, `Leads.left`, `Leads.closing`: a procedure that is made of parts.
* `Leads.map`: the same way through other states.
* `Leads.of_run`, `Leads.to_run`: what a state answers that follows the service;
  `Procedure.relates_of_run`.
-/

namespace EntitySearch

/-- Who answers the requests of a procedure that nobody interferes with. -/
structure Service (p : Protocol) (σ : Type) where
  /-- The replies to a request in a state, each with the state after it. -/
  answers : σ → (request : p.Request) → p.Reply request → σ → Prop
  /-- The requests that break off. -/
  isLast : p.Request → Bool
  /-- They have no reply. -/
  halts : ∀ {state request reply after}, isLast request = true →
    ¬ answers state request reply after

namespace Service

variable {p q : Protocol} {σ : Type}

/-- The service to a procedure that makes requests of the first kind only. -/
def left (service : Service (p.or q) σ) : Service p σ where
  answers state request := service.answers state (.inl request)
  isLast request := service.isLast (.inl request)
  halts := service.halts

/-- The service to a procedure that makes requests of the second kind only. -/
def right (service : Service (p.or q) σ) : Service q σ where
  answers state request := service.answers state (.inr request)
  isLast request := service.isLast (.inr request)
  halts := service.halts

end Service

namespace Procedure

variable {p q : Protocol} {σ τ α β : Type}

/-- Whether a procedure can lead from one state to another with a result, or without one if it is
broken off. -/
inductive Leads (service : Service p σ) : Procedure p α → σ → Option α → σ → Prop
  | done (result : α) (state : σ) : Leads service (.done result) state (some result) state
  | ask {request next state reply after outcome last}
      (answered : service.answers state request reply after)
      (rest : Leads service (next reply) after outcome last) :
      Leads service (.ask request next) state outcome last
  | broken {request next state} (breaks : service.isLast request = true) :
      Leads service (.ask request next) state none state

namespace Leads

variable {service : Service p σ} {state last : σ}

/-! ## Parts of a procedure -/

theorem of_done {result : α} {outcome : Option α}
    (h : (Procedure.done result : Procedure p α).Leads service state outcome last) :
    outcome = some result ∧ last = state := by
  cases h with
  | done => exact ⟨rfl, rfl⟩

theorem of_bind {f : α → Procedure p β} {procedure : Procedure p α} {outcome : Option β}
    (h : (procedure.bind f).Leads service state outcome last) :
    (∃ result between, procedure.Leads service state (some result) between ∧
      (f result).Leads service between outcome last) ∨
    (outcome = none ∧ procedure.Leads service state none last) := by
  induction procedure generalizing state with
  | done result => exact .inl ⟨result, state, .done result state, h⟩
  | ask request next ih =>
    cases h with
    | broken breaks => exact .inr ⟨rfl, .broken breaks⟩
    | ask answered rest =>
      rcases ih _ rest with ⟨result, between, first, second⟩ | ⟨rfl, first⟩
      · exact .inl ⟨result, between, .ask answered first, second⟩
      · exact .inr ⟨rfl, .ask answered first⟩

/-- A request that does not break off is answered. -/
theorem of_request {request : p.Request} (goes : service.isLast request = false)
    {outcome : Option (p.Reply request)}
    (h : (Procedure.request request).Leads service state outcome last) :
    ∃ reply, outcome = some reply ∧ service.answers state request reply last := by
  cases h with
  | broken breaks => exact absurd (goes.symm.trans breaks) Bool.false_ne_true
  | ask answered rest =>
    obtain ⟨rfl, rfl⟩ := of_done rest
    exact ⟨_, rfl, answered⟩

theorem of_request_bind {request : p.Request} (goes : service.isLast request = false)
    {f : p.Reply request → Procedure p β} {outcome : Option β}
    (h : ((Procedure.request request).bind f).Leads service state outcome last) :
    ∃ reply between, service.answers state request reply between ∧
      (f reply).Leads service between outcome last := by
  rcases of_bind h with ⟨reply, between, first, second⟩ | ⟨rfl, first⟩
  · obtain ⟨_, same, answered⟩ := of_request goes first
    cases same
    exact ⟨reply, between, answered, second⟩
  · obtain ⟨_, impossible, -⟩ := of_request goes first
    cases impossible

theorem of_left {service : Service (p.or q) σ} {procedure : Procedure p α} {outcome : Option α}
    (h : (procedure.left : Procedure (p.or q) α).Leads service state outcome last) :
    procedure.Leads service.left state outcome last := by
  induction procedure generalizing state with
  | done result =>
    obtain ⟨rfl, rfl⟩ := of_done h
    exact .done _ _
  | ask request next ih =>
    cases h with
    | broken breaks => exact .broken breaks
    | ask answered rest =>
      refine .ask ?_ (ih _ rest)
      exact answered

theorem of_right {service : Service (p.or q) σ} {procedure : Procedure q α} {outcome : Option α}
    (h : (procedure.right : Procedure (p.or q) α).Leads service state outcome last) :
    procedure.Leads service.right state outcome last := by
  induction procedure generalizing state with
  | done result =>
    obtain ⟨rfl, rfl⟩ := of_done h
    exact .done _ _
  | ask request next ih =>
    cases h with
    | broken breaks => exact .broken breaks
    | ask answered rest =>
      refine .ask ?_ (ih _ rest)
      exact answered

theorem of_kept {view : σ → τ} (kept : ∀ {state request reply after},
      service.answers state request reply after → view after = view state)
    {procedure : Procedure p α} {outcome : Option α}
    (h : procedure.Leads service state outcome last) : view last = view state := by
  induction h with
  | done => rfl
  | ask answered _ ih => rw [ih, kept answered]
  | broken => rfl

theorem of_still (still : ∀ {state request reply after},
      service.answers state request reply after → after = state)
    {procedure : Procedure p α} {outcome : Option α}
    (h : procedure.Leads service state outcome last) : last = state := by
  have same : id last = id state := of_kept still h
  exact same

/-! ## Procedures made of parts -/

theorem bind {f : α → Procedure p β} {procedure : Procedure p α} {outcome : Option β} {result : α}
    {between : σ} (first : procedure.Leads service state (some result) between)
    (second : (f result).Leads service between outcome last) :
    (procedure.bind f).Leads service state outcome last := by
  induction procedure generalizing state with
  | done =>
    obtain ⟨same, rfl⟩ := of_done first
    cases same
    exact second
  | ask request next ih =>
    cases first with
    | ask answered rest => exact .ask answered (ih _ rest)

theorem bind_none {f : α → Procedure p β} {procedure : Procedure p α}
    (broken : procedure.Leads service state none last) :
    (procedure.bind f).Leads service state none last := by
  induction procedure generalizing state with
  | done => cases broken
  | ask request next ih =>
    cases broken with
    | broken breaks => exact .broken breaks
    | ask answered rest => exact .ask answered (ih _ rest)

theorem request {request : p.Request} {reply : p.Reply request}
    (answered : service.answers state request reply last) :
    (Procedure.request request).Leads service state (some reply) last :=
  .ask answered (.done reply last)

theorem left {service : Service (p.or q) σ} {procedure : Procedure p α} {outcome : Option α}
    (h : procedure.Leads service.left state outcome last) :
    (procedure.left : Procedure (p.or q) α).Leads service state outcome last := by
  induction h with
  | done result state => exact .done result state
  | ask answered _ ih =>
    refine .ask ?_ ih
    exact answered
  | broken breaks =>
    refine .broken ?_
    exact breaks

/-! ## Procedures with something at their end -/

theorem of_before {first : Procedure p Unit} {procedure : Procedure p α} {outcome : Option α}
    (h : (before first service.isLast procedure).Leads service state outcome last) :
    (∃ result, outcome = some result ∧ procedure.Leads service state (some result) last) ∨
    (outcome = none ∧ ∃ between ended, procedure.Leads service state none between ∧
      first.Leads service between ended last) := by
  induction procedure generalizing state with
  | done result =>
    obtain ⟨rfl, rfl⟩ := of_done h
    exact .inl ⟨result, rfl, .done result _⟩
  | ask request next ih =>
    rw [before] at h
    split at h
    · next breaks =>
      refine .inr ?_
      rcases of_bind h with ⟨_, between, leads, stop⟩ | ⟨rfl, leads⟩
      · cases stop with
        | broken => exact ⟨rfl, state, _, .broken breaks, leads⟩
        | ask answered rest => exact absurd answered (service.halts breaks)
      · exact ⟨rfl, state, _, .broken breaks, leads⟩
    · next goes =>
      cases h with
      | broken breaks => exact absurd breaks goes
      | ask answered rest =>
        rcases ih _ rest with ⟨result, rfl, leads⟩ | ⟨rfl, between, ended, leads, atEnd⟩
        · exact .inl ⟨result, rfl, .ask answered leads⟩
        · exact .inr ⟨rfl, between, ended, .ask answered leads, atEnd⟩

variable (service) in
/-- A procedure with something that is done at its end either has a result, and then `last` is done,
or is broken off, and then `broken` is done, or it is only broken off while `last` is done. -/
theorem of_closing {procedure : Procedure p α} {close : α → Procedure p Unit}
    {broken : Procedure p Unit} {outcome : Option α}
    (h : (procedure.closing service.isLast close broken).Leads service state outcome last) :
    (∃ result between ended, procedure.Leads service state (some result) between ∧
      (close result).Leads service between ended last ∧ outcome = ended.map fun _ => result) ∨
    (outcome = none ∧ ∃ between ended, procedure.Leads service state none between ∧
      broken.Leads service between ended last) := by
  rcases of_bind h with ⟨result, between, first, second⟩ | ⟨rfl, first⟩
  · rcases of_before first with ⟨_, same, first⟩ | ⟨impossible, -⟩
    · cases same
      refine .inl ⟨result, between, ?_⟩
      rcases of_bind second with ⟨ended, _, closed, done⟩ | ⟨rfl, stopped⟩
      · obtain ⟨rfl, rfl⟩ := of_done done
        exact ⟨some ended, first, closed, rfl⟩
      · exact ⟨none, first, stopped, rfl⟩
    · cases impossible
  · rcases of_before first with ⟨_, impossible, -⟩ | ⟨-, broke⟩
    · cases impossible
    · exact .inr ⟨rfl, broke⟩

variable (service) in
/-- What is done at the end, however it ends, makes no difference if it changes nothing. -/
theorem of_closing_idle {procedure : Procedure p α} {close : Procedure p Unit}
    (idle : ∀ {state ended last}, close.Leads service state ended last →
      ended = some () ∧ last = state) {outcome : Option α}
    (h : (procedure.closing service.isLast (fun _ => close) close).Leads service state outcome last) :
    procedure.Leads service state outcome last := by
  rcases of_closing service h with ⟨result, between, ended, first, close, rfl⟩ |
    ⟨rfl, between, ended, first, close⟩
  · obtain ⟨rfl, rfl⟩ := idle close
    exact first
  · obtain ⟨-, rfl⟩ := idle close
    exact first

theorem before {first : Procedure p Unit} {procedure : Procedure p α} {result : α}
    (h : procedure.Leads service state (some result) last) :
    (before first service.isLast procedure).Leads service state (some result) last := by
  induction procedure generalizing state with
  | done =>
    obtain ⟨same, rfl⟩ := of_done h
    cases same
    exact .done _ _
  | ask request next ih =>
    cases h with
    | ask answered rest =>
      have goes : service.isLast request ≠ true := fun breaks => service.halts breaks answered
      rw [Procedure.before, if_neg goes]
      exact .ask answered (ih _ rest)

theorem before_none {first : Procedure p Unit} {procedure : Procedure p α} {between : σ}
    (h : procedure.Leads service state none between)
    (done : first.Leads service between (some ()) last) :
    (Procedure.before first service.isLast procedure).Leads service state none last := by
  induction procedure generalizing state with
  | done => cases h
  | ask request next ih =>
    rw [Procedure.before]
    cases h with
    | broken breaks =>
      rw [if_pos breaks]
      exact done.bind (.broken breaks)
    | ask answered rest =>
      have goes : service.isLast request ≠ true := fun breaks => service.halts breaks answered
      rw [if_neg goes]
      exact .ask answered (ih _ rest)

/-- A procedure that has a result, and what is done at its end. -/
theorem closing {procedure : Procedure p α} {close : α → Procedure p Unit}
    {broken : Procedure p Unit} {result : α} {between : σ}
    (h : procedure.Leads service state (some result) between)
    (closed : (close result).Leads service between (some ()) last) :
    (procedure.closing service.isLast close broken).Leads service state (some result) last :=
  h.before.bind (closed.bind (.done result last))

theorem closing_none {procedure : Procedure p α} {close : α → Procedure p Unit}
    {broken : Procedure p Unit} {between : σ}
    (h : procedure.Leads service state none between)
    (closed : broken.Leads service between (some ()) last) :
    (procedure.closing service.isLast close broken).Leads service state none last :=
  (h.before_none closed).bind_none

/-! ## States -/

/-- A procedure goes the same way through other states if these answer alike. -/
theorem map {service' : Service p τ} {f : σ → τ}
    (answers : ∀ {state request reply after}, service.answers state request reply after →
      service'.answers (f state) request reply (f after))
    (breaks : ∀ {request}, service.isLast request = true → service'.isLast request = true)
    {procedure : Procedure p α} {outcome : Option α}
    (h : procedure.Leads service state outcome last) :
    procedure.Leads service' (f state) outcome (f last) := by
  induction h with
  | done result state => exact .done result (f state)
  | ask answered _ ih => exact .ask (answers answered) ih
  | broken last => exact .broken (breaks last)

/-! ## Runs -/

/-- A procedure leads where it runs to, if all that a state answers follows the service. -/
theorem of_run {serve? : τ → (request : p.Request) → Option (p.Reply request × τ)} {view : τ → σ}
    (follows : ∀ {current request reply after}, serve? current request = some (reply, after) →
      service.answers (view current) request reply (view after)) {procedure : Procedure p α}
    {start final : τ} {result : α} (h : procedure.run serve? start = some (result, final)) :
    procedure.Leads service (view start) (some result) (view final) := by
  induction procedure generalizing start with
  | done result =>
    cases h
    exact .done _ _
  | ask request next ih =>
    rw [run] at h
    split at h
    · next reply after served => exact .ask (follows served) (ih _ h)
    · cases h

/-- A procedure runs to where it leads, if all answers of the service are those of the states. -/
theorem to_run {serve? : σ → (request : p.Request) → Option (p.Reply request × σ)}
    (serves : ∀ {state request reply after}, service.answers state request reply after →
      serve? state request = some (reply, after)) {procedure : Procedure p α} {result : α}
    (h : procedure.Leads service state (some result) last) :
    procedure.run serve? state = some (result, last) := by
  induction procedure generalizing state with
  | done value =>
    obtain ⟨same, rfl⟩ := of_done h
    cases same
    rfl
  | ask request next ih =>
    cases h with
    | ask answered rest =>
      rw [run, serves answered]
      exact ih _ rest

end Leads

theorem run_ask {serve? : σ → (request : p.Request) → Option (p.Reply request × σ)} {state later : σ}
    {request : p.Request} {reply : p.Reply request}
    (served : serve? state request = some (reply, later)) (next : p.Reply request → Procedure p α) :
    (Procedure.ask request next).run serve? state = (next reply).run serve? later := by
  rw [run, served]

theorem run_bind {serve? : σ → (request : p.Request) → Option (p.Reply request × σ)}
    {procedure : Procedure p α} {state later : σ} {value : α}
    (first : procedure.run serve? state = some (value, later)) (f : α → Procedure p β) :
    (procedure.bind f).run serve? state = (f value).run serve? later := by
  induction procedure generalizing state with
  | done result =>
    cases first
    rfl
  | ask request next ih =>
    rw [run] at first
    split at first
    · next reply between served =>
      rw [bind, run_ask served]
      exact ih reply first
    · cases first

/-- What relates a state to the one after each request relates the first state of a run to the last. -/
theorem relates_of_run {serve? : σ → (request : p.Request) → Option (p.Reply request × σ)}
    (related : σ → σ → Prop) (refl : ∀ state, related state state)
    (trans : ∀ {first second third}, related first second → related second third →
      related first third)
    (step : ∀ {state request reply after}, serve? state request = some (reply, after) →
      related state after) {procedure : Procedure p α} {start final : σ} {result : α}
    (h : procedure.run serve? start = some (result, final)) : related start final := by
  induction procedure generalizing start with
  | done result =>
    cases h
    exact refl _
  | ask request next ih =>
    rw [run] at h
    split at h
    · next reply after served => exact trans (step served) (ih _ h)
    · cases h

end Procedure

end EntitySearch
