import EntitySearch.Proofs.Index.Recreating
import EntitySearch.Session.Use

/-!
# Indices that are administered in a session

In a session a manager of indices is one task among others, its table of guards is one of several, and
every request takes a few steps. An engine that answers in no time lets the task go on to its end in one
turn. So it comes to what the manager would come to if it were alone with the engine.

* `Session.Manages`: a manager and its engine in a session.
* `Session.Manages.advance_administering`: the steps of one request.
* `Session.advance_of_leads`: what a manager comes to; `Session.advance_recreateAll`.
-/

namespace EntitySearch.Session

open ManagedEngine (prompt)

variable {session : Session} {schema : SchemaSource} {number : Nat} {resolver : Resolver}
  {state later : ManagedEngine} {α : Type}

/-- Whether a session has a manager and its engine, with a schema and the table of a number, and no
outcomes are prepared. -/
structure Manages (session : Session) (schema : SchemaSource) (number : Nat) (resolver : Resolver)
    (state : ManagedEngine) : Prop where
  engine : session.engine = some state.engine
  outcomes : session.outcomes = []
  table : session.tables[number]? = some state.manager.table
  resolver : session.resolver schema = resolver

/-! ## Steps of a task -/

theorem advance_ask (request : SystemRequest) {reply : System.Reply request} {after : Session}
    (goes : (∀ delay, request ≠ .sleep delay) ∧ request ≠ .abandon)
    (served : session.serve? request = some (reply, after)) (name : TaskName)
    (next : System.Reply request → Procedure System α) :
    session.advance name (.ask request next) = after.serving.advance name (next reply) := by
  cases request with
  | sleep delay => exact absurd rfl (goes.1 delay)
  | abandon => exact absurd rfl goes.2
  | _ =>
    rw [advance.eq_def]
    dsimp only
    rw [served]

theorem advance_sleep (session : Session) {delay : Duration} (none : delay = .zero)
    (name : TaskName) (next : Unit → Procedure System α) :
    session.advance name (.ask (.sleep delay) next) = session.advance name (next ()) := by
  rw [advance.eq_def]
  exact if_pos none

theorem resolver_congr {after : Session} (schema : SchemaSource)
    (registry : after.registry = session.registry) (hidden : after.hidden = session.hidden) :
    after.resolver schema = session.resolver schema := by
  cases schema with
  | shared => rw [Session.resolver, Session.resolver, registry, hidden]
  | own => rfl

theorem Manages.serving (manages : session.Manages schema number resolver state) :
    session.serving.Manages schema number resolver state :=
  ⟨manages.engine, manages.outcomes, manages.table,
    (resolver_congr schema rfl rfl).trans manages.resolver⟩

theorem Manages.measured (manages : session.Manages schema number resolver state)
    (measurements : List Measurement) :
    (session.observe measurements).serving.Manages schema number resolver state :=
  ⟨manages.engine, manages.outcomes, manages.table,
    (resolver_congr schema rfl rfl).trans manages.resolver⟩

theorem Manages.guarded (manages : session.Manages schema number resolver state)
    (table : ReadyTable) :
    { session with tables := session.tables.set number table }.Manages schema number resolver
      (state.guarded table) where
  engine := manages.engine
  outcomes := manages.outcomes
  table := by
    obtain ⟨bound, -⟩ := List.getElem?_eq_some_iff.mp manages.table
    exact List.getElem?_set_self bound
  resolver := (resolver_congr schema rfl rfl).trans manages.resolver

theorem Manages.serveGuard?_eq (manages : session.Manages schema number resolver state)
    {request : GuardRequest} {reply : Guarding.Reply request} {table : ReadyTable}
    (accessed : state.manager.table.serve? request = some (reply, table)) :
    session.serveGuard? number request =
      some (reply, { session with tables := session.tables.set number table }) := by
  rw [serveGuard?, manages.table]
  dsimp only
  rw [accessed]
  rfl

/-! ## Requests to the engine -/

/-- A session with a state of its engine after one more request. -/
def calling (session : Session) (call : Call) (engine : MemoryEngine) : Session :=
  { session with calls := session.calls ++ [call], engine := some engine }

theorem Manages.send_eq (manages : session.Manages schema number resolver state) (call : Call) :
    session.send .engine call =
      (.takes (state.engine.delay call), session.calling call (state.engine.record call)) := by
  rw [send, manages.outcomes, takeOutcome?, manages.engine]
  dsimp only [calling]
  rw [manages.outcomes]

theorem receive_eq {engine after : MemoryEngine} {call : Call} {delay : Duration}
    {outcome : call.Outcome} (memory : session.engine = some engine)
    (answered : engine.answer? delay call = (after, some outcome)) :
    session.receive call delay = (some outcome, { session with engine := some after }) := by
  rw [receive, memory]
  dsimp only
  rw [answered]

/-- A session whose engine has answered a request. -/
def answering (session : Session) (call : Call) (engine : MemoryEngine) : Session :=
  (session.calling call engine).serving.serving

theorem Manages.answering (manages : session.Manages schema number resolver state) {call : Call}
    {outcome : call.Outcome} (sent : state.send? call = some (outcome, later)) :
    (session.answering call later.engine).Manages schema number resolver later where
  engine := rfl
  outcomes := manages.outcomes
  table := by
    obtain ⟨heard, -⟩ := ManagedEngine.of_send? sent
    rw [heard]
    exact manages.table
  resolver := (resolver_congr schema rfl rfl).trans manages.resolver

/-- What follows an answer of the engine. An engine that breaks off breaks off the task. -/
def following {call : Call} (next : call.Outcome → Procedure System α) :
    Option call.Outcome → Procedure System α
  | some outcome => next outcome
  | none => .ask (p := System) .abandon nofun

theorem receive_bind (call : Call) (delay : Duration) (next : call.Outcome → Procedure System α) :
    (System.receive call delay).bind next =
      .ask (p := System) (.receive call delay) (following next) := by
  refine congrArg (Procedure.ask (p := System) (.receive call delay)) (funext fun answer => ?_)
  cases answer with
  | some outcome => rfl
  | none => exact congrArg (Procedure.ask (p := System) .abandon) (funext nofun)

theorem Manages.advance_send (manages : session.Manages schema number resolver state) {call : Call}
    {outcome : call.Outcome} (prompt : state.engine.delay call = .zero)
    (sent : state.send? call = some (outcome, later)) (name : TaskName)
    {next : Receipt call → Procedure System α} (rest : Option call.Outcome → Procedure System α)
    (waits : next (.takes .zero) = .ask (.sleep .zero) fun _ => .ask (.receive call .zero) rest) :
    session.advance name (.ask (.send .engine call) next) =
      (session.answering call later.engine).advance name (rest (some outcome)) := by
  have sends := manages.send_eq call
  obtain ⟨-, handled⟩ := ManagedEngine.of_send? sent
  rw [MemoryEngine.handle, prompt] at handled
  rw [prompt] at sends
  have receives : (session.calling call (state.engine.record call)).serving.receive call .zero =
    (some outcome, (session.calling call later.engine).serving) := receive_eq rfl handled
  calc session.advance name (.ask (.send .engine call) next)
    _ = (session.calling call (state.engine.record call)).serving.advance name
          (next (.takes .zero)) :=
      advance_ask (.send .engine call) ⟨nofun, nofun⟩ (congrArg some sends) name next
    _ = (session.calling call (state.engine.record call)).serving.advance name
          (.ask (.sleep .zero) fun _ => .ask (.receive call .zero) rest) := by rw [waits]
    _ = (session.calling call (state.engine.record call)).serving.advance name
          (.ask (.receive call .zero) rest) := advance_sleep _ rfl name _
    _ = (session.answering call later.engine).advance name (rest (some outcome)) :=
      advance_ask (.receive call .zero) ⟨nofun, nofun⟩ (congrArg some receives) name rest

/-! ## Requests of a manager -/

/-- The steps of a request: the session manages what becomes of the manager. -/
theorem Manages.advance_administering (manages : session.Manages schema number resolver state)
    {request : Administering.Request} {reply : Administering.Reply request}
    (answered : (prompt resolver).answers state request reply later) (name : TaskName)
    (next : Administering.Reply request → Procedure System α) :
    ∃ after : Session, after.Manages schema number resolver later ∧
      session.advance name ((System.administering .engine schema number request).bind next) =
        after.advance name (next reply) := by
  obtain ⟨atOnce, served⟩ := answered
  match request with
  | .inl (.inl (.call call)) =>
    refine ⟨_, manages.answering served, ?_⟩
    exact manages.advance_send atOnce served name (following next)
      (congrArg (Procedure.ask (p := System) (.sleep .zero))
        (funext fun _ => receive_bind call .zero next))
  | .inl (.inl (.callWithin limit call)) =>
    obtain ⟨⟨outcome, _⟩, sent, same⟩ := Option.map_eq_some_iff.mp served
    cases same
    have inTime : Duration.zero.limited ≤ limit := Nat.zero_le _
    refine ⟨_, manages.answering sent, ?_⟩
    refine manages.advance_send atOnce sent name (following (next ∘ some)) ?_
    let given : Procedure System (Option call.Outcome) :=
      (System.ask (.sleep .zero)).bind fun _ =>
        (System.receive call .zero).bind fun outcome => .done (some outcome)
    let late : Procedure System (Option call.Outcome) :=
      (System.ask (.sleep limit)).bind fun _ => .done none
    calc (if Duration.zero.limited ≤ limit then given else late).bind next
      _ = given.bind next := by rw [if_pos inTime]
      _ = .ask (.sleep .zero) fun _ => .ask (.receive call .zero) (following (next ∘ some)) :=
        congrArg (Procedure.ask (p := System) (.sleep .zero))
          (funext fun _ => (Procedure.bind_assoc (System.receive call .zero)).trans
            (receive_bind call .zero (next ∘ some)))
  | .inl (.inl (.wait delay)) =>
    cases served
    exact ⟨session, manages, advance_sleep session atOnce name next⟩
  | .inl (.inl (.record measurement)) =>
    cases served
    exact ⟨_, manages.measured [measurement],
      advance_ask (.record measurement) ⟨nofun, nofun⟩ rfl name next⟩
  | .inl (.inl .abandon) => cases served
  | .inl (.inr index) =>
    cases served
    have described : session.serve? (.mapping schema index) =
        some (mergedMapping resolver index, session) := by
      rw [← manages.resolver]
      rfl
    exact ⟨_, manages.serving, advance_ask (.mapping schema index) ⟨nofun, nofun⟩ described name next⟩
  | .inr request =>
    obtain ⟨⟨_, table⟩, accessed, same⟩ := Option.map_eq_some_iff.mp served
    cases same
    exact ⟨_, (manages.guarded table).serving,
      advance_ask (.guard number request) ⟨nofun, nofun⟩ (manages.serveGuard?_eq accessed) name next⟩

/-- **What a manager comes to** with an engine that answers in no time is what it comes to in a session,
in one turn. -/
theorem advance_of_leads {procedure : Procedure Administering α} {outcome : Option α}
    (leads : procedure.Leads (prompt resolver) state outcome later) {result : α}
    (ended : outcome = some result) (name : TaskName) : ∀ {session : Session},
      session.Manages schema number resolver state → ∃ after : Session,
        after.Manages schema number resolver later ∧
          session.advance name (procedure.expand (System.administering .engine schema number)) =
            (after, .finished result) := by
  induction leads with
  | done value current =>
    cases ended
    exact fun {session} manages => ⟨session, manages, rfl⟩
  | ask answered _ ih =>
    intro session manages
    obtain ⟨between, manages', steps⟩ := manages.advance_administering answered name _
    obtain ⟨after, manages'', rest⟩ := ih ended manages'
    exact ⟨after, manages'', steps.trans rest⟩
  | broken => cases ended

/-- **A session recreates every index once**, in one turn. -/
theorem advance_recreateAll {client : Client} {admin : HostedAdmin} {engine : MemoryEngine}
    {table : ReadyTable} (memory : client.session.engine = some engine)
    (unprepared : client.session.outcomes = [])
    (hosted : client.session.tables[admin.table]? = some table)
    (described : client.resolver.Describes) (obliging : engine.Obliging) (name : TaskName) :
    ∃ (after : Session) (later : ManagedEngine),
      client.session.advance name (client.administering admin (·.recreateAll)) =
        (after, .finished (.ok ())) ∧
      after.Manages .shared admin.table client.resolver later ∧
      ManagedEngine.Renewed ⟨{ table }, engine⟩
        ⟨client.resolver, admin.healthLimit, admin.policy⟩ later := by
  obtain ⟨later, leads, renewed⟩ := ManagedEngine.leads_recreateAll
    ⟨client.resolver, admin.healthLimit, admin.policy⟩ ⟨{ table }, engine⟩ described obliging
  have manages : client.session.Manages .shared admin.table client.resolver ⟨{ table }, engine⟩ :=
    ⟨memory, unprepared, hosted, rfl⟩
  obtain ⟨after, manages', ended⟩ := advance_of_leads leads rfl name manages
  exact ⟨after, later, ended, manages', renewed⟩

end EntitySearch.Session
