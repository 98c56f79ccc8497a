import EntitySearch.Proofs.Session.Place

/-!
# What becomes of a job

While the writer of a queue is at work on a job, every moment of the run is either its own next
request or something that happens elsewhere. If nobody else writes as long as the job is written,
then what writing a job ensures by itself holds when the job is completed.

* `System.calmly`: a session as surroundings.
* `Procedure.Ensures.carriedOut`: a writer's procedure ensures the same when its requests are carried
  out by a session.
* `Place.Tended`: that the rest of a job ensures what is wanted of it.
* `Place.Tended.turn`: this goes on from moment to moment.
* `Place.Tended.finish`: what is known when a job is completed.
-/

namespace EntitySearch

open MemoryEngine (Calm)

/-! ## A session as surroundings -/

/-- A session with an engine in memory, and others who do not write. -/
def System.calmly (assured : Prop) : Surroundings System MemoryEngine where
  answers := MemoryEngine.Serves
  others := Calm assured
  permits
    | _, .abandon => ¬ assured
    | _, _ => True
  others_refl := .refl assured
  others_trans := .trans

variable {assured : Prop}

theorem System.permits_of_ne {engine : MemoryEngine} {request : SystemRequest}
    (h : request ≠ .abandon) : (System.calmly assured).permits engine request := by
  cases request <;> trivial

theorem System.ensures_ask (request : SystemRequest) (find : request ≠ .abandon)
    (idle : ∀ {engine : MemoryEngine} {reply after}, engine.Serves request reply after →
      after = engine)
    {property : MemoryEngine → Prop} (keeps : (System.calmly assured).Keeps property)
    {engine : MemoryEngine} (h : property engine) :
    (System.ask request).Ensures (System.calmly assured) (fun _ => property) engine := by
  refine Procedure.ensures_request (fun _ => keeps) fun later ho => ⟨permits_of_ne find, ?_⟩
  intro reply after hs
  rw [idle hs]
  exact keeps ho h

theorem keeps_calm (engine : MemoryEngine) :
    (System.calmly assured).Keeps (Calm assured engine) := fun ho hc => hc.trans ho

theorem MemoryEngine.answer?_isSome (engine : MemoryEngine) (delay : Duration) {call : Call}
    (find : ∀ request, call ≠ .search request) : (engine.answer? delay call).2.isSome = true := by
  cases call with
  | search request => exact absurd rfl (find request)
  | _ => rfl

theorem System.ensures_call (engine : MemoryEngine) (call : Call)
    (find : assured → ∀ request, call ≠ .search request) :
    (System.call .engine call).Ensures (System.calmly assured)
      ((Link.calmly assured).answers engine (.call call)) engine := by
  intro later ho
  refine ⟨trivial, ?_⟩
  rintro receipt received ⟨rfl, rfl⟩
  intro sleeping hc
  refine ⟨trivial, ?_⟩
  rintro _ slept rfl
  intro sent hs
  refine ⟨trivial, ?_⟩
  intro outcome answered ha
  have unrecorded : Calm assured (engine.record call) engine := ⟨.of_indices rfl rfl, fun _ => id⟩
  have recorded := (unrecorded.trans ho).trans (.record assured later call)
  have ha : sent.answer? (later.delay call) call = (answered, outcome) := ha
  cases outcome with
  | some outcome =>
    exact fun last hl => ⟨sent, later.delay call, answered, (recorded.trans hc).trans hs, ha, hl⟩
  | none =>
    refine fun last hl => ⟨fun hassured => ?_, nofun⟩
    have hn := sent.answer?_isSome (later.delay call) (find hassured)
    rw [ha] at hn
    cases hn

/-- **A writer's procedure** ensures the same when its requests are carried out by a session. -/
theorem Procedure.Ensures.carriedOut {α : Type} {procedure : Procedure Writing α}
    {post : α → MemoryEngine → Prop} {engine : MemoryEngine}
    (h : procedure.Ensures (Writing.calmly assured) post engine) (number : Nat) :
    (procedure.expand (System.writing .engine number)).Ensures (System.calmly assured) post
      engine := by
  have same : ∀ {state later}, (System.calmly assured).others state later →
      (Writing.calmly assured).others state later := id
  refine Procedure.Ensures.expand same ?_ h
  intro request engine permitted
  have calm : Calm assured engine engine := .refl assured engine
  cases request with
  | inr failure =>
    exact System.ensures_ask (.publish number failure) nofun (fun hs => hs) (keeps_calm engine) calm
  | inl request =>
    cases request with
    | call call => exact System.ensures_call engine call permitted
    | callWithin limit call => exact permitted.elim
    | wait delay =>
      exact System.ensures_ask (.sleep delay) nofun (fun hs => hs) (keeps_calm engine) calm
    | record measurement =>
      exact System.ensures_ask (.record measurement) nofun (fun hs => hs) (keeps_calm engine) calm
    | abandon => exact fun later _ => ⟨permitted, nofun⟩

/-! ## The rest of a job -/

namespace Place

/-- Whether the rest of a job that is watched ensures what writing the job ensures, on top of an
engine as it was when the job was started; `base` says what is known of that engine when some jobs
were completed. -/
structure Tended (place : Place) (assured : Prop) (watched : Job → Prop)
    (base : List (Job × Except BridgeError Unit) → MemoryEngine → Prop) (host : HostedQueue)
    (engine : MemoryEngine) : Prop where
  idle : host.queue.writing = none → host.job = none
  rest : ∀ job, host.queue.writing = some job → watched job →
    ∃ rest before, host.job = some (.waiting rest) ∧ base host.queue.completed before ∧
      rest.Ensures (System.calmly assured)
        ((BulkPlan.ofItems place.resolver job.items).Written assured place.writer before) engine

variable {place : Place} {watched : Job → Prop}
  {base : List (Job × Except BridgeError Unit) → MemoryEngine → Prop} {moment : Moment}
  {host host' : HostedQueue} {engine engine' : MemoryEngine}

namespace Tended

/-- **The rest of a job** that is watched goes on to ensure what is wanted of it, if nobody else
writes while the job is written. -/
theorem turn (h : place.Tended assured watched base host engine)
    (turn : place.Turn moment host engine host' engine')
    (calm : ∀ job, host.queue.writing = some job → watched job →
      moment.event ≠ .write place.number → moment.Calm assured)
    (start : ∀ job, host.queue.startNext = some (job, host'.queue) → watched job →
      base host.queue.completed engine ∧ engine.Orderly ∧ (assured → engine.faults.Harmless)) :
    place.Tended assured watched base host' engine' := by
  cases turn with
  | elsewhere steps foreign _ quiet =>
    obtain ⟨hw, hc⟩ := writing_of_run steps.queue
    refine ⟨fun hn => ?_, fun job hj hwatched => ?_⟩
    · rw [steps.job]
      exact h.idle (hw ▸ hn)
    · rw [hw] at hj
      obtain ⟨rest, before, hr, hb, he⟩ := h.rest job hj hwatched
      rw [steps.job, hc]
      exact ⟨rest, before, hr, hb, he.later (quiet assured (calm job hj hwatched foreign))⟩
  | request event before after queue serves =>
    obtain ⟨hw, hc⟩ := writing_of_run queue
    refine ⟨fun hn => ?_, fun job hj hwatched => ?_⟩
    · rw [h.idle (hw ▸ hn)] at before
      cases before
    · rw [hw] at hj
      obtain ⟨rest, start, hr, hb, he⟩ := h.rest job hj hwatched
      rw [before] at hr
      cases hr
      rw [hc]
      exact ⟨_, start, after, hb, (he engine (.refl assured engine)).2 _ _ serves⟩
  | start event next after same =>
    obtain ⟨hw, hw', hc⟩ := Queue.writing_startNext next
    refine ⟨fun hn => ?_, fun job hj hwatched => ?_⟩
    · rw [hw'] at hn
      cases hn
    · rw [hw'] at hj
      cases hj
      obtain ⟨hb, ho, hh⟩ := start _ next hwatched
      rw [hc, same]
      exact ⟨_, engine, after, hb,
        (Writer.write_ensures place.writer place.resolver _ ho hh).carriedOut place.number⟩
  | finish event before queue after same =>
    refine ⟨fun _ => after, fun job hj => ?_⟩
    rw [queue, Queue.writing_finish] at hj
    cases hj
  | breakDown event before queue after same =>
    refine ⟨fun _ => after, fun job hj => ?_⟩
    rw [queue] at hj
    cases hj

/-- What is known when a job that was watched is completed. -/
theorem finish (h : place.Tended assured watched base host engine) {job : Job}
    {outcome : Except BridgeError Unit} (writing : host.queue.writing = some job)
    (hwatched : watched job) (before : host.job = some (.waiting (.done outcome))) :
    ∃ start, base host.queue.completed start ∧
      (BulkPlan.ofItems place.resolver job.items).Written assured place.writer start outcome
        engine := by
  obtain ⟨rest, start, hr, hb, he⟩ := h.rest job writing hwatched
  rw [before] at hr
  cases hr
  exact ⟨start, hb, he engine (.refl assured engine)⟩

theorem not_abandon (h : place.Tended assured watched base host engine) (ha : assured)
    (all : ∀ job, watched job) {next} :
    host.job ≠ some (.waiting (.ask SystemRequest.abandon next)) := by
  intro before
  cases hw : host.queue.writing with
  | none =>
    rw [h.idle hw] at before
    cases before
  | some job =>
    obtain ⟨rest, start, hr, -, he⟩ := h.rest job hw (all job)
    rw [before] at hr
    cases hr
    exact (he engine (.refl assured engine)).1 ha

end Tended

end Place

end EntitySearch
