import EntitySearch.Proofs.Queue.Numbers
import EntitySearch.Proofs.Queue.Reports
import EntitySearch.Proofs.Session.Accounting
import EntitySearch.Proofs.Session.Calls

/-!
# What is reported of a job, and how it ends

In a run the writer of a queue takes jobs one after the other. What it publishes while it is at work on
a job, and what is acknowledged to it meanwhile, is the ledger of this job, whatever engine the
session has and whatever happens between its requests. So every job that it completes has taken a
course, and a caller who waits for the job is told how that course ends.

* `Moment.during`, `Moment.ledger`: the moments of a job, and its ledger.
* `Moment.TakesJob`: that a writer takes a job, with what the schema is then.
* `HostedQueue.Traced`, `HostedQueue.Records`: what is known of a queue in a run;
  `HostedQueue.Records.turn`, `Session.records_of_run`.
* `HostedQueue.Fresh`: a queue of which nothing is completed yet, as every new one.
* `Session.ended_of_completes`: how a completed job has ended.
-/

namespace EntitySearch

/-! ## The ledger of a job in a run -/

namespace Moment

/-- Whether the writer of a queue is at work on a job at a moment. -/
def isDuring (moment : Moment) (number job : Nat) : Bool :=
  (moment.before.job? number).any fun own => own.number = job

/-- The moments of a run at which the writer of a queue is at work on a job. -/
def during (moments : List Moment) (number job : Nat) : List Moment :=
  moments.filter (·.isDuring number job)

/-- The ledger of a job in a run. -/
def ledger (moments : List Moment) (number job : Nat) : Ledger where
  acknowledged := acknowledgedIn (during moments number job) number
  published := publishedIn (during moments number job) number

/-- Whether the writer of a queue takes a job in a run, at a moment at which entity types are resolved
as given. -/
def TakesJob (moments : List Moment) (number : Nat) (job : Job) (resolver : Resolver) : Prop :=
  ∃ moment ∈ moments, moment.event = .start number ∧ ∃ host queue,
    moment.before.queues[number]? = some host ∧ host.queue.startNext = some (job, queue) ∧
    moment.before.resolver host.schema = resolver

variable {moments : List Moment} {moment : Moment} {number job : Nat}

theorem during_concat_of_not (h : moment.isDuring number job = false) :
    during (moments ++ [moment]) number job = during moments number job := by
  rw [during, List.filter_append, List.filter_singleton, h, cond_false, List.append_nil]
  rfl

theorem ledger_concat_of_not (h : moment.isDuring number job = false) :
    ledger (moments ++ [moment]) number job = ledger moments number job := by
  rw [ledger, during_concat_of_not h]
  rfl

theorem ledger_concat (h : moment.isDuring number job = true) :
    ledger (moments ++ [moment]) number job = moment.log number (ledger moments number job) := by
  have grown : during (moments ++ [moment]) number job = during moments number job ++ [moment] := by
    rw [during, List.filter_append, List.filter_singleton, h, cond_true]
    rfl
  rw [ledger, grown, acknowledgedIn, publishedIn, List.flatMap_append, List.flatMap_append,
    List.flatMap_singleton, List.flatMap_singleton]
  rfl

theorem ledger_concat_of_none (h : moment.written? number = none) :
    ledger (moments ++ [moment]) number job = ledger moments number job := by
  by_cases own : moment.isDuring number job = true
  · rw [ledger_concat own, log_of_none h]
  · exact ledger_concat_of_not (by simpa using own)

theorem ledger_of_nil (h : during moments number job = []) : ledger moments number job = {} := by
  rw [ledger, h]
  rfl

theorem isDuring_of_queue {host : HostedQueue} (hq : moment.before.queues[number]? = some host) :
    moment.isDuring number job = host.queue.writing.any fun own => own.number = job := by
  rw [isDuring, Session.job?, hq]
  rfl

theorem TakesJob.concat {taken : Job} {resolver : Resolver} (h : TakesJob moments number taken resolver)
    (moment : Moment) : TakesJob (moments ++ [moment]) number taken resolver := by
  obtain ⟨start, hs, rest⟩ := h
  exact ⟨start, List.mem_append_left _ hs, rest⟩

end Moment

/-! ## What a moment does to a queue -/

namespace HostedQueue

variable {number : Nat} {moment : Moment} {host host' : HostedQueue}

theorem cuts_of_run (same : host'.queue = host.queue.run (moment.stepsOn number host)) :
    ∃ step taken wait cut, host.queue.Cuts step taken wait cut ∧ host'.queue = step.queue := by
  obtain ⟨step, wait, cut, hc, hr⟩ := moment.run_stepsOn number host host.queue
  exact ⟨step, _, wait, cut, hc, same.trans hr⟩

/-- What a moment does to a queue: a step of a caller, or one of the writer. -/
theorem Turn.queue_cases (turn : host.Turn number moment host') :
    (∃ step taken wait cut, host.queue.Cuts step taken wait cut ∧ host'.queue = step.queue) ∨
      (∃ job, host.queue.startNext = some (job, host'.queue)) ∨
      (∃ outcome, host'.queue = host.queue.finish outcome) ∨
      host'.queue = host.queue.breakDown := by
  cases turn with
  | elsewhere steps => exact .inl (cuts_of_run steps.queue)
  | request event made before serves later steps => exact .inl (cuts_of_run steps.queue)
  | start event free next same =>
    rw [same]
    exact .inr (.inl ⟨_, next⟩)
  | finish event before same =>
    rw [same]
    exact .inr (.inr (.inl ⟨_, rfl⟩))
  | breakDown event before same =>
    rw [same]
    exact .inr (.inr (.inr rfl))

theorem Turn.grows (turn : host.Turn number moment host') : host.queue.Grows host'.queue := by
  rcases turn.queue_cases with ⟨step, taken, wait, cut, hc, same⟩ | ⟨job, next⟩ | ⟨outcome, same⟩ |
    same
  · exact same ▸ hc.grows
  · exact Queue.grows_startNext next
  · exact same ▸ Queue.grows_finish _ outcome
  · exact same ▸ Queue.grows_breakDown _

theorem Turn.cut (turn : host.Turn number moment host') {job : Job}
    (cut : host'.queue.waiting = host.queue.waiting ++ [job]) :
    ∃ step taken wait, host.queue.Cuts step taken wait [job] ∧ host'.queue = step.queue := by
  have shorter : ∀ {waiting : List Job}, waiting.length ≤ host.queue.waiting.length →
      waiting ≠ host.queue.waiting ++ [job] := by
    rintro _ short rfl
    rw [List.length_append, List.length_singleton] at short
    exact absurd short (Nat.not_succ_le_self _)
  rcases turn.queue_cases with ⟨step, taken, wait, own, hc, same⟩ | ⟨other, next⟩ |
    ⟨outcome, same⟩ | same
  · rw [same, hc.waiting] at cut
    cases List.append_cancel_left cut
    exact ⟨step, taken, wait, hc, same⟩
  · obtain ⟨waiting, -, hw, hn⟩ := Queue.startNext_eq_some next
    rw [hn] at cut
    exact absurd cut (shorter (by rw [hw]; exact Nat.le_succ _))
  · refine absurd cut (shorter (Nat.le_of_eq ?_))
    rw [same, Queue.finish]
    split <;> rfl
  · rw [same] at cut
    exact absurd cut (shorter (Nat.zero_le _))

theorem Turn.writerGone (turn : host.Turn number moment host') :
    host'.queue.writerGone = host.queue.writerGone ∨ moment.event = .breakDown number := by
  have stepped : host'.queue = host.queue.run (moment.stepsOn number host) →
      host'.queue.writerGone = host.queue.writerGone := by
    intro same
    obtain ⟨step, taken, wait, cut, hc, hr⟩ := cuts_of_run same
    rw [hr, hc.writer]
  cases turn with
  | elsewhere steps => exact .inl (stepped steps.queue)
  | request event made before serves later steps => exact .inl (stepped steps.queue)
  | start event free next same => exact .inl (same ▸ (Queue.startNext_frame next).2.1)
  | finish event before same => exact .inl (same ▸ (Queue.finish_frame host.queue _).2.1)
  | breakDown event => exact .inr event

/-! ## What is known of a queue in a run -/

/-- What is known of the jobs of a queue after the moments of a run. -/
structure Traced (host : HostedQueue) (number : Nat) (moments : List Moment) : Prop where
  numbered : host.queue.Numbered
  /-- No completed job is forgotten. -/
  lasting : ∀ moment ∈ moments, ∀ entry,
    entry ∈ moment.before.completed number ∨ entry ∈ moment.after.completed number →
      entry ∈ host.queue.completed
  gone : host.queue.writerGone = true → ∃ moment ∈ moments, moment.event = .breakDown number
  /-- The number of a job that was cut is its own. -/
  cut : ∀ moment ∈ moments, ∀ job, moment.Cuts number job →
    job.number < host.queue.nextJob ∧
      ∀ other ∈ host.queue.jobs, other.number = job.number → other = job

theorem Traced.turn {moments : List Moment} (h : host.Traced number moments)
    (hosted : moment.before.queues[number]? = some host)
    (hosted' : moment.after.queues[number]? = some host') (turn : host.Turn number moment host') :
    host'.Traced number (moments ++ [moment]) := by
  have grows := turn.grows
  refine ⟨grows.numbered h.numbered, ?_, fun gone => ?_, ?_⟩
  · intro other ho entry he
    rcases List.mem_append.mp ho with ho | ho
    · exact grows.completed entry (h.lasting other ho entry he)
    · cases List.mem_singleton.mp ho
      rw [Session.completed, Session.completed, hosted, hosted'] at he
      exact he.elim (grows.completed entry) id
  · rcases turn.writerGone with same | event
    · obtain ⟨other, ho, event⟩ := h.gone (same ▸ gone)
      exact ⟨other, List.mem_append_left _ ho, event⟩
    · exact ⟨moment, List.mem_append_right _ (List.mem_singleton_self moment), event⟩
  · intro other ho job cut
    rcases List.mem_append.mp ho with ho | ho
    · obtain ⟨below, unique⟩ := h.cut other ho job cut
      refine ⟨Nat.lt_of_lt_of_le below grows.nextJob, fun own hown same => ?_⟩
      rcases grows.added own hown with old | new
      · exact unique own old same
      · omega
    · cases List.mem_singleton.mp ho
      rw [Moment.Cuts, Session.waiting, Session.waiting, hosted, hosted'] at cut
      obtain ⟨step, taken, wait, hc, same⟩ := turn.cut cut
      have there : job ∈ host'.queue.jobs := by
        rw [same, hc.jobs]
        exact List.mem_append_right _ (List.mem_singleton_self job)
      have numbered := grows.numbered h.numbered
      exact ⟨numbered.bounded job there, fun own hown => numbered.eq_of_number hown there⟩

/-- What the course of a job says when the job has ended. -/
def Ended (assumed : List Operation → BulkResponse → Prop) (resolver : Resolver)
    (items : List WorkItem) (outcome : Except BridgeError Unit) (ledger : Ledger) : Prop :=
  ∃ course, (BulkPlan.ofItems resolver items).Follows assumed items course ledger ∧
    outcome = BulkFailure.ending (course.reports (BulkPlan.ofItems resolver items) items)

/-- What is known of a queue after the moments of a run: the job that is written keeps its ledger, and
completed jobs have taken a course. -/
structure Records (host : HostedQueue) (number : Nat)
    (assumed : List Operation → BulkResponse → Prop) (moments : List Moment) : Prop
    extends host.Traced number moments where
  idle : host.queue.writing = none → host.job = none
  fresh : ∀ job, (∃ other ∈ host.queue.waiting, other.number = job) ∨ host.queue.nextJob ≤ job →
    Moment.during moments number job = []
  working : ∀ job, host.queue.writing = some job → ∃ resolver,
    Moment.TakesJob moments number job resolver ∧
      host.Keeps (System.logging host.route number
        (BulkPlan.ofItems resolver job.items).operations assumed)
        (Ended assumed resolver job.items) (Moment.ledger moments number job.number)
  ended : ∀ entry ∈ host.queue.completed, ∃ resolver,
    Moment.TakesJob moments number entry.1 resolver ∧
      Ended assumed resolver entry.1.items entry.2 (Moment.ledger moments number entry.1.number)

variable {assumed : List Operation → BulkResponse → Prop} {moments : List Moment}

theorem Keeps.log {planned : List Operation} {post : Except BridgeError Unit → Ledger → Prop}
    {job : Nat} (kept : host.Keeps (System.logging host.route number planned assumed) post
      (Moment.ledger moments number job))
    (turn : host.Turn number moment host') (unfinished : moment.event ≠ .finish number)
    (honest : ∀ {request reply served}, request.OfWriter host.route number planned →
      moment.before.serve? request = some (reply, served) → request.Honest assumed reply)
    (own : moment.isDuring number job = true) :
    host'.Keeps (System.logging host'.route number planned assumed) post
      (Moment.ledger (moments ++ [moment]) number job) ∨ host'.Gone := by
  rw [turn.route]
  rcases kept.turn turn unfinished with ⟨unwritten, kept'⟩ |
    ⟨request, reply, served, written, permitted, serves, kept'⟩ | gone
  · rw [Moment.ledger_concat_of_none unwritten]
    exact .inl kept'
  · rw [Moment.ledger_concat own, Moment.log_of_written written]
    exact .inl (kept' _ ⟨honest permitted serves, rfl⟩)
  · exact .inr gone

namespace Records

theorem ledger_concat (hosted : moment.before.queues[number]? = some host) {job : Nat}
    (other : ∀ own, host.queue.writing = some own → job ≠ own.number) :
    Moment.during (moments ++ [moment]) number job = Moment.during moments number job ∧
      Moment.ledger (moments ++ [moment]) number job = Moment.ledger moments number job := by
  have elsewhere : moment.isDuring number job = false := by
    rw [Moment.isDuring_of_queue hosted]
    cases hw : host.queue.writing with
    | none => rfl
    | some own => exact decide_eq_false fun same => other own hw same.symm
  exact ⟨Moment.during_concat_of_not elsewhere, Moment.ledger_concat_of_not elsewhere⟩

variable (h : host.Records number assumed moments)
  (hosted : moment.before.queues[number]? = some host)

include h hosted

theorem ended_concat : ∀ entry ∈ host.queue.completed, ∃ resolver,
    Moment.TakesJob (moments ++ [moment]) number entry.1 resolver ∧
      Ended assumed resolver entry.1.items entry.2
        (Moment.ledger (moments ++ [moment]) number entry.1.number) := by
  rintro ⟨job, outcome⟩ he
  obtain ⟨resolver, taken, ended⟩ := h.ended _ he
  refine ⟨resolver, taken.concat moment, ?_⟩
  rw [(ledger_concat hosted fun own writing => h.numbered.ne_of_completed writing he).2]
  exact ended

theorem fresh_concat (turn : host.Turn number moment host') (job : Nat)
    (untaken : (∃ other ∈ host'.queue.waiting, other.number = job) ∨ host'.queue.nextJob ≤ job) :
    Moment.during (moments ++ [moment]) number job = [] := by
  have before : (∃ other ∈ host.queue.waiting, other.number = job) ∨ host.queue.nextJob ≤ job := by
    rcases untaken with ⟨other, ho, rfl⟩ | later
    · exact (turn.grows.waiting other ho).imp_left fun old => ⟨other, old, rfl⟩
    · exact .inr (Nat.le_trans turn.grows.nextJob later)
  refine (ledger_concat hosted fun own writing => ?_).1.trans (h.fresh job before)
  rcases before with ⟨other, ho, rfl⟩ | later
  · exact h.numbered.ne_of_waiting writing ho
  · have := h.numbered.bounded own (by simp [Queue.jobs, writing])
    omega

theorem goesOn (hosted' : moment.after.queues[number]? = some host')
    (turn : host.Turn number moment host')
    (honest : ∀ {planned : List Operation} {request reply served},
      request.OfWriter host.route number planned →
        moment.before.serve? request = some (reply, served) → request.Honest assumed reply)
    (same : host'.queue = host.queue.run (moment.stepsOn number host))
    (busy : host'.job.isSome = host.job.isSome) (unfinished : moment.event ≠ .finish number) :
    host'.Records number assumed (moments ++ [moment]) := by
  obtain ⟨step, took, wait, cut, hc, same⟩ := cuts_of_run same
  refine { h.toTraced.turn hosted hosted' turn with
           idle := fun none => ?_, fresh := h.fresh_concat hosted turn,
           working := fun job hw => ?_, ended := ?_ }
  · rw [same, hc.writing] at none
    rw [h.idle none] at busy
    exact Option.not_isSome_iff_eq_none.mp (by rw [busy]; exact Bool.false_ne_true)
  · rw [same, hc.writing] at hw
    obtain ⟨resolver, taken, kept⟩ := h.working job hw
    have own : moment.isDuring number job.number = true := by
      rw [Moment.isDuring_of_queue hosted, hw]
      exact decide_eq_true rfl
    refine ⟨resolver, taken.concat moment,
      (kept.log turn unfinished honest own).resolve_right fun gone => ?_⟩
    obtain ⟨rest, hj, -⟩ := kept
    rw [gone.free, hj] at busy
    cases busy
  · rw [same, hc.completed]
    exact h.ended_concat hosted

theorem ledger_start {job : Job} {queue : Queue} (next : host.queue.startNext = some (job, queue)) :
    Moment.ledger (moments ++ [moment]) number job.number = {} := by
  obtain ⟨writing, -, -⟩ := Queue.writing_startNext next
  obtain ⟨waiting, -, hw, -⟩ := Queue.startNext_eq_some next
  have free : ∀ own, host.queue.writing ≠ some own := by
    intro own some
    cases writing.symm.trans some
  rw [(ledger_concat hosted fun own some => absurd some (free own)).2]
  refine Moment.ledger_of_nil (h.fresh job.number (.inl ⟨job, ?_, rfl⟩))
  rw [hw]
  exact List.mem_cons_self

theorem starts (hosted' : moment.after.queues[number]? = some host')
    (turn : host.Turn number moment host') (event : moment.event = .start number) {job : Job}
    {queue : Queue} (next : host.queue.startNext = some (job, queue))
    (same : host' = { host with
      queue
      job := some (.waiting (host.writing number (moment.before.resolver host.schema) job)) }) :
    host'.Records number assumed (moments ++ [moment]) := by
  have traced := h.toTraced.turn hosted hosted' turn
  have fresh := h.fresh_concat hosted turn
  obtain ⟨-, taken, completed⟩ := Queue.writing_startNext next
  subst same
  refine { traced with idle := ?_, fresh, working := ?_, ended := completed ▸ h.ended_concat hosted }
  · intro none
    cases taken.symm.trans none
  · intro own hw
    cases taken.symm.trans hw
    refine ⟨_, ⟨moment, List.mem_append_right _ (List.mem_singleton_self moment), event, host,
      queue, hosted, next, rfl⟩, _, rfl, ?_⟩
    rw [h.ledger_start hosted next]
    exact Writer.write_logged host.writer _ job.items host.route number

theorem finishes (hosted' : moment.after.queues[number]? = some host')
    (turn : host.Turn number moment host') (event : moment.event = .finish number)
    {outcome : Except BridgeError Unit} (before : host.job = some (.waiting (.done outcome)))
    (same : host' = { host with queue := host.queue.finish outcome, job := none }) :
    host'.Records number assumed (moments ++ [moment]) := by
  have traced := h.toTraced.turn hosted hosted' turn
  have fresh := h.fresh_concat hosted turn
  obtain ⟨job, writing⟩ : ∃ job, host.queue.writing = some job := by
    refine Option.isSome_iff_exists.mp (Option.isSome_iff_ne_none.mpr fun none => ?_)
    rw [h.idle none] at before
    cases before
  obtain ⟨resolver, taken, kept⟩ := h.working job writing
  subst same
  refine { traced with idle := fun _ => rfl, fresh, working := ?_, ended := ?_ }
  · intro own hw
    cases (Queue.writing_finish host.queue outcome).symm.trans hw
  · rw [Queue.completed_finish writing]
    refine List.forall_mem_append.mpr ⟨h.ended_concat hosted, List.forall_mem_singleton.mpr ?_⟩
    refine ⟨resolver, taken.concat moment, ?_⟩
    rw [Moment.ledger_concat_of_none (by rw [Moment.written?, event])]
    exact kept.finish before

/-- **What is known of a queue** stays known from moment to moment. -/
theorem turn (hosted' : moment.after.queues[number]? = some host')
    (turn : host.Turn number moment host')
    (honest : ∀ {planned : List Operation} {request reply served},
      request.OfWriter host.route number planned →
        moment.before.serve? request = some (reply, served) → request.Honest assumed reply) :
    host'.Records number assumed (moments ++ [moment]) := by
  have traced := h.toTraced.turn hosted hosted' turn
  have fresh := h.fresh_concat hosted turn
  have step := turn
  cases step with
  | elsewhere steps foreign unwritten =>
    refine h.goesOn hosted hosted' turn honest steps.queue (by rw [steps.job]) fun event => foreign ?_
    rw [event]
    rfl
  | request event made before serves later steps after written =>
    refine h.goesOn hosted hosted' turn honest steps.queue (by rw [after, before]; rfl)
      fun finished => ?_
    cases event.symm.trans finished
  | start event free next same => exact h.starts hosted hosted' turn event next same
  | finish event before same => exact h.finishes hosted hosted' turn event before same
  | breakDown event before same =>
    subst same
    refine { traced with idle := fun _ => rfl, fresh, working := fun own hw => ?_,
                         ended := h.ended_concat hosted }
    cases hw

omit hosted in
theorem permits : ∃ planned, ∀ {request : SystemRequest} {next : System.Reply request → _},
    host.job = some (.waiting (.ask request next)) →
      request.OfWriter host.route number planned := by
  cases hw : host.queue.writing with
  | none =>
    refine ⟨[], fun before => ?_⟩
    rw [h.idle hw] at before
    cases before
  | some job =>
    obtain ⟨resolver, -, kept⟩ := h.working job hw
    exact ⟨_, fun before => kept.permits before⟩

end Records

/-- Whether the writer of a queue has not yet begun with the jobs of the queue. -/
structure Fresh (host : HostedQueue) : Prop where
  numbered : host.queue.Numbered
  completed : host.queue.completed = []
  writing : host.queue.writing = none
  present : host.queue.writerGone = false
  free : host.job = none

theorem Fresh.records (h : host.Fresh) : host.Records number assumed [] := by
  refine { numbered := h.numbered, lasting := List.forall_mem_nil _,
           gone := fun hg => ?_, cut := List.forall_mem_nil _,
           idle := fun _ => h.free, fresh := fun _ _ => rfl, working := fun job hw => ?_,
           ended := fun entry he => ?_ }
  · rw [h.present] at hg
    cases hg
  · rw [h.writing] at hw
    cases hw
  · rw [h.completed] at he
    cases he

end HostedQueue

/-! ## Runs -/

namespace Session

variable {session : Session} {number : Nat} {host : HostedQueue}
  {assumed : List Operation → BulkResponse → Prop} {events : List SessionEvent}
  {moments : List Moment}

/-- A queue of a session that has come from another one, with what is known of it. -/
structure Hosts (later : Session) (number : Nat) (host own : HostedQueue)
    (assumed : List Operation → BulkResponse → Prop) (moments : List Moment) : Prop where
  queue : later.queues[number]? = some own
  route : own.route = host.route
  strict : own.queue.strict = host.queue.strict
  records : own.Records number assumed moments

/-- What is known of a queue at a moment of a run. -/
def KnownAt (moments : List Moment) (number : Nat) (host : HostedQueue)
    (assumed : List Operation → BulkResponse → Prop) (moment : Moment) : Prop :=
  ∃ own own' earlier, earlier <+: moments ∧
    moment.before.Hosts number host own assumed earlier ∧
    moment.after.queues[number]? = some own' ∧ own.Turn number moment own'

/-- **What is known of a queue in a run**, if what is assumed of the answers of the engine follows from
something that stays so: it is known after the run, and before every moment of it. -/
theorem records_of_run {stays : Session → Prop}
    (kept : ∀ {before event after}, stays before → before.after? event = some after → stays after)
    (honest : ∀ {before planned request reply served}, stays before →
      request.OfWriter host.route number planned → before.serve? request = some (reply, served) →
        request.Honest assumed reply)
    (hosted : session.queues[number]? = some host) (fresh : host.Fresh) (begun : stays session)
    (run : session.play? events = some moments) :
    (∃ last, (session.last moments).Hosts number host last assumed moments) ∧
      ∀ moment ∈ moments, stays moment.before ∧ KnownAt moments number host assumed moment := by
  let holds : List Moment → Prop := fun earlier => stays (session.last earlier) ∧
    (∃ last, (session.last earlier).Hosts number host last assumed earlier) ∧
      ∀ moment ∈ earlier, stays moment.before ∧ KnownAt earlier number host assumed moment
  have all : holds moments := by
    refine run_induction (motive := holds) run ?_ ?_
    · exact ⟨begun, ⟨host, hosted, rfl, rfl, fresh.records⟩, List.forall_mem_nil _⟩
    rintro earlier moment same ha ⟨before, ⟨own, known⟩, each⟩
    rw [← same] at before known
    obtain ⟨own', hosted', turn⟩ := turn_of_after? known.queue ha
    have next : session.last (earlier ++ [moment]) = moment.after := by
      rw [last_append]
      rfl
    have longer : earlier <+: earlier ++ [moment] := List.prefix_append _ _
    dsimp only [holds]
    rw [next]
    refine ⟨kept before ha, ⟨own', hosted', turn.route.trans known.route,
      turn.grows.strict.trans known.strict, ?_⟩, List.forall_mem_append.mpr ⟨?_, ?_⟩⟩
    · exact known.records.turn known.queue hosted' turn fun permitted serves =>
        honest before (known.route ▸ permitted) serves
    · intro other ho
      obtain ⟨stayed, begin, begin', past, shorter, rest⟩ := each other ho
      exact ⟨stayed, begin, begin', past, shorter.trans longer, rest⟩
    · exact List.forall_mem_singleton.mpr
        ⟨before, own, own', earlier, longer, known, hosted', turn⟩
  exact all.2

/-- A job that is completed in a run has taken a course. -/
theorem ended_of_completes {last : HostedQueue}
    (known : (session.last moments).Hosts number host last assumed moments) {moment : Moment}
    (hm : moment ∈ moments) {job : Job} {outcome : Except BridgeError Unit}
    (completes : moment.Completes number job outcome) :
    ∃ resolver, Moment.TakesJob moments number job resolver ∧
      HostedQueue.Ended assumed resolver job.items outcome
        (Moment.ledger moments number job.number) := by
  refine known.records.ended (job, outcome) (known.records.lasting moment hm _ (.inr ?_))
  rw [completes.2]
  exact List.mem_append_right _ (List.mem_singleton_self _)

end Session

end EntitySearch
