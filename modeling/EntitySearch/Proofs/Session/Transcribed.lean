import EntitySearch.Proofs.Queue.Transcript
import EntitySearch.Proofs.Session.Recording

/-!
# The transcript of a job in a run

The transcript of a job can be read off the moments of a run at which its writer has requests carried
out: a request to the engine is sent at one moment and answered at the same or at a later one. From
the moment at which the writer takes the job until it completes it, the transcript is that of one of
the courses of the job, whatever engine the session has and whatever others do meanwhile.

* `Moment.transcript`, `Moment.transcriptIn`: what a moment and a run add to the transcript.
* `System.transcribing`: a session as surroundings that keep the transcript;
  `Procedure.Ensures.transcribed`.
* `Writer.write_logged`: the ledger that a session keeps of a job, by its transcript.
* `HostedQueue.Transcribes`, `Session.transcribes_of_run`: the rest of a job, and what becomes of it in
  a run.
* `Session.conducted_of_finish`: the transcript of a job that is completed.
-/

namespace EntitySearch

/-! ## What is noted -/

namespace SystemRequest

/-- The request that is sent to the engine. -/
def sent : SystemRequest → List Call
  | .send _ call => [call]
  | _ => []

/-- The answer of the engine that a reply brings. -/
def answered : (request : SystemRequest) → System.Reply request → List Answer
  | .receive call _, some outcome => [⟨call, outcome⟩]
  | .send _ call, .answered outcome => [⟨call, outcome⟩]
  | _, _ => []

/-- What a request and its reply add to the transcript of a job of a queue. -/
def transcript (number : Nat) (request : SystemRequest) (reply : System.Reply request) :
    Transcript :=
  ⟨request.sent, request.answered reply, request.published number⟩

/-- Whether a reply breaks a job off only if that is excused. -/
def Prompt (excused : Prop) : (request : SystemRequest) → System.Reply request → Prop
  | .receive _ _, none => excused
  | _, _ => True

theorem prompt_of_excused {excused : Prop} (h : excused) {request : SystemRequest}
    (reply : System.Reply request) : request.Prompt excused reply := by
  unfold Prompt
  split
  · exact h
  · trivial

theorem acknowledged_answered (request : SystemRequest) (reply : System.Reply request) :
    (request.answered reply).flatMap Answer.acknowledged = request.acknowledged reply := by
  have bulk : ∀ (operations : List Operation) (outcome : Outcome .bulk),
      [(⟨.bulk operations, outcome⟩ : Answer)].flatMap Answer.acknowledged =
        BulkResponse.acknowledgedBy operations outcome := by
    intro operations outcome
    rw [List.flatMap_singleton]
    cases outcome <;> rfl
  cases request with
  | send route call =>
    cases reply with
    | takes delay => cases call <;> rfl
    | answered outcome =>
      cases call with
      | bulk operations => exact bulk operations outcome
      | _ => rfl
  | receive call delay =>
    cases reply with
    | none => cases call <;> rfl
    | some outcome =>
      cases call with
      | bulk operations => exact bulk operations outcome
      | _ => rfl
  | _ => rfl

theorem Honest.assumed {assumed : List Operation → BulkResponse → Prop} {request : SystemRequest}
    {reply : System.Reply request} (honest : request.Honest assumed reply)
    {operations : List Operation} {response : BulkResponse}
    (answered : ⟨.bulk operations, .ok response⟩ ∈ request.answered reply) :
    assumed operations response := by
  cases request with
  | send route call =>
    cases reply with
    | takes delay => cases answered
    | answered outcome =>
      cases List.mem_singleton.mp answered
      exact honest
  | receive call delay =>
    cases reply with
    | none => cases answered
    | some outcome =>
      cases List.mem_singleton.mp answered
      exact honest
  | _ => cases answered

end SystemRequest

namespace Moment

/-- What a moment adds to the transcript of a job of a queue. -/
def transcript (moment : Moment) (number : Nat) : Transcript :=
  match moment.written? number with
  | some ⟨request, reply⟩ => request.transcript number reply
  | none => {}

/-- The transcript of what the writer of a queue does in a run. -/
def transcriptIn (moments : List Moment) (number : Nat) : Transcript :=
  moments.foldr (fun moment rest => moment.transcript number ++ rest) {}

theorem transcript_of_written {moment : Moment} {number : Nat} {request : SystemRequest}
    {reply : System.Reply request} (h : moment.written? number = some ⟨request, reply⟩) :
    moment.transcript number = request.transcript number reply := by
  rw [transcript, h]

theorem transcript_of_none {moment : Moment} {number : Nat} (h : moment.written? number = none) :
    moment.transcript number = {} := by
  rw [transcript, h]

theorem published_transcriptIn (moments : List Moment) (number : Nat) :
    (transcriptIn moments number).published = publishedIn moments number := by
  induction moments with
  | nil => rfl
  | cons moment rest ih =>
    rw [transcriptIn, List.foldr_cons, publishedIn, List.flatMap_cons, Transcript.published_append]
    refine congr (congrArg _ ?_) ih
    rw [transcript, published]
    cases moment.written? number <;> rfl

end Moment

/-! ## A session as surroundings -/

/-- A session in which the transcript of a job is kept. The job may be broken off only if there is an
excuse for it. -/
def System.transcribing (excuse : List Answer → Prop) (route : Route) (number : Nat)
    (plan : BulkPlan) : Surroundings System Transcript where
  answers transcript request reply after :=
    request.Prompt (excuse transcript.answers) reply ∧
      after = transcript ++ request.transcript number reply
  others transcript later := later = transcript
  permits transcript request :=
    request.OfWriter route number plan.operations ∧
      (request = .abandon → excuse transcript.answers)
  others_refl _ := rfl
  others_trans h h' := h'.trans h

variable {excuse : List Answer → Prop} {plan : BulkPlan} {transcript : Transcript} {route : Route}
  {number : Nat}

theorem System.ask_transcribed (request : SystemRequest)
    (permitted : request.OfWriter route number plan.operations) (goes : request ≠ .abandon) :
    (System.ask request).Ensures (System.transcribing excuse route number plan)
      (fun reply after => request.Prompt (excuse transcript.answers) reply ∧
        after = transcript ++ request.transcript number reply) transcript := by
  rintro _ rfl
  refine ⟨⟨permitted, fun gone => absurd gone goes⟩, ?_⟩
  rintro reply after ⟨prompt, rfl⟩ _ rfl
  exact ⟨prompt, rfl⟩

theorem System.ask_quiet (request : SystemRequest)
    (permitted : request.OfWriter route number plan.operations) (goes : request ≠ .abandon)
    (quiet : ∀ reply, request.transcript number reply = {}) :
    (System.ask request).Ensures (System.transcribing excuse route number plan)
      (fun _ => (· = transcript)) transcript := by
  refine (System.ask_transcribed request permitted goes).weaken ?_
  rintro reply after ⟨-, rfl⟩
  rw [quiet, Transcript.append_empty]

theorem System.call_transcribed {call : Call}
    (sends : (SystemRequest.send route call).OfWriter route number plan.operations)
    (receives : ∀ delay,
      (SystemRequest.receive call delay).OfWriter route number plan.operations) :
    (System.call route call).Ensures (System.transcribing excuse route number plan)
      (fun outcome after => after = transcript ++ .ofAnswers [⟨call, outcome⟩]) transcript := by
  refine Procedure.Ensures.bind ((System.ask_transcribed _ sends nofun).weaken ?_)
  rintro receipt _ ⟨-, rfl⟩
  cases receipt with
  | answered outcome =>
    rintro _ rfl
    rfl
  | takes delay =>
    refine Procedure.Ensures.bind ((System.ask_quiet (.sleep delay) trivial nofun
      fun _ => rfl).weaken ?_)
    rintro _ _ rfl
    refine Procedure.Ensures.bind ((System.ask_transcribed _ (receives delay) nofun).weaken ?_)
    rintro answer _ ⟨prompt, rfl⟩
    cases answer with
    | none =>
      rintro _ rfl
      have nothing : (SystemRequest.receive call delay).transcript number none = {} := rfl
      rw [nothing, Transcript.append_empty]
      exact ⟨⟨trivial, fun _ => prompt⟩, nofun⟩
    | some outcome =>
      rintro _ rfl
      rw [Transcript.append_assoc]
      rfl

/-- **A writer's procedure** keeps the same transcript when its requests are carried out by a
session. -/
theorem Procedure.Ensures.transcribed {α : Type} {procedure : Procedure Writing α}
    {post : α → Transcript → Prop}
    (h : procedure.Ensures (Writing.transcribing excuse plan) post transcript)
    (route : Route) (number : Nat) :
    (procedure.expand (System.writing route number)).Ensures
      (System.transcribing excuse route number plan) post transcript := by
  have same : ∀ {state later}, (System.transcribing excuse route number plan).others state later →
      (Writing.transcribing excuse plan).others state later := id
  refine Procedure.Ensures.expand same ?_ h
  intro request transcript permitted
  cases request with
  | inr failure =>
    refine (System.ask_transcribed (.publish number failure) rfl nofun).weaken ?_
    rintro _ _ ⟨-, rfl⟩
    have noted : (SystemRequest.publish number failure).published number = [failure] := if_pos rfl
    rw [SystemRequest.transcript, noted]
    rfl
  | inl request =>
    cases request with
    | call call =>
      cases call with
      | bulk operations =>
        cases permitted
        exact System.call_transcribed ⟨rfl, rfl⟩ fun _ => rfl
      | refresh names => exact System.call_transcribed rfl fun _ => trivial
      | _ => exact permitted.elim
    | callWithin limit call => exact permitted.elim
    | wait delay => exact System.ask_quiet (.sleep delay) trivial nofun fun _ => rfl
    | record measurement =>
      exact System.ask_quiet (.record measurement) trivial nofun fun _ => rfl
    | abandon =>
      rintro _ rfl
      exact ⟨⟨trivial, fun _ => permitted⟩, nofun⟩

/-! ## The ledger of a job -/

namespace Transcript.Tells

variable {assumed : List Operation → BulkResponse → Prop} {ledger : Ledger}

theorem empty : Tells assumed {} {} := ⟨rfl, fun _ _ hm => absurd hm List.not_mem_nil⟩

theorem note (h : Tells assumed transcript ledger) (request : SystemRequest)
    {reply : System.Reply request} (honest : request.Honest assumed reply) :
    Tells assumed (transcript ++ request.transcript number reply)
      (ledger.note number request reply) := by
  obtain ⟨rfl, before⟩ := h
  refine ⟨?_, fun operations response hm => ?_⟩
  · rw [Transcript.ledger, Ledger.note, answers_append, List.flatMap_append,
      ← request.acknowledged_answered reply]
    rfl
  · rcases List.mem_append.mp hm with hm | hm
    · exact before operations response hm
    · exact honest.assumed hm

end Transcript.Tells

/-- **The course of a job**: whatever the engine answers, the ledger is that of one course, and the
last failure that the course publishes decides how the job ends. -/
theorem Writer.write_logged {assumed : List Operation → BulkResponse → Prop} (writer : Writer)
    (resolver : Resolver) (items : List WorkItem) (route : Route) (number : Nat) :
    ((writer.write resolver items).expand (System.writing route number)).Ensures
      (System.logging route number (BulkPlan.ofItems resolver items).operations assumed)
      (fun outcome after => ∃ course,
        (BulkPlan.ofItems resolver items).Follows assumed items course after ∧
          outcome = BulkFailure.ending (course.reports (BulkPlan.ofItems resolver items) items))
      {} := by
  have conducted := (@write_transcribed (fun _ => True) writer resolver items
    fun _ _ => trivial).transcribed route number
  refine .weaken ?_ (conducted.follow (Transcript.Tells assumed) ?_ ?_ ?_ .empty)
  · rintro outcome after ⟨transcript, ⟨course, conducted, rfl⟩, tells⟩
    exact ⟨course, conducted.follows tells, rfl⟩
  · rintro transcript ledger _ tells rfl
    exact ⟨transcript, rfl, tells⟩
  · rintro transcript ledger request tells permitted
    exact permitted.1
  · rintro transcript ledger request reply last tells ⟨honest, rfl⟩
    exact ⟨_, ⟨SystemRequest.prompt_of_excused trivial reply, rfl⟩, tells.note request honest⟩

/-! ## The rest of a job -/

namespace HostedQueue

/-- Whether the rest of a job ensures something of the transcript, unless the writer has broken
down. -/
def Transcribes (host : HostedQueue) (number : Nat) (plan : BulkPlan)
    (post : Except BridgeError Unit → Transcript → Prop) (transcript : Transcript) : Prop :=
  host.Keeps (System.transcribing (fun _ => True) host.route number plan) post transcript ∨ host.Gone

namespace Transcribes

variable {host host' : HostedQueue} {moment : Moment}
  {post : Except BridgeError Unit → Transcript → Prop}

theorem permits (h : host.Transcribes number plan post transcript) {request : SystemRequest}
    {next : System.Reply request → _} (before : host.job = some (.waiting (.ask request next))) :
    request.OfWriter host.route number plan.operations := by
  rcases h with kept | gone
  · exact (kept.permits before).1
  · rw [gone.free] at before
    cases before

theorem finish (h : host.Transcribes number plan post transcript)
    {outcome : Except BridgeError Unit} (before : host.job = some (.waiting (.done outcome))) :
    post outcome transcript := by
  rcases h with kept | gone
  · exact kept.finish before
  · rw [gone.free] at before
    cases before

/-- **The rest of a job** goes on with the transcript at every moment, as long as the job is
written. -/
theorem turn (h : host.Transcribes number plan post transcript)
    (turn : host.Turn number moment host') (unfinished : moment.event ≠ .finish number) :
    host'.Transcribes number plan post (transcript ++ moment.transcript number) := by
  rcases h with kept | gone
  swap
  · exact .inr (gone.turn turn).1
  rw [Transcribes, turn.route]
  rcases kept.turn turn unfinished with ⟨unwritten, kept⟩ |
    ⟨request, reply, served, written, -, -, kept⟩ | gone
  · rw [Moment.transcript_of_none unwritten, Transcript.append_empty]
    exact .inl kept
  · rw [Moment.transcript_of_written written]
    exact .inl (kept _ ⟨SystemRequest.prompt_of_excused trivial reply, rfl⟩)
  · exact .inr gone

end Transcribes

theorem transcribes_start {host : HostedQueue} {resolver : Resolver} {job : Job}
    (started : host.job = some (.waiting (host.writing number resolver job))) :
    host.Transcribes number (BulkPlan.ofItems resolver job.items)
      (fun _ transcript => ∃ course, (BulkPlan.ofItems resolver job.items).Conducted host.writer
        job.items course transcript) {} := by
  have written := @Writer.write_transcribed (fun _ => True) host.writer resolver job.items
    fun _ _ => trivial
  refine .inl ⟨_, started, (written.transcribed host.route number).weaken ?_⟩
  rintro outcome transcript ⟨course, conducted, -⟩
  exact ⟨course, conducted⟩

end HostedQueue

namespace Session

variable {session later : Session} {host host' : HostedQueue}
  {post : Except BridgeError Unit → Transcript → Prop}

/-- The rest of a job goes on with the transcript in a run, until the job is completed. -/
theorem transcribes_of_run {events : List SessionEvent} :
    ∀ {moments : List Moment} {session : Session} {host : HostedQueue} {transcript : Transcript},
      session.queues[number]? = some host → host.Transcribes number plan post transcript →
        session.play? events = some moments → .finish number ∉ events →
          ∃ host', (session.last moments).queues[number]? = some host' ∧
            host'.Transcribes number plan post
              (transcript ++ Moment.transcriptIn moments number) := by
  induction events with
  | nil =>
    intro moments session host transcript hq h run unfinished
    cases run
    exact ⟨host, hq, (Transcript.append_empty transcript).symm ▸ h⟩
  | cons event rest ih =>
    intro moments session host transcript hq h run unfinished
    obtain ⟨after, tail, ha, ht, rfl⟩ := play?_cons run
    obtain ⟨host', hq', turn⟩ := turn_of_after? hq ha
    have next := h.turn turn fun own => unfinished (own ▸ List.mem_cons_self)
    obtain ⟨host'', hq'', last⟩ := ih hq' next ht fun hm => unfinished (List.mem_cons_of_mem _ hm)
    rw [Transcript.append_assoc] at last
    exact ⟨host'', hq'', last⟩

theorem finish_not_mem_writes (number steps : Nat) :
    SessionEvent.finish number ∉ List.replicate steps (.write number) := by
  intro hm
  cases List.eq_of_mem_replicate hm

theorem started_of_play {job : Job} {queue : Queue} {events : List SessionEvent}
    {moments : List Moment} (hosted : session.queues[number]? = some host)
    (next : host.queue.startNext = some (job, queue))
    (run : session.play? (.start number :: events) = some moments) :
    ∃ after tail, after.queues[number]? = some { host with
        queue
        job := some (.waiting (host.writing number (session.resolver host.schema) job)) } ∧
      after.engine = session.engine ∧ after.outcomes = session.outcomes ∧
      after.play? events = some tail ∧ moments = ⟨session, .start number, after⟩ :: tail := by
  obtain ⟨after, tail, ha, ht, rfl⟩ := play?_cons run
  obtain ⟨own, other, rest, ho, free, hn, rfl⟩ := after?_start ha
  rw [hosted] at ho
  cases ho
  rw [next] at hn
  cases hn
  refine ⟨_, tail, ?_, ?_, ?_, ht, rfl⟩
  · exact queue_modify hosted _
  · rfl
  · rfl

/-- **The transcript of a job that is completed** is that of one of its courses. -/
theorem conducted_of_finish {job : Job} {queue : Queue} {events : List SessionEvent}
    {moments : List Moment} (hosted : session.queues[number]? = some host)
    (next : host.queue.startNext = some (job, queue))
    (run : session.play? (.start number :: events) = some moments)
    (unfinished : .finish number ∉ events)
    (finish : (session.last moments).after? (.finish number) = some later) :
    ∃ course, (BulkPlan.ofItems (session.resolver host.schema) job.items).Conducted host.writer
      job.items course (Moment.transcriptIn moments number) := by
  obtain ⟨after, tail, hq, -, -, ht, rfl⟩ := started_of_play hosted next run
  obtain ⟨host', hq', kept⟩ :=
    transcribes_of_run hq (HostedQueue.transcribes_start rfl) ht unfinished
  obtain ⟨outcome, writing, -⟩ := after?_finish finish
  exact kept.finish (job_of_writing? hq' writing)

end Session

end EntitySearch
