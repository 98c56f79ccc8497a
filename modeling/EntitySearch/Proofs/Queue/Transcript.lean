import EntitySearch.Proofs.Engine.Answers
import EntitySearch.Proofs.Procedure.Retrying
import EntitySearch.Proofs.Queue.Course

/-!
# The transcript of a job

The transcript of a job holds what the engine answers to its requests and what is published for it.
Whatever the answers are, they tell the course of the job: the bulk request is sent again after errors
that may pass, up to an answer that decides; then a strict queue refreshes, if the engine has taken
the request, and again up to an answer that decides. The job is broken off only if there is no delay to
wait for before the next attempt, or by the engine.

* `Transcript`: what is answered and published.
* `RetryPolicy.Tried`: the outcomes with which an operation may be tried.
* `RetryPolicy.Stuck`, `Writer.Stuck`: errors after which there is no delay to wait for.
* `Writing.transcribing`: surroundings that keep the transcript; they may give any answers.
* `JobCourse.Heard`: the answers on a course.
* `Writer.write_transcribed`: the transcript of a job.
* `Transcript.Tells`, `BulkPlan.Conducted.follows`: the ledger that the transcript tells of.
-/

namespace EntitySearch

/-- The requests that are sent for a job, what an engine answers to them, and what is published. -/
@[ext]
structure Transcript where
  sent : List Call := []
  answers : List Answer := []
  published : List BulkFailure := []

namespace Transcript

/-- One transcript after the other. -/
def append (transcript more : Transcript) : Transcript :=
  ⟨transcript.sent ++ more.sent, transcript.answers ++ more.answers,
    transcript.published ++ more.published⟩

instance : Append Transcript := ⟨append⟩

/-- The transcript of some requests and the answers to them. -/
def ofAnswers (answers : List Answer) : Transcript := { sent := answers.map (·.call), answers }

/-- The transcript of a failure that is published. -/
def ofFailure (failure : BulkFailure) : Transcript := { published := [failure] }

variable (transcript : Transcript)

@[simp] theorem sent_append (more : Transcript) :
    (transcript ++ more).sent = transcript.sent ++ more.sent := rfl

@[simp] theorem answers_append (more : Transcript) :
    (transcript ++ more).answers = transcript.answers ++ more.answers := rfl

@[simp] theorem published_append (more : Transcript) :
    (transcript ++ more).published = transcript.published ++ more.published := rfl

@[simp] theorem append_empty : transcript ++ ({} : Transcript) = transcript :=
  Transcript.ext (List.append_nil _) (List.append_nil _) (List.append_nil _)

theorem append_assoc (more last : Transcript) :
    transcript ++ more ++ last = transcript ++ (more ++ last) :=
  Transcript.ext (List.append_assoc _ _ _) (List.append_assoc _ _ _)
    (List.append_assoc _ _ _)

@[simp] theorem ofAnswers_append (answers more : List Answer) :
    ofAnswers (answers ++ more) = ofAnswers answers ++ ofAnswers more := by
  rw [ofAnswers, List.map_append]
  rfl

end Transcript

/-! ## Requests that are sent again -/

/-- Whether an operation may be tried with some outcomes: errors that can pass, as many as the policy
allows, and the first outcome that decides. -/
structure RetryPolicy.Tried {ε α : Type} (policy : RetryPolicy) (retryable : ε → Bool)
    (earlier : List ε) (last : Except ε α) : Prop where
  passing : ∀ error ∈ earlier, retryable error = true
  bounded : earlier.length + 1 ≤ policy.limit
  decides : policy.Decides retryable (earlier.length + 1) last

/-- Whether there is no delay to wait for after some errors, which can all pass. -/
structure RetryPolicy.Stuck {ε : Type} (policy : RetryPolicy) (retryable : ε → Bool)
    (errors : List ε) : Prop where
  failed : errors ≠ []
  passing : ∀ error ∈ errors, retryable error = true
  within : errors.length < policy.limit
  missing : policy.delayFor errors.length = none

/-- Whether a job cannot go on after some answers, since there is no delay to wait for. -/
inductive Writer.Stuck (writer : Writer) (plan : BulkPlan) : List Answer → Prop
  /-- The engine has not taken the bulk request. -/
  | bulk {errors : List EngineError} (stuck : writer.bulkPolicy.Stuck EngineError.isRetryable errors) :
    Stuck writer plan (refused (.bulk plan.operations) errors)
  /-- A strict queue has not refreshed. -/
  | refresh {earlier errors : List EngineError} {response : BulkResponse}
    (strict : writer.strict = true)
    (stuck : writer.refreshPolicy.Stuck EngineError.isRetryable errors) :
    Stuck writer plan (heard (.bulk plan.operations) earlier (.ok response) ++
      refused (.refresh plan.indices) errors)

/-! ## Surroundings -/

/-- Surroundings that keep the transcript of a job. They give any answers. A job may be broken off only
if there is an excuse for it. -/
def Writing.transcribing (excuse : List Answer → Prop) (plan : BulkPlan) :
    Surroundings Writing Transcript where
  answers
    | transcript, .inl (.call call), outcome, after =>
      after = transcript ++ .ofAnswers [⟨call, outcome⟩]
    | transcript, .inr failure, _, after => after = transcript ++ .ofFailure failure
    | transcript, _, _, after => after = transcript
  others transcript later := later = transcript
  permits
    | _, .inl (.call (.bulk operations)) => operations = plan.operations
    | _, .inl (.call (.refresh names)) => names = plan.indices
    | _, .inl (.call _) | _, .inl (.callWithin _ _) => False
    | transcript, .inl .abandon => excuse transcript.answers
    | _, _ => True
  others_refl _ := rfl
  others_trans h h' := h'.trans h

/-- The attempts at a request, with the transcript that they keep. -/
def Attempts.transcribing (excuse : List Answer → Prop) (call : Call) :
    Surroundings (Attempts EngineError call.Answer) Transcript where
  answers
    | transcript, .attempt, outcome, after => after = transcript ++ .ofAnswers [⟨call, outcome⟩]
    | transcript, .pause _, _, after | transcript, .abandon, _, after => after = transcript
  others transcript later := later = transcript
  permits
    | transcript, .abandon => excuse transcript.answers
    | _, _ => True
  others_refl _ := rfl
  others_trans h h' := h'.trans h

variable {excuse : List Answer → Prop} {plan : BulkPlan} {transcript : Transcript}

/-- The attempts at a request are tried as their policy says, and all answers are in the transcript. -/
theorem RetryPolicy.retry_transcribed (policy : RetryPolicy) (call : Call)
    (excused : ∀ errors, policy.Stuck EngineError.isRetryable errors →
      excuse (transcript.answers ++ refused call errors)) :
    (policy.retry EngineError.isRetryable).Ensures (Attempts.transcribing excuse call)
      (fun result after => ∃ earlier last, policy.Tried EngineError.isRetryable earlier last ∧
        result = Exhausted.after (earlier.length + 1) last ∧
          after = transcript ++ .ofAnswers (heard call earlier last)) transcript := by
  have ensured := @retry_ensures EngineError call.Answer _ policy EngineError.isRetryable
    (Attempts.transcribing excuse call)
    (fun attempt (after : Transcript) => ∃ earlier : List EngineError,
      earlier.length + 1 = attempt ∧ (∀ error ∈ earlier, error.isRetryable = true) ∧
        after = transcript ++ .ofAnswers (refused call earlier))
    (fun attempt last (after : Transcript) => ∃ earlier : List EngineError,
      earlier.length + 1 = attempt ∧ (∀ error ∈ earlier, error.isRetryable = true) ∧
        after = transcript ++ .ofAnswers (heard call earlier last))
    ?_ ?_ ?_ ?_ transcript ⟨[], rfl, List.forall_mem_nil _, (Transcript.append_empty _).symm⟩
  · refine ensured.weaken ?_
    rintro result after ⟨attempt, last, bounded, decides, ⟨earlier, rfl, passing, rfl⟩, rfl⟩
    exact ⟨earlier, last, ⟨passing, bounded, decides⟩, rfl, rfl⟩
  · rintro attempt last before _ rfl h
    exact h
  · rintro attempt before ⟨earlier, rfl, passing, rfl⟩ before rfl
    refine ⟨trivial, ?_⟩
    rintro outcome _ rfl last rfl
    refine ⟨earlier, rfl, passing, (Transcript.append_assoc _ _ _).trans ?_⟩
    exact congrArg (transcript ++ ·) (Transcript.ofAnswers_append _ _).symm
  · rintro attempt error delay before ⟨earlier, rfl, passing, rfl⟩ goes - before rfl
    refine ⟨trivial, ?_⟩
    rintro _ _ rfl last rfl
    have passes := (not_decides_iff.mp goes).1
    rw [heard_error]
    refine ⟨earlier ++ [error], by rw [List.length_append]; rfl, ?_, rfl⟩
    rw [List.forall_mem_append, List.forall_mem_singleton]
    exact ⟨passing, passes⟩
  · rintro attempt error before ⟨earlier, rfl, passing, rfl⟩ goes within missing
    have passes := (not_decides_iff.mp goes).1
    have stuck : policy.Stuck EngineError.isRetryable (earlier ++ [error]) := by
      refine ⟨List.append_ne_nil_of_right_ne_nil _ nofun, ?_, ?_, ?_⟩
      · rw [List.forall_mem_append, List.forall_mem_singleton]
        exact ⟨passing, passes⟩
      · rwa [List.length_append]
      · rwa [List.length_append]
    rw [heard_error]
    exact excused _ stuck

/-! ## Courses -/

/-- The answers to the refreshes of a delivered job, and why its writes are not visible. -/
inductive BulkPlan.Shown (writer : Writer) (plan : BulkPlan) :
    Option (Exhausted EngineError) → List Answer → Prop
  /-- A queue that is not strict does not refresh. -/
  | lax (lax : writer.strict = false) : Shown writer plan none []
  /-- A refresh succeeds. -/
  | visible {earlier : List EngineError} (strict : writer.strict = true)
    (tried : writer.refreshPolicy.Tried EngineError.isRetryable earlier (.ok () : Except _ Unit)) :
    Shown writer plan none (heard (.refresh plan.indices) earlier (.ok ()))
  /-- All refreshes fail. -/
  | hidden {earlier : List EngineError} {error : EngineError} (strict : writer.strict = true)
    (tried : writer.refreshPolicy.Tried EngineError.isRetryable earlier
      (.error error : Except _ Unit)) :
    Shown writer plan (some ⟨error, earlier.length + 1⟩)
      (heard (.refresh plan.indices) earlier (.error error))

theorem BulkPlan.Shown.call_eq {writer : Writer} {invisible : Option (Exhausted EngineError)}
    {late : List Answer} (shown : plan.Shown writer invisible late) {answer : Answer}
    (hm : answer ∈ late) : answer.call = .refresh plan.indices := by
  have again : ∀ {earlier : List EngineError} {last : Outcome .refresh},
      answer ∈ heard (.refresh plan.indices) earlier last →
        answer.call = .refresh plan.indices := by
    intro earlier last hm
    rcases mem_heard_iff.mp hm with ⟨error, -, rfl⟩ | rfl <;> rfl
  cases shown with
  | lax => cases hm
  | visible => exact again hm
  | hidden => exact again hm

/-- The answers to the requests of a job on a course. -/
inductive JobCourse.Heard (writer : Writer) (plan : BulkPlan) : JobCourse → List Answer → Prop
  | unsent : Heard writer plan .unsent []
  | undelivered {earlier : List EngineError} {error : EngineError}
    (tried : writer.bulkPolicy.Tried EngineError.isRetryable earlier
      (.error error : Outcome .bulk)) :
    Heard writer plan (.undelivered ⟨error, earlier.length + 1⟩)
      (heard (.bulk plan.operations) earlier (.error error))
  | delivered {earlier : List EngineError} {response : BulkResponse}
    {invisible : Option (Exhausted EngineError)} {late : List Answer}
    (tried : writer.bulkPolicy.Tried EngineError.isRetryable earlier
      (.ok response : Outcome .bulk))
    (shown : plan.Shown writer invisible late) :
    Heard writer plan (.delivered response invisible)
      (heard (.bulk plan.operations) earlier (.ok response) ++ late)

/-- The transcript of a job that has taken a course. -/
structure BulkPlan.Conducted (writer : Writer) (plan : BulkPlan) (items : List WorkItem)
    (course : JobCourse) (transcript : Transcript) : Prop where
  unsent : plan.entries.isEmpty = true ↔ course = .unsent
  heard : course.Heard writer plan transcript.answers
  sent : transcript.sent = transcript.answers.map (·.call)
  published : transcript.published = plan.dropped ++ course.reports plan items

/-! ## Parts of a job -/

theorem Link.ensures_quiet {request : LinkRequest}
    (permitted : (Writing.transcribing excuse plan).permits transcript (.inl request))
    (quiet : ∀ {reply after},
      (Writing.transcribing excuse plan).answers transcript (.inl request) reply after →
        after = transcript) :
    (Procedure.request (p := Link) request).Ensures (Writing.transcribing excuse plan).left
      (fun _ => (· = transcript)) transcript := by
  rintro _ rfl
  refine ⟨permitted, fun reply after ha => ?_⟩
  rintro _ rfl
  exact quiet ha

theorem Link.record_transcribed (measurement : Measurement) :
    (Link.record measurement).Ensures (Writing.transcribing excuse plan).left
      (fun _ => (· = transcript)) transcript :=
  Link.ensures_quiet trivial fun h => h

theorem Link.retried_transcribed (policy : RetryPolicy) (operation : String) (call : Call)
    (permitted : ∀ before, (Writing.transcribing excuse plan).permits before (.inl (.call call)))
    (excused : ∀ errors, policy.Stuck EngineError.isRetryable errors →
      excuse (transcript.answers ++ refused call errors)) :
    (Link.retried policy operation call).Ensures (Writing.transcribing excuse plan).left
      (fun result after => ∃ earlier last, policy.Tried EngineError.isRetryable earlier last ∧
        result = Exhausted.after (earlier.length + 1) last ∧
          after = transcript ++ .ofAnswers (heard call earlier last)) transcript := by
  have same : ∀ {state later},
      (Writing.transcribing excuse plan).left.others state later →
        (Attempts.transcribing excuse call).others state later := id
  refine Procedure.Ensures.expand same ?_ (policy.retry_transcribed call excused)
  intro request before allowed
  cases request with
  | attempt =>
    rintro _ rfl
    refine ⟨permitted _, fun outcome after ha => ?_⟩
    rintro _ rfl
    exact ha
  | pause delay =>
    refine Procedure.Ensures.bind (.weaken ?_ (Link.record_transcribed _))
    rintro _ _ rfl
    exact Link.ensures_quiet trivial fun h => h
  | abandon =>
    rintro _ rfl
    exact ⟨allowed, nofun⟩

namespace Writer

variable {writer : Writer} {items : List WorkItem}

theorem sent_of_filled (filled : plan.entries.isEmpty = false) {course : JobCourse}
    (sent : course ≠ .unsent) : plan.entries.isEmpty = true ↔ course = .unsent :=
  iff_of_false (by simp [filled]) sent

theorem report_transcribed (failure : BulkFailure) :
    (report failure).Ensures (Writing.transcribing excuse plan)
      (fun _ => (· = transcript ++ .ofFailure failure)) transcript := by
  refine Procedure.Ensures.bind (.left (.weaken ?_ (Link.record_transcribed _)))
  rintro _ _ rfl _ rfl
  refine ⟨trivial, ?_⟩
  rintro _ after rfl _ rfl
  rfl

theorem fail_transcribed (failure : BulkFailure) :
    (fail failure).Ensures (Writing.transcribing excuse plan)
      (fun outcome after => outcome = .error failure.error ∧ after = transcript ++ .ofFailure failure)
      transcript := by
  refine Procedure.Ensures.bind (.weaken ?_ (report_transcribed failure))
  rintro _ _ rfl _ rfl
  exact ⟨rfl, rfl⟩

theorem makeVisible_transcribed
    (excused : writer.strict = true → ∀ errors,
      writer.refreshPolicy.Stuck EngineError.isRetryable errors →
        excuse (transcript.answers ++ refused (.refresh plan.indices) errors))
    (reports : List BulkFailure) :
    (writer.makeVisible plan items (BulkFailure.ending reports)).Ensures
      (Writing.transcribing excuse plan)
      (fun outcome after => ∃ invisible late, plan.Shown writer invisible late ∧
        outcome = BulkFailure.ending (reports ++ JobCourse.hidden items invisible) ∧
        after = transcript ++ .ofAnswers late ++
          { published := JobCourse.hidden items invisible })
      transcript := by
  unfold makeVisible
  cases hs : writer.strict with
  | false =>
    rintro _ rfl
    refine ⟨none, [], .lax hs, by simp [JobCourse.hidden], ?_⟩
    rw [JobCourse.hidden, Transcript.append_empty]
    exact (Transcript.append_empty _).symm
  | true =>
    rw [if_pos rfl]
    refine Procedure.Ensures.bind (.left (Procedure.Ensures.bind (.weaken ?_
      (Link.retried_transcribed writer.refreshPolicy "refresh" (.refresh plan.indices)
        (fun _ => rfl) (excused hs)))))
    rintro _ after ⟨earlier, last, tried, rfl, rfl⟩
    refine Procedure.Ensures.bind (.weaken ?_ (Link.record_transcribed _))
    rintro _ _ rfl _ rfl
    cases last with
    | ok answer =>
      rintro _ rfl
      refine ⟨none, _, .visible hs tried, by simp [JobCourse.hidden], ?_⟩
      rw [JobCourse.hidden, Transcript.append_empty]
      rfl
    | error error =>
      refine .weaken ?_ (fail_transcribed _)
      rintro outcome _ ⟨rfl, rfl⟩
      exact ⟨_, _, .hidden hs tried, (BulkFailure.ending_append reports _).symm, rfl⟩

theorem answered_transcribed (excused : ∀ answers, writer.Stuck plan answers → excuse answers)
    (filled : plan.entries.isEmpty = false) {earlier : List EngineError} {response : BulkResponse}
    (tried : writer.bulkPolicy.Tried EngineError.isRetryable earlier
      (.ok response : Outcome .bulk)) {early : List BulkFailure}
    (rejected : (if response.isSuccess then [] else [rejection plan response.rejections]) = early) :
    (writer.makeVisible plan items (BulkFailure.ending early)).Ensures
      (Writing.transcribing excuse plan)
      (fun outcome after => ∃ course, plan.Conducted writer items course after ∧
        outcome = BulkFailure.ending (course.reports plan items))
      ({ published := plan.dropped } ++
        .ofAnswers (heard (.bulk plan.operations) earlier (.ok response)) ++
        { published := early }) := by
  subst rejected
  refine .weaken ?_ (makeVisible_transcribed (fun strict errors stuck => ?_) _)
  · rintro outcome _ ⟨invisible, late, shown, rfl, rfl⟩
    have course : JobCourse.delivered response invisible ≠ .unsent := nofun
    refine ⟨.delivered response invisible, ⟨sent_of_filled filled course, ?_, ?_, ?_⟩, rfl⟩
    · simpa [Transcript.ofAnswers] using JobCourse.Heard.delivered tried shown
    · simp [Transcript.ofAnswers]
    · simp [Transcript.ofAnswers, JobCourse.reports]
  · have stuck := @Stuck.refresh writer plan earlier errors response strict stuck
    exact excused _ (by simpa [Transcript.ofAnswers] using stuck)

theorem deliver_transcribed (excused : ∀ answers, writer.Stuck plan answers → excuse answers)
    (filled : plan.entries.isEmpty = false) :
    (writer.deliver plan items).Ensures (Writing.transcribing excuse plan)
      (fun outcome after => ∃ course, plan.Conducted writer items course after ∧
        outcome = BulkFailure.ending (course.reports plan items))
      { published := plan.dropped } := by
  refine Procedure.Ensures.bind (.left (.weaken ?_ (Link.retried_transcribed writer.bulkPolicy
    "bulk" (.bulk plan.operations) (fun _ => rfl) fun _ stuck => excused _ (.bulk stuck))))
  rintro _ _ ⟨earlier, last, tried, rfl, rfl⟩
  cases last with
  | error error =>
    refine Procedure.Ensures.bind (.left (.weaken ?_ (Link.record_transcribed _)))
    rintro _ _ rfl
    refine .weaken ?_ (fail_transcribed _)
    rintro outcome _ ⟨rfl, rfl⟩
    have course : JobCourse.undelivered ⟨error, earlier.length + 1⟩ ≠ .unsent := nofun
    refine ⟨_, ⟨sent_of_filled filled course, ?_, ?_, ?_⟩, rfl⟩
    · simpa [Transcript.ofAnswers, Transcript.ofFailure] using JobCourse.Heard.undelivered tried
    · simp [Transcript.ofAnswers, Transcript.ofFailure]
    · simp [Transcript.ofAnswers, Transcript.ofFailure, JobCourse.reports]
  | ok response =>
    refine Procedure.Ensures.bind (.left (.weaken ?_ (Link.record_transcribed _)))
    rintro _ _ rfl
    have answered := @answered_transcribed excuse plan writer items excused filled earlier
      response tried
    by_cases success : BulkResponse.isSuccess response = true
    · have quiet := answered (if_pos success)
      rw [Transcript.append_empty] at quiet
      rw [if_pos success]
      exact quiet
    · rw [if_neg success]
      refine Procedure.Ensures.bind (.weaken ?_ (fail_transcribed _))
      rintro outcome _ ⟨rfl, rfl⟩
      exact answered (if_neg success)

/-- **The transcript of a job**: whatever the engine answers, it is that of one course, and the last
failure that the course publishes decides how the job ends. A job is broken off only by the engine or
if it is stuck. -/
theorem write_transcribed (writer : Writer) (resolver : Resolver) (items : List WorkItem)
    (excused : ∀ answers, writer.Stuck (BulkPlan.ofItems resolver items) answers →
      excuse answers) :
    (writer.write resolver items).Ensures
      (Writing.transcribing excuse (BulkPlan.ofItems resolver items))
      (fun outcome after => ∃ course,
        (BulkPlan.ofItems resolver items).Conducted writer items course after ∧
          outcome = BulkFailure.ending (course.reports (BulkPlan.ofItems resolver items) items))
      {} := by
  unfold write
  dsimp only
  generalize BulkPlan.ofItems resolver items = plan at excused ⊢
  have body : (if plan.entries.isEmpty then pure (.ok ()) else writer.deliver plan items :
        Procedure Writing (Except BridgeError Unit)).Ensures (Writing.transcribing excuse plan)
      (fun outcome after => ∃ course, plan.Conducted writer items course after ∧
        outcome = BulkFailure.ending (course.reports plan items))
      { published := plan.dropped } := by
    by_cases empty : plan.entries.isEmpty = true
    · rw [if_pos empty]
      rintro _ rfl
      exact ⟨.unsent, ⟨iff_of_true empty rfl, .unsent, rfl, (List.append_nil _).symm⟩, rfl⟩
    · rw [if_neg empty]
      exact deliver_transcribed excused (by simpa using empty)
  by_cases known : (!plan.unresolved.isEmpty) = true
  · rw [if_pos known]
    refine Procedure.Ensures.bind (.weaken ?_ (report_transcribed _))
    rintro _ _ rfl
    have dropped : plan.dropped = [unresolvedFailure plan.unresolved] :=
      if_neg (by simpa using known)
    rw [dropped] at body
    exact body
  · rw [if_neg known]
    have dropped : plan.dropped = [] := if_pos (by simpa using known)
    rw [dropped] at body
    exact body

end Writer

/-! ## The ledger of a job -/

/-- The operations that an answer acknowledges. -/
def Answer.acknowledged : Answer → List Operation
  | ⟨.bulk operations, .ok response⟩ => BulkResponse.acknowledged response operations
  | _ => []

theorem acknowledged_heard (call : Call) (earlier : List EngineError) (last : call.Outcome) :
    (heard call earlier last).flatMap Answer.acknowledged = Answer.acknowledged ⟨call, last⟩ := by
  have nothing : (refused call earlier).flatMap Answer.acknowledged = [] := by
    refine List.flatMap_eq_nil_iff.mpr fun answer hm => ?_
    obtain ⟨error, -, rfl⟩ := List.mem_map.mp hm
    cases call <;> rfl
  rw [heard, List.flatMap_append, nothing, List.flatMap_singleton, List.nil_append]

namespace Transcript

/-- What a transcript says of the effects of a job. -/
def ledger (transcript : Transcript) : Ledger :=
  ⟨transcript.answers.flatMap Answer.acknowledged, transcript.published⟩

/-- Whether a transcript tells of a ledger, and its answers to bulk requests are such as is assumed of
them. -/
structure Tells (assumed : List Operation → BulkResponse → Prop) (transcript : Transcript)
    (ledger : Ledger) : Prop where
  ledger : transcript.ledger = ledger
  assumed : ∀ operations response,
    (⟨.bulk operations, .ok response⟩ : Answer) ∈ transcript.answers → assumed operations response

end Transcript

/-- The ledger of a job is told by its transcript. -/
theorem BulkPlan.Conducted.follows {assumed : List Operation → BulkResponse → Prop} {writer : Writer}
    {items : List WorkItem} {course : JobCourse} {ledger : Ledger}
    (h : plan.Conducted writer items course transcript)
    (tells : Transcript.Tells assumed transcript ledger) :
    plan.Follows assumed items course ledger := by
  obtain ⟨calls, answers, reports⟩ := transcript
  obtain ⟨rfl, honest⟩ := tells
  obtain ⟨unsent, course, -, published⟩ := h
  dsimp only [Transcript.ledger] at course honest published ⊢
  refine ⟨unsent, ?_, ?_, published⟩
  · cases course with
    | delivered tried shown =>
      rintro response ⟨⟩
      exact honest _ _ (List.mem_append_left _ (List.mem_append_right _ List.mem_cons_self))
    | _ => nofun
  · cases course with
    | unsent => rfl
    | undelivered tried => exact acknowledged_heard _ _ _
    | @delivered _ _ _ late tried shown =>
      rw [List.flatMap_append, acknowledged_heard]
      have nothing : ∀ answer ∈ late, Answer.acknowledged answer = [] := by
        rintro ⟨call, outcome⟩ hm
        cases shown.call_eq hm
        rfl
      rw [List.flatMap_eq_nil_iff.mpr nothing, List.append_nil]
      rfl

end EntitySearch
