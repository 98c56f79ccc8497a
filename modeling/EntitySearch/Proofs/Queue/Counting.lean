import EntitySearch.Proofs.Queue.Conservation
import EntitySearch.Proofs.Queue.Draining

/-!
# What a queue says of itself

The count of jobs in flight goes up when a job is handed to the writer, be it one without items for
which somebody waits, and goes down when the writer completes a job. Whatever steps a queue makes in
whatever order, it is the number of the jobs that were handed over and are not completed. So there is
always something to take one away from, and the state of the queue can be told from the count.

* `Queue.sent`: the jobs that steps hand to the writer; `Queue.jobs_run`: they become jobs of the
  queue, behind all others.
* `Queue.Sound.outcome?_isNone_iff`: how the jobs stand of which no outcome is known.
* `Queue.Truthful`: that a queue says of itself what is true; `Queue.truthful_run`: that it always
  does.
-/

namespace EntitySearch

namespace Queue

variable {queue : Queue}

/-! ## The jobs that are handed to the writer -/

/-- The jobs that a step hands to the writer: those behind the ones that waited before. -/
def sends (queue : Queue) : QueueEvent → List Job
  | .perform resolver now action =>
    (queue.perform resolver now action).queue.waiting.drop queue.waiting.length
  | .startNext | .finish _ => []

/-- The jobs that steps hand to the writer, in the order in which they are handed over. -/
def sent (queue : Queue) : List QueueEvent → List Job
  | [] => []
  | event :: events => queue.sends event ++ (queue.after event).sent events

theorem jobs_after (queue : Queue) (event : QueueEvent) :
    (queue.after event).jobs = queue.jobs ++ queue.sends event := by
  cases event with
  | perform resolver now action =>
    obtain ⟨cut, hc⟩ := perform_cuts queue resolver now action
    rw [after, sends, hc.jobs, hc.waiting, List.drop_left]
  | startNext =>
    rw [after, sends, List.append_nil]
    cases hn : queue.startNext with
    | none => rfl
    | some started => exact jobs_startNext hn
  | finish outcome => rw [after, sends, List.append_nil, jobs_finish]

/-- What is handed to the writer becomes a job, behind all others, and no job is lost. -/
theorem jobs_run (events : List QueueEvent) : ∀ queue : Queue,
    (queue.run events).jobs = queue.jobs ++ queue.sent events := by
  induction events with
  | nil => exact fun queue => (List.append_nil _).symm
  | cons event events ih =>
    intro queue
    rw [run, List.foldl_cons, ← run, ih, jobs_after, sent, List.append_assoc]

/-! ## The jobs that are not completed -/

/-- No outcome is known exactly of the job that is written and of those that wait. -/
theorem Sound.outcome?_isNone_iff (hs : queue.Sound) {job : Job} (hj : job ∈ queue.jobs) :
    (queue.outcome? job.number).isNone = true ↔
      job ∈ queue.writing.toList ++ queue.waiting := by
  rw [Option.isNone_iff_eq_none]
  constructor
  · intro unknown
    rw [jobs, List.append_assoc] at hj
    refine (List.mem_append.mp hj).resolve_left fun done => ?_
    obtain ⟨entry, he, rfl⟩ := List.mem_map.mp done
    unfold outcome? at unknown
    split at unknown
    · cases unknown
    · next missing =>
      have other := List.find?_eq_none.mp missing entry he
      exact other (beq_self_eq_true entry.1.number)
  · intro left
    rw [Option.eq_none_iff_forall_ne_some]
    intro outcome known
    exact Nat.lt_irrefl _ (lt_of_completed hs (completed_of_outcome? hs known) left)

theorem Sound.inFlight_eq_countP (hs : queue.Sound) :
    queue.inFlight = queue.jobs.countP fun job => (queue.outcome? job.number).isNone := by
  have unknown_iff := fun (job : Job) (hj : job ∈ queue.jobs) => hs.outcome?_isNone_iff hj
  rw [jobs, List.append_assoc] at unknown_iff ⊢
  have finished : (queue.completed.map (·.1)).countP
      (fun job => (queue.outcome? job.number).isNone) = 0 := by
    rw [List.countP_eq_zero]
    intro job done unknown
    have left := (unknown_iff job (List.mem_append_left _ done)).mp unknown
    obtain ⟨entry, he, rfl⟩ := List.mem_map.mp done
    exact Nat.lt_irrefl _ (lt_of_completed hs (List.mem_map_of_mem he) left)
  have unfinished : (queue.writing.toList ++ queue.waiting).countP
      (fun job => (queue.outcome? job.number).isNone) =
        (queue.writing.toList ++ queue.waiting).length := by
    rw [List.countP_eq_length]
    exact fun job left => (unknown_iff job (List.mem_append_right _ left)).mpr left
  rw [List.countP_append, finished, unfinished, Nat.zero_add, hs.inFlight]

/-! ## The state of a queue -/

theorem state_eq_idle_iff (queue : Queue) :
    queue.state = .idle ↔
      queue.stopped = false ∧ queue.pending.items = [] ∧ queue.inFlight = 0 := by
  unfold state Batcher.isEmpty
  cases queue.stopped <;> by_cases hf : queue.inFlight = 0 <;>
    cases queue.pending.items <;> simp [hf, Nat.pos_iff_ne_zero]

theorem Sound.contents_of_idle (hs : queue.Sound) (idle : queue.state = .idle) :
    queue.contents = Job.itemsOf (queue.completed.map (·.1)) := by
  obtain ⟨-, pending, none⟩ := (state_eq_idle_iff queue).mp idle
  rw [hs.inFlight, List.length_eq_zero_iff, List.append_eq_nil_iff] at none
  rw [contents, none.1, none.2, pending]
  simp [Job.itemsOf]

/-- Whether a queue whose writer was handed the jobs `sent` says of itself what is true. -/
structure Truthful (queue : Queue) (sent : List Job) : Prop where
  /-- The count is the number of jobs that were handed over and are not completed. -/
  inFlight : queue.inFlight = sent.countP fun job => (queue.outcome? job.number).isNone
  /-- Whenever the writer completes a job there is one to take away. -/
  counted : queue.writing.isSome = true → ∀ outcome,
    (queue.finish outcome).inFlight + 1 = queue.inFlight
  /-- A queue is idle exactly if it takes items, none waits, and all jobs are completed. -/
  idle : queue.state = .idle ↔ queue.stopped = false ∧ queue.pending.items = [] ∧
    ∀ job ∈ sent, (queue.outcome? job.number).isSome = true

theorem Sound.truthful (hs : queue.Sound) : queue.Truthful queue.jobs where
  inFlight := hs.inFlight_eq_countP
  counted writing outcome := by
    obtain ⟨job, hw⟩ := Option.isSome_iff_exists.mp writing
    exact (hs.inFlight_finish hw outcome).1
  idle := by
    have finished : queue.inFlight = 0 ↔
        ∀ job ∈ queue.jobs, (queue.outcome? job.number).isSome = true := by
      rw [hs.inFlight_eq_countP, List.countP_eq_zero]
      simp [Option.isSome_iff_ne_none]
    rw [state_eq_idle_iff, finished]

/-- **A queue says of itself what is true**, whatever steps callers, the timer and the writer make in
whatever order. -/
theorem truthful_run (settings : QueueSettings) (events : List QueueEvent) :
    ((start settings).run events).Truthful ((start settings).sent events) := by
  obtain ⟨hs, -⟩ := contents_run events (sound_start settings)
  have jobs := jobs_run events (start settings)
  rw [show (start settings).jobs = [] from rfl, List.nil_append] at jobs
  exact jobs ▸ hs.truthful

end Queue

end EntitySearch
