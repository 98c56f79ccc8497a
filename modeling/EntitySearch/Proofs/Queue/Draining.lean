import EntitySearch.Proofs.Queue.Steps

/-!
# When everything is written

A caller who flushes a queue and waits for the job that is cut waits for all earlier jobs too, since
jobs are completed in the order in which they were cut. If nothing is accepted after the flush, then
from the end of that job on all that was accepted is in completed jobs.

* `Queue.Rests`: that there is nothing to write.
* `Queue.Spent`: that nothing was accepted since a job was cut; `Queue.spent_of_flushAndWait`.
* `Queue.Cuts.spent`, `Queue.Spent.startNext`, `Queue.Spent.finish`: the steps keep it so.
* `Queue.contents_of_spent`: the contents of a queue whose last job with items is completed.
-/

namespace EntitySearch

namespace Queue

variable {queue : Queue} {number : Nat}

/-- Whether the writer has nothing to write: it has no job, or one without items. -/
def Rests (queue : Queue) : Prop := ∀ job, queue.writing = some job → job.items = []

/-- Whether nothing was accepted since the job of a number was cut. -/
structure Spent (queue : Queue) (number : Nat) : Prop where
  pending : queue.pending.items = []
  later : ∀ job ∈ queue.jobs, number < job.number → job.items = []

/-! ## Steps that accept nothing -/

theorem Cuts.spent {step : Submission} {wait : Bool} {cut : List Job}
    (h : queue.Cuts step [] wait cut) (hs : queue.Sound) (spent : queue.Spent number) :
    step.queue.Spent number := by
  have none := h.items hs
  rw [spent.pending, List.append_nil] at none
  obtain ⟨empty, pending⟩ := List.append_eq_nil_iff.mp none.symm
  refine ⟨pending, fun job hj hn => ?_⟩
  rw [h.jobs] at hj
  rcases List.mem_append.mp hj with hj | hj
  · exact spent.later job hj hn
  · exact List.flatMap_eq_nil_iff.mp empty job hj

theorem Spent.startNext (spent : queue.Spent number) {job : Job} {next : Queue}
    (h : queue.startNext = some (job, next)) : next.Spent number := by
  have jobs := jobs_startNext h
  obtain ⟨waiting, -, -, rfl⟩ := startNext_eq_some h
  exact ⟨spent.pending, jobs ▸ spent.later⟩

theorem Spent.finish (spent : queue.Spent number) (outcome : Except BridgeError Unit) :
    (queue.finish outcome).Spent number :=
  ⟨pending_finish queue outcome ▸ spent.pending, jobs_finish queue outcome ▸ spent.later⟩

/-! ## The flush -/

/-- A job for which somebody waits is the last one that was cut. -/
theorem nextJob_of_send {items : List WorkItem} {reason : FlushReason} {wait : Bool}
    (h : (queue.send items reason wait).result = .ok (some number)) :
    (queue.send items reason wait).queue.nextJob = number + 1 := by
  unfold send at h ⊢
  split at h
  · cases h
  split at h
  · cases h
  dsimp only at h ⊢
  split at h
  · cases h
  · next running filled present =>
    rw [if_neg running, if_neg filled, if_neg present]
    cases wait with
    | false => cases h
    | true =>
      cases h
      rfl

theorem number_lt (hs : queue.Sound) {job : Job} (hj : job ∈ queue.jobs) :
    job.number < queue.nextJob := by
  have hn := List.mem_map_of_mem (f := Job.number) hj
  rwa [hs.numbers, List.mem_range] at hn

/-- Nothing was accepted since a flush. -/
theorem spent_of_flushAndWait (hs : queue.Sound) {now : Duration}
    (h : (queue.flushAndWait now).result = .ok (some number)) :
    (queue.flushAndWait now).queue.Spent number := by
  obtain ⟨cut, hc⟩ := submit_cuts_none queue now .manual true
  have next : (queue.flushAndWait now).queue.nextJob = number + 1 := nextJob_of_send h
  refine ⟨pending_submit queue now .manual true, fun job hj hn => ?_⟩
  have := number_lt (hc.sound hs) hj
  rw [show (queue.submit now .manual true).queue.nextJob = number + 1 from next] at this
  omega

theorem result_flushAndWait (queue : Queue) (now : Duration) :
    (queue.flushAndWait now).result = .error .queueStopped ∨
      ∃ job, (queue.flushAndWait now).result = .ok (some job) := by
  unfold flushAndWait submit send
  dsimp only
  split
  · exact .inl rfl
  split
  · next filled =>
    rw [Bool.not_true, Bool.and_false] at filled
    cases filled
  split
  · exact .inl rfl
  · exact .inr ⟨_, rfl⟩

/-! ## The end -/

theorem completed_of_outcome? (hs : queue.Sound) {outcome : Except BridgeError Unit}
    (h : queue.outcome? number = some outcome) : number ∈ queue.completed.map (·.1.number) := by
  unfold outcome? at h
  split at h
  · next job own hf =>
    exact List.mem_map.mpr ⟨_, List.mem_of_find?_eq_some hf, by simpa using List.find?_some hf⟩
  · rw [hs.writer] at h
    cases h

theorem lt_of_completed (hs : queue.Sound) (done : number ∈ queue.completed.map (·.1.number))
    {job : Job} (hj : job ∈ queue.writing.toList ++ queue.waiting) : number < job.number := by
  have order : (queue.jobs.map (·.number)).Pairwise (· < ·) := hs.numbers ▸ List.pairwise_lt_range
  rw [jobs, List.append_assoc, List.map_append, List.pairwise_append, List.map_map] at order
  exact order.2.2 number done job.number (List.mem_map_of_mem hj)

/-- **When everything is written**: if nothing was accepted since a job was cut and the job is
completed, then the contents are the items of completed jobs, and the writer has nothing to write. -/
theorem contents_of_spent (hs : queue.Sound) (spent : queue.Spent number)
    (done : number ∈ queue.completed.map (·.1.number)) :
    queue.contents = Job.itemsOf (queue.completed.map (·.1)) ∧ queue.Rests := by
  have empty : ∀ job ∈ queue.writing.toList ++ queue.waiting, job.items = [] := by
    intro job hj
    refine spent.later job ?_ (lt_of_completed hs done hj)
    rw [jobs, List.append_assoc]
    exact List.mem_append_right _ hj
  refine ⟨?_, fun job hw => empty job (List.mem_append_left _ (by rw [hw]; exact .head _))⟩
  have rest : Job.itemsOf (queue.writing.toList ++ queue.waiting) = [] :=
    List.flatMap_eq_nil_iff.mpr empty
  rw [contents_eq, jobs, List.append_assoc, Job.itemsOf, List.flatMap_append, spent.pending,
    List.append_nil]
  change _ ++ Job.itemsOf (queue.writing.toList ++ queue.waiting) = _
  rw [rest, List.append_nil]
  rfl

end Queue

end EntitySearch
