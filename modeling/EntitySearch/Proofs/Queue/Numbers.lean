import EntitySearch.Proofs.Queue.Steps
import Mathlib.Data.List.Nodup

/-!
# The numbers of jobs

Jobs are numbered in the order in which they are cut, and written in this order, also after the writer
of a queue has broken down. So a number names one job for good, and what is known of the jobs of a
queue stays known: no step forgets a completed job, and the jobs that a step adds have new numbers.

* `Queue.Numbered`: that the numbers of jobs grow and are below that of the next one.
* `Queue.Numbered.eq_of_number`: a number names one job.
* `Queue.Grows`: what all steps have in common; one lemma for each kind of step.
-/

namespace EntitySearch

namespace Queue

variable {queue later : Queue}

/-- Whether the numbers of jobs grow in the order of the jobs, up to that of the next job. -/
structure Numbered (queue : Queue) : Prop where
  ordered : queue.jobs.Pairwise fun first second => first.number < second.number
  bounded : ∀ job ∈ queue.jobs, job.number < queue.nextJob

namespace Numbered

variable {job other : Job} {outcome : Except BridgeError Unit}

/-- A number names one job. -/
theorem eq_of_number (h : queue.Numbered) (hj : job ∈ queue.jobs) (ho : other ∈ queue.jobs)
    (same : job.number = other.number) : job = other :=
  List.inj_on_of_nodup_map
    (List.pairwise_map.mpr (h.ordered.imp fun lt => Nat.ne_of_lt lt)) hj ho same

theorem ne_of_completed (h : queue.Numbered) (writing : queue.writing = some job)
    (completed : (other, outcome) ∈ queue.completed) : other.number ≠ job.number := by
  have order := h.ordered
  rw [jobs, writing, List.append_assoc, List.pairwise_append] at order
  exact Nat.ne_of_lt (order.2.2 other (List.mem_map_of_mem completed) job
    (List.mem_append_left _ (List.mem_singleton_self job)))

theorem ne_of_waiting (h : queue.Numbered) (writing : queue.writing = some job)
    (waiting : other ∈ queue.waiting) : other.number ≠ job.number := by
  have order := h.ordered
  rw [jobs, writing, List.append_assoc, List.pairwise_append] at order
  exact Nat.ne_of_gt ((List.pairwise_cons.mp order.2.1).1 other waiting)

end Numbered

/-! ## What steps have in common -/

/-- What every step on a queue keeps of it. -/
structure Grows (queue later : Queue) : Prop where
  completed : ∀ entry ∈ queue.completed, entry ∈ later.completed
  nextJob : queue.nextJob ≤ later.nextJob
  /-- Jobs that are added have new numbers. -/
  added : ∀ job ∈ later.jobs, job ∈ queue.jobs ∨ queue.nextJob ≤ job.number
  waiting : ∀ job ∈ later.waiting, job ∈ queue.waiting ∨ queue.nextJob ≤ job.number
  strict : later.strict = queue.strict
  numbered : queue.Numbered → later.Numbered

theorem Grows.of_jobs (completed : ∀ entry ∈ queue.completed, entry ∈ later.completed)
    (nextJob : later.nextJob = queue.nextJob) (jobs : later.jobs = queue.jobs)
    (waiting : ∀ job ∈ later.waiting, job ∈ queue.waiting) (strict : later.strict = queue.strict) :
    queue.Grows later where
  completed := completed
  nextJob := Nat.le_of_eq nextJob.symm
  added _ hj := .inl (jobs ▸ hj)
  waiting job hj := .inl (waiting job hj)
  strict := strict
  numbered h := ⟨jobs ▸ h.ordered, jobs ▸ nextJob ▸ h.bounded⟩

theorem Cuts.grows {step : Submission} {taken : List WorkItem} {wait : Bool} {cut : List Job}
    (h : queue.Cuts step taken wait cut) : queue.Grows step.queue := by
  have numbers : ∀ job ∈ cut, queue.nextJob ≤ job.number ∧ job.number < step.queue.nextJob := by
    intro job hj
    have hn := List.mem_map_of_mem (f := Job.number) hj
    rw [h.numbers, List.mem_range'_1] at hn
    exact ⟨hn.1, h.nextJob ▸ hn.2⟩
  have next : queue.nextJob ≤ step.queue.nextJob := h.nextJob ▸ Nat.le_add_right _ _
  refine ⟨fun entry he => h.completed ▸ he, next, fun job hj => ?_, fun job hj => ?_,
    h.strict, fun hs => ⟨?_, ?_⟩⟩
  · rw [h.jobs] at hj
    exact (List.mem_append.mp hj).imp_right fun hc => (numbers job hc).1
  · rw [h.waiting] at hj
    exact (List.mem_append.mp hj).imp_right fun hc => (numbers job hc).1
  · rw [h.jobs, List.pairwise_append]
    refine ⟨hs.ordered, List.pairwise_map.mp ?_, fun job hj other ho =>
      Nat.lt_of_lt_of_le (hs.bounded job hj) (numbers other ho).1⟩
    rw [h.numbers]
    exact List.pairwise_lt_range'
  · intro job hj
    rw [h.jobs] at hj
    rcases List.mem_append.mp hj with hj | hj
    · exact Nat.lt_of_lt_of_le (hs.bounded job hj) next
    · exact (numbers job hj).2

theorem grows_startNext {job : Job} (h : queue.startNext = some (job, later)) :
    queue.Grows later := by
  refine .of_jobs (fun _ he => (writing_startNext h).2.2 ▸ he) (startNext_frame h).2.2
    (jobs_startNext h) (fun other ho => ?_) (startNext_frame h).1
  obtain ⟨waiting, -, hw, rfl⟩ := startNext_eq_some h
  exact hw ▸ List.mem_cons_of_mem job ho

theorem grows_finish (queue : Queue) (outcome : Except BridgeError Unit) :
    queue.Grows (queue.finish outcome) := by
  refine .of_jobs (fun entry he => ?_) (finish_frame queue outcome).2.2
    (jobs_finish queue outcome) (fun job hj => ?_) (finish_frame queue outcome).1
  · unfold finish
    split
    · exact List.mem_append_left _ he
    · exact he
  · unfold finish at hj
    split at hj <;> exact hj

theorem grows_breakDown (queue : Queue) : queue.Grows queue.breakDown := by
  have fewer : queue.breakDown.jobs.Sublist queue.jobs := by
    simp only [jobs, breakDown, Option.toList_none, List.append_nil, List.append_assoc]
    exact List.sublist_append_left _ _
  exact ⟨fun _ he => he, Nat.le_refl _, fun _ hj => .inl (fewer.subset hj),
    List.forall_mem_nil _, rfl,
    fun h => ⟨h.ordered.sublist fewer, fun job hj => h.bounded job (fewer.subset hj)⟩⟩

end Queue

end EntitySearch
