import EntitySearch.Proofs.Procedure.Ensures
import Mathlib.Data.List.Induction
import Mathlib.Data.Nat.Find
import Mathlib.Order.Bounds.Basic

/-!
# How often an operation is tried

An operation is tried until an outcome decides: a success, an error that cannot pass, or the outcome
of the last attempt that the policy allows. So the attempts end at the first position of such an
outcome, whatever the outcomes are, and between any two of them there is the delay that the policy
gives for the first of the two.

* `RetryPolicy.limit`, `RetryPolicy.Decides`: how often an operation is tried at most, and the
  outcomes that end the attempts.
* `RetryPolicy.retry_ensures`: what the attempts ensure, from what each of them does.
* `Surroundings.serving`, `Procedure.Ensures.exists_run`: a server as surroundings, and the end of a
  procedure whose requests it answers.
* `RetryPolicy.retry_run`: the attempts at an operation with any sequence of outcomes.
-/

namespace EntitySearch

variable {ε α σ : Type}

/-! ## The outcomes that decide -/

/-- The result of attempts, from how many there were and the outcome of the last one. -/
def Exhausted.after (attempts : Nat) (last : Except ε α) : Except (Exhausted ε) α :=
  last.mapError (⟨·, attempts⟩)

namespace RetryPolicy

/-- How often an operation is tried at most. -/
def limit (policy : RetryPolicy) : Nat := max 1 policy.maxAttempts

/-- Whether no attempt follows one with a given outcome: it is a success, or an error that cannot
pass, or the attempt is the last one that there may be. -/
def Decides (policy : RetryPolicy) (retryable : ε → Bool) (attempt : Nat)
    (outcome : Except ε α) : Prop :=
  (∃ result, outcome = .ok result) ∨ (∃ error, outcome = .error error ∧ retryable error = false) ∨
    attempt = policy.limit

variable {policy : RetryPolicy} {retryable : ε → Bool}

theorem not_decides_iff {attempt : Nat} {error : ε} :
    ¬ policy.Decides retryable attempt (.error error : Except ε α) ↔
      retryable error = true ∧ attempt ≠ policy.limit := by
  simp [Decides]

/-! ## What attempts ensure -/

section Attempts

variable {around : Surroundings (Attempts ε α) σ} {before : Nat → σ → Prop}
  {tried : Nat → Except ε α → σ → Prop}
  (keeps : ∀ attempt outcome, around.Keeps (tried attempt outcome))
  (attempt : ∀ {attempt state}, before attempt state →
    (Procedure.request (p := Attempts ε α) .attempt).Ensures around (tried attempt) state)
  (pause : ∀ {attempt error delay state}, tried attempt (.error error) state →
    ¬ policy.Decides retryable attempt (.error error : Except ε α) →
      policy.delayFor attempt = some delay →
        (Procedure.request (p := Attempts ε α) (.pause delay)).Ensures around
          (fun _ => before (attempt + 1)) state)
  (abandon : ∀ {attempt error state}, tried attempt (.error error) state →
    ¬ policy.Decides retryable attempt (.error error : Except ε α) → attempt < policy.limit →
      policy.delayFor attempt = none → around.permits state AttemptRequest.abandon)

include keeps attempt pause abandon

/-- The attempts from a given one on. Each attempt that does not decide leads to what the next one
relies on. -/
theorem retryFrom_ensures (left : Nat) : ∀ {first : Nat} {state : σ},
    first + left = policy.limit → before first state →
      (policy.retryFrom retryable first left).Ensures around
        (fun result later => ∃ last outcome, last ≤ policy.limit ∧
          policy.Decides retryable last outcome ∧ tried last outcome later ∧
            result = Exhausted.after last outcome) state := by
  induction left with
  | zero =>
    intro first state hl h
    refine Procedure.Ensures.bind (Procedure.Ensures.weaken ?_ (attempt h))
    intro outcome after ht
    have ends : policy.Decides retryable first outcome := .inr (.inr hl)
    cases outcome <;>
      exact fun later ho => ⟨first, _, Nat.le_of_eq hl, ends, keeps _ _ ho ht, rfl⟩
  | succ left ih =>
    intro first state hl h
    have within : first ≤ policy.limit := by omega
    refine Procedure.Ensures.bind (Procedure.Ensures.weaken ?_ (attempt h))
    intro outcome after ht
    cases outcome with
    | ok result =>
      exact fun later ho => ⟨first, _, within, .inl ⟨result, rfl⟩, keeps _ _ ho ht, rfl⟩
    | error error =>
      dsimp only
      by_cases hr : retryable error = true
      swap
      · rw [if_neg hr]
        have ends : policy.Decides retryable first (.error error : Except ε α) :=
          .inr (.inl ⟨error, rfl, Bool.eq_false_iff.mpr hr⟩)
        exact fun later ho => ⟨first, _, within, ends, keeps _ _ ho ht, rfl⟩
      rw [if_pos hr]
      have goes : ¬ policy.Decides retryable first (.error error : Except ε α) :=
        not_decides_iff.mpr ⟨hr, by omega⟩
      cases hd : policy.delayFor first with
      | none => exact fun later ho => ⟨abandon (keeps _ _ ho ht) goes (by omega) hd, nofun⟩
      | some delay =>
        refine Procedure.Ensures.bind (Procedure.Ensures.weaken ?_ (pause ht goes hd))
        intro _ waited hb
        exact ih (by omega) hb

/-- **The attempts at an operation** end with an outcome that decides, and ensure what this attempt
does: one that does not decide leads to what the next one relies on. -/
theorem retry_ensures {state : σ} (h : before 1 state) :
    (policy.retry retryable).Ensures around
      (fun result later => ∃ last outcome, last ≤ policy.limit ∧
        policy.Decides retryable last outcome ∧ tried last outcome later ∧
          result = Exhausted.after last outcome) state :=
  retryFrom_ensures keeps attempt pause abandon (policy.maxAttempts - 1)
    (by rw [limit]; omega) h

end Attempts

end RetryPolicy

/-! ## Servers -/

variable {p : Protocol} {serve? : σ → (request : p.Request) → Option (p.Reply request × σ)}

/-- A procedure whose requests are all answered comes to its end, and to what it ensures. -/
theorem Procedure.Ensures.exists_run {post : α → σ → Prop} :
    ∀ {procedure : Procedure p α} {state : σ},
      procedure.Ensures (.serving serve?) post state →
        ∃ result after, procedure.run serve? state = some (result, after) ∧ post result after
  | .done result, state, h => ⟨result, state, rfl, h state rfl⟩
  | .ask request next, state, h => by
    obtain ⟨answered, hn⟩ := h state rfl
    obtain ⟨⟨reply, after⟩, hs⟩ := Option.isSome_iff_exists.mp answered
    rw [Procedure.run, hs]
    exact exists_run (hn reply after hs)

/-! ## Any sequence of outcomes -/

/-- Whether a request is for an attempt. -/
def AttemptRequest.isAttempt : AttemptRequest → Bool
  | .attempt => true
  | _ => false

/-- How many attempts were made. -/
def AttemptRequest.made (asked : List AttemptRequest) : Nat := asked.countP (·.isAttempt)

/-- What attempts with some delays between them ask for. -/
def AttemptRequest.course (delays : List Duration) : List AttemptRequest :=
  .attempt :: delays.flatMap fun delay => [.pause delay, .attempt]

/-- Answers attempts with a sequence of outcomes, and notes what is asked for. -/
def Attempts.attend? (outcomes : Nat → Except ε α) (asked : List AttemptRequest) :
    (request : AttemptRequest) → Option ((Attempts ε α).Reply request × List AttemptRequest)
  | .attempt => some (outcomes (AttemptRequest.made asked + 1), asked ++ [.attempt])
  | .pause delay => some ((), asked ++ [.pause delay])
  | .abandon => none

namespace AttemptRequest

theorem course_concat (delays : List Duration) (delay : Duration) :
    course (delays ++ [delay]) = course delays ++ [.pause delay] ++ [.attempt] := by
  simp [course, List.flatMap_append]

theorem made_append (asked more : List AttemptRequest) :
    made (asked ++ more) = made asked + made more := List.countP_append

theorem made_course (delays : List Duration) : made (course delays) = delays.length + 1 := by
  induction delays using List.reverseRecOn with
  | nil => rfl
  | append_singleton delays delay ih =>
    rw [course_concat, made_append, made_append, ih, List.length_append]
    rfl

end AttemptRequest

namespace RetryPolicy

open AttemptRequest

/-- Whether some delays are those between a number of attempts, in their order. -/
def Delays (policy : RetryPolicy) (attempts : Nat) (delays : List Duration) : Prop :=
  (List.range' 1 (attempts - 1)).map policy.delayFor = delays.map some

variable {policy : RetryPolicy} {retryable : ε → Bool} {outcomes : Nat → Except ε α}

theorem Delays.length {attempts : Nat} {delays : List Duration} (h : policy.Delays attempts delays) :
    delays.length = attempts - 1 := by
  simpa [Delays] using (congrArg List.length h).symm

theorem Delays.concat {attempts : Nat} {delays : List Duration} {delay : Duration}
    (h : policy.Delays attempts delays) (pos : 1 ≤ attempts)
    (next : policy.delayFor attempts = some delay) :
    policy.Delays (attempts + 1) (delays ++ [delay]) := by
  obtain ⟨attempts, rfl⟩ := Nat.exists_eq_add_of_le' pos
  rw [Delays, Nat.add_sub_cancel] at h ⊢
  rw [List.range'_concat, List.map_append, List.map_append, h]
  simp [Nat.add_comm 1, next]

theorem Delays.exists_delayFor {attempts : Nat} {delays : List Duration}
    (h : policy.Delays attempts delays) {attempt : Nat} (pos : 1 ≤ attempt)
    (earlier : attempt < attempts) : policy.delayFor attempt ≠ none := by
  intro missing
  have asked : attempt ∈ List.range' 1 (attempts - 1) := by
    rw [List.mem_range'_1]
    omega
  have there := List.mem_map_of_mem (f := policy.delayFor) asked
  rw [h, missing] at there
  simp at there

theorem exists_deciding (policy : RetryPolicy) (retryable : ε → Bool)
    (outcomes : Nat → Except ε α) :
    ∃ last, IsLeast {attempt | 1 ≤ attempt ∧ policy.Decides retryable attempt (outcomes attempt)}
      last ∧ last ≤ policy.limit := by
  classical
  have some : ∃ attempt, 1 ≤ attempt ∧ policy.Decides retryable attempt (outcomes attempt) :=
    ⟨policy.limit, Nat.le_max_left _ _, .inr (.inr rfl)⟩
  exact ⟨Nat.find some, ⟨Nat.find_spec some, fun _ h => Nat.find_min' some h⟩,
    Nat.find_min' some ⟨Nat.le_max_left _ _, .inr (.inr rfl)⟩⟩

/-- Whether attempts up to a given one were made, none of which decides before the last of them. -/
structure Attended (policy : RetryPolicy) (retryable : ε → Bool) (outcomes : Nat → Except ε α)
    (attempt : Nat) (asked : List AttemptRequest) : Prop where
  pos : 1 ≤ attempt
  undecided : ∀ earlier, 1 ≤ earlier → earlier < attempt →
    ¬ policy.Decides retryable earlier (outcomes earlier)
  asked : ∃ delays, policy.Delays attempt delays ∧ asked = course delays

namespace Attended

variable {attempt last : Nat} {asked : List AttemptRequest}

theorem made_eq (h : policy.Attended retryable outcomes attempt asked) : made asked = attempt := by
  obtain ⟨delays, exist, rfl⟩ := h.asked
  have := h.pos
  rw [made_course, exist.length]
  omega

theorem next (h : policy.Attended retryable outcomes attempt asked)
    (goes : ¬ policy.Decides retryable attempt (outcomes attempt)) {delay : Duration}
    (after : policy.delayFor attempt = some delay) :
    policy.Attended retryable outcomes (attempt + 1) (asked ++ [.pause delay] ++ [.attempt]) where
  pos := Nat.le_add_left 1 attempt
  undecided earlier pos before := by
    rcases Nat.lt_succ_iff_lt_or_eq.mp before with before | rfl
    · exact h.undecided earlier pos before
    · exact goes
  asked := by
    obtain ⟨delays, exist, rfl⟩ := h.asked
    exact ⟨delays ++ [delay], exist.concat h.pos after, (course_concat delays delay).symm⟩

theorem eq_least (h : policy.Attended retryable outcomes attempt asked)
    (decides : policy.Decides retryable attempt (outcomes attempt))
    (least : IsLeast
      {attempt | 1 ≤ attempt ∧ policy.Decides retryable attempt (outcomes attempt)} last) :
    attempt = last := by
  refine Nat.le_antisymm (Nat.le_of_not_lt fun before => ?_) (least.2 ⟨h.pos, decides⟩)
  exact h.undecided last least.1.1 before least.1.2

theorem lt_least (h : policy.Attended retryable outcomes attempt asked)
    (goes : ¬ policy.Decides retryable attempt (outcomes attempt))
    (least : IsLeast
      {attempt | 1 ≤ attempt ∧ policy.Decides retryable attempt (outcomes attempt)} last) :
    attempt < last := by
  refine Nat.lt_of_not_le fun le => ?_
  rcases Nat.lt_or_eq_of_le le with before | rfl
  · exact h.undecided last least.1.1 before least.1.2
  · exact goes least.1.2

end Attended

/-- The attempts up to the first one that decides, and the delays between them, are all that is asked
for. -/
theorem run_retry {last : Nat} {delays : List Duration}
    (least : IsLeast
      {attempt | 1 ≤ attempt ∧ policy.Decides retryable attempt (outcomes attempt)} last)
    (exist : policy.Delays last delays) :
    (policy.retry retryable).run (Attempts.attend? outcomes) [] =
      some (Exhausted.after last (outcomes last), course delays) := by
  have first : policy.Attended retryable outcomes 1 ([] ++ [.attempt]) :=
    ⟨Nat.le_refl 1, fun earlier pos before => absurd pos (Nat.not_le_of_lt before), [], rfl, rfl⟩
  have ensured := @retry_ensures ε α _ policy retryable (.serving (Attempts.attend? outcomes))
    (fun attempt asked => policy.Attended retryable outcomes attempt (asked ++ [.attempt]))
    (fun attempt outcome asked =>
      outcome = outcomes attempt ∧ policy.Attended retryable outcomes attempt asked)
    ?_ ?_ ?_ ?_ [] first
  · obtain ⟨result, asked, run, attempt, outcome, -, decides, ⟨rfl, attended⟩, rfl⟩ :=
      ensured.exists_run
    obtain rfl := attended.eq_least decides least
    obtain ⟨own, ho, rfl⟩ := attended.asked
    have same : own = delays :=
      (List.map_inj_right fun _ _ => Option.some.inj).mp (ho.symm.trans exist)
    rw [run, same]
  · rintro attempt outcome asked _ rfl h
    exact h
  · rintro attempt asked h asked rfl
    refine ⟨rfl, ?_⟩
    rintro outcome after ⟨⟩ after rfl
    have made : made asked + 1 = attempt := by
      rw [← h.made_eq, made_append]
      rfl
    exact ⟨congrArg outcomes made, h⟩
  · rintro attempt error delay asked ⟨same, h⟩ goes after asked rfl
    refine ⟨rfl, ?_⟩
    rintro _ paused ⟨⟩ paused rfl
    exact h.next (same ▸ goes) after
  · rintro attempt error asked ⟨same, h⟩ goes - missing
    exact absurd missing (exist.exists_delayFor h.pos (h.lt_least (same ▸ goes) least))

/-- **The attempts at an operation**, for any sequence of outcomes. The first one that decides is
the last one, and there is none after the limit; its outcome is the result, an error with the number
of attempts. If the delays between the attempts exist, they are waited for one after the other, each
after the attempt of its number, and nothing else is asked for. If every error can pass then only a
success, or the limit, ends the attempts. -/
theorem retry_attends (policy : RetryPolicy) (retryable : ε → Bool)
    (outcomes : Nat → Except ε α) :
    ∃ last, IsLeast {attempt | 1 ≤ attempt ∧
        ((∃ result, outcomes attempt = .ok result) ∨
          (∃ error, outcomes attempt = .error error ∧ retryable error = false) ∨
          attempt = max 1 policy.maxAttempts)} last ∧
      last ≤ max 1 policy.maxAttempts ∧
      ((∀ error, retryable error = true) → IsLeast {attempt | 1 ≤ attempt ∧
        ((∃ result, outcomes attempt = .ok result) ∨ attempt = max 1 policy.maxAttempts)} last) ∧
      ∀ delays : List Duration, (List.range' 1 (last - 1)).map policy.delayFor = delays.map some →
        (policy.retry retryable).run (Attempts.attend? outcomes) [] =
          some (Exhausted.after last (outcomes last),
            .attempt :: delays.flatMap fun delay => [.pause delay, .attempt]) ∧
        made (.attempt :: delays.flatMap fun delay => [.pause delay, .attempt]) = last := by
  obtain ⟨last, least, within⟩ := exists_deciding policy retryable outcomes
  refine ⟨last, least, within, fun all => ?_, fun delays exist => ⟨run_retry least exist, ?_⟩⟩
  · have same : {attempt | 1 ≤ attempt ∧
        ((∃ result, outcomes attempt = .ok result) ∨ attempt = max 1 policy.maxAttempts)} =
          {attempt | 1 ≤ attempt ∧ policy.Decides retryable attempt (outcomes attempt)} := by
      refine Set.ext fun attempt => and_congr_right fun _ => or_congr_right ?_
      refine (or_iff_right ?_).symm
      rintro ⟨error, -, permanent⟩
      rw [all] at permanent
      cases permanent
    rw [same]
    exact least
  · have pos : 1 ≤ last := least.1.1
    rw [← course, made_course, Delays.length exist]
    omega

/-- An operation that is busy at first and then gone. -/
def goneOutcomes (attempt : Nat) : Except String Unit :=
  if attempt = 1 then .error "busy" else .error "gone"

/-- It is tried twice, and not again although the policy would allow it. -/
theorem retry_attends_gone :
    (admin.retry (· == "busy")).run (Attempts.attend? goneOutcomes) [] =
      some (.error ⟨"gone", 2⟩, [.attempt, .pause (.ofMillis 100), .attempt]) := by
  obtain ⟨last, least, -, -, becomes⟩ := retry_attends admin (· == "busy") goneOutcomes
  have second : last ≤ 2 := least.2 ⟨by decide, .inr (.inl ⟨"gone", rfl, rfl⟩)⟩
  have later : last ≠ 1 := by
    rintro rfl
    obtain ⟨-, ⟨result, ok⟩ | ⟨error, failed, permanent⟩ | limit⟩ := least.1
    · cases ok
    · cases failed
      cases permanent
    · cases limit
  obtain rfl : last = 2 := by
    have := least.1.1
    omega
  exact (becomes [.ofMillis 100] (by decide +kernel)).1

end RetryPolicy

end EntitySearch
