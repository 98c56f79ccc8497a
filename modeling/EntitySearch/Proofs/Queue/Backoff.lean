import EntitySearch.Proofs.Number.Scaling
import EntitySearch.Proofs.Queue.Requests
import EntitySearch.Session.Basic

/-!
# The delays between bulk requests

The delay before a bulk request is sent again is computed from the configured initial one, by
doubling it once for every earlier retry, and cut to the configured maximum after that. So it exists
only as long as the doubled delay is a time span, however short the maximum is; where it does not
exist, the task that writes the jobs of the queue is broken off.

* `RetryPolicy.delayFor_doubling`, `isSome_delayFor_doubling`: the delays, and which of them exist.
* `Link.retried_asks_iff`: when a request that is sent again is broken off.
* `Writer.write_asks_iff`: when a job is.
* `BridgeConfig.backoff_iff`: those with which a job is broken off.
-/

namespace EntitySearch

/-! ## Delays that double -/

namespace RetryPolicy

open Binary64

/-- The delay before a retry is the initial one, doubled for each of the at most 32 earlier retries
without any rounding of the factor, and cut to the maximum. -/
theorem delayFor_doubling (maxAttempts : Nat) (initial maximum : Duration) (retry : Nat) :
    (doubling maxAttempts initial maximum).delayFor retry =
      (initial.scale? (Extended.twoPow (min (retry - 1) 32) (by omega))).map
        fun delay => min delay maximum := by
  have two : ofNat? 2 = some (twoPow 1 (by decide)) := @ofNat?_two_pow 1 (by decide)
  have grown : (Extended.finite ((ofNat? 2).getD default)).pow (min (retry - 1) 32) =
      Extended.twoPow (min (retry - 1) 32) (by omega) := by
    rw [two, Option.getD_some]
    exact (Extended.twoPow_pow (by decide) (by omega)).trans
      (Extended.twoPow_congr (by omega) _ (Nat.one_mul _))
  rw [delayFor, doubling]
  dsimp only
  rw [grown]

/-- A delay exists as long as the doubled one, before it is cut to the maximum, does. -/
theorem isSome_delayFor_doubling (maxAttempts : Nat) (initial maximum : Duration) (retry : Nat) :
    ((doubling maxAttempts initial maximum).delayFor retry).isSome = true ↔
      initial.nanos * 2 ^ min (retry - 1) 32 < Duration.nanosPerSecond * (2 ^ 64 - 2 ^ 10) := by
  rw [delayFor_doubling, Option.isSome_map,
    Duration.isSome_scale?_twoPow initial (Nat.min_le_right _ _)]

theorem isSome_delayFor_admin {retry : Nat} (h : retry < admin.maxAttempts) :
    (admin.delayFor retry).isSome = true := by
  have few : ∀ retry < 3, (Duration.ofMillis 100).nanos * 2 ^ min (retry - 1) 32 <
      Duration.nanosPerSecond * (2 ^ 64 - 2 ^ 10) := by decide
  exact (isSome_delayFor_doubling 3 _ _ retry).mpr (few retry h)

end RetryPolicy

/-! ## Attempts that are not broken off -/

namespace Link

open Procedure

/-- Whether a task goes on after a request. -/
def GoesOn (request : Link.Request) : Prop := isLast request = false

variable (policy : RetryPolicy) (operation : String) (call : Call)

/-- The attempts at a request from a given one on, with `left` more after it. -/
def attemptsFrom (attempts left : Nat) :
    Procedure Link (Except (Exhausted EngineError) call.Answer) :=
  (policy.retryFrom EngineError.isRetryable attempts left).expand (attempt operation call)

/-- An attempt may fail with an error that may pass; then there has to be a delay. -/
theorem attemptsFrom_succ_asks_iff (attempts left : Nat) :
    (attemptsFrom policy operation call attempts (left + 1)).Asks GoesOn (fun _ => True) ↔
      (policy.delayFor attempts).isSome = true ∧
        (attemptsFrom policy operation call (attempts + 1) left).Asks GoesOn fun _ => True := by
  constructor
  · rintro ⟨-, goes⟩
    have lost : (EngineError.connection "").isRetryable = true := rfl
    have failed := goes (.error (.connection ""))
    dsimp only [Procedure.bind] at failed
    rw [if_pos lost] at failed
    cases hd : policy.delayFor attempts with
    | none =>
      rw [hd] at failed
      exact nomatch failed.1
    | some delay =>
      rw [hd] at failed
      exact ⟨rfl, (failed.2 ()).2 ()⟩
  · rintro ⟨found, goes⟩
    obtain ⟨delay, hd⟩ := Option.isSome_iff_exists.mp found
    refine ⟨rfl, fun outcome => ?_⟩
    cases outcome with
    | ok answer => trivial
    | error error =>
      dsimp only [Procedure.bind]
      by_cases passes : error.isRetryable = true
      · rw [if_pos passes, hd]
        exact ⟨rfl, fun _ => ⟨rfl, fun _ => goes⟩⟩
      · rw [if_neg passes]
        trivial

/-- The attempts that are left are not broken off, whatever errors they end with, exactly if the
delays between them exist. -/
theorem attemptsFrom_asks_iff (left : Nat) : ∀ attempts : Nat,
    (attemptsFrom policy operation call attempts left).Asks GoesOn (fun _ => True) ↔
      ∀ later < left, (policy.delayFor (attempts + later)).isSome = true := by
  induction left with
  | zero =>
    intro attempts
    refine iff_of_true ⟨rfl, fun outcome => ?_⟩ nofun
    cases outcome <;> trivial
  | succ left ih =>
    intro attempts
    rw [attemptsFrom_succ_asks_iff, ih, Nat.forall_lt_succ_left]
    simp only [Nat.add_zero, Nat.add_assoc, Nat.add_comm 1]

/-- **A request that is sent again** is not broken off exactly if all delays between its attempts
exist. -/
theorem retried_asks_iff :
    (Link.retried policy operation call).Asks GoesOn (fun _ => True) ↔
      ∀ retry, 0 < retry → retry < policy.maxAttempts → (policy.delayFor retry).isSome = true := by
  refine (attemptsFrom_asks_iff policy operation call _ 1).trans ⟨fun h retry pos last => ?_, ?_⟩
  · have within := h (retry - 1) (by omega)
    rwa [Nat.add_comm, Nat.sub_add_cancel pos] at within
  · exact fun h later hl => h (1 + later) (by omega) (by omega)

end Link

/-! ## Writing a job -/

namespace Writer

/-- Whether a writer goes on after a request. -/
def GoesOn : Writing.Request → Prop
  | .inl request => Link.GoesOn request
  | .inr _ => True

/-- Writing a job is broken off only between the attempts at its bulk request. -/
theorem write_asks_iff (writer : Writer) (items : List WorkItem)
    (admin : writer.refreshPolicy = .admin) (resolver : Resolver) :
    (writer.write resolver items).Asks GoesOn (fun _ => True) ↔
      (BulkPlan.ofItems resolver items).entries = [] ∨
        ∀ retry, 0 < retry → retry < writer.bulkPolicy.maxAttempts →
          (writer.bulkPolicy.delayFor retry).isSome = true := by
  have refreshes := (Link.retried_asks_iff writer.refreshPolicy "refresh"
    (.refresh (BulkPlan.ofItems resolver items).indices)).mpr fun retry _ last => by
      rw [admin] at last ⊢
      exact RetryPolicy.isSome_delayFor_admin last
  exact (@write_asks_allowed_iff GoesOn (fun _ _ => rfl) (fun _ => trivial) writer items resolver
    refreshes).trans (or_congr_right (Link.retried_asks_iff _ _ _))

end Writer

/-! ## The configured delays -/

namespace BridgeConfig

variable (config : BridgeConfig)

theorem isSome_delayFor_iff (retry : Nat) :
    (config.bulkPolicy.delayFor retry).isSome = true ↔
      config.bulkInitialMillis * 2 ^ min (retry - 1) 32 < 1000 * (2 ^ 64 - 2 ^ 10) := by
  have seconds : Duration.nanosPerSecond = Duration.nanosPerMilli * 1000 := rfl
  have some : 0 < Duration.nanosPerMilli := by decide
  rw [bulkPolicy, RetryPolicy.isSome_delayFor_doubling, Duration.ofMillis, seconds,
    Nat.mul_comm config.bulkInitialMillis, Nat.mul_assoc, Nat.mul_assoc, Nat.mul_lt_mul_left some]

/-- The delays that a job may need exist if the last one does. -/
theorem forall_delayFor_within_iff :
    (∀ retry, 0 < retry → retry < config.bulkPolicy.maxAttempts →
        (config.bulkPolicy.delayFor retry).isSome = true) ↔
      config.bulkAttempts ≤ 1 ∨
        config.bulkInitialMillis * 2 ^ min (config.bulkAttempts - 2) 32 <
          1000 * (2 ^ 64 - 2 ^ 10) := by
  have attempts : config.bulkPolicy.maxAttempts = max config.bulkAttempts 1 := rfl
  simp only [isSome_delayFor_iff, attempts]
  constructor
  · intro all
    rcases Nat.lt_or_ge 1 config.bulkAttempts with several | few
    · exact .inr (all (config.bulkAttempts - 1) (by omega) (by omega))
    · exact .inl few
  · rintro (few | last) retry pos within
    · omega
    · have earlier : min (retry - 1) 32 ≤ min (config.bulkAttempts - 2) 32 := by omega
      exact (Nat.mul_le_mul_left _ (Nat.pow_le_pow_right Nat.two_pos earlier)).trans_lt last

/-- **When the delays between bulk requests exist**, and when the task goes on that writes the jobs
of a queue. The initial delay is doubled once for every earlier retry, at most 32 times; a delay of
`2 ^ 64` seconds is no time span, even if it would be cut to the maximum, and one that is up to
`2 ^ 10` seconds shorter is rounded up to that. A job with something to write is never broken off,
whatever its requests end with, exactly if the last delay exists that it may need. -/
theorem backoff_iff :
    (∀ retry, (config.bulkPolicy.delayFor retry).isSome = true ↔
      config.bulkInitialMillis * 2 ^ min (retry - 1) 32 < 1000 * (2 ^ 64 - 2 ^ 10)) ∧
    ∀ schema route resolver items,
      ((Session.hostQueue config.queueSettings schema route).writer.write resolver items).Asks
          Writer.GoesOn (fun _ => True) ↔
        (BulkPlan.ofItems resolver items).entries = [] ∨ config.bulkAttempts ≤ 1 ∨
          config.bulkInitialMillis * 2 ^ min (config.bulkAttempts - 2) 32 <
            1000 * (2 ^ 64 - 2 ^ 10) := by
  refine ⟨config.isSome_delayFor_iff, fun schema route resolver items => ?_⟩
  rw [Writer.write_asks_iff _ items rfl, ← forall_delayFor_within_iff]
  exact .rfl

/-- An initial delay of `2 ^ 64 - 1` milliseconds cannot be doubled ten times. -/
theorem not_always_delayed : ¬ ∀ config : BridgeConfig, config.bulkInitialMillis < 2 ^ 64 →
    ∀ retry, (config.bulkPolicy.delayFor retry).isSome = true := by
  intro always
  have found := always { bulkInitialMillis := 2 ^ 64 - 1 } (by decide) 11
  exact absurd ((isSome_delayFor_iff _ 11).mp found) (by decide)

end BridgeConfig

end EntitySearch
