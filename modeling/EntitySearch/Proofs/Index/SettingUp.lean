import EntitySearch.Proofs.Index.Manager

/-!
# Setting an index up and removing it

What the engine answers while an index is set up or removed. All answers are about the index. If it is
set up successfully, the last ones leave no doubt that it exists: either the engine has found it, or
it has created it and says that it is usable.

* `Manager.Tried`: a request that is sent again; `leads_retried`.
* `Manager.SetsUp`: an index is set up; `leads_setUp`.
* `Manager.leads_deleteIndex`: the answers while an index is removed.
-/

namespace EntitySearch.Manager

variable {manager later : Manager} {index : String}

/-! ## Requests to the engine -/

theorem leads_record {measurement : Measurement} {outcome : Option Unit}
    (h : (Link.record measurement).Leads linking manager outcome later) :
    outcome = some () ∧ later = manager := by
  obtain ⟨_, rfl, same⟩ := Procedure.Leads.of_request rfl h
  exact ⟨rfl, same⟩

/-- What a request that is sent again adds to the answers: errors, and at the end its answer, if it has
one. -/
def Tried (call : Call) (manager : Manager)
    (outcome : Option (Except (Exhausted EngineError) call.Answer)) (later : Manager) : Prop :=
  ∃ failures : List Answer, (∀ answer ∈ failures, ∃ error, answer = ⟨call, .error error⟩) ∧
    ((later = manager.heard failures ∧ ∀ answer, outcome ≠ some (.ok answer)) ∨
      ∃ answer, outcome = some (.ok answer) ∧
        later = manager.heard (failures ++ [⟨call, .ok answer⟩]))

theorem Tried.again {call : Call} {error : EngineError}
    {outcome : Option (Except (Exhausted EngineError) call.Answer)}
    (h : Tried call (manager.heard [⟨call, .error error⟩]) outcome later) :
    Tried call manager outcome later := by
  obtain ⟨failures, hf, ended⟩ := h
  refine ⟨⟨call, .error error⟩ :: failures, ?_, ?_⟩
  · intro answer ha
    rcases List.mem_cons.mp ha with rfl | ha
    · exact ⟨error, rfl⟩
    · exact hf answer ha
  · rcases ended with ⟨rfl, failed⟩ | ⟨answer, rfl, rfl⟩
    · exact .inl ⟨heard_heard _ _ _, failed⟩
    · exact .inr ⟨answer, rfl, heard_heard _ _ _⟩

/-- The attempts that are left. -/
theorem leads_retryFrom (policy : RetryPolicy) (operation : String) (call : Call) (left : Nat) :
    ∀ {attempts : Nat} {manager : Manager}
      {outcome : Option (Except (Exhausted EngineError) call.Answer)},
      ((policy.retryFrom EngineError.isRetryable attempts left).expand
        (Link.attempt operation call)).Leads linking manager outcome later →
        Tried call manager outcome later := by
  have failed (manager : Manager) (error : EngineError)
      {outcome : Option (Except (Exhausted EngineError) call.Answer)}
      (ho : ∀ answer, outcome ≠ some (.ok answer)) :
      Tried call manager outcome (manager.heard [⟨call, .error error⟩]) :=
    ⟨[⟨call, .error error⟩], fun answer ha => ⟨error, List.mem_singleton.mp ha⟩, .inl ⟨rfl, ho⟩⟩
  induction left with
  | zero =>
    intro attempts manager outcome h
    obtain ⟨reply, _, rfl, rest⟩ := Procedure.Leads.of_request_bind rfl h
    cases reply with
    | ok answer =>
      obtain ⟨rfl, rfl⟩ := Procedure.Leads.of_done rest
      exact ⟨[], nofun, .inr ⟨answer, rfl, rfl⟩⟩
    | error error =>
      obtain ⟨rfl, rfl⟩ := Procedure.Leads.of_done rest
      exact failed manager error nofun
  | succ left ih =>
    intro attempts manager outcome h
    obtain ⟨reply, _, rfl, rest⟩ := Procedure.Leads.of_request_bind rfl h
    cases reply with
    | ok answer =>
      obtain ⟨rfl, rfl⟩ := Procedure.Leads.of_done rest
      exact ⟨[], nofun, .inr ⟨answer, rfl, rfl⟩⟩
    | error error =>
      dsimp only at rest
      split at rest
      · split at rest
        · obtain ⟨_, _, rfl, waited⟩ := Procedure.Leads.of_request_bind rfl rest
          obtain ⟨_, _, rfl, again⟩ := Procedure.Leads.of_request_bind rfl waited
          exact (ih again).again
        · rcases Procedure.Leads.of_bind rest with ⟨impossible, -⟩ | ⟨rfl, broken⟩
          · cases impossible
          · cases broken with
            | broken => exact failed manager error nofun
            | ask answered => exact answered.elim
      · obtain ⟨rfl, rfl⟩ := Procedure.Leads.of_done rest
        exact failed manager error nofun

theorem leads_retried {policy : RetryPolicy} {operation : String} {call : Call}
    {outcome : Option (Except (Exhausted EngineError) call.Answer)}
    (h : (Link.retried policy operation call).Leads linking manager outcome later) :
    Tried call manager outcome later :=
  leads_retryFrom policy operation call _ h

/-- A request that is sent again, and what is done with its answer. -/
theorem of_tried_bind {p : Protocol} {service : Service p Manager} {call : Call}
    {procedure : Procedure p (Except (Exhausted EngineError) call.Answer)}
    (tried : ∀ {outcome later}, procedure.Leads service manager outcome later →
      Tried call manager outcome later) {α : Type}
    {f : Except (Exhausted EngineError) call.Answer → Procedure p α} {outcome : Option α}
    (h : (procedure.bind f).Leads service manager outcome later) :
    ∃ failures : List Answer, (∀ answer ∈ failures, ∃ error, answer = ⟨call, .error error⟩) ∧
      ((outcome = none ∧ later = manager.heard failures) ∨
        (∃ failed, (f (.error failed)).Leads service (manager.heard failures) outcome later) ∨
        ∃ answer, (f (.ok answer)).Leads service
          (manager.heard (failures ++ [⟨call, .ok answer⟩])) outcome later) := by
  rcases Procedure.Leads.of_bind h with ⟨result, between, leads, rest⟩ | ⟨rfl, leads⟩
  · obtain ⟨failures, hf, ended⟩ := tried leads
    refine ⟨failures, hf, .inr ?_⟩
    rcases ended with ⟨rfl, failed⟩ | ⟨answer, same, rfl⟩
    · cases result with
      | error exhausted => exact .inl ⟨exhausted, rest⟩
      | ok answer => exact absurd rfl (failed answer)
    · cases same
      exact .inr ⟨answer, rest⟩
  · obtain ⟨failures, hf, ended⟩ := tried leads
    refine ⟨failures, hf, .inl ⟨rfl, ?_⟩⟩
    rcases ended with ⟨same, -⟩ | ⟨answer, impossible, -⟩
    · exact same
    · cases impossible

variable (index) in
theorem about_of_failures {call : Call} {failures : List Answer}
    (hf : ∀ answer ∈ failures, ∃ error, answer = ⟨call, .error error⟩)
    (hc : call.index? = some index) :
    (∀ answer ∈ failures, answer.call.index? = some index) ∧
      ∀ answer ∈ failures, ¬ answer.Creates index := by
  refine ⟨fun answer ha => ?_, fun answer ha created => ?_⟩
  · obtain ⟨error, rfl⟩ := hf answer ha
    exact hc
  · obtain ⟨error, rfl⟩ := hf answer ha
    cases created

/-! ## Setting an index up -/

/-- What setting an index up adds to the answers: they are all about the index, and if it is a success,
they end with those that leave no doubt that it exists, and it was not created before these. -/
def SetsUp (index : String) (manager : Manager) (outcome : Option (Except BridgeError Unit))
    (later : Manager) : Prop :=
  ∃ own, later = manager.heard own ∧ (∀ answer ∈ own, answer.call.index? = some index) ∧
    (outcome = some (.ok ()) → ∃ early last, own = early ++ last ∧ Vouches index last ∧
      ∀ answer ∈ early, ¬ answer.Creates index)

namespace SetsUp

variable {own : List Answer} {outcome : Option (Except BridgeError Unit)}

theorem failed (about : ∀ answer ∈ own, answer.call.index? = some index)
    (failure : outcome ≠ some (.ok ())) : SetsUp index manager outcome (manager.heard own) :=
  ⟨own, rfl, about, fun success => absurd success failure⟩

theorem idle (failure : outcome ≠ some (.ok ())) : SetsUp index manager outcome manager :=
  ⟨[], (heard_nil manager).symm, nofun, fun success => absurd success failure⟩

theorem found (about : ∀ answer ∈ own, answer.call.index? = some index)
    (quiet : ∀ answer ∈ own, ¬ answer.Creates index) {answer : Answer} (finds : answer.Finds index) :
    SetsUp index manager outcome (manager.heard (own ++ [answer])) :=
  ⟨own ++ [answer], rfl,
    List.forall_mem_append.mpr ⟨about, List.forall_mem_singleton.mpr finds.about⟩,
    fun _ => ⟨own, [answer], rfl, .found finds, quiet⟩⟩

theorem prepend (about : ∀ answer ∈ own, answer.call.index? = some index)
    (quiet : ∀ answer ∈ own, ¬ answer.Creates index)
    (h : SetsUp index (manager.heard own) outcome later) : SetsUp index manager outcome later := by
  obtain ⟨more, rfl, about', vouched⟩ := h
  refine ⟨own ++ more, heard_heard _ _ _, List.forall_mem_append.mpr ⟨about, about'⟩,
    fun success => ?_⟩
  obtain ⟨early, last, rfl, vouches, quiet'⟩ := vouched success
  exact ⟨own ++ early, last, (List.append_assoc _ _ _).symm, vouches,
    List.forall_mem_append.mpr ⟨quiet, quiet'⟩⟩

end SetsUp

theorem leads_awaitUsable {admin : IndexAdmin} {outcome : Option (Except BridgeError Unit)}
    (h : (admin.awaitUsable index).Leads linking manager outcome later) :
    ∃ own, later = manager.heard own ∧ (∀ answer ∈ own, answer.call.index? = some index) ∧
      (outcome = some (.ok ()) → ∃ answer, own = [answer] ∧ answer.Assures index) := by
  obtain ⟨reply, _, rfl, rest⟩ := Procedure.Leads.of_request_bind rfl h
  match reply with
  | none =>
    obtain ⟨rfl, rfl⟩ := Procedure.Leads.of_done rest
    exact ⟨[], rfl, nofun, nofun⟩
  | some (.error error) =>
    obtain ⟨rfl, rfl⟩ := Procedure.Leads.of_done rest
    exact ⟨_, rfl, List.forall_mem_singleton.mpr rfl, nofun⟩
  | some (.ok health) =>
    obtain ⟨_, _, rfl, rest⟩ := Procedure.Leads.of_request_bind rfl rest
    obtain ⟨rfl, rfl⟩ := Procedure.Leads.of_done rest
    refine ⟨_, rfl, List.forall_mem_singleton.mpr rfl, fun success => ?_⟩
    refine ⟨_, rfl, ?_⟩
    split at success
    · next usable =>
      rw [Bool.and_eq_true, decide_eq_true_iff, Bool.not_eq_true'] at usable
      exact .usable _ health usable.2 usable.1
    · cases success

theorem leads_createWith {admin : IndexAdmin} {mapping : Json}
    {outcome : Option (Except BridgeError Unit)}
    (h : (admin.createWith index mapping).Leads linking manager outcome later) :
    SetsUp index manager outcome later := by
  obtain ⟨failures, hf, ended⟩ := of_tried_bind leads_retried h
  obtain ⟨about, quiet⟩ := about_of_failures index hf rfl
  rcases ended with ⟨rfl, rfl⟩ | ⟨exhausted, rest⟩ | ⟨creation, rest⟩
  · exact .failed about nofun
  · obtain ⟨_, _, rfl, rest⟩ := Procedure.Leads.of_request_bind rfl rest
    obtain ⟨rfl, rfl⟩ := Procedure.Leads.of_done rest
    exact .failed about nofun
  · match creation with
    | .created true =>
      obtain ⟨_, _, rfl, rest⟩ := Procedure.Leads.of_request_bind rfl rest
      obtain ⟨own, rfl, hown, usable⟩ := leads_awaitUsable rest
      refine .prepend about quiet ⟨⟨.createIndex index mapping, .ok (.created true)⟩ :: own, ?_,
        List.forall_mem_cons.mpr ⟨rfl, hown⟩, fun success => ?_⟩
      · simp only [heard_heard, List.append_assoc, List.singleton_append]
      · obtain ⟨answer, rfl, assures⟩ := usable success
        exact ⟨[], _, rfl, .made mapping assures, nofun⟩
    | .created false =>
      obtain ⟨_, _, rfl, rest⟩ := Procedure.Leads.of_request_bind rfl rest
      obtain ⟨rfl, rfl⟩ := Procedure.Leads.of_done rest
      exact .failed (List.forall_mem_append.mpr ⟨about, List.forall_mem_singleton.mpr rfl⟩) nofun
    | .alreadyExists =>
      obtain ⟨rfl, rfl⟩ := Procedure.Leads.of_done rest
      exact .found about quiet (.alreadyExists mapping)

theorem leads_createMissing {admin : IndexAdmin} {outcome : Option (Except BridgeError Unit)}
    (h : (admin.createMissing index).Leads preparing manager outcome later) :
    SetsUp index manager outcome later := by
  obtain ⟨mapping, _, rfl, rest⟩ := Procedure.Leads.of_request_bind rfl h
  match mapping with
  | .error cause =>
    obtain ⟨rfl, rfl⟩ := Procedure.Leads.of_done rest
    exact .idle nofun
  | .ok mapping => exact leads_createWith (Procedure.Leads.of_left rest)

/-- **Setting an index up.** -/
theorem leads_setUp {admin : IndexAdmin} {outcome : Option (Except BridgeError Unit)}
    (h : (admin.setUp index).Leads preparing manager outcome later) :
    SetsUp index manager outcome later := by
  have body := Procedure.Leads.of_closing_idle preparing
    (fun leads => leads_record (Procedure.Leads.of_left leads)) h
  obtain ⟨failures, hf, ended⟩ :=
    of_tried_bind (fun leads => leads_retried (Procedure.Leads.of_left leads)) body
  obtain ⟨about, quiet⟩ := about_of_failures index hf rfl
  rcases ended with ⟨rfl, rfl⟩ | ⟨exhausted, rest⟩ | ⟨found, rest⟩
  · exact .failed about nofun
  · obtain ⟨rfl, rfl⟩ := Procedure.Leads.of_done rest
    exact .failed about nofun
  · match found with
    | true =>
      obtain ⟨rfl, rfl⟩ := Procedure.Leads.of_done rest
      exact .found about quiet .there
    | false =>
      refine .prepend ?_ ?_ (leads_createMissing rest)
      · exact List.forall_mem_append.mpr ⟨about, List.forall_mem_singleton.mpr rfl⟩
      · exact List.forall_mem_append.mpr ⟨quiet, List.forall_mem_singleton.mpr nofun⟩

/-! ## Removing an index -/

theorem leads_deleteIndex {admin : IndexAdmin} {outcome : Option (Except BridgeError Bool)}
    (h : (admin.deleteIndex index).Leads linking manager outcome later) :
    ∃ own, later = manager.heard own ∧ ∀ answer ∈ own, answer.call = .deleteIndex index := by
  obtain ⟨failures, hf, ended⟩ := of_tried_bind leads_retried h
  have about : ∀ answer ∈ failures, answer.call = .deleteIndex index := by
    intro answer ha
    obtain ⟨error, rfl⟩ := hf answer ha
    rfl
  rcases ended with ⟨rfl, rfl⟩ | ⟨exhausted, rest⟩ | ⟨_, rest⟩
  · exact ⟨failures, rfl, about⟩
  · refine ⟨failures, ?_, about⟩
    split at rest
    · next impossible => cases impossible
    · exact (Procedure.Leads.of_done rest).2
    · obtain ⟨_, _, rfl, rest⟩ := Procedure.Leads.of_request_bind rfl rest
      exact (Procedure.Leads.of_done rest).2
  · obtain ⟨_, _, rfl, rest⟩ := Procedure.Leads.of_request_bind rfl rest
    obtain ⟨rfl, rfl⟩ := Procedure.Leads.of_done rest
    exact ⟨_, rfl, List.forall_mem_append.mpr ⟨about, List.forall_mem_singleton.mpr rfl⟩⟩

end EntitySearch.Manager
