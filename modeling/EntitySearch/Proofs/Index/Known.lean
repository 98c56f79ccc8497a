import EntitySearch.Proofs.Index.Steps
import EntitySearch.Proofs.Index.Usable

/-!
# Creation is idempotent

A manager takes an index for ready from the first creation that succeeds until the index is deleted,
whatever the engine answers in between and whatever becomes of the deletion. As long as it does, a
creation succeeds without asking the engine anything; otherwise it goes through all of the set-up, and
leaves the index unknown if this fails.

* `CreatedSince`: an index that was created and has not been deleted since.
* `Manager.leads_create_unknown`: a creation of an index that is not known is a set-up, and nothing else.
* `IndexStep.known`: what is known after one step; `Manager.Takes.known` after many.
* `Manager.Remembers`, `Manager.History.remembers`: the main result.
-/

namespace EntitySearch

open Manager (administering preparing)

/-- Whether an index was created and has not been deleted since. -/
def CreatedSince (index : String) (steps : List IndexStep) : Prop :=
  ∃ early step late, steps = early ++ step :: late ∧ step.Creates index ∧
    ∀ other ∈ late, ¬ other.Deletes index

/-- The last step decides, or leaves it to those before. -/
theorem createdSince_append {index : String} {steps : List IndexStep} {step : IndexStep} :
    CreatedSince index (steps ++ [step]) ↔
      step.Creates index ∨ (CreatedSince index steps ∧ ¬ step.Deletes index) := by
  constructor
  · rintro ⟨early, creation, late, same, creates, kept⟩
    rcases List.eq_nil_or_concat late with rfl | ⟨between, last, rfl⟩
    · obtain ⟨-, same⟩ := List.append_inj' same rfl
      cases same
      exact .inl creates
    · rw [List.concat_eq_append] at same kept
      rw [← List.cons_append, ← List.append_assoc] at same
      obtain ⟨rfl, ended⟩ := List.append_inj' same rfl
      obtain rfl := List.singleton_inj.mp ended
      obtain ⟨kept, still⟩ := List.forall_mem_append.mp kept
      exact .inr ⟨⟨early, creation, between, rfl, creates, kept⟩,
        still _ (List.mem_singleton.mpr rfl)⟩
  · rintro (creates | ⟨⟨early, creation, late, rfl, creates, kept⟩, still⟩)
    · exact ⟨steps, step, [], rfl, creates, nofun⟩
    · refine ⟨early, creation, late ++ [step], ?_, creates, ?_⟩
      · rw [List.append_assoc, List.cons_append]
      · exact List.forall_mem_append.mpr ⟨kept, List.forall_mem_singleton.mpr still⟩

/-! ## Creations -/

/-- Answers accesses to guards, and nothing else. -/
def ReadyTable.guardsOnly? (table : ReadyTable) :
    (request : Administering.Request) → Option (Administering.Reply request × ReadyTable)
  | .inl _ => none
  | .inr request => table.serve? request

namespace Manager

variable {manager later : Manager} {admin : IndexAdmin} {entity index : String}
  {outcome : Option (Except BridgeError Unit)}

/-- What is asked while an index is set up does not concern the table: it stays, and might as well be
another one. -/
theorem preparing_answers {request : Preparing.Request} {reply : Preparing.Reply request}
    (h : preparing.answers manager request reply later) :
    later.table = manager.table ∧ ∀ table,
      preparing.answers { manager with table } request reply { later with table } := by
  match request with
  | .inl .abandon => cases h
  | .inl (.call _) | .inl (.callWithin _ _) | .inl (.wait _) | .inl (.record _) | .inr _ =>
    cases h
    exact ⟨rfl, fun _ => rfl⟩

theorem table_of_preparing {α : Type} {procedure : Procedure Preparing α} {outcome : Option α}
    (h : procedure.Leads preparing manager outcome later) : later.table = manager.table :=
  Procedure.Leads.of_kept (fun answered => (preparing_answers answered).1) h

theorem preparing_with_table {α : Type} {procedure : Procedure Preparing α} {outcome : Option α}
    (h : procedure.Leads preparing manager outcome later) (table : ReadyTable) :
    procedure.Leads preparing { manager with table } outcome { later with table } :=
  h.map (fun answered => (preparing_answers answered).2 table) id

/-- A creation of an index that is known to be ready succeeds, and only looks at its guard. -/
theorem run_create_known (known : manager.table.isKnown index = true)
    (named : admin.resolver.indexName entity = .ok index) :
    (admin.create entity).run ReadyTable.guardsOnly? manager.table = some (.ok (), manager.table) := by
  obtain ⟨number, guard, looked⟩ := ReadyTable.guardOf_of_known known
  have entered := ReadyTable.enter?_of_known guard known
  have first : manager.table.guardsOnly? (.inr (.guardOf index)) = some (number, manager.table) :=
    congrArg some looked
  have second : manager.table.guardsOnly? (.inr (.enter number)) = some (true, manager.table) :=
    entered
  rw [IndexAdmin.create, named]
  refine (Procedure.run_ask first _).trans ?_
  change (Procedure.ask (p := Administering) (.inr (.enter number)) _).run _ _ = _
  refine (Procedure.run_ask second _).trans ?_
  rfl

/-- **A creation of an index that is not known** is a set-up, and nothing else. -/
theorem leads_create_unknown (sound : manager.table.Sound) (idle : manager.table.Idle)
    (unknown : manager.table.isKnown index = false)
    (named : admin.resolver.indexName entity = .ok index) :
    (admin.create entity).Leads administering manager outcome later ↔
      ∃ between, (admin.setUp index).Leads preparing manager outcome between ∧
        later = { between with
          table := manager.table.tried index (outcome.any Except.isOk) } := by
  rcases looked : manager.table.guardOf index with ⟨number, opened⟩
  obtain ⟨sound', guard, same⟩ := sound.guardOf_eq looked
  have idle' := idle.guardOf index
  rw [looked] at idle'
  have entered := idle'.enter?_of_unknown sound' guard ((same index).trans unknown)
  have tried : ∀ success, manager.table.tried index success = opened.leave number success := by
    intro success
    rw [ReadyTable.tried, looked]
  rw [IndexAdmin.create, named, tried]
  constructor
  · intro h
    obtain ⟨_, _, ⟨_, looked', rfl⟩, rest⟩ := Procedure.Leads.of_request_bind rfl h
    cases looked.symm.trans (Option.some.inj looked')
    obtain ⟨_, _, ⟨_, entered', rfl⟩, rest⟩ := Procedure.Leads.of_request_bind rfl rest
    cases entered.symm.trans entered'
    -- Whatever becomes of the set-up, it leaves the table as it was entered, until the guard is left.
    have left {ended : Option (Except BridgeError Unit)} {between : Manager} (success : Bool)
        (setUp : (admin.setUp index).Leads preparing
          { manager with
            table := { opened with guards := opened.guards.set number .entered } } ended between) :
        ∃ between', (admin.setUp index).Leads preparing manager ended between' ∧
          ({ between with table := between.table.leave number success } : Manager) =
            { between' with table := opened.leave number success } := by
      refine ⟨_, preparing_with_table setUp manager.table, ?_⟩
      rw [table_of_preparing setUp, ReadyTable.leave_entered]
    rcases Procedure.Leads.of_closing administering rest with
      ⟨result, between, ended, setUp, leave, rfl⟩ | ⟨rfl, between, ended, setUp, leave⟩
    · obtain ⟨_, rfl, _, done, rfl⟩ := Procedure.Leads.of_request rfl leave
      cases done
      exact left _ (Procedure.Leads.of_left setUp)
    · obtain ⟨_, rfl, _, done, rfl⟩ := Procedure.Leads.of_request rfl leave
      cases done
      exact left _ (Procedure.Leads.of_left setUp)
  · rintro ⟨between, setUp, rfl⟩
    have inside := preparing_with_table setUp
      { opened with guards := opened.guards.set number .entered }
    have leave (success : Bool) : (IndexAdmin.access (.leave number success)).Leads administering
        { between with table := { opened with guards := opened.guards.set number .entered } }
        (some ()) { between with table := opened.leave number success } := by
      rw [← ReadyTable.leave_entered]
      exact .request ⟨_, rfl, rfl⟩
    refine .bind (.request ⟨_, congrArg some looked, rfl⟩) (.bind (.request ⟨_, entered, rfl⟩) ?_)
    cases outcome with
    | none => exact .closing_none (.left inside) (leave false)
    | some result => exact .closing (.left inside) (leave result.isOk)

theorem leads_create_known (known : manager.table.isKnown index = true)
    (named : admin.resolver.indexName entity = .ok index)
    (h : (admin.create entity).Leads administering manager outcome later) :
    outcome = some (.ok ()) ∧ later = manager := by
  obtain ⟨number, guard, looked⟩ := ReadyTable.guardOf_of_known known
  have entered := ReadyTable.enter?_of_known guard known
  rw [IndexAdmin.create, named] at h
  obtain ⟨_, _, ⟨_, looked', rfl⟩, rest⟩ := Procedure.Leads.of_request_bind rfl h
  cases looked.symm.trans (Option.some.inj looked')
  obtain ⟨_, _, ⟨_, entered', rfl⟩, rest⟩ := Procedure.Leads.of_request_bind rfl rest
  cases entered.symm.trans entered'
  exact Procedure.Leads.of_done rest

theorem table_of_delete {deleted : Option (Except BridgeError Bool)}
    (named : admin.resolver.indexName entity = .ok index)
    (h : (admin.delete entity).Leads administering manager deleted later) :
    later.table = manager.table.forget index := by
  rw [IndexAdmin.delete, named] at h
  obtain ⟨_, _, ⟨_, forgotten, rfl⟩, rest⟩ := Procedure.Leads.of_request_bind rfl h
  cases forgotten
  exact table_of_preparing (Procedure.Leads.of_left rest)

end Manager

/-! ## What is known -/

section Steps

variable {manager later : Manager} {steps : List IndexStep}

/-- What is known after a step: what it has created, and what was known before and is not deleted. -/
theorem IndexStep.known {step : IndexStep} (sound : manager.table.Sound) (idle : manager.table.Idle)
    (h : step.Leads manager later) :
    later.table.Sound ∧ later.table.Idle ∧ ∀ index, later.table.isKnown index = true ↔
      step.Creates index ∨ (manager.table.isKnown index = true ∧ ¬ step.Deletes index) := by
  cases step with
  | create admin entity outcome =>
    cases named : admin.resolver.indexName entity with
    | error cause =>
      have failed : (admin.create entity).Leads administering manager outcome later := h
      rw [IndexAdmin.create, named] at failed
      obtain ⟨rfl, rfl⟩ := Procedure.Leads.of_done failed
      refine ⟨sound, idle, fun index => ⟨fun known => .inr ⟨known, id⟩, ?_⟩⟩
      rintro (⟨impossible, -⟩ | ⟨known, -⟩)
      · cases named.symm.trans impossible
      · exact known
    | ok name =>
      cases ready : manager.table.isKnown name with
      | true =>
        obtain ⟨rfl, rfl⟩ := Manager.leads_create_known ready named h
        refine ⟨sound, idle, fun index => ⟨fun known => .inr ⟨known, id⟩, ?_⟩⟩
        rintro (⟨same, -⟩ | ⟨known, -⟩)
        · cases named.symm.trans same
          exact ready
        · exact known
      | false =>
        obtain ⟨between, -, rfl⟩ := (Manager.leads_create_unknown sound idle ready named).mp h
        obtain ⟨sound', known⟩ := sound.tried name (outcome.any Except.isOk)
        refine ⟨sound', idle.tried name _, fun index => ?_⟩
        have success : outcome.any Except.isOk = true ↔ outcome = some (.ok ()) := by
          rcases outcome with _ | _ | _ <;> simp [Except.isOk, Except.toBool]
        rw [known, IndexStep.Creates, named]
        by_cases same : name = index
        · subst same
          simp [ready, success]
        · simp [same, IndexStep.Deletes]
  | delete admin entity deleted =>
    cases named : admin.resolver.indexName entity with
    | error cause =>
      have failed : (admin.delete entity).Leads administering manager deleted later := h
      rw [IndexAdmin.delete, named] at failed
      obtain ⟨rfl, rfl⟩ := Procedure.Leads.of_done failed
      refine ⟨sound, idle, fun index => ?_⟩
      simp [IndexStep.Creates, IndexStep.Deletes, named]
    | ok name =>
      have forgotten := Manager.table_of_delete named h
      rw [forgotten]
      refine ⟨sound.forget name, idle, fun index => ?_⟩
      rw [ReadyTable.isKnown_forget]
      by_cases same : name = index <;>
        simp [IndexStep.Creates, IndexStep.Deletes, named, same]

/-- **What is known after steps**, by induction on them. -/
theorem Manager.Takes.known (h : Manager.Takes {} steps manager) :
    manager.table.Sound ∧ manager.table.Idle ∧
      ∀ index, manager.table.isKnown index = true ↔ CreatedSince index steps := by
  induction h with
  | nil =>
    refine ⟨.empty, .empty, fun index => ⟨nofun, ?_⟩⟩
    rintro ⟨early, step, late, impossible, -⟩
    exact absurd impossible.symm (List.append_ne_nil_of_right_ne_nil early (List.cons_ne_nil _ _))
  | step _ leads ih =>
    obtain ⟨sound, idle, known⟩ := ih
    obtain ⟨sound', idle', known'⟩ := IndexStep.known sound idle leads
    refine ⟨sound', idle', fun index => ?_⟩
    rw [known', createdSince_append, known]

end Steps

/-! ## Histories -/

/-- Whether a manager remembers what some steps have created. -/
structure Manager.Remembers (manager : Manager) (steps : List IndexStep) : Prop where
  /-- It takes an index for ready exactly if it was created and has not been deleted since. -/
  known : ∀ index, manager.table.isKnown index = true ↔ CreatedSince index steps
  /-- As long as it does, a creation for any entity type of the index succeeds, and asks the engine
  nothing. -/
  spares : ∀ index, manager.table.isKnown index = true → ∀ (admin : IndexAdmin) (entity : String),
    admin.resolver.indexName entity = .ok index →
      (admin.create entity).run ReadyTable.guardsOnly? manager.table =
        some (.ok (), manager.table)
  /-- Otherwise a creation goes through all of the set-up, which decides whether the index is known. -/
  setsUp : ∀ index, manager.table.isKnown index = false → ∀ (admin : IndexAdmin) (entity : String),
    admin.resolver.indexName entity = .ok index → ∀ outcome later,
      (admin.create entity).Leads administering manager outcome later ↔
        ∃ between, (admin.setUp index).Leads preparing manager outcome between ∧
          later = { between with
            table := manager.table.tried index (outcome.any Except.isOk) }
  /-- A creation that fails leaves the index unknown. -/
  fails : ∀ index (admin : IndexAdmin) (entity : String), admin.resolver.indexName entity = .ok index →
    ∀ outcome later, (admin.create entity).Leads administering manager outcome later →
      outcome ≠ some (.ok ()) → later.table.isKnown index = false

/-- **Creation is idempotent.** After any number of calls, whatever the engine has answered, a manager
remembers what their steps have created; and every further call takes steps, whatever it comes to. -/
theorem Manager.History.remembers {steps : List IndexStep} {manager : Manager}
    (history : Manager.History steps manager) :
    manager.Remembers steps ∧
      ∀ (admin : IndexAdmin) (call : AdminCall) outcome later,
        (call.procedure admin).Leads administering manager outcome later →
          ∃ own, call.Consists admin own outcome ∧ Manager.History (steps ++ own) later := by
  obtain ⟨sound, idle, known⟩ := history.takes.known
  refine ⟨⟨known, ?_, ?_, ?_⟩, ?_⟩
  · intro index ready admin entity named
    exact Manager.run_create_known ready named
  · intro index unknown admin entity named outcome later
    exact Manager.leads_create_unknown sound idle unknown named
  · intro index admin entity named outcome later leads failure
    have step : IndexStep.Leads manager (.create admin entity outcome) later := leads
    obtain ⟨-, -, known'⟩ := IndexStep.known sound idle step
    rw [← Bool.not_eq_true, known']
    rintro (⟨-, success⟩ | ⟨ready, -⟩)
    · exact failure success
    · exact failure (Manager.leads_create_known ready named leads).1
  · intro admin call outcome later leads
    obtain ⟨own, consists, takes⟩ := AdminCall.takes leads
    exact ⟨own, consists, history.performed leads consists takes⟩

theorem ManagedEngine.leads_create {state after : ManagedEngine} {admin : IndexAdmin} {entity : String}
    {result : Except BridgeError Unit}
    (h : state.perform? admin (.create entity) = some (result, after)) :
    (admin.create entity).Leads administering state.manager (some result) after.manager := by
  obtain ⟨leads⟩ | _ := (ManagedEngine.performs h).1
  exact Procedure.Leads.of_left leads

/-- The two creations of an index that was waited for in vain and then found. -/
def foundSteps : List IndexStep :=
  [.create soleAdmin "A" (some (.error (.clusterTimeout "main" (.ofMillis 500)))),
    .create soleAdmin "A" (some (.ok ()))]

/-- The first one leaves the index unknown, the second one makes it known, and a third one asks
nothing. -/
theorem Manager.History.remembers_found :
    waitedState.manager.table.isKnown "main" = false ∧
      foundState.manager.table.isKnown "main" = true ∧ CreatedSince "main" foundSteps ∧
      (soleAdmin.create "A").run ReadyTable.guardsOnly? foundState.manager.table =
        some (.ok (), foundState.manager.table) := by
  have waited : redState.perform? soleAdmin (.create "A") =
    some (.error (.clusterTimeout "main" (.ofMillis 500)), waitedState) := rfl
  have found : waitedState.perform? soleAdmin (.create "A") = some (.ok (), foundState) := rfl
  have first := ManagedEngine.leads_create waited
  obtain ⟨remembers, goes⟩ := Manager.History.remembers .new
  have unknown := remembers.fails "main" soleAdmin "A" rfl _ _ first nofun
  obtain ⟨_, rfl, history⟩ := goes soleAdmin (.create "A") _ _ first
  obtain ⟨_, rfl, history⟩ := (Manager.History.remembers history).2 soleAdmin (.create "A") _ _
    (ManagedEngine.leads_create found)
  obtain ⟨remembers, -⟩ := Manager.History.remembers history
  have created : CreatedSince "main" foundSteps :=
    ⟨[_], .create soleAdmin "A" (some (.ok ())), [], rfl, ⟨rfl, rfl⟩, nofun⟩
  have known := (remembers.known "main").mpr created
  exact ⟨unknown, known, created, remembers.spares "main" known soleAdmin "A" rfl⟩

end EntitySearch
