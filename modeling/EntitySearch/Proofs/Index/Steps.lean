import EntitySearch.Proofs.Index.SettingUp

/-!
# The creations and deletions in calls

Whatever a manager is asked to do with its indices, it creates and deletes them one after another: a call
consists of steps, each of which is the creation or the deletion of the index of one entity type, and the
outcomes of the steps decide how many there are and what the outcome of the call is.

* `IndexStep`: a step with its outcome; `Manager.Takes`: steps one after another.
* `AdminCall`: a call; `AdminCall.Consists`: the steps that it may consist of.
* `AdminCall.takes`: every call consists of steps.
* `Manager.History`: the steps of any number of calls.
-/

namespace EntitySearch

open Manager (administering leads_record)

/-! ## Steps -/

/-- The creation or the deletion of the index of an entity type. It has no outcome if it is broken
off. -/
inductive IndexStep where
  | create (admin : IndexAdmin) (entity : String) (outcome : Option (Except BridgeError Unit))
  | delete (admin : IndexAdmin) (entity : String) (outcome : Option (Except BridgeError Bool))

namespace IndexStep

/-- Whether a manager can take a step. -/
def Leads (manager : Manager) : IndexStep → Manager → Prop
  | .create admin entity outcome, later =>
    (admin.create entity).Leads administering manager outcome later
  | .delete admin entity outcome, later =>
    (admin.delete entity).Leads administering manager outcome later

/-- Whether a step is a successful creation of an index. -/
def Creates (index : String) : IndexStep → Prop
  | .create admin entity outcome =>
    admin.resolver.indexName entity = .ok index ∧ outcome = some (.ok ())
  | .delete _ _ _ => False

/-- Whether a step is a deletion of an index, whatever becomes of it. -/
def Deletes (index : String) : IndexStep → Prop
  | .create _ _ _ => False
  | .delete admin entity _ => admin.resolver.indexName entity = .ok index

end IndexStep

/-- Steps of a manager, one after another. -/
inductive Manager.Takes (manager : Manager) : List IndexStep → Manager → Prop
  | nil : Takes manager [] manager
  | step {steps : List IndexStep} {between later : Manager} {step : IndexStep}
    (takes : Takes manager steps between) (leads : step.Leads between later) :
    Takes manager (steps ++ [step]) later

namespace Manager.Takes

variable {manager between later : Manager} {steps more : List IndexStep} {step : IndexStep}

theorem single (leads : step.Leads manager later) : manager.Takes [step] later := .step .nil leads

theorem trans (h : manager.Takes steps between) (h' : between.Takes more later) :
    manager.Takes (steps ++ more) later := by
  induction h' with
  | nil =>
    rw [List.append_nil]
    exact h
  | step _ leads ih =>
    rw [← List.append_assoc]
    exact ih.step leads

theorem cons (leads : step.Leads manager between) (h : between.Takes steps later) :
    manager.Takes (step :: steps) later := (single leads).trans h

end Manager.Takes

/-! ## Calls -/

/-- A call of a manager that concerns its indices. -/
inductive AdminCall where
  | create (entity : String)
  | delete (entity : String)
  | recreate (entity : String)
  | createAll
  | recreateAll

namespace AdminCall

/-- What a call does. -/
def procedure (admin : IndexAdmin) : AdminCall → Procedure Administering (Except BridgeError Unit)
  | .create entity => admin.create entity
  | .delete entity => (admin.delete entity).bind fun result => .done (result.map fun _ => ())
  | .recreate entity => admin.recreate entity
  | .createAll => admin.createAll
  | .recreateAll => admin.recreateAll

/-- The steps of recreating an index: it is deleted, and then it is created, unless the deletion fails. -/
inductive Recreates (admin : IndexAdmin) (entity : String) :
    List IndexStep → Option (Except BridgeError Unit) → Prop
  | broken : Recreates admin entity [.delete admin entity none] none
  | failed (cause : BridgeError) :
    Recreates admin entity [.delete admin entity (some (.error cause))] (some (.error cause))
  | created (existed : Bool) (outcome : Option (Except BridgeError Unit)) :
    Recreates admin entity
      [.delete admin entity (some (.ok existed)), .create admin entity outcome] outcome

/-- The steps of creating the indices of entity types, up to the first one that fails. -/
inductive CreatesEach (admin : IndexAdmin) :
    List String → List IndexStep → Option (Except BridgeError Unit) → Prop
  | nil : CreatesEach admin [] [] (some (.ok ()))
  | stopped {entity : String} {rest : List String} {outcome : Option (Except BridgeError Unit)}
    (failure : outcome ≠ some (.ok ())) :
    CreatesEach admin (entity :: rest) [.create admin entity outcome] outcome
  | next {entity : String} {rest : List String} {steps : List IndexStep}
    {outcome : Option (Except BridgeError Unit)} (others : CreatesEach admin rest steps outcome) :
    CreatesEach admin (entity :: rest) (.create admin entity (some (.ok ())) :: steps) outcome

/-- The steps of recreating the indices of entity types, each of them once, up to the first one that
fails. -/
inductive RecreatesEach (admin : IndexAdmin) :
    (finished : List String) → List String → List IndexStep → Option (Except BridgeError Unit) → Prop
  | nil {finished : List String} : RecreatesEach admin finished [] [] (some (.ok ()))
  | unknown {finished rest : List String} {entity : String} {cause : SchemaError}
    (named : admin.resolver.indexName entity = .error cause) :
    RecreatesEach admin finished (entity :: rest) [] (some (.error (.schema cause)))
  | skipped {finished rest : List String} {entity index : String} {steps : List IndexStep}
    {outcome : Option (Except BridgeError Unit)} (named : admin.resolver.indexName entity = .ok index)
    (done : index ∈ finished) (others : RecreatesEach admin finished rest steps outcome) :
    RecreatesEach admin finished (entity :: rest) steps outcome
  | stopped {finished rest : List String} {entity index : String} {steps : List IndexStep}
    {outcome : Option (Except BridgeError Unit)} (named : admin.resolver.indexName entity = .ok index)
    (new : index ∉ finished) (recreates : Recreates admin entity steps outcome)
    (failure : outcome ≠ some (.ok ())) :
    RecreatesEach admin finished (entity :: rest) steps outcome
  | next {finished rest : List String} {entity index : String} {steps more : List IndexStep}
    {outcome : Option (Except BridgeError Unit)} (named : admin.resolver.indexName entity = .ok index)
    (new : index ∉ finished) (recreates : Recreates admin entity steps (some (.ok ())))
    (others : RecreatesEach admin (finished ++ [index]) rest more outcome) :
    RecreatesEach admin finished (entity :: rest) (steps ++ more) outcome

/-- Whether a call with some outcome may consist of some steps. -/
def Consists (admin : IndexAdmin) (steps : List IndexStep)
    (outcome : Option (Except BridgeError Unit)) : AdminCall → Prop
  | .create entity => steps = [.create admin entity outcome]
  | .delete entity => ∃ deleted, steps = [.delete admin entity deleted] ∧
      outcome = deleted.map fun result => result.map fun _ => ()
  | .recreate entity => Recreates admin entity steps outcome
  | .createAll => CreatesEach admin admin.resolver.entityTypes steps outcome
  | .recreateAll => RecreatesEach admin [] admin.resolver.entityTypes steps outcome

variable {manager later : Manager} {admin : IndexAdmin} {entity : String}
  {outcome : Option (Except BridgeError Unit)}

/-! ## Every call consists of steps -/

theorem takes_delete (h : (AdminCall.procedure admin (.delete entity)).Leads administering manager
      outcome later) :
    ∃ deleted, (outcome = deleted.map fun result => result.map fun _ => ()) ∧
      manager.Takes [.delete admin entity deleted] later := by
  rcases Procedure.Leads.of_bind h with ⟨result, between, deleted, rest⟩ | ⟨rfl, deleted⟩
  · obtain ⟨rfl, rfl⟩ := Procedure.Leads.of_done rest
    exact ⟨some result, rfl, .single deleted⟩
  · exact ⟨none, rfl, .single deleted⟩

theorem takes_recreate (h : (admin.recreate entity).Leads administering manager outcome later) :
    ∃ steps, Recreates admin entity steps outcome ∧ manager.Takes steps later := by
  have body := Procedure.Leads.of_closing_idle administering
    (fun leads => leads_record (Procedure.Leads.of_left (Procedure.Leads.of_left leads))) h
  rcases Procedure.Leads.of_bind body with ⟨result, between, deleted, rest⟩ | ⟨rfl, deleted⟩
  · cases result with
    | error cause =>
      obtain ⟨rfl, rfl⟩ := Procedure.Leads.of_done rest
      exact ⟨_, .failed cause, .single deleted⟩
    | ok existed => exact ⟨_, .created existed outcome, .cons deleted (.single rest)⟩
  · exact ⟨_, .broken, .single deleted⟩

theorem takes_createEach (entities : List String) :
    ∀ {manager : Manager}, (admin.createEach entities).Leads administering manager outcome later →
      ∃ steps, CreatesEach admin entities steps outcome ∧ manager.Takes steps later := by
  induction entities with
  | nil =>
    intro manager h
    obtain ⟨rfl, rfl⟩ := Procedure.Leads.of_done h
    exact ⟨[], .nil, .nil⟩
  | cons entity rest ih =>
    intro manager h
    rcases Procedure.Leads.of_bind h with ⟨result, between, created, others⟩ | ⟨rfl, created⟩
    · cases result with
      | error cause =>
        obtain ⟨rfl, rfl⟩ := Procedure.Leads.of_done others
        exact ⟨_, .stopped nofun, .single created⟩
      | ok _ =>
        obtain ⟨steps, creates, takes⟩ := ih others
        exact ⟨_, .next creates, .cons created takes⟩
    · exact ⟨_, .stopped nofun, .single created⟩

theorem takes_recreateEach (entities : List String) :
    ∀ {finished : List String} {manager : Manager},
      (admin.recreateEach finished entities).Leads administering manager outcome later →
        ∃ steps, RecreatesEach admin finished entities steps outcome ∧ manager.Takes steps later := by
  induction entities with
  | nil =>
    intro finished manager h
    obtain ⟨rfl, rfl⟩ := Procedure.Leads.of_done h
    exact ⟨[], .nil, .nil⟩
  | cons entity rest ih =>
    intro finished manager h
    rw [IndexAdmin.recreateEach] at h
    cases named : admin.resolver.indexName entity with
    | error cause =>
      rw [named] at h
      obtain ⟨rfl, rfl⟩ := Procedure.Leads.of_done h
      exact ⟨[], .unknown named, .nil⟩
    | ok index =>
      rw [named] at h
      dsimp only at h
      split at h
      · next done =>
        obtain ⟨steps, recreates, takes⟩ := ih h
        exact ⟨steps, .skipped named (by simpa using done) recreates, takes⟩
      · next new =>
        have new : index ∉ finished := by simpa using new
        rcases Procedure.Leads.of_bind h with ⟨result, between, recreated, others⟩ | ⟨rfl, recreated⟩
        · obtain ⟨steps, recreates, takes⟩ := takes_recreate recreated
          cases result with
          | error cause =>
            obtain ⟨rfl, rfl⟩ := Procedure.Leads.of_done others
            exact ⟨steps, .stopped named new recreates nofun, takes⟩
          | ok _ =>
            obtain ⟨more, recreates', takes'⟩ := ih others
            exact ⟨steps ++ more, .next named new recreates recreates', takes.trans takes'⟩
        · obtain ⟨steps, recreates, takes⟩ := takes_recreate recreated
          exact ⟨steps, .stopped named new recreates nofun, takes⟩

/-- **Every call consists of steps.** -/
theorem takes {call : AdminCall}
    (h : (call.procedure admin).Leads administering manager outcome later) :
    ∃ steps, call.Consists admin steps outcome ∧ manager.Takes steps later := by
  cases call with
  | create entity => exact ⟨_, rfl, .single h⟩
  | delete entity =>
    obtain ⟨deleted, same, takes⟩ := takes_delete h
    exact ⟨_, ⟨deleted, rfl, same⟩, takes⟩
  | recreate entity => exact takes_recreate h
  | createAll => exact takes_createEach _ h
  | recreateAll => exact takes_recreateEach _ h

end AdminCall

/-- The steps of any number of calls of a new manager, one after another. -/
inductive Manager.History : List IndexStep → Manager → Prop
  | new : History [] {}
  | performed {steps own : List IndexStep} {manager later : Manager} {admin : IndexAdmin}
    {call : AdminCall} {outcome : Option (Except BridgeError Unit)} (history : History steps manager)
    (leads : (call.procedure admin).Leads Manager.administering manager outcome later)
    (consists : call.Consists admin own outcome) (takes : manager.Takes own later) :
    History (steps ++ own) later

/-- The steps of all calls are steps one after another. -/
theorem Manager.History.takes {steps : List IndexStep} {manager : Manager}
    (h : Manager.History steps manager) : Manager.Takes {} steps manager := by
  induction h with
  | new => exact .nil
  | performed _ _ _ takes ih => exact ih.trans takes

end EntitySearch
