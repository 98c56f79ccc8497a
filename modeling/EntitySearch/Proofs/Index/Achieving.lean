import EntitySearch.Proofs.Index.SettingUp

/-!
# What the calls of a manager achieve

A manager takes an index for ready only while the last answers about it leave no doubt that it exists:
it was set up since, or no request about it was made. A call that succeeds has its indices set up, and
of every index that the engine says it has created during the call it says later in the same call that
it is usable.

* `Manager.Tends`: what becomes of a manager, whatever the outcome.
* `Manager.Achieves`: what a procedure achieves; `Achieves.trans` for one procedure after another, and
  `achieves_of_bind` if the second one depends on the success of the first.
* `leads_ensure`, `leads_create`, `leads_delete`, `leads_recreate`, `leads_createEach`,
  `leads_recreateEach`, `leads_opening`, `leads_closing`: the procedures of a manager.
* `Manager.Performs.achieves`: its calls.
-/

namespace EntitySearch.Manager

/-- What becomes of a manager that receives some answers. -/
structure Tends (manager : Manager) (own : List Answer) (later : Manager) : Prop where
  answers : later.answers = manager.answers ++ own
  sound : later.table.Sound
  /-- An index that is known to be ready was so before, and no answer is about it, or the answers vouch
  for it. -/
  known : ∀ index, later.table.isKnown index = true →
    (manager.table.isKnown index = true ∧ Untouched index own) ∨ Vouched index own

/-- What a procedure achieves that leaves some indices alone and is to cover others: in any case, and if
it is a success. -/
structure Achieves (spared covered : String → Prop) (manager : Manager) (own : List Answer)
    (success : Prop) (later : Manager) : Prop extends manager.Tends own later where
  /-- The indices that are left alone stay known to be ready. -/
  spares : ∀ index, spared index → manager.table.isKnown index = true →
    later.table.isKnown index = true
  /-- An index that was created is said to be usable later on. -/
  usable : success → ∀ index, Followed (Answer.Creates index) (Answer.Assures index) own
  covers : success → ∀ index, covered index → later.table.isKnown index = true

variable {manager between later : Manager} {own more : List Answer} {index : String}
  {spared covered spared' covered' spared'' covered'' : String → Prop} {success success' : Prop}

namespace Achieves

theorem of_same (answers : later.answers = manager.answers) (sound : later.table.Sound)
    (same : ∀ index, later.table.isKnown index = manager.table.isKnown index)
    (covers : ∀ index, covered index → manager.table.isKnown index = true) :
    manager.Achieves spared covered [] success later where
  answers := by rw [answers, List.append_nil]
  sound := sound
  known index hk := .inl ⟨same index ▸ hk, .nil index⟩
  spares index _ hk := by rw [same, hk]
  usable _ _ := trivial
  covers _ index hi := by rw [same, covers index hi]

/-- One procedure after another. An index is covered if the second one covers it, or if the first one
does and the second one leaves it alone. -/
theorem trans (h : manager.Achieves spared covered own success between)
    (h' : between.Achieves spared' covered' more success' later) (first : success' → success)
    (hs : ∀ index, spared'' index → spared index ∧ spared' index)
    (hc : ∀ index, covered'' index → covered' index ∨ (covered index ∧ spared' index)) :
    manager.Achieves spared'' covered'' (own ++ more) success' later where
  answers := by rw [h'.answers, h.answers, List.append_assoc]
  sound := h'.sound
  known index hk := by
    rcases h'.known index hk with ⟨hk, quiet⟩ | vouched
    · rcases h.known index hk with ⟨hk, quiet'⟩ | vouched
      · exact .inl ⟨hk, quiet'.append quiet⟩
      · exact .inr (vouched.append quiet)
    · exact .inr vouched.prepend
  spares index hi hk := h'.spares index (hs index hi).2 (h.spares index (hs index hi).1 hk)
  usable hs index := (h.usable (first hs) index).append (h'.usable hs index)
  covers hs index hi := by
    rcases hc index hi with hi | ⟨hi, alone⟩
    · exact h'.covers hs index hi
    · exact h'.spares index alone (h.covers (first hs) index hi)

theorem mono (h : manager.Achieves spared covered own success later) (hp : success' → success)
    (hs : ∀ index, spared' index → spared index) (hc : ∀ index, covered' index → covered index) :
    manager.Achieves spared' covered' own success' later :=
  { h with
    spares := fun index hi => h.spares index (hs index hi)
    usable := fun success => h.usable (hp success)
    covers := fun success index hi => h.covers (hp success) index (hc index hi) }

theorem failed (h : manager.Achieves spared covered own success later) (failure : ¬ success')
    (hs : ∀ index, spared' index → spared index) :
    manager.Achieves spared' covered' own success' later :=
  { h with
    spares := fun index hi => h.spares index (hs index hi)
    usable := fun hs => absurd hs failure
    covers := fun hs => absurd hs failure }

theorem idle (sound : manager.table.Sound) (failure : ¬ success) :
    manager.Achieves spared covered [] success manager := by
  have same : manager.Achieves spared (fun _ => False) [] False manager :=
    .of_same rfl sound (fun _ => rfl) fun _ => False.elim
  exact same.failed failure fun _ => id

theorem congr {manager' later' : Manager} (h : manager.Achieves spared covered own success later)
    (table : manager'.table = manager.table) (answers : manager'.answers = manager.answers)
    (table' : later'.table = later.table) (answers' : later'.answers = later.answers) :
    manager'.Achieves spared covered own success later' where
  answers := by rw [answers', answers, h.answers]
  sound := table' ▸ h.sound
  known index := by
    rw [table', table]
    exact h.known index
  spares index := by
    rw [table', table]
    exact h.spares index
  usable := h.usable
  covers hs index := by
    rw [table']
    exact h.covers hs index

end Achieves

/-- A procedure that is followed by another one if it succeeds, and is the result if it fails. -/
theorem achieves_of_bind {p : Protocol} {service : Service p Manager} {α : Type}
    {first : Procedure p (Except BridgeError α)}
    {rest : Except BridgeError α → Procedure p (Except BridgeError Unit)}
    {outcome : Option (Except BridgeError Unit)}
    (h : (first.bind rest).Leads service manager outcome later)
    (fails : ∀ cause, rest (.error cause) = .done (.error cause))
    {done : Option (Except BridgeError α) → Prop} (succeeds : ∀ value, done (some (.ok value)))
    (achieved : ∀ {ended between}, first.Leads service manager ended between →
      ∃ own, manager.Achieves spared covered own (done ended) between)
    (goes : ∀ {own between value},
      manager.Achieves spared covered own (done (some (.ok value))) between →
      (rest (.ok value)).Leads service between outcome later →
        ∃ more, between.Achieves spared' covered' more (outcome = some (.ok ())) later)
    (hs : ∀ index, spared'' index → spared index ∧ spared' index)
    (hc : ∀ index, covered'' index → covered' index ∨ (covered index ∧ spared' index)) :
    ∃ own, manager.Achieves spared'' covered'' own (outcome = some (.ok ())) later := by
  have spares : ∀ index, spared'' index → spared index := fun index hi => (hs index hi).1
  rcases Procedure.Leads.of_bind h with ⟨result, between, leads, others⟩ | ⟨rfl, leads⟩
  · obtain ⟨own, achieves⟩ := achieved leads
    cases result with
    | error cause =>
      rw [fails] at others
      obtain ⟨rfl, rfl⟩ := Procedure.Leads.of_done others
      exact ⟨own, achieves.failed nofun spares⟩
    | ok value =>
      obtain ⟨more, achieves'⟩ := goes achieves others
      exact ⟨own ++ more, achieves.trans achieves' (fun _ => succeeds value) hs hc⟩
  · obtain ⟨own, achieves⟩ := achieved leads
    exact ⟨own, achieves.failed nofun spares⟩

/-! ## One index -/

variable (manager) in
/-- Setting an index up that was not known to be ready, behind the guard of a number. The guard is left
as `success` says. -/
theorem SetsUp.achieves {table : ReadyTable} {number : Nat}
    {outcome : Option (Except BridgeError Unit)}
    (h : SetsUp index
      { manager with table := { table with guards := table.guards.set number .entered } }
      outcome between)
    (sound : table.Sound) (guard : table.number? index = some number)
    (same : ∀ other, table.isKnown other = manager.table.isKnown other)
    (unknown : manager.table.isKnown index = false) {success : Bool}
    (hs : success = true ↔ outcome = some (.ok ())) :
    ∃ own, manager.Achieves (fun _ => True) (fun other => index = other) own
      (outcome = some (.ok ())) { between with table := between.table.leave number success } := by
  obtain ⟨own, rfl, about, vouched⟩ := h
  obtain ⟨sound', learned, others⟩ := sound.leave_entered guard success rfl
  refine ⟨own, ⟨rfl, sound', fun other hk => ?_⟩, fun other _ hk => ?_, fun hs other => ?_,
    fun ho other hi => ?_⟩
  · by_cases apart : index = other
    · subst apart
      obtain ⟨early, last, rfl, vouches, -⟩ := vouched (hs.mp (learned.symm.trans hk))
      exact .inr ⟨early, last, [], by rw [List.append_nil], vouches, .nil index⟩
    · exact .inl ⟨((others other apart).trans (same other)).symm.trans hk, .of_other apart about⟩
  · by_cases apart : index = other
    · rw [← apart, unknown] at hk
      cases hk
    · exact (others other apart).trans ((same other).trans hk)
  · by_cases apart : index = other
    · subst apart
      obtain ⟨early, last, rfl, vouches, quiet⟩ := vouched hs
      exact (Followed.of_none quiet).append vouches.usable
    · exact .of_none fun answer ha hc => Untouched.of_other apart about answer ha hc.about
  · subst hi
    exact learned.trans (hs.mpr ho)

/-- **Making sure that an index exists.** -/
theorem leads_ensure {admin : IndexAdmin} (sound : manager.table.Sound)
    {outcome : Option (Except BridgeError Unit)}
    (h : (admin.ensure index).Leads administering manager outcome later) :
    ∃ own, manager.Achieves (fun _ => True) (fun other => index = other) own
      (outcome = some (.ok ())) later := by
  obtain ⟨number, _, ⟨table, looked, rfl⟩, rest⟩ := Procedure.Leads.of_request_bind rfl h
  obtain ⟨sound', guard, same⟩ := sound.guardOf_eq (Option.some.inj looked)
  obtain ⟨isReady, _, ⟨_, entered, rfl⟩, rest⟩ := Procedure.Leads.of_request_bind rfl rest
  obtain ⟨ready, rfl⟩ := ReadyTable.enter?_cases entered guard
  rw [same] at ready
  cases isReady with
  | true =>
    obtain ⟨rfl, rfl⟩ := Procedure.Leads.of_done rest
    refine ⟨[], .of_same rfl sound' same ?_⟩
    rintro _ rfl
    exact ready.symm
  | false =>
    -- A set-up that is broken off leaves the guard like one that fails.
    rcases Procedure.Leads.of_closing administering rest with
      ⟨result, between, ended, setUp, leave, rfl⟩ | ⟨rfl, between, ended, setUp, leave⟩
    · have setsUp := leads_setUp (Procedure.Leads.of_left setUp)
      obtain ⟨_, rfl, _, left, rfl⟩ := Procedure.Leads.of_request rfl leave
      cases left
      refine setsUp.achieves manager sound' guard same ready.symm ?_
      cases result with
      | ok _ => exact ⟨fun _ => rfl, fun _ => rfl⟩
      | error _ => exact ⟨nofun, nofun⟩
    · have setsUp := leads_setUp (Procedure.Leads.of_left setUp)
      obtain ⟨_, rfl, _, left, rfl⟩ := Procedure.Leads.of_request rfl leave
      cases left
      exact setsUp.achieves manager sound' guard same ready.symm ⟨nofun, nofun⟩

theorem leads_create {admin : IndexAdmin} {entity : String} (sound : manager.table.Sound)
    {outcome : Option (Except BridgeError Unit)}
    (h : (admin.create entity).Leads administering manager outcome later) :
    ∃ own, manager.Achieves (fun _ => True) (fun index => admin.resolver.indexName entity = .ok index)
      own (outcome = some (.ok ())) later := by
  rw [IndexAdmin.create] at h
  cases named : admin.resolver.indexName entity with
  | error cause =>
    rw [named] at h
    obtain ⟨rfl, rfl⟩ := Procedure.Leads.of_done h
    exact ⟨[], .idle sound nofun⟩
  | ok index =>
    rw [named] at h
    obtain ⟨own, achieves⟩ := leads_ensure sound h
    exact ⟨own, achieves.mono id (fun _ => id) fun _ => Except.ok.inj⟩

/-- An index that is removed is forgotten first. -/
theorem leads_delete {admin : IndexAdmin} {entity : String} (sound : manager.table.Sound)
    {outcome : Option (Except BridgeError Bool)}
    (h : (admin.delete entity).Leads administering manager outcome later) :
    ∃ own, manager.Achieves (fun index => admin.resolver.indexName entity ≠ .ok index)
      (fun _ => False) own True later := by
  rw [IndexAdmin.delete] at h
  cases named : admin.resolver.indexName entity with
  | error cause =>
    rw [named] at h
    obtain ⟨rfl, rfl⟩ := Procedure.Leads.of_done h
    exact ⟨[], .of_same rfl sound (fun _ => rfl) nofun⟩
  | ok index =>
    rw [named] at h
    obtain ⟨_, _, ⟨table, forgotten, rfl⟩, rest⟩ := Procedure.Leads.of_request_bind rfl h
    cases forgotten
    obtain ⟨own, rfl, deletes⟩ :=
      leads_deleteIndex (Procedure.Leads.of_left (Procedure.Leads.of_left rest))
    have known := manager.table.isKnown_forget index
    refine ⟨own, ⟨rfl, sound.forget index, fun other hk => ?_⟩, fun other hi hk => ?_,
      fun _ other => .of_none ?_, fun _ _ => False.elim⟩
    · have hk := (known other).symm.trans hk
      split at hk
      · cases hk
      · next apart =>
        exact .inl ⟨hk, .of_other apart fun answer ha => by rw [deletes answer ha]; rfl⟩
    · refine (known other).trans ?_
      rw [if_neg fun same => hi (congrArg _ same), hk]
    · rintro answer ha ⟨⟩
      cases deletes _ ha

theorem leads_recreate {admin : IndexAdmin} {entity : String} (sound : manager.table.Sound)
    {outcome : Option (Except BridgeError Unit)}
    (h : (admin.recreate entity).Leads administering manager outcome later) :
    ∃ own, manager.Achieves (fun index => admin.resolver.indexName entity ≠ .ok index)
      (fun index => admin.resolver.indexName entity = .ok index) own (outcome = some (.ok ()))
      later := by
  have body := Procedure.Leads.of_closing_idle administering
    (fun leads => leads_record (Procedure.Leads.of_left (Procedure.Leads.of_left leads))) h
  exact achieves_of_bind body (fun _ => rfl) (fun _ => trivial) (leads_delete sound)
    (fun deleted created => leads_create deleted.sound created) (fun _ hi => ⟨hi, trivial⟩)
    fun _ hi => .inl hi

/-! ## Several indices -/

theorem leads_createEach {admin : IndexAdmin} (entities : List String) :
    ∀ {manager : Manager} {outcome : Option (Except BridgeError Unit)}, manager.table.Sound →
      (admin.createEach entities).Leads administering manager outcome later →
        ∃ own, manager.Achieves (fun _ => True)
          (fun index => ∃ entity ∈ entities, admin.resolver.indexName entity = .ok index) own
          (outcome = some (.ok ())) later := by
  induction entities with
  | nil =>
    intro manager outcome sound h
    obtain ⟨rfl, rfl⟩ := Procedure.Leads.of_done h
    refine ⟨[], .of_same rfl sound (fun _ => rfl) ?_⟩
    rintro _ ⟨_, impossible, -⟩
    cases impossible
  | cons entity rest ih =>
    intro manager outcome sound h
    refine achieves_of_bind h (fun _ => rfl) (fun _ => rfl) (leads_create sound)
      (fun created others => ih created.sound others) (fun _ _ => ⟨trivial, trivial⟩) ?_
    rintro index ⟨other, ho, hi⟩
    rcases List.mem_cons.mp ho with rfl | ho
    · exact .inr ⟨hi, trivial⟩
    · exact .inl ⟨other, ho, hi⟩

/-- The indices that are finished are known to be ready and left alone. -/
theorem leads_recreateEach {admin : IndexAdmin} (entities : List String) :
    ∀ (finished : List String) {manager : Manager} {outcome : Option (Except BridgeError Unit)},
      manager.table.Sound → (∀ index ∈ finished, manager.table.isKnown index = true) →
      (admin.recreateEach finished entities).Leads administering manager outcome later →
        ∃ own, manager.Achieves (fun index => index ∈ finished)
          (fun index => ∃ entity ∈ entities, admin.resolver.indexName entity = .ok index) own
          (outcome = some (.ok ())) later := by
  induction entities with
  | nil =>
    intro finished manager outcome sound _ h
    obtain ⟨rfl, rfl⟩ := Procedure.Leads.of_done h
    refine ⟨[], .of_same rfl sound (fun _ => rfl) ?_⟩
    rintro _ ⟨_, impossible, -⟩
    cases impossible
  | cons entity rest ih =>
    intro finished manager outcome sound known h
    rw [IndexAdmin.recreateEach] at h
    cases named : admin.resolver.indexName entity with
    | error cause =>
      rw [named] at h
      obtain ⟨rfl, rfl⟩ := Procedure.Leads.of_done h
      exact ⟨[], .idle sound nofun⟩
    | ok name =>
      rw [named] at h
      dsimp only at h
      by_cases done : finished.contains name = true
      · rw [if_pos done] at h
        obtain ⟨own, achieves⟩ := ih finished sound known h
        have done' : name ∈ finished := by simpa using done
        refine ⟨own, { achieves with covers := ?_ }⟩
        rintro success index ⟨other, ho, hi⟩
        rcases List.mem_cons.mp ho with rfl | ho
        · cases named.symm.trans hi
          exact achieves.spares name done' (known name done')
        · exact achieves.covers success index ⟨other, ho, hi⟩
      · rw [if_neg done] at h
        have apart : ∀ index ∈ finished, admin.resolver.indexName entity ≠ .ok index := by
          intro index hi same
          cases named.symm.trans same
          exact done (by simpa using hi)
        refine achieves_of_bind h (fun _ => rfl) (fun _ => rfl) (leads_recreate sound)
          (fun recreated others => ih (finished ++ [name]) recreated.sound ?_ others)
          (fun index hi => ⟨apart index hi, List.mem_append_left _ hi⟩) ?_
        · intro index hi
          rcases List.mem_append.mp hi with hi | hi
          · exact recreated.spares index (apart index hi) (known index hi)
          · cases List.mem_singleton.mp hi
            exact recreated.covers rfl name named
        · rintro index ⟨other, ho, hi⟩
          rcases List.mem_cons.mp ho with rfl | ho
          · cases named.symm.trans hi
            exact .inr ⟨hi, List.mem_append_right _ (List.mem_singleton.mpr rfl)⟩
          · exact .inl ⟨other, ho, hi⟩

/-! ## Bridges -/

theorem of_access_bind {request : BridgeRequest} {α : Type}
    {f : Bridging.Reply request → Procedure Living α} {outcome : Option α}
    (h : ((Lifecycle.access request).bind f).Leads service manager outcome later) :
    ∃ reply fresh bridge, manager.bridge.serve? fresh request = some (reply, bridge) ∧
      (f reply).Leads service { manager with bridge } outcome later := by
  obtain ⟨reply, _, ⟨fresh, bridge, served, rfl⟩, rest⟩ := Procedure.Leads.of_request_bind rfl h
  exact ⟨reply, fresh, bridge, served, rest⟩

theorem of_enter_bind {state : BridgeState} {α : Type} {f : Unit → Procedure Living α}
    {outcome : Option α}
    (h : ((Lifecycle.enter state).bind f).Leads service manager outcome later) :
    ∃ bridge, (f ()).Leads service { manager with bridge } outcome later := by
  obtain ⟨_, fresh, bridge, -, rest⟩ := of_access_bind h
  obtain ⟨_, _, rfl, rest⟩ := Procedure.Leads.of_request_bind rfl rest
  exact ⟨bridge, rest⟩

theorem leads_setUpAll {admin : IndexAdmin} {recreates : Bool} (sound : manager.table.Sound)
    {outcome : Option (Except BridgeError Unit)}
    (h : (Lifecycle.setUp admin recreates).Leads service manager outcome later) :
    ∃ own, manager.Achieves (fun _ => False)
      (fun index => ∃ entity ∈ admin.resolver.entityTypes, admin.resolver.indexName entity = .ok index)
      own (outcome = some (.ok ())) later := by
  rw [Lifecycle.setUp] at h
  split at h
  · obtain ⟨own, achieves⟩ :=
      leads_recreateEach _ [] sound nofun (Procedure.Leads.of_left h)
    exact ⟨own, achieves.mono id (fun _ => False.elim) fun _ => id⟩
  · obtain ⟨own, achieves⟩ := leads_createEach _ sound (Procedure.Leads.of_left h)
    exact ⟨own, achieves.mono id (fun _ => False.elim) fun _ => id⟩

theorem of_unlock {outcome : Option (Except BridgeError Unit)} {result : Except BridgeError Unit}
    (h : ((Lifecycle.access .unlock).bind fun _ => .done result).Leads service manager outcome
      later) :
    outcome = some result ∧ ∃ bridge, later = { manager with bridge } := by
  obtain ⟨_, _, bridge, -, rest⟩ := of_access_bind h
  obtain ⟨rfl, rfl⟩ := Procedure.Leads.of_done rest
  exact ⟨rfl, bridge, rfl⟩

theorem leads_opening {admin : IndexAdmin} {recreates : Bool} (sound : manager.table.Sound)
    {outcome : Option (Except BridgeError Unit)}
    (h : (Lifecycle.opening admin recreates).Leads service manager outcome later) :
    ∃ own, manager.Achieves (fun _ => False)
      ((ManagerCall.opening recreates).Covers admin manager) own (outcome = some (.ok ())) later := by
  obtain ⟨_, _, locked, served, rest⟩ := of_access_bind h
  have same : locked.state = manager.bridge.state := by
    simp only [Bridge.serve?] at served
    split at served <;> cases served
    rfl
  obtain ⟨state, _, _, looked, rest⟩ := of_access_bind rest
  cases looked
  dsimp only at rest
  split at rest
  · next ready =>
    obtain ⟨rfl, _, rfl⟩ := of_unlock rest
    refine ⟨[], .of_same rfl sound (fun _ => rfl) ?_⟩
    rintro index ⟨closed, -⟩
    exact absurd (same.symm.trans ready) closed
  · obtain ⟨opening, rest⟩ := of_enter_bind rest
    have sound' : ({ manager with bridge := opening } : Manager).table.Sound := sound
    rcases Procedure.Leads.of_bind rest with ⟨result, between, setUp, rest⟩ | ⟨rfl, setUp⟩
    · obtain ⟨own, achieves⟩ := leads_setUpAll sound' setUp
      refine ⟨own, ?_⟩
      cases result with
      | error cause =>
        obtain ⟨_, rest⟩ := of_enter_bind rest
        obtain ⟨rfl, _, rfl⟩ := of_unlock rest
        exact (achieves.failed nofun fun _ => id).congr rfl rfl rfl rfl
      | ok _ =>
        obtain ⟨_, _, _, -, rest⟩ := of_access_bind rest
        obtain ⟨_, rest⟩ := of_enter_bind rest
        obtain ⟨rfl, _, rfl⟩ := of_unlock rest
        exact (achieves.mono id (fun _ => id) fun _ => And.right).congr rfl rfl rfl rfl
    · obtain ⟨own, achieves⟩ := leads_setUpAll sound' setUp
      exact ⟨own, (achieves.failed nofun fun _ => id).congr rfl rfl rfl rfl⟩

theorem leads_using {α : Type} {procedure : Procedure QueueUse α} {outcome : Option α}
    (h : (procedure.right.right : Procedure Living α).Leads service manager outcome later) :
    later = manager := by
  have still : ∀ {manager later : Manager} {request reply},
      service.right.right.answers manager request reply later → later = manager := id
  exact Procedure.Leads.of_still still (Procedure.Leads.of_right (Procedure.Leads.of_right h))

/-- Closing a bridge concerns only the bridge and its queue. -/
theorem leads_closing {outcome : Option (Except BridgeError Unit)}
    (h : Lifecycle.closing.Leads service manager outcome later) :
    ∃ bridge, later = { manager with bridge } := by
  obtain ⟨_, _, locked, served, rest⟩ := of_access_bind h
  obtain ⟨state, _, _, looked, rest⟩ := of_access_bind rest
  dsimp only at rest
  split at rest
  · obtain ⟨_, rest⟩ := of_enter_bind rest
    obtain ⟨queue, _, _, -, rest⟩ := of_access_bind rest
    cases queue with
    | none =>
      obtain ⟨_, rest⟩ := of_enter_bind rest
      obtain ⟨-, unlocked⟩ := of_unlock rest
      exact unlocked
    | some number =>
      rcases Procedure.Leads.of_bind rest with ⟨result, between, stopped, rest⟩ | ⟨rfl, stopped⟩
      · cases leads_using stopped
        obtain ⟨_, rest⟩ := of_enter_bind rest
        obtain ⟨-, unlocked⟩ := of_unlock rest
        exact unlocked
      · exact ⟨_, leads_using stopped⟩
  · obtain ⟨_, rest⟩ := of_enter_bind rest
    obtain ⟨-, unlocked⟩ := of_unlock rest
    exact unlocked

/-! ## Calls -/

/-- **What a call achieves.** -/
theorem Performs.achieves {admin : IndexAdmin} {call : ManagerCall}
    {outcome : Option (Except BridgeError Unit)} (sound : manager.table.Sound)
    (h : manager.Performs admin call outcome later) :
    ∃ own, manager.Achieves (fun _ => False) (call.Covers admin manager) own
      (outcome = some (.ok ())) later := by
  have leads_achieves : ∀ {outcome later},
      (call.procedure admin).Leads service manager outcome later →
        ∃ own, manager.Achieves (fun _ => False) (call.Covers admin manager) own
          (outcome = some (.ok ())) later := by
    intro outcome later leads
    cases call with
    | create entity =>
      obtain ⟨own, achieves⟩ := leads_create sound (Procedure.Leads.of_left leads)
      exact ⟨own, achieves.mono id (fun _ => False.elim) fun _ => id⟩
    | delete entity =>
      rcases Procedure.Leads.of_bind (Procedure.Leads.of_left leads) with
        ⟨result, between, deleted, rest⟩ | ⟨rfl, deleted⟩
      · obtain ⟨own, achieves⟩ := leads_delete sound deleted
        obtain ⟨-, rfl⟩ := Procedure.Leads.of_done rest
        exact ⟨own, achieves.mono (fun _ => trivial) (fun _ => False.elim) fun _ => id⟩
      · obtain ⟨own, achieves⟩ := leads_delete sound deleted
        exact ⟨own, achieves.failed nofun fun _ => False.elim⟩
    | recreate entity =>
      obtain ⟨own, achieves⟩ := leads_recreate sound (Procedure.Leads.of_left leads)
      exact ⟨own, achieves.mono id (fun _ => False.elim) fun _ => id⟩
    | opening recreates => exact leads_opening sound leads
    | closing =>
      obtain ⟨bridge, rfl⟩ := leads_closing leads
      exact ⟨[], .of_same rfl sound (fun _ => rfl) fun _ => False.elim⟩
  cases h with
  | ended leads => exact leads_achieves leads
  | broken leads =>
    obtain ⟨own, achieves⟩ := leads_achieves leads
    exact ⟨own, achieves.congr rfl rfl rfl rfl⟩

end EntitySearch.Manager
