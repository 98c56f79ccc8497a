import EntitySearch.Proofs.Index.Achieving
import EntitySearch.Proofs.Index.ManagedEngine

/-!
# Created indices are usable

A call that makes sure that an index exists and succeeds, after any number of calls of the same manager
and whatever the engine has answered to them: the engine has said that the index is usable, or that it
exists already, since the manager has last created it. An engine that finds an index is believed: it is
not asked whether the index is usable, even if the manager itself has created it and has waited for it
in vain.

* `Manager.Reached.awaited`: what is known of the indices that are taken for ready.
* `Manager.Performs.created_usable`: the main result.
* `Manager.not_created_usable`: an index that was waited for in vain.
-/

namespace EntitySearch

namespace Manager

variable {manager later : Manager} {index : String}

/-- Whether every creation of an index is followed by an answer that it is usable, or that it exists. -/
def Awaited (manager : Manager) (index : String) : Prop :=
  Followed (Answer.MayCreate index) (fun answer => answer.Assures index ∨ answer.Finds index)
    manager.answers

/-- An index that is taken for ready stays awaited. -/
theorem Tends.awaited {own : List Answer} (h : manager.Tends own later)
    (before : manager.table.isKnown index = true → manager.Awaited index)
    (known : later.table.isKnown index = true) : later.Awaited index := by
  rw [Awaited, h.answers]
  rcases h.known index known with ⟨known, quiet⟩ | vouched
  · exact (before known).append (.of_none fun answer ha hm => quiet answer ha hm.about)
  · exact Vouched.followed vouched.prepend

theorem Reached.sound (reached : manager.Reached) : manager.table.Sound := by
  induction reached with
  | new => exact .empty
  | performed _ performs ih =>
    obtain ⟨_, achieves⟩ := performs.achieves ih
    exact achieves.sound

/-- Every creation of an index that is taken for ready is followed by an answer that it is usable, or
that it exists. -/
theorem Reached.awaited (reached : manager.Reached) :
    ∀ index, manager.table.isKnown index = true → manager.Awaited index := by
  induction reached with
  | new => exact fun _ known => nomatch known
  | performed reached performs ih =>
    obtain ⟨_, achieves⟩ := performs.achieves reached.sound
    exact fun index => achieves.awaited (ih index)

/-- **Created indices are usable.** -/
theorem Performs.created_usable (reached : manager.Reached) {admin : IndexAdmin} {call : ManagerCall}
    (performs : manager.Performs admin call (some (.ok ())) later) :
    ∃ own, later.answers = manager.answers ++ own ∧
      (∀ index, Followed (Answer.Creates index) (Answer.Assures index) own) ∧
      ∀ index, call.Covers admin manager index → later.Awaited index := by
  obtain ⟨own, achieves⟩ := performs.achieves reached.sound
  refine ⟨own, achieves.answers, achieves.usable rfl, fun index covered => ?_⟩
  exact achieves.awaited (reached.awaited index) (achieves.covers rfl index covered)

end Manager

/-! ## An index that was waited for in vain -/

/-- One entity type with an index of its own. -/
def soleDescriptor : Descriptor := ⟨"A", "main", "id", .numeric, []⟩

def soleAdmin : IndexAdmin where
  resolver := Registry.resolver (.registerAll {} [soleDescriptor])
  healthLimit := .ofMillis 500

theorem creation_succeeds : (ManagedEngine.perform? {} soleAdmin (.create "A")).isSome = true := rfl

/-- A first call that finds a usable engine. -/
def createdState : ManagedEngine :=
  ((ManagedEngine.perform? {} soleAdmin (.create "A")).get creation_succeeds).2

theorem created_usable_first :
    (∃ answer ∈ createdState.manager.answers, answer.Creates "main") ∧
      Followed (Answer.Creates "main") (Answer.Assures "main") createdState.manager.answers ∧
      createdState.manager.Awaited "main" := by
  have performed : ManagedEngine.perform? {} soleAdmin (.create "A") =
    some (.ok (), createdState) := rfl
  obtain ⟨own, answers, usable, awaited⟩ :=
    Manager.Performs.created_usable .new (ManagedEngine.performs performed).1
  rw [List.nil_append] at answers
  have created : createdState.manager.answers =
    [⟨.indexExists "main", .ok false⟩,
      ⟨.createIndex "main" soleDescriptor.mapping, .ok (.created true)⟩,
      ⟨.health "main" .yellow (.ofMillis 500), .ok ⟨.green, false⟩⟩] := rfl
  refine ⟨?_, answers ▸ usable "main", awaited "main" rfl⟩
  rw [created]
  exact ⟨_, List.mem_cons_of_mem _ List.mem_cons_self, .created _ true⟩

/-- An engine whose indices do not become usable. -/
def redState : ManagedEngine where
  engine := { faults := { health := .red } }

theorem creation_ends : (redState.perform? soleAdmin (.create "A")).isSome = true := rfl

/-- After a first call, which has created the index and waited for it in vain. -/
def waitedState : ManagedEngine :=
  ((redState.perform? soleAdmin (.create "A")).get creation_ends).2

theorem second_creation_ends : (waitedState.perform? soleAdmin (.create "A")).isSome = true := rfl

/-- After a second call, which has found the index. -/
def foundState : ManagedEngine :=
  ((waitedState.perform? soleAdmin (.create "A")).get second_creation_ends).2

/-- A manager that is asked again for an index that it has created and waited for in vain believes
that it is usable because it exists. -/
theorem Manager.not_created_usable : ¬ ∀ (manager later : Manager) (admin : IndexAdmin)
    (call : ManagerCall) (index : String), manager.Reached →
      manager.Performs admin call (some (.ok ())) later → call.Covers admin manager index →
        ∀ early creation late, later.answers = early ++ creation :: late →
          creation.Creates index → (∀ answer ∈ late, ¬ answer.Misses index) →
            ∃ answer ∈ late, answer.Assures index := by
  intro all
  have waited : redState.perform? soleAdmin (.create "A") =
    some (.error (.clusterTimeout "main" (.ofMillis 500)), waitedState) := rfl
  have found : waitedState.perform? soleAdmin (.create "A") = some (.ok (), foundState) := rfl
  have answers : foundState.manager.answers =
    [⟨.indexExists "main", .ok false⟩] ++
      ⟨.createIndex "main" soleDescriptor.mapping, .ok (.created true)⟩ ::
        [⟨.health "main" .yellow (.ofMillis 500), .ok ⟨.red, true⟩⟩,
          ⟨.indexExists "main", .ok true⟩] := rfl
  have present : ∀ answer ∈ [⟨.health "main" .yellow (.ofMillis 500), .ok ⟨.red, true⟩⟩,
      ⟨.indexExists "main", .ok true⟩], ¬ Answer.Misses "main" answer :=
    List.forall_mem_cons.mpr ⟨nofun, List.forall_mem_singleton.mpr nofun⟩
  obtain ⟨answer, ha, assures⟩ := all _ _ soleAdmin (.create "A") "main"
    (.performed .new (ManagedEngine.performs waited).1) (ManagedEngine.performs found).1 rfl
    _ _ _ answers (.created _ true) present
  rcases List.mem_cons.mp ha with rfl | ha
  · cases assures with
    | usable _ _ status _ => exact absurd status (by decide)
  · cases List.mem_singleton.mp ha
    cases assures

end EntitySearch
