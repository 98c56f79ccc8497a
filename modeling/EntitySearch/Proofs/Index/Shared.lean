import EntitySearch.Proofs.Index.Usable
import Mathlib.Logic.Function.Basic

/-!
# Managers that share an engine

Any number of managers and bridges use one engine in memory. Each of them takes an index for ready on
its own, and is not told when another one removes it. A call that makes sure that an index exists and
succeeds leaves the index there, unless another manager has removed it while this one took it for ready,
and it has done so ever since.

* `Shared`: an engine and its managers.
* `Deed`: a call of one of them, from its beginning to its end; `Shared.History`: one after another.
* `Lost`: an index that another manager has removed.
* `Shared.History.exists_or_lost`: an index that is taken for ready is there, or lost.
* `Deed.index_exists`: the main result.
* `Deed.not_index_exists`: an index that is lost.
-/

namespace EntitySearch

/-- An engine and the managers that use it. -/
structure Shared where
  engine : MemoryEngine := {}
  managers : Nat → Manager := fun _ => {}

/-- A call of a manager. -/
structure Deed where
  who : Nat
  admin : IndexAdmin
  call : ManagerCall
  outcome : Option (Except BridgeError Unit)
  /-- The answers of the engine during the call. -/
  answers : List Answer
  before : Shared
  after : Shared

namespace Deed

/-- Whether a call can go as it is told. Others may use the engine at the same time, as queues do, but
they remove no index. -/
structure Done (deed : Deed) : Prop where
  performs : (deed.before.managers deed.who).Performs deed.admin deed.call deed.outcome
    (deed.after.managers deed.who)
  heard : (deed.after.managers deed.who).answers =
    (deed.before.managers deed.who).answers ++ deed.answers
  replies : deed.before.engine.Replies deed.answers deed.after.engine
  others : ∀ other, other ≠ deed.who → deed.after.managers other = deed.before.managers other

/-- Whether a manager takes an index for ready after a call. -/
def Leaves (deed : Deed) (who : Nat) (index : String) : Prop :=
  (deed.after.managers who).table.isKnown index = true

end Deed

/-- Calls of new managers, one after another. -/
inductive Shared.History (engine : MemoryEngine) : List Deed → Shared → Prop
  | start : History engine [] { engine }
  | step {deeds : List Deed} {deed : Deed} (history : History engine deeds deed.before)
      (done : deed.Done) : History engine (deeds ++ [deed]) deed.after

/-- Whether another manager has removed an index that a manager took for ready, and it has done so ever
since. -/
def Lost (who : Nat) (index : String) (deeds : List Deed) : Prop :=
  ∃ early deed late, deeds = early ++ deed :: late ∧ deed.who ≠ who ∧
    (∃ answer ∈ deed.answers, answer.Deletes index) ∧
    (deed.before.managers who).table.isKnown index = true ∧
    ∀ later ∈ deed :: late, later.Leaves who index

theorem Lost.append {who : Nat} {index : String} {deeds : List Deed} (h : Lost who index deeds)
    {deed : Deed} (leaves : deed.Leaves who index) : Lost who index (deeds ++ [deed]) := by
  obtain ⟨early, culprit, late, rfl, other, deletes, known, ever⟩ := h
  refine ⟨early, culprit, late ++ [deed], ?_, other, deletes, known, ?_⟩
  · rw [List.append_assoc, List.cons_append]
  · rw [← List.cons_append]
    exact List.forall_mem_append.mpr ⟨ever, List.forall_mem_singleton.mpr leaves⟩

/-! ## One call -/

namespace Deed

variable {deed : Deed} {index : String}

theorem Done.achieves (done : deed.Done) (sound : (deed.before.managers deed.who).table.Sound) :
    (deed.before.managers deed.who).Achieves (fun _ => False)
      (deed.call.Covers deed.admin (deed.before.managers deed.who)) deed.answers
      (deed.outcome = some (.ok ())) (deed.after.managers deed.who) := by
  obtain ⟨own, achieves⟩ := done.performs.achieves sound
  have same : own = deed.answers := List.append_cancel_left (achieves.answers.symm.trans done.heard)
  rwa [same] at achieves

theorem Done.retains (done : deed.Done) (present : deed.before.engine.hasIndex index = true) :
    deed.after.engine.hasIndex index = true ∨ ∃ answer ∈ deed.answers, answer.Deletes index := by
  by_cases gone : ∃ answer ∈ deed.answers, answer.Deletes index
  · exact .inr gone
  · exact .inl (done.replies.retains present fun answer ha hd => gone ⟨answer, ha, hd⟩)

end Deed

/-! ## Histories -/

namespace Shared.History

variable {engine : MemoryEngine} {deeds : List Deed} {state : Shared}

theorem sound (history : History engine deeds state) (who : Nat) :
    (state.managers who).table.Sound := by
  induction history with
  | start => exact .empty
  | @step deeds deed history done ih =>
    by_cases own : who = deed.who
    · rw [own] at ih ⊢
      exact (done.achieves ih).sound
    · rw [done.others who own]
      exact ih

/-- **An index that is taken for ready is there**, or another manager has removed it. -/
theorem exists_or_lost (history : History engine deeds state) {who : Nat} {index : String}
    (known : (state.managers who).table.isKnown index = true) :
    state.engine.hasIndex index = true ∨ Lost who index deeds := by
  induction history with
  | start => cases known
  | @step deeds deed history done ih =>
    have leaves : deed.Leaves who index := known
    by_cases own : who = deed.who
    · subst own
      rcases (done.achieves (history.sound _)).known index known with ⟨before, quiet⟩ | vouched
      · rcases ih before with present | lost
        · rcases done.retains present with present | ⟨answer, ha, deletes⟩
          · exact .inl present
          · exact absurd deletes.about (quiet answer ha)
        · exact .inr (lost.append leaves)
      · exact .inl (done.replies.vouched vouched)
    · have before : (deed.before.managers who).table.isKnown index = true := by
        rw [← done.others who own]
        exact known
      rcases ih before with present | lost
      · refine (done.retains present).imp_right fun deletes => ?_
        exact ⟨deeds, deed, [], rfl, Ne.symm own, deletes, before,
          List.forall_mem_singleton.mpr leaves⟩
      · exact .inr (lost.append leaves)

end Shared.History

/-- **A call that succeeds leaves its indices there**, unless another manager has removed one that this
one took for ready, and it has done so ever since. -/
theorem Deed.index_exists {engine : MemoryEngine} {deeds : List Deed} {deed : Deed}
    (history : Shared.History engine deeds deed.before) (done : deed.Done)
    (succeeds : deed.outcome = some (.ok ())) {index : String}
    (covers : deed.call.Covers deed.admin (deed.before.managers deed.who) index) :
    deed.after.engine.hasIndex index = true ∨ Lost deed.who index (deeds ++ [deed]) :=
  (history.step done).exists_or_lost
    ((done.achieves (history.sound _)).covers succeeds index covers)

/-! ## An index that is lost -/

/-- Runs a call of a manager. -/
def Shared.deed? (state : Shared) (who : Nat) (admin : IndexAdmin) (call : ManagerCall) :
    Option Deed :=
  match ManagedEngine.perform? ⟨state.managers who, state.engine⟩ admin call with
  | some (result, managed) => some {
      who, admin, call
      outcome := some result
      answers := managed.manager.answers.drop (state.managers who).answers.length
      before := state
      after := ⟨managed.engine, Function.update state.managers who managed.manager⟩ }
  | none => none

theorem Shared.done_of_deed? {state : Shared} {who : Nat} {admin : IndexAdmin} {call : ManagerCall}
    {deed : Deed} (h : state.deed? who admin call = some deed) : deed.before = state ∧ deed.Done := by
  rw [deed?] at h
  split at h
  · next result managed performed =>
    cases h
    obtain ⟨performs, own, answers, replies⟩ := ManagedEngine.performs performed
    have same : managed.manager.answers.drop (state.managers who).answers.length = own := by
      rw [answers, List.drop_left]
    refine ⟨rfl, ?_, ?_, ?_, fun other apart => Function.update_of_ne apart _ _⟩
    · dsimp only
      rw [Function.update_self]
      exact performs
    · dsimp only
      rw [Function.update_self, same]
      exact answers
    · dsimp only
      rw [same]
      exact replies
  · cases h

theorem Shared.History.deed? {engine : MemoryEngine} {deeds : List Deed} {state : Shared}
    (history : Shared.History engine deeds state) {who : Nat} {admin : IndexAdmin}
    {call : ManagerCall} {deed : Deed} (h : state.deed? who admin call = some deed) :
    Shared.History engine (deeds ++ [deed]) deed.after := by
  obtain ⟨rfl, done⟩ := Shared.done_of_deed? h
  exact history.step done

theorem creating_succeeds : (Shared.deed? {} 0 soleAdmin (.create "A")).isSome = true := rfl

/-- A first manager creates an index. -/
def creating : Deed := (Shared.deed? {} 0 soleAdmin (.create "A")).get creating_succeeds

theorem deleting_succeeds : (creating.after.deed? 1 soleAdmin (.delete "A")).isSome = true := rfl

/-- A second manager removes it. -/
def deleting : Deed := (creating.after.deed? 1 soleAdmin (.delete "A")).get deleting_succeeds

theorem history_of_deletion : Shared.History {} [creating, deleting] deleting.after :=
  (Shared.History.start.deed? (Option.some_get creating_succeeds).symm).deed?
    (Option.some_get deleting_succeeds).symm

theorem restoring_succeeds : (deleting.after.deed? 1 soleAdmin (.create "A")).isSome = true := rfl

/-- The second manager creates it again. -/
def restoring : Deed := (deleting.after.deed? 1 soleAdmin (.create "A")).get restoring_succeeds

theorem index_exists_restored :
    restoring.outcome = some (.ok ()) ∧ restoring.after.engine.hasIndex "main" = true := by
  have succeeds : restoring.outcome = some (.ok ()) := rfl
  have covers : restoring.call.Covers restoring.admin (restoring.before.managers 1) "main" := rfl
  have done : restoring.Done :=
    (Shared.done_of_deed? (Option.some_get restoring_succeeds).symm).2
  have kept : ∀ answer ∈ creating.answers, ¬ answer.Deletes "main" :=
    List.forall_mem_cons.mpr ⟨nofun, List.forall_mem_cons.mpr ⟨nofun,
      List.forall_mem_singleton.mpr nofun⟩⟩
  refine ⟨succeeds, ?_⟩
  rcases Deed.index_exists history_of_deletion done succeeds covers with present | lost
  · exact present
  · -- Only the first manager could have taken the index away from the second one.
    obtain ⟨early, deed, late, deeds, other, ⟨answer, ha, deletes⟩, -⟩ := lost
    have among : deed ∈ [creating, deleting] ++ [restoring] := by
      rw [deeds]
      exact List.mem_append_right early List.mem_cons_self
    rcases List.mem_cons.mp among with rfl | among
    · exact absurd deletes (kept answer ha)
    · rcases List.mem_cons.mp among with rfl | among
      · exact absurd rfl other
      · rw [List.mem_singleton.mp among] at other
        exact absurd rfl other

theorem believing_succeeds : (deleting.after.deed? 0 soleAdmin (.create "A")).isSome = true := rfl

/-- The first manager is asked for it again. -/
def believing : Deed := (deleting.after.deed? 0 soleAdmin (.create "A")).get believing_succeeds

/-- A manager does not learn that another one has removed an index. -/
theorem Deed.not_index_exists : ¬ ∀ (engine : MemoryEngine) (deeds : List Deed) (deed : Deed)
    (index : String), Shared.History engine deeds deed.before → deed.Done →
      deed.outcome = some (.ok ()) →
        deed.call.Covers deed.admin (deed.before.managers deed.who) index →
          deed.after.engine.hasIndex index = true := by
  intro all
  have done : believing.Done := (Shared.done_of_deed? (Option.some_get believing_succeeds).symm).2
  have gone : believing.after.engine.hasIndex "main" = false := rfl
  have present := all {} [creating, deleting] believing "main" history_of_deletion done rfl rfl
  exact Bool.false_ne_true (gone.symm.trans present)

end EntitySearch
