import EntitySearch.Index.Administration
import EntitySearch.Proofs.Procedure.Ensures

/-!
# The requests of an administration

Whoever administers indices speaks to the engine, asks for mappings and has access to a table of
guards. What is measured meanwhile are the attempts, the changes to indices and the time that they
take, and nothing else.

* `Measurement.OfIndex`, `Administering.Plain`: what is measured, and what is asked for.
* `IndexAdmin.asks_createAll`, `IndexAdmin.asks_recreateAll`: the indices of all entity types.
-/

namespace EntitySearch

/-- Whether an observation is made of a change to an index. -/
def Measurement.OfIndex : Measurement → Prop
  | .retry _ | .indexOperation _ _ | .timed _ => True
  | _ => False

/-- Whether a request to the engine is one that is made for indices. -/
def Link.OfIndex : Link.Request → Prop
  | .record measurement => measurement.OfIndex
  | _ => True

/-- Whether a request is one that is made while an index is set up. -/
def Preparing.Plain : Preparing.Request → Prop
  | .inl request => Link.OfIndex request
  | .inr _ => True

/-- Whether a request is one that is made while indices are administered. -/
def Administering.Plain : Administering.Request → Prop
  | .inl request => Preparing.Plain request
  | .inr _ => True

namespace IndexAdmin

open Procedure

variable {α : Type} {admin : IndexAdmin} {index entity : String}

/-! ## Single requests -/

theorem asks_retried (policy : RetryPolicy) (operation : String) (call : Call) :
    (Link.retried policy operation call).Asks Link.OfIndex fun _ => True :=
  Link.asks_retried trivial (fun _ => trivial) (fun _ => trivial) trivial policy operation

theorem asks_record (operation : String) (success : Bool) {rest : Procedure Link α}
    (h : rest.Asks Link.OfIndex fun _ => True) :
    ((Link.record (.indexOperation operation success)).bind fun _ => rest).Asks Link.OfIndex
      fun _ => True := ⟨trivial, fun _ => h⟩

theorem asks_access (request : GuardRequest) :
    (access request).Asks Administering.Plain fun _ => True := ⟨trivial, fun _ => trivial⟩

theorem asks_timed {operation : String} {body : Procedure Preparing α}
    (h : body.Asks Preparing.Plain fun _ => True) :
    (timed operation body).Asks Preparing.Plain fun _ => True := by
  have measures : ((Link.record (.timed operation)).left : Procedure Preparing Unit).Asks
      Preparing.Plain fun _ => True := ⟨trivial, fun _ => trivial⟩
  exact .closing h (fun _ => measures) measures

/-! ## One index -/

theorem asks_awaitUsable : (admin.awaitUsable index).Asks Link.OfIndex fun _ => True := by
  refine ⟨trivial, fun reply : Option (Except EngineError IndexHealth) => ?_⟩
  rcases reply with _ | cause | health
  · trivial
  · trivial
  · exact ⟨trivial, fun _ => trivial⟩

theorem asks_createWith (mapping : Json) :
    (admin.createWith index mapping).Asks Link.OfIndex fun _ => True := by
  refine .bind (fun result _ => ?_) (asks_retried _ _ _)
  rcases result with failed | created | _
  · exact asks_record _ _ trivial
  · cases created
    · exact asks_record _ _ trivial
    · exact asks_record _ _ asks_awaitUsable
  · trivial

theorem asks_createMissing : (admin.createMissing index).Asks Preparing.Plain fun _ => True := by
  refine ⟨trivial, fun described : Except BridgeError Json => ?_⟩
  cases described with
  | error cause => trivial
  | ok mapping => exact Asks.left_iff.mpr (asks_createWith mapping)

theorem asks_setUp : (admin.setUp index).Asks Preparing.Plain fun _ => True := by
  refine asks_timed (.bind (fun result _ => ?_) (Asks.left_iff.mpr (asks_retried _ _ _)))
  rcases result with failed | known
  · trivial
  · cases known
    · exact asks_createMissing
    · trivial

theorem asks_ensure : (admin.ensure index).Asks Administering.Plain fun _ => True := by
  refine .bind (fun number _ => ?_) (asks_access _)
  refine .bind (fun (ready : Bool) _ => ?_) (asks_access _)
  cases ready
  · exact .closing (Asks.left_iff.mpr asks_setUp) (fun _ => asks_access _) (asks_access _)
  · trivial

theorem asks_deleteIndex : (admin.deleteIndex index).Asks Link.OfIndex fun _ => True := by
  refine .bind (fun result _ => ?_) (asks_retried _ _ _)
  rcases result with failed | _
  · obtain ⟨error, attempts⟩ := failed
    cases error with
    | notFound index => trivial
    | _ => exact asks_record _ _ trivial
  · exact asks_record _ _ trivial

/-! ## The index of an entity type -/

theorem asks_create : (admin.create entity).Asks Administering.Plain fun _ => True := by
  unfold create
  cases admin.resolver.indexName entity with
  | error cause => trivial
  | ok index => exact asks_ensure

theorem asks_delete : (admin.delete entity).Asks Administering.Plain fun _ => True := by
  unfold delete
  cases admin.resolver.indexName entity with
  | error cause => trivial
  | ok index =>
    refine .bind (fun _ _ => ?_) (asks_access _)
    exact Asks.left_iff.mpr (Asks.left_iff.mpr asks_deleteIndex)

theorem asks_recreate : (admin.recreate entity).Asks Administering.Plain fun _ => True := by
  have measures : ((Link.record (.timed "recreate_index")).left.left :
      Procedure Administering Unit).Asks Administering.Plain fun _ => True :=
    ⟨trivial, fun _ => trivial⟩
  refine .closing (.bind (fun result _ => ?_) asks_delete) (fun _ => measures) measures
  cases result with
  | error cause => trivial
  | ok _ => exact asks_create

/-! ## All indices -/

/-- **Making sure that all indices exist.** -/
theorem asks_createAll : admin.createAll.Asks Administering.Plain fun _ => True := by
  unfold createAll
  induction admin.resolver.entityTypes with
  | nil => trivial
  | cons entity rest ih =>
    refine .bind (fun result _ => ?_) asks_create
    cases result with
    | error cause => trivial
    | ok _ => exact ih

theorem asks_recreateEach (entities : List String) : ∀ finished : List String,
    (admin.recreateEach finished entities).Asks Administering.Plain fun _ => True := by
  induction entities with
  | nil => exact fun _ => trivial
  | cons entity rest ih =>
    intro finished
    unfold recreateEach
    cases admin.resolver.indexName entity with
    | error cause => trivial
    | ok index =>
      dsimp only
      by_cases known : finished.contains index = true
      · rw [if_pos known]
        exact ih finished
      rw [if_neg known]
      refine .bind (fun result _ => ?_) asks_recreate
      cases result with
      | error cause => trivial
      | ok _ => exact ih _

/-- **Recreating all indices.** -/
theorem asks_recreateAll : admin.recreateAll.Asks Administering.Plain fun _ => True :=
  asks_recreateEach _ []

end IndexAdmin

end EntitySearch
