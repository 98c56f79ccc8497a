import EntitySearch.Proofs.Procedure.Ensures
import EntitySearch.Queue.Writer

/-!
# The requests of a job

Whatever is said of single requests holds of all requests that are made for a job if it holds of
those for measurements and reports, of the bulk request with all its attempts, and of a refresh.

* `Measurement.OfJob`: what is measured.
* `Writer.makeVisible_asks`, `Writer.deliver_asks_iff`: the parts of a job.
* `Writer.write_asks_allowed_iff`: the requests of a job.
-/

namespace EntitySearch

/-- Whether an observation is made of a job. -/
def Measurement.OfJob : Measurement → Prop
  | .bulk _ | .undelivered _ _ | .refresh _ _ => True
  | _ => False

namespace Writer

variable {allowed : Writing.Request → Prop}
  (records : ∀ measurement : Measurement, measurement.OfJob → allowed (.inl (.record measurement)))
  (publishes : ∀ failure, allowed (.inr failure))
  (writer : Writer) (plan : BulkPlan) (items : List WorkItem)

/-- What is asked of an engine for a job. -/
def OfLink (allowed : Writing.Request → Prop) (request : Link.Request) : Prop :=
  allowed (.inl request)

include records publishes

theorem report_asks_iff (failure : BulkFailure) {gives : Unit → Prop} :
    (report failure).Asks allowed gives ↔ gives () :=
  ⟨fun h => (h.2 ()).2 (), fun h => ⟨records _ trivial, fun _ => ⟨publishes _, fun _ => h⟩⟩⟩

theorem fail_asks (failure : BulkFailure) : (fail failure).Asks allowed fun _ => True :=
  Procedure.Asks.bind_iff.mpr ((report_asks_iff records publishes failure).mpr trivial)

section Refresh

variable (refreshes : (Link.retried writer.refreshPolicy "refresh" (.refresh plan.indices)).Asks
  (OfLink allowed) fun _ => True)

include refreshes

/-- Making the writes of a job visible. -/
theorem makeVisible_asks (outcome : Except BridgeError Unit) :
    (writer.makeVisible plan items outcome).Asks allowed fun _ => True := by
  unfold makeVisible
  by_cases strict : writer.strict = true
  swap
  · rw [if_neg strict]
    trivial
  rw [if_pos strict]
  have refresh : (writer.refresh plan.indices).Asks (OfLink allowed) fun _ => True := by
    refine Procedure.Asks.bind (fun _ _ => ?_) refreshes
    exact ⟨records _ trivial, fun _ => trivial⟩
  refine Procedure.Asks.bind (fun result _ => ?_) (Procedure.Asks.left_iff.mpr refresh)
  cases result with
  | ok _ => trivial
  | error failed => exact fail_asks records publishes _

/-- Delivering a job comes down to its bulk request. -/
theorem deliver_asks_iff :
    (writer.deliver plan items).Asks allowed (fun _ => True) ↔
      (Link.retried writer.bulkPolicy "bulk" (.bulk plan.operations)).Asks (OfLink allowed)
        fun _ => True := by
  have visible := makeVisible_asks records publishes writer plan items refreshes
  refine Procedure.Asks.bind_iff.trans
    ((Procedure.Asks.iff_of_gives fun response => ?_).trans Procedure.Asks.left_iff)
  cases response with
  | error failed => exact ⟨records _ trivial, fun _ => fail_asks records publishes _⟩
  | ok response =>
    refine ⟨records _ trivial, fun _ => ?_⟩
    dsimp only
    by_cases success : response.isSuccess = true
    · rw [if_pos success]
      exact visible _
    · rw [if_neg success]
      exact Procedure.Asks.bind (fun outcome _ => visible outcome) (fail_asks records publishes _)

end Refresh

/-- **The requests of a job** come down to its bulk request, if there is something to write. -/
theorem write_asks_allowed_iff (resolver : Resolver)
    (refreshes : (Link.retried writer.refreshPolicy "refresh"
      (.refresh (BulkPlan.ofItems resolver items).indices)).Asks (OfLink allowed) fun _ => True) :
    (writer.write resolver items).Asks allowed (fun _ => True) ↔
      (BulkPlan.ofItems resolver items).entries = [] ∨
        (Link.retried writer.bulkPolicy "bulk"
          (.bulk (BulkPlan.ofItems resolver items).operations)).Asks (OfLink allowed)
            fun _ => True := by
  unfold write
  dsimp only
  generalize BulkPlan.ofItems resolver items = plan at refreshes ⊢
  have delivers := deliver_asks_iff records publishes writer plan items refreshes
  have body : (if plan.entries.isEmpty then pure (.ok ()) else writer.deliver plan items :
        Procedure Writing (Except BridgeError Unit)).Asks allowed (fun _ => True) ↔
      plan.entries = [] ∨ (Link.retried writer.bulkPolicy "bulk" (.bulk plan.operations)).Asks
        (OfLink allowed) fun _ => True := by
    by_cases empty : plan.entries = []
    · rw [if_pos (List.isEmpty_iff.mpr empty)]
      exact iff_of_true trivial (.inl empty)
    · rw [if_neg (mt List.isEmpty_iff.mp empty), delivers, or_iff_right empty]
  by_cases known : (!plan.unresolved.isEmpty) = true
  · rw [if_pos known]
    exact Procedure.Asks.bind_iff.trans ((report_asks_iff records publishes _).trans body)
  · rw [if_neg known]
    exact body

end Writer

end EntitySearch
