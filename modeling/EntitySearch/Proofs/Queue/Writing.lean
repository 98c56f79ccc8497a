import EntitySearch.Proofs.Engine.Settled
import EntitySearch.Proofs.Procedure.Ensures
import EntitySearch.Proofs.Queue.Plan

/-!
# What writing a job does

While a job is written others may send requests of their own, as long as these write nothing. Then
the writes of the job are applied in their order on top of what the engine had taken before, except
those to documents that are refused. If the job ends well no document was refused, and in a strict
queue none of the writes waits for a refresh any more.

* `MemoryEngine.Calm`: what others may do to the engine.
* `Link.calmly`, `Writing.calmly`: an engine in memory as surroundings.
* `BulkPlan.Written`: what is known of the engine when a job has ended.
* `Writer.write_ensures`: writing a job ensures it.
-/

namespace EntitySearch

/-- What others may do to an engine between two requests of a writer: they write nothing. If it is
assured that nothing goes wrong, they keep it so. -/
structure MemoryEngine.Calm (assured : Prop) (before after : MemoryEngine) : Prop where
  undisturbed : MemoryEngine.Undisturbed before after
  harmless : assured → before.faults.Harmless → after.faults.Harmless

namespace MemoryEngine.Calm

variable {assured : Prop} {first second third : MemoryEngine}

theorem refl (assured : Prop) (engine : MemoryEngine) : Calm assured engine engine :=
  ⟨.refl engine, fun _ => id⟩

theorem trans (h : Calm assured first second) (h' : Calm assured second third) :
    Calm assured first third :=
  ⟨h.undisturbed.trans h'.undisturbed, fun ha => h'.harmless ha ∘ h.harmless ha⟩

theorem record (assured : Prop) (engine : MemoryEngine) (call : Call) :
    Calm assured engine (engine.record call) :=
  ⟨undisturbed_record engine call, fun _ => id⟩

theorem answer (assured : Prop) (engine : MemoryEngine) (delay : Duration) {call : Call}
    (h : call.writes = false) : Calm assured engine (engine.answer? delay call).1 :=
  ⟨answer?_undisturbed engine delay h, fun _ hh => answer?_harmless hh delay h⟩

end MemoryEngine.Calm

open MemoryEngine (Calm Applied)

/-! ## Surroundings -/

/-- An engine in memory, and others who do not write. If it is assured that nothing goes wrong, the
task is not broken off; a search might break it off. -/
def Link.calmly (assured : Prop) : Surroundings Link MemoryEngine where
  answers
    | engine, .call call, outcome, after => ∃ sent delay answered,
        Calm assured (engine.record call) sent ∧
          sent.answer? delay call = (answered, some outcome) ∧ Calm assured answered after
    | engine, .wait _, _, after | engine, .record _, _, after => Calm assured engine after
    | _, .callWithin _ _, _, _ | _, .abandon, _, _ => True
  others := Calm assured
  permits
    | _, .call call => assured → ∀ request, call ≠ .search request
    | _, .callWithin _ _ => False
    | _, .abandon => ¬ assured
    | _, _ => True
  others_refl := .refl assured
  others_trans := .trans

/-- The same with a channel for reports of failures. -/
def Writing.calmly (assured : Prop) : Surroundings Writing MemoryEngine where
  answers
    | engine, .inl request => (Link.calmly assured).answers engine request
    | engine, .inr _ => fun _ after => Calm assured engine after
  others := Calm assured
  permits
    | engine, .inl request => (Link.calmly assured).permits engine request
    | _, .inr _ => True
  others_refl := .refl assured
  others_trans := .trans

variable {assured : Prop}

theorem Link.ensures_call {call : Call} {property : MemoryEngine → Prop}
    {post : call.Outcome → MemoryEngine → Prop} (find : ∀ request, call ≠ .search request)
    (keeps : (Link.calmly assured).Keeps property)
    (keeps' : ∀ outcome, (Link.calmly assured).Keeps (post outcome))
    (answers : ∀ {engine} delay, property engine → ∀ outcome after,
      engine.answer? delay call = (after, some outcome) → post outcome after)
    {engine : MemoryEngine} (h : property engine) :
    (Link.call call).Ensures (Link.calmly assured) post engine := by
  refine Procedure.ensures_request keeps' fun later ho => ⟨fun _ => find, ?_⟩
  rintro outcome after ⟨sent, delay, answered, hs, ha, hl⟩
  have recorded : property (later.record call) := keeps (.record assured later call) (keeps ho h)
  exact keeps' outcome hl (answers delay (keeps hs recorded) outcome answered ha)

theorem Link.ensures_record {property : MemoryEngine → Prop}
    (keeps : (Link.calmly assured).Keeps property) (measurement : Measurement)
    {engine : MemoryEngine} (h : property engine) :
    (Link.record measurement).Ensures (Link.calmly assured) (fun _ => property) engine :=
  Procedure.ensures_request (fun _ => keeps) fun _ ho =>
    ⟨trivial, fun _ _ hc => keeps hc (keeps ho h)⟩

theorem Link.ensures_wait {property : MemoryEngine → Prop}
    (keeps : (Link.calmly assured).Keeps property) (delay : Duration)
    {engine : MemoryEngine} (h : property engine) :
    (Procedure.ask (p := Link) (.wait delay) .done).Ensures (Link.calmly assured)
      (fun _ => property) engine :=
  Procedure.ensures_request (fun _ => keeps) fun _ ho =>
    ⟨trivial, fun _ _ hc => keeps hc (keeps ho h)⟩

theorem Link.retried_calmly {call : Call} {before failure : MemoryEngine → Prop}
    {success : call.Answer → MemoryEngine → Prop} (find : ∀ request, call ≠ .search request)
    (keeps : (Link.calmly assured).Keeps before)
    (keepsFailure : (Link.calmly assured).Keeps failure)
    (keepsSuccess : ∀ answer, (Link.calmly assured).Keeps (success answer))
    (again : ∀ {engine}, failure engine → before engine)
    (answers : ∀ {engine} delay, before engine → ∀ outcome after,
      engine.answer? delay call = (after, some outcome) →
        Link.Attempted (Link.calmly assured) success failure outcome after)
    (policy : RetryPolicy) (operation : String) {engine : MemoryEngine} (h : before engine) :
    (Link.retried policy operation call).Ensures (Link.calmly assured) (Link.Ended success failure)
      engine := by
  refine Link.retried_ensures keepsFailure keepsSuccess again ?_ ?_ ?_ policy operation h
  · intro engine h
    refine Link.ensures_call find keeps ?_ answers h
    intro outcome
    cases outcome with
    | ok answer => exact keepsSuccess answer
    | error error =>
      exact fun ho hf => ⟨keepsFailure ho hf.1, fun hr last hl => hf.2 hr last (ho.trans hl)⟩
  · exact fun measurement _ h => Link.ensures_record keeps measurement h
  · exact fun delay _ h => Link.ensures_wait keeps delay h

namespace Writer

variable {writer : Writer} {failure : BulkFailure}

theorem ensures_report {property : MemoryEngine → Prop}
    (keeps : (Link.calmly assured).Keeps property) {engine : MemoryEngine} (h : property engine) :
    (report failure).Ensures (Writing.calmly assured) (fun _ => property) engine := by
  refine Procedure.Ensures.bind (.left (.weaken ?_ (Link.ensures_record keeps _ h)))
  intro _ recorded hr
  exact Procedure.ensures_request (fun _ => keeps) fun _ ho =>
    ⟨trivial, fun _ _ hc => keeps hc (keeps ho hr)⟩

theorem ensures_fail {property : MemoryEngine → Prop}
    (keeps : (Link.calmly assured).Keeps property) {engine : MemoryEngine} (h : property engine) :
    (fail failure).Ensures (Writing.calmly assured)
      (fun outcome after => outcome ≠ .ok () ∧ property after) engine := by
  refine Procedure.Ensures.bind (.weaken ?_ (ensures_report keeps h))
  intro _ after ha
  exact fun later ho => ⟨nofun, keeps ho ha⟩

end Writer

/-! ## What is known in between -/

/-- What is known of an engine that has taken the operations of a job on top of what it had taken
before; no document was refused if the job is `complete`. -/
structure BulkPlan.Landed (assured complete : Prop) (plan : BulkPlan)
    (before after : MemoryEngine) : Prop where
  orderly : after.Orderly
  harmless : assured → after.faults.Harmless
  applied : ∃ refused, Applied plan.operations refused before after ∧
    (complete → ∀ operation ∈ plan.operations, operation.id ∉ refused) ∧ (assured → refused = [])

/-- What is known of an engine when a job has ended. -/
structure BulkPlan.Written (assured : Prop) (writer : Writer) (plan : BulkPlan)
    (before : MemoryEngine) (outcome : Except BridgeError Unit) (after : MemoryEngine) : Prop
    extends plan.Landed assured (outcome = .ok ()) before after where
  /-- If the job of a strict queue ends well its writes are visible. -/
  visible : outcome = .ok () → writer.strict = true →
    ∀ operation ∈ plan.operations, (after.index operation.index).unrefreshed = []

namespace BulkPlan

variable {complete : Prop} {plan : BulkPlan} {writer : Writer} {before first later : MemoryEngine}

theorem Landed.calm (h : plan.Landed assured complete before first)
    (hc : Calm assured first later) : plan.Landed assured complete before later where
  orderly := hc.undisturbed.orderly h.orderly
  harmless ha := hc.harmless ha (h.harmless ha)
  applied := by
    obtain ⟨refused, hr, hcomplete⟩ := h.applied
    exact ⟨refused, hr.disturbed (.refl before) hc.undisturbed, hcomplete⟩

theorem Landed.weaken {complete' : Prop} (h : plan.Landed assured complete before first)
    (hc : complete' → complete) : plan.Landed assured complete' before first where
  orderly := h.orderly
  harmless := h.harmless
  applied := by
    obtain ⟨refused, hr, hcomplete, ha⟩ := h.applied
    exact ⟨refused, hr, hcomplete ∘ hc, ha⟩

theorem Written.calm {outcome : Except BridgeError Unit}
    (h : plan.Written assured writer before outcome first) (hc : Calm assured first later) :
    plan.Written assured writer before outcome later where
  toLanded := h.toLanded.calm hc
  visible ho hs operation hm := hc.undisturbed.refreshed _ (h.visible ho hs operation hm)

theorem Landed.failed {outcome : Except BridgeError Unit} (h : plan.Landed assured False before first)
    (failed : outcome ≠ .ok ()) : plan.Written assured writer before outcome first where
  toLanded := h.weaken failed
  visible ho := absurd ho failed

theorem landed_none (orderly : before.Orderly) (calm : Calm assured before first)
    (harmless : assured → before.faults.Harmless) (empty : assured → plan.operations = []) :
    plan.Landed assured (plan.operations = []) before first where
  orderly := calm.undisturbed.orderly orderly
  harmless ha := calm.harmless ha (harmless ha)
  applied := by
    refine ⟨plan.operations.map (·.id), MemoryEngine.applied_none _ calm.undisturbed, ?_, ?_⟩
    · intro he operation ho
      rw [he] at ho
      cases ho
    · intro ha
      rw [empty ha, List.map_nil]

end BulkPlan

/-! ## The procedure -/

namespace Writer

variable {writer : Writer} {plan : BulkPlan} {items : List WorkItem} {before : MemoryEngine}

/-- A refresh makes the writes of a job visible, or fails and leaves them as they are. -/
theorem ensures_refresh {complete : Prop} {engine : MemoryEngine}
    (h : plan.Landed assured complete before engine) :
    (writer.refresh plan.indices).Ensures (Link.calmly assured)
      (fun result after => plan.Landed assured complete before after ∧
        (result.isOk = true →
          ∀ operation ∈ plan.operations, (after.index operation.index).unrefreshed = []))
      engine := by
  have keeps : (Link.calmly assured).Keeps (plan.Landed assured complete before) :=
    fun ho hl => hl.calm ho
  have keepsVisible : (Link.calmly assured).Keeps fun after =>
      plan.Landed assured complete before after ∧
        ∀ operation ∈ plan.operations, (after.index operation.index).unrefreshed = [] :=
    fun ho hl => ⟨hl.1.calm ho, fun operation hm => ho.undisturbed.refreshed _ (hl.2 operation hm)⟩
  have sent := @Link.retried_calmly assured (.refresh plan.indices) _ _ _ nofun keeps keeps
    (fun _ => keepsVisible) id
  refine Procedure.Ensures.bind (.weaken ?_ (sent ?_ writer.refreshPolicy "refresh" h))
  · intro result after hr
    cases result with
    | ok answer =>
      refine Procedure.Ensures.bind (.weaken ?_ (Link.ensures_record keepsVisible _ hr))
      exact fun _ _ hv last ho => ⟨(keepsVisible ho hv).1, fun _ => (keepsVisible ho hv).2⟩
    | error failed =>
      refine Procedure.Ensures.bind (.weaken ?_ (Link.ensures_record keeps _ hr))
      exact fun _ _ hv last ho => ⟨keeps ho hv, nofun⟩
  · intro engine delay hl outcome after ha
    have calm := @Calm.answer assured engine delay (.refresh plan.indices) rfl
    rw [ha] at calm
    have hr := MemoryEngine.refresh_of_answer? ha
    cases outcome with
    | ok answer =>
      exact ⟨hl.calm calm, fun operation hm =>
        MemoryEngine.refresh_visible hr _ (BulkPlan.mem_indices.mpr ⟨operation, hm, rfl⟩)⟩
    | error error =>
      exact ⟨hl.calm calm, fun retryable _ _ ha =>
        MemoryEngine.refresh_retryable hr retryable (hl.harmless ha)⟩

theorem ensures_makeVisible {outcome : Except BridgeError Unit} {engine : MemoryEngine}
    (h : plan.Landed assured (outcome = .ok ()) before engine) :
    (writer.makeVisible plan items outcome).Ensures (Writing.calmly assured)
      (plan.Written assured writer before) engine := by
  unfold makeVisible
  by_cases strict : writer.strict = true
  swap
  · rw [if_neg strict]
    exact fun later ho => ⟨h.calm ho, fun _ hs => absurd hs strict⟩
  rw [if_pos strict]
  refine Procedure.Ensures.bind (.left (.weaken ?_ (ensures_refresh h)))
  intro result after hr
  cases result with
  | ok answer =>
    have written : plan.Written assured writer before outcome after :=
      ⟨hr.1, fun _ _ => hr.2 rfl⟩
    exact fun later ho => written.calm ho
  | error failed =>
    have landed : plan.Landed assured False before after := hr.1.weaken False.elim
    refine .weaken ?_ (ensures_fail (fun ho hl => hl.calm ho) landed)
    exact fun outcome _ hf => hf.2.failed hf.1

theorem landed_of_bulk (orderly : before.Orderly) (harmless : assured → before.faults.Harmless)
    {engine after : MemoryEngine} (calm : Calm assured before engine) (delay : Duration)
    {outcome : (Call.bulk plan.operations).Outcome}
    (answer : engine.answer? delay (.bulk plan.operations) = (after, some outcome)) :
    @Link.Attempted _ (.bulk plan.operations) (Link.calmly assured)
      (fun response => plan.Landed assured (BulkResponse.isSuccess response = true) before)
      (fun after => Calm assured before after ∧ ¬ assured) outcome after := by
  obtain ⟨ho, hh, hd⟩ := MemoryEngine.bulk_delivered (calm.undisturbed.orderly orderly) delay
    plan.operations
  rw [MemoryEngine.bulk_of_answer? answer] at ho hh hd
  have still : assured → engine.faults.Harmless := fun ha => calm.harmless ha (harmless ha)
  cases outcome with
  | ok response =>
    obtain ⟨refused, hr, hs, hn⟩ := hd
    exact ⟨ho, fun ha => hh (still ha), refused, hr.disturbed calm.undisturbed (.refl after), hs,
      fun ha => hn (still ha)⟩
  | error error =>
    have spoilt : ¬ assured := fun ha => hd.2 (still ha)
    exact ⟨⟨calm.trans ⟨hd.1, fun _ => hh⟩, spoilt⟩, fun _ _ _ => spoilt⟩

theorem ensures_deliver (orderly : before.Orderly) (harmless : assured → before.faults.Harmless)
    {engine : MemoryEngine} (calm : Calm assured before engine) :
    (writer.deliver plan items).Ensures (Writing.calmly assured)
      (plan.Written assured writer before) engine := by
  have keeps : (Link.calmly assured).Keeps (Calm assured before) := fun ho hc => hc.trans ho
  have keepsLanded : ∀ complete : Prop,
      (Link.calmly assured).Keeps (plan.Landed assured complete before) :=
    fun _ _ _ ho hl => hl.calm ho
  have keepsFailure : (Link.calmly assured).Keeps fun after =>
      Calm assured before after ∧ ¬ assured := fun ho hf => ⟨hf.1.trans ho, hf.2⟩
  have sent := @Link.retried_calmly assured (.bulk plan.operations) (Calm assured before)
    (fun after => Calm assured before after ∧ ¬ assured)
    (fun response => plan.Landed assured (BulkResponse.isSuccess response = true) before)
    nofun keeps keepsFailure (fun _ => keepsLanded _) And.left
  refine Procedure.Ensures.bind (.left (.weaken ?_ (sent ?_ writer.bulkPolicy "bulk" calm)))
  · intro result after hr
    cases result with
    | error failed =>
      have landed : plan.Landed assured False before after :=
        (BulkPlan.landed_none orderly hr.1 harmless fun ha => absurd ha hr.2).weaken False.elim
      refine Procedure.Ensures.bind (.left (.weaken ?_
        (Link.ensures_record (keepsLanded False) _ landed)))
      intro _ recorded hl
      refine .weaken ?_ (ensures_fail (keepsLanded False) hl)
      exact fun outcome _ hf => hf.2.failed hf.1
    | ok response =>
      refine Procedure.Ensures.bind (.left (.weaken ?_
        (Link.ensures_record (keepsLanded (response.isSuccess = true)) _ hr)))
      intro _ recorded hl
      by_cases success : response.isSuccess = true
      · rw [if_pos success]
        exact ensures_makeVisible (hl.weaken fun _ => success)
      · rw [if_neg success]
        have landed : plan.Landed assured False before recorded := hl.weaken False.elim
        refine Procedure.Ensures.bind (.weaken ?_ (ensures_fail (keepsLanded False) landed))
        exact fun outcome after hf => ensures_makeVisible (hf.2.weaken hf.1)
  · exact fun delay hc outcome after answer => landed_of_bulk orderly harmless hc delay answer

/-- **What writing a job does**: its operations are applied in their order on top of what the engine
had taken before, except to documents that are refused, of which there are none if the job ends
well; and then no write of a strict queue waits for a refresh. -/
theorem write_ensures (writer : Writer) (resolver : Resolver) (items : List WorkItem)
    (orderly : before.Orderly) (harmless : assured → before.faults.Harmless) :
    (writer.write resolver items).Ensures (Writing.calmly assured)
      ((BulkPlan.ofItems resolver items).Written assured writer before) before := by
  have keeps : (Link.calmly assured).Keeps (Calm assured before) := fun ho hc => hc.trans ho
  have body : ∀ engine, Calm assured before engine →
      (if (BulkPlan.ofItems resolver items).entries.isEmpty then pure (.ok ())
        else writer.deliver (BulkPlan.ofItems resolver items) items :
          Procedure Writing (Except BridgeError Unit)).Ensures (Writing.calmly assured)
        ((BulkPlan.ofItems resolver items).Written assured writer before) engine := by
    intro engine calm
    by_cases empty : (BulkPlan.ofItems resolver items).entries.isEmpty = true
    · rw [if_pos empty]
      have none : (BulkPlan.ofItems resolver items).operations = [] := by
        rw [BulkPlan.operations, List.isEmpty_iff.mp empty, List.map_nil]
      have landed := BulkPlan.landed_none orderly calm harmless fun _ => none
      have written : (BulkPlan.ofItems resolver items).Written assured writer before (.ok ())
          engine := ⟨landed.weaken fun _ => none, fun _ _ operation ho => by rw [none] at ho; cases ho⟩
      exact fun later ho => written.calm ho
    · rw [if_neg empty]
      exact ensures_deliver orderly harmless calm
  unfold write
  dsimp only
  by_cases known : (!(BulkPlan.ofItems resolver items).unresolved.isEmpty) = true
  · rw [if_pos known]
    exact Procedure.Ensures.bind (.weaken (fun _ => body) (ensures_report keeps (.refl assured before)))
  · rw [if_neg known]
    exact body before (.refl assured before)

end Writer

end EntitySearch
