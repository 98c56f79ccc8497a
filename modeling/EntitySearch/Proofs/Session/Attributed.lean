import EntitySearch.Proofs.Queue.Reports
import EntitySearch.Proofs.Session.Transcribed

/-!
# Which items a rejection lists

An answer to a bulk request has an entry for every operation, in their order. The entries that carry an
error are found again by their positions, which count the operations of the job; an item without an
operation has none, so that the positions in the answer and those in the job differ. Whatever the
answer is, the items that are reported for it are those whose own entries carry an error.

* `BulkResponse.entryError?`, `BulkResponse.ofJson_eq_error_iff`: what an answer says, and when it
  cannot be read.
* `BulkPlan.attributed`, `BulkPlan.rejected_eq_attributed`: the items whose entries carry an error.
* `Session.attributed_of_finish`: what is published for an answer.
-/

namespace EntitySearch

/-! ## Reading an answer -/

namespace BulkResponse

/-- The error that an entry carries in its first member. -/
def entryError? (entry : Json) : Option Json := (entryResult? entry).bind (·.get? "error")

/-- Whether an answer says that there are errors. -/
def SaysErrors (body : Json) : Prop := body.get? "errors" = some (.bool true)

theorem saysErrors_iff (body : Json) :
    ((body.get? "errors").bind Json.asBool?).getD false = true ↔ SaysErrors body := by
  rw [SaysErrors]
  cases body.get? "errors" with
  | none => exact iff_of_false nofun nofun
  | some errors => cases errors <;> simp [Json.asBool?]

instance (body : Json) : Decidable (SaysErrors body) := decidable_of_iff _ (saysErrors_iff body)

theorem ofJson_of_items {body : Json} {entries : List Json}
    (items : body.get? "items" = some (.array entries)) :
    ofJson body = .ok ⟨((body.get? "took").bind Json.asNat?).getD 0,
      if SaysErrors body then rejectionsFrom 0 entries else []⟩ := by
  unfold ofJson
  dsimp only
  rw [items, Option.bind_some, Json.asArray?]
  by_cases errors : SaysErrors body
  · rw [if_pos ((saysErrors_iff body).mpr errors), if_pos errors]
  · rw [if_neg fun said => errors ((saysErrors_iff body).mp said), if_neg errors]

/-- **An answer cannot be read** if it says that there are errors, and has no list of entries. -/
theorem exists_ofJson_eq_error_iff (body : Json) : (∃ error, ofJson body = .error error) ↔
    SaysErrors body ∧ ∀ entries, body.get? "items" ≠ some (.array entries) := by
  by_cases listed : ∃ entries, body.get? "items" = some (.array entries)
  · obtain ⟨entries, items⟩ := listed
    rw [ofJson_of_items items]
    exact iff_of_false nofun fun unlisted => unlisted.2 entries items
  have missing : (body.get? "items").bind Json.asArray? = none := by
    cases items : body.get? "items" with
    | none => rfl
    | some value =>
      cases value with
      | array entries => exact absurd ⟨entries, items⟩ listed
      | _ => rfl
  unfold ofJson
  dsimp only
  rw [missing]
  by_cases errors : SaysErrors body
  · rw [if_pos ((saysErrors_iff body).mpr errors)]
    exact iff_of_true ⟨_, rfl⟩ ⟨errors, not_exists.mp listed⟩
  · rw [if_neg fun said => errors ((saysErrors_iff body).mp said)]
    exact iff_of_false nofun fun said => errors said.1

theorem rejection?_cases (position : Nat) (entry : Json) :
    (entryError? entry = none ∧ rejection? position entry = none) ∨
      ∃ error rejection, entryError? entry = some error ∧
        rejection? position entry = some rejection ∧ rejection.position = position ∧
          rejection.reason = errorReason error := by
  rw [rejection?, entryError?]
  cases entryResult? entry with
  | none => exact .inl ⟨rfl, rfl⟩
  | some result =>
    rw [Option.bind_some]
    cases carried : result.get? "error" with
    | none => exact .inl ⟨rfl, by simp [carried]⟩
    | some error => exact .inr ⟨error, _, rfl, by simp [carried]; rfl, rfl, rfl⟩

theorem reasons_rejectionsFrom (entries : List Json) : ∀ position,
    (rejectionsFrom position entries).map (·.reason) =
      (entries.filterMap entryError?).map errorReason := by
  induction entries with
  | nil => exact fun _ => rfl
  | cons entry rest ih =>
    intro position
    rw [rejectionsFrom, List.map_append, ih, List.filterMap_cons]
    rcases rejection?_cases position entry with ⟨clean, none⟩ | ⟨error, own, carried, some, -, reason⟩
    · rw [clean, none]
      rfl
    · rw [carried, some, Option.toList_some, List.map_singleton, reason]
      rfl

end BulkResponse

/-! ## Attribution -/

namespace BulkPlan

open BulkResponse

/-- The items whose entries carry an error, among those with an operation. -/
def attributed (written : List WorkItem) (entries : List Json) : List WorkItem :=
  ((written.zip entries).filter fun pair => (entryError? pair.2).isSome).map (·.1)

theorem attributed_sublist (written : List WorkItem) : ∀ entries : List Json,
    (attributed written entries).Sublist written := by
  induction written with
  | nil => exact fun _ => .slnil
  | cons item rest ih =>
    intro entries
    cases entries with
    | nil => exact List.nil_sublist _
    | cons entry more =>
      rw [attributed, List.zip_cons_cons, List.filter_cons]
      by_cases carried : (entryError? entry).isSome = true
      · rw [if_pos carried]
        exact (ih more).cons_cons item
      · rw [if_neg carried]
        exact (ih more).cons item

/-- The items that are looked up by the positions of rejections are those whose entries carry an
error. -/
theorem rejected_from (rows : List (Operation × WorkItem)) (entries : List Json) : ∀ position,
    (rejectionsFrom position entries).filterMap
        (fun rejection => (rows[rejection.position]?).map (·.2)) =
      attributed ((rows.drop position).map (·.2)) entries := by
  induction entries with
  | nil =>
    intro position
    rw [attributed, List.zip_nil_right]
    rfl
  | cons entry rest ih =>
    intro position
    rw [rejectionsFrom, List.filterMap_append, ih]
    rcases Nat.lt_or_ge position rows.length with within | beyond
    · rw [List.drop_eq_getElem_cons within, List.map_cons, attributed, attributed, List.zip_cons_cons,
        List.filter_cons]
      rcases rejection?_cases position entry with
        ⟨clean, none⟩ | ⟨error, own, carried, some, there, -⟩
      · rw [clean, none]
        rfl
      · rw [carried, some, Option.toList_some, List.filterMap_cons, there,
          List.getElem?_eq_getElem within]
        rfl
    · rw [List.drop_eq_nil_of_le beyond, List.drop_eq_nil_of_le (Nat.le_succ_of_le beyond)]
      rcases rejection?_cases position entry with
        ⟨-, none⟩ | ⟨error, own, -, some, there, -⟩
      · rw [none]
        rfl
      · rw [some, Option.toList_some, List.filterMap_cons, there,
          List.getElem?_eq_none beyond]
        rfl

/-- The report of the items whose entries carry an error. -/
def attribution (written : List WorkItem) (entries : List Json) : BulkFailure where
  kind := .rejected
  attempts := 1
  reason := toString (entries.filterMap entryError?).length ++ " document(s) rejected, first: " ++
    (((entries.filterMap entryError?).head?.map errorReason).getD "")
  items := attributed written entries

/-- **A rejection lists the items whose entries carry an error**, whichever items have no
operation. -/
theorem rejection_ofItems (resolver : Resolver) (items : List WorkItem) (entries : List Json) :
    Writer.rejection (ofItems resolver items) (rejectionsFrom 0 entries) =
      attribution (items.filter fun item => (resolver.operation? item).isSome) entries := by
  have reasons := reasons_rejectionsFrom entries 0
  have number : (rejectionsFrom 0 entries).length = (entries.filterMap entryError?).length := by
    rw [← List.length_map (f := (·.reason)), reasons, List.length_map]
  have first : (rejectionsFrom 0 entries).head?.map (·.reason) =
      (entries.filterMap entryError?).head?.map errorReason := by
    rw [← List.head?_map, reasons, List.head?_map]
  rw [Writer.rejection, attribution, number, first, rejected, rejected_from, List.drop_zero,
    items_entries]

/-- The report that follows from an answer: there is one if the answer says that there are errors, and
an entry carries one. -/
theorem rejected_ofJson {resolver : Resolver} {items : List WorkItem} {body : Json}
    {entries : List Json} {response : BulkResponse}
    (listed : body.get? "items" = some (.array entries)) (read : ofJson body = .ok response) :
    (if response.isSuccess then []
        else [Writer.rejection (ofItems resolver items) response.rejections]) =
      if SaysErrors body ∧ ∃ entry ∈ entries, (entryError? entry).isSome then
        [attribution (items.filter fun item => (resolver.operation? item).isSome) entries]
      else [] := by
  rw [ofJson_of_items listed] at read
  cases read
  by_cases errors : SaysErrors body
  swap
  · have quiet : ¬ (SaysErrors body ∧ ∃ entry ∈ entries, (entryError? entry).isSome) :=
      fun both => errors both.1
    rw [if_neg errors, if_neg quiet]
    rfl
  rw [if_pos errors, BulkResponse.isSuccess]
  have empty : (rejectionsFrom 0 entries).isEmpty = true ↔
      ¬ ∃ entry ∈ entries, (entryError? entry).isSome := by
    rw [List.isEmpty_iff, ← List.map_eq_nil_iff (f := (·.reason)), reasons_rejectionsFrom,
      List.map_eq_nil_iff, List.filterMap_eq_nil_iff]
    simp
  by_cases carried : ∃ entry ∈ entries, (entryError? entry).isSome
  · rw [if_neg fun none => empty.mp none carried, if_pos ⟨errors, carried⟩, rejection_ofItems]
  · rw [if_pos (empty.mpr carried), if_neg fun both => carried both.2]

end BulkPlan

/-! ## Runs -/

theorem JobCourse.Heard.delivered_of_mem {writer : Writer} {plan : BulkPlan} {course : JobCourse}
    {answers : List Answer} {response : BulkResponse} (h : course.Heard writer plan answers)
    (taken : ⟨.bulk plan.operations, .ok response⟩ ∈ answers) :
    ∃ invisible, course = .delivered response invisible := by
  cases h with
  | unsent => cases taken
  | undelivered tried => rcases mem_heard_iff.mp taken with ⟨error, -, same⟩ | same <;> cases same
  | @delivered earlier other invisible late tried shown =>
    rcases List.mem_append.mp taken with taken | late
    · rcases mem_heard_iff.mp taken with ⟨error, -, same⟩ | same
      · cases same
      · cases same
        exact ⟨invisible, rfl⟩
    · cases shown.call_eq late

namespace Session

variable {session later : Session} {number : Nat} {host : HostedQueue}

/-- **What is published for an answer to a bulk request**: besides the report of the items without an
operation, and the failure to refresh, there is a report for the answer exactly if it says that there
are errors and an entry carries one. It lists the items whose own entries carry an error, also if the
answer has too few or too many entries. An answer that cannot be read is no answer. -/
theorem attributed_of_finish {job : Job} {queue : Queue} {events : List SessionEvent}
    {moments : List Moment} (hosted : session.queues[number]? = some host)
    (next : host.queue.startNext = some (job, queue))
    (run : session.play? (.start number :: events) = some moments)
    (unfinished : .finish number ∉ events)
    (finish : (session.last moments).after? (.finish number) = some later) :
    (∀ body, (∃ error, BulkResponse.ofJson body = .error error) ↔
      BulkResponse.SaysErrors body ∧ ∀ entries, body.get? "items" ≠ some (.array entries)) ∧
    ∀ (body : Json) (entries : List Json),
      ⟨.bulk (BulkPlan.ofItems (session.resolver host.schema) job.items).operations,
        BulkResponse.ofJson body⟩ ∈ (Moment.transcriptIn moments number).answers →
      body.get? "items" = some (.array entries) →
        ∃ hidden, Moment.publishedIn moments number =
            (BulkPlan.ofItems (session.resolver host.schema) job.items).dropped ++
              (if BulkResponse.SaysErrors body ∧
                  ∃ entry ∈ entries, (BulkResponse.entryError? entry).isSome then
                [BulkPlan.attribution (job.items.filter fun item =>
                  ((session.resolver host.schema).operation? item).isSome) entries]
              else []) ++ hidden ∧
          (∀ failure ∈ hidden, failure.kind = .refresh) ∧
          (BulkPlan.attributed (job.items.filter fun item =>
            ((session.resolver host.schema).operation? item).isSome) entries).Sublist job.items := by
  refine ⟨BulkResponse.exists_ofJson_eq_error_iff, fun body entries answered listed => ?_⟩
  obtain ⟨course, conducted⟩ := conducted_of_finish hosted next run unfinished finish
  have read := BulkResponse.ofJson_of_items listed
  rw [read] at answered
  obtain ⟨invisible, rfl⟩ := conducted.heard.delivered_of_mem answered
  refine ⟨JobCourse.hidden job.items invisible, ?_, fun failure hf => ?_,
    (BulkPlan.attributed_sublist _ entries).trans List.filter_sublist⟩
  · rw [← Moment.published_transcriptIn, conducted.published, JobCourse.reports,
      BulkPlan.rejected_ofJson listed read, List.append_assoc]
  · cases invisible with
    | none => cases hf
    | some cause => rw [List.mem_singleton.mp hf]

/-! ## An item without an operation -/

/-- An answer with an entry for each of three operations, the second of which failed. -/
def answerBody : Json :=
  .object [("took", .int 7), ("errors", .bool true), ("items", .array [
    .object [("index", .object [("_id", .string "1"), ("status", .int 201)])],
    .object [("index", .object [("_id", .string "3"), ("error", .string "blocked")])],
    .object [("delete", .object [("_id", .string "4"), ("result", .string "not_found")])]])]

/-- The entity type of the second item is not known. -/
def answeredItems : List WorkItem := [.add "A" "1", .add "B" "2", .add "A" "3", .delete "A" "4"]

/-- A queue whose writer is about to take the items. -/
def answeredQueue : HostedQueue :=
  { hostQueue {} .shared .engine with
    queue := { Queue.start {} with
      waiting := [⟨0, answeredItems, true⟩]
      inFlight := 1
      nextJob := 1 } }

/-- A session with the queue, in which the answer is given. -/
def answeredSession : Session where
  outcomes := [⟨.bulk, BulkResponse.ofJson answerBody⟩]
  registry := .registerAll {} [⟨"A", "main", "id", .string, []⟩]
  queues := [answeredQueue]

theorem answeredRun_isSome :
    (answeredSession.play? (.start 0 :: List.replicate 6 (.write 0))).isSome = true := rfl

/-- The moments until the job is completed. -/
def answeredMoments : List Moment :=
  (answeredSession.play? (.start 0 :: List.replicate 6 (.write 0))).get answeredRun_isSome

/-- The third item is rejected, whose entry is the second one. -/
theorem attributed_of_finish_answered :
    ((Moment.publishedIn answeredMoments 0).filter fun failure => failure.kind = .rejected).map
      (fun failure => failure.items.map (·.id)) = [["2"], ["3"]] := by
  obtain ⟨-, published⟩ := @attributed_of_finish answeredSession _ 0 answeredQueue
    ⟨0, answeredItems, true⟩ _ _ answeredMoments rfl rfl (Option.some_get answeredRun_isSome).symm
    (finish_not_mem_writes 0 6) rfl
  obtain ⟨hidden, reports, late, -⟩ := published answerBody _ List.mem_cons_self rfl
  have others : hidden.filter (fun failure => failure.kind = .rejected) = [] := by
    refine List.filter_eq_nil_iff.mpr fun failure hf => ?_
    rw [late failure hf]
    decide
  rw [reports, List.filter_append, others]
  rfl

end Session

end EntitySearch
