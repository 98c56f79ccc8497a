import EntitySearch.Engine.Link
import EntitySearch.Queue.Failure
import EntitySearch.Schema.Registry
import EntitySearch.Search.Identifier

/-!
# Writing a job

The items of a job become one bulk request. Items that cannot be written are reported: those
whose entity type is no longer known, those that the engine rejects, and all of them if the
request is not delivered or, in a strict queue, not made visible to searches.

* `Writer`: how jobs are written.
* `BulkPlan`: the operations of a job, each with its item, and the items without an operation.
* `Writer.write`: the procedure.
-/

namespace EntitySearch

/-- How jobs are written. -/
structure Writer where
  /-- The policy for bulk requests. -/
  bulkPolicy : RetryPolicy
  /-- The policy for refresh requests. -/
  refreshPolicy : RetryPolicy := .admin
  /-- Whether the writes of a job are made visible to searches before it completes. -/
  strict : Bool

/-- The operations of a job. -/
structure BulkPlan where
  /-- Each operation with the item that it comes from. -/
  entries : List (Operation × WorkItem) := []
  /-- The items whose entity type is not known. -/
  unresolved : List WorkItem := []

namespace BulkPlan

/-- The value of an identifier in a document: an integer where identifiers are integers and the
text is one. -/
def idValue (descriptor : Descriptor) (id : String) : Json :=
  match descriptor.idType with
  | .string => .string id
  | .numeric => ((parseInt? id.toList).map Json.int).getD (.string id)

/-- The fields of a document, with its identifier among them. -/
def fieldsOf (descriptor : Descriptor) (item : WorkItem) : Fields :=
  if Fields.contains item.fields descriptor.idField then item.fields
  else Fields.insert item.fields descriptor.idField (idValue descriptor item.id)

/-- The operation of an item. -/
def operation (descriptor : Descriptor) (item : WorkItem) : Operation :=
  match item.kind with
  | .add => .put descriptor.indexName descriptor.entityType item.id (fieldsOf descriptor item)
  | .delete => .remove descriptor.indexName descriptor.entityType item.id

/-- The operations of items, in their order. -/
def ofItems (resolver : Resolver) : List WorkItem → BulkPlan
  | [] => {}
  | item :: rest =>
    let plan := ofItems resolver rest
    match resolver.descriptor item.entityType with
    | .ok descriptor =>
      { plan with entries := (operation descriptor item, item) :: plan.entries }
    | .error _ => { plan with unresolved := item :: plan.unresolved }

/-- The operations of a job. -/
def operations (plan : BulkPlan) : List Operation := plan.entries.map (·.1)

/-- The items of the operations at the positions of rejections. -/
def rejected (plan : BulkPlan) (rejections : List Rejection) : List WorkItem :=
  rejections.filterMap fun rejection => (plan.entries[rejection.position]?).map (·.2)

/-- The indices written to, in the order of the first write. -/
def indices (plan : BulkPlan) : List String :=
  plan.operations.foldl
    (fun found operation =>
      if found.contains operation.index then found else found ++ [operation.index]) []

end BulkPlan

/-! ## The procedure -/

/-- Publishing reports of failures. -/
def Reporting : Protocol where
  Request := BulkFailure
  Reply _ := Unit

/-- Writing jobs. -/
abbrev Writing : Protocol := Link.or Reporting

namespace Writer

/-- Reports a failure. -/
def report (failure : BulkFailure) : Procedure Writing Unit := do
  (Link.record (.undelivered failure.kind.name failure.items.length)).left
  .request (p := Writing) (.inr failure)

/-- Reports a failure that decides how the job ends. -/
def fail (failure : BulkFailure) : Procedure Writing (Except BridgeError Unit) := do
  report failure
  return .error failure.error

/-- The failure of rejected documents. -/
def rejection (plan : BulkPlan) (rejections : List Rejection) : BulkFailure where
  kind := .rejected
  attempts := 1
  reason := toString rejections.length ++ " document(s) rejected, first: " ++
    ((rejections.head?.map (·.reason)).getD "")
  items := plan.rejected rejections

/-- The failure of items whose entity type is no longer known. -/
def unresolvedFailure (items : List WorkItem) : BulkFailure :=
  ⟨.rejected, 0, "entity type no longer registered", items⟩

/-- Makes the writes of a job visible to searches. -/
def refresh (writer : Writer) (indices : List String) :
    Procedure Link (Except (Exhausted EngineError) Unit) := do
  let result ← Link.retried writer.refreshPolicy "refresh" (.refresh indices)
  Link.record (.refresh indices.length result.isOk)
  return result

/-- Makes the writes of a delivered job visible in a strict queue; otherwise, or if that succeeds,
the job ends with `outcome`. -/
def makeVisible (writer : Writer) (plan : BulkPlan) (items : List WorkItem)
    (outcome : Except BridgeError Unit) : Procedure Writing (Except BridgeError Unit) :=
  if writer.strict then do
    match ← (writer.refresh plan.indices).left with
    | .ok _ => return outcome
    | .error failed => fail ⟨.refresh, failed.attempts, failed.error.message, items⟩
  else return outcome

/-- Sends the operations of a job. -/
def deliver (writer : Writer) (plan : BulkPlan) (items : List WorkItem) :
    Procedure Writing (Except BridgeError Unit) := do
  let response ← (Link.retried writer.bulkPolicy "bulk" (.bulk plan.operations)).left
  match response with
  | .error failed =>
    (Link.record (.bulk false)).left
    fail ⟨.submission, failed.attempts, failed.error.message, items⟩
  | .ok response =>
    (Link.record (.bulk true)).left
    if response.isSuccess then writer.makeVisible plan items (.ok ())
    else
      let outcome ← fail (rejection plan response.rejections)
      writer.makeVisible plan items outcome

/-- Writes the items of a job. -/
def write (writer : Writer) (resolver : Resolver) (items : List WorkItem) :
    Procedure Writing (Except BridgeError Unit) := do
  let plan := BulkPlan.ofItems resolver items
  if !plan.unresolved.isEmpty then
    report (unresolvedFailure plan.unresolved)
  if plan.entries.isEmpty then return .ok ()
  else writer.deliver plan items

end Writer

end EntitySearch
