import EntitySearch.Engine.Link
import EntitySearch.Index.Mapping
import EntitySearch.Index.Ready

/-!
# Administration of indices

Indices are created for entity types, once for all that share an index: after the engine was asked
whether the index exists, it is created with the mapping of all its entity types, and the engine
is asked to wait until it is usable.

* `IndexAdmin`: how indices are administered.
* `Preparing`, `Administering`: what is asked for while an index is set up, and in all.
* `IndexAdmin.create`, `IndexAdmin.delete`, `IndexAdmin.recreate`: the index of an entity type.
* `IndexAdmin.createAll`, `IndexAdmin.recreateAll`: the indices of all entity types.
-/

namespace EntitySearch

/-- How indices are administered. -/
structure IndexAdmin where
  resolver : Resolver
  /-- How long a new index may take to become usable. -/
  healthLimit : Duration
  /-- The policy for requests. -/
  policy : RetryPolicy := .admin

/-- Asking for the mapping of an index, for the entity types that are known at that moment. -/
def Describing : Protocol where
  Request := String
  Reply _ := Except BridgeError Json

/-- Setting an index up. -/
abbrev Preparing : Protocol := Link.or Describing

/-- Administering indices. -/
abbrev Administering : Protocol := Preparing.or Guarding

/-- Whether a request breaks off the task. -/
def Preparing.isLast : Preparing.Request → Bool
  | .inl request => Link.isLast request
  | .inr _ => false

/-- Whether a request breaks off the task. -/
def Administering.isLast : Administering.Request → Bool
  | .inl request => Preparing.isLast request
  | .inr _ => false

namespace IndexAdmin

/-- An access to the table of guards. -/
def access (request : GuardRequest) : Procedure Administering (Guarding.Reply request) :=
  .request (p := Administering) (.inr request)

/-- Asks for the mapping of an index. -/
def mapping (index : String) : Procedure Preparing (Except BridgeError Json) :=
  .request (p := Preparing) (.inr index)

/-- Waits until an index is usable. The wait is limited here as well as in the engine. -/
def awaitUsable (admin : IndexAdmin) (index : String) :
    Procedure Link (Except BridgeError Unit) := do
  let late := BridgeError.clusterTimeout index admin.healthLimit
  match ← Link.callWithin admin.healthLimit (.health index .yellow admin.healthLimit) with
  | none => return .error late
  | some (.error cause) => return .error (.engine cause)
  | some (.ok health) =>
    let usable := !health.timedOut && HealthStatus.yellow ≤ health.status
    Link.record (.indexOperation "health" usable)
    return if usable then .ok () else .error late

/-- Creates an index with a mapping, and waits until it is usable. -/
def createWith (admin : IndexAdmin) (index : String) (mapping : Json) :
    Procedure Link (Except BridgeError Unit) := do
  match ← Link.retried admin.policy "create_index" (.createIndex index mapping) with
  | .ok (.created true) =>
    Link.record (.indexOperation "create_index" true)
    admin.awaitUsable index
  | .ok (.created false) =>
    Link.record (.indexOperation "create_index" false)
    return .error (.schemaCreation index "creation was not acknowledged")
  | .ok .alreadyExists => return .ok ()
  | .error failed =>
    Link.record (.indexOperation "create_index" false)
    return .error (.schemaCreation index failed.error.message)

/-- Creates an index that does not exist, and waits until it is usable. -/
def createMissing (admin : IndexAdmin) (index : String) :
    Procedure Preparing (Except BridgeError Unit) := do
  match ← mapping index with
  | .error cause => return .error cause
  | .ok mapping => (admin.createWith index mapping).left

/-- A procedure whose time is measured, however it ends. -/
def timed {α : Type} (operation : String) (body : Procedure Preparing α) : Procedure Preparing α :=
  let measured : Procedure Preparing Unit := (Link.record (.timed operation)).left
  body.closing Preparing.isLast (fun _ => measured) measured

/-- Makes sure that an index exists. -/
def setUp (admin : IndexAdmin) (index : String) :
    Procedure Preparing (Except BridgeError Unit) :=
  timed "create_index" do
    match ← (Link.retried admin.policy "index_exists" (.indexExists index)).left with
    | .error failed => return .error (.engine failed.error)
    | .ok true => return .ok ()
    | .ok false => admin.createMissing index

/-- Makes sure that an index exists, unless it is known to be ready. A task that is broken off
leaves the guard as one that failed. -/
def ensure (admin : IndexAdmin) (index : String) :
    Procedure Administering (Except BridgeError Unit) := do
  let number ← access (.guardOf index)
  let isReady : Bool ← access (.enter number)
  if isReady then return .ok ()
  else
    (admin.setUp index).left.closing Administering.isLast
      (fun result => access (.leave number result.isOk)) (access (.leave number false))

/-- Makes sure that the index of an entity type exists. -/
def create (admin : IndexAdmin) (entity : String) :
    Procedure Administering (Except BridgeError Unit) :=
  match admin.resolver.indexName entity with
  | .error cause => return .error (.schema cause)
  | .ok index => admin.ensure index

/-- Deletes an index, and says whether it existed. -/
def deleteIndex (admin : IndexAdmin) (index : String) :
    Procedure Link (Except BridgeError Bool) := do
  match ← Link.retried admin.policy "delete_index" (.deleteIndex index) with
  | .ok _ =>
    Link.record (.indexOperation "delete_index" true)
    return .ok true
  | .error ⟨.notFound _, _⟩ => return .ok false
  | .error failed =>
    Link.record (.indexOperation "delete_index" false)
    return .error (.engine failed.error)

/-- Deletes the index of an entity type, with the documents of all entity types in it, and says
whether it existed. -/
def delete (admin : IndexAdmin) (entity : String) :
    Procedure Administering (Except BridgeError Bool) :=
  match admin.resolver.indexName entity with
  | .error cause => return .error (.schema cause)
  | .ok index => do
    access (.forget index)
    (admin.deleteIndex index).left.left

/-- Deletes the index of an entity type, if it exists, and creates it. -/
def recreate (admin : IndexAdmin) (entity : String) :
    Procedure Administering (Except BridgeError Unit) := do
  let measured : Procedure Administering Unit := (Link.record (.timed "recreate_index")).left.left
  let body : Procedure Administering (Except BridgeError Unit) := do
    match ← admin.delete entity with
    | .error cause => return .error cause
    | .ok _ => admin.create entity
  body.closing Administering.isLast (fun _ => measured) measured

/-- Makes sure that the indices of entity types exist, one after the other up to the first
error. -/
def createEach (admin : IndexAdmin) :
    List String → Procedure Administering (Except BridgeError Unit)
  | [] => return .ok ()
  | entity :: rest => do
    match ← admin.create entity with
    | .error cause => return .error cause
    | .ok _ => createEach admin rest

/-- Makes sure that the indices of all entity types exist. -/
def createAll (admin : IndexAdmin) : Procedure Administering (Except BridgeError Unit) :=
  admin.createEach admin.resolver.entityTypes

/-- Recreates the indices of entity types, except for those of `finished`, up to the first
error. -/
def recreateEach (admin : IndexAdmin) (finished : List String) :
    List String → Procedure Administering (Except BridgeError Unit)
  | [] => return .ok ()
  | entity :: rest =>
    match admin.resolver.indexName entity with
    | .error cause => return .error (.schema cause)
    | .ok index =>
      if finished.contains index then recreateEach admin finished rest
      else do
        match ← admin.recreate entity with
        | .error cause => return .error cause
        | .ok _ => recreateEach admin (finished ++ [index]) rest

/-- Recreates every index once. -/
def recreateAll (admin : IndexAdmin) : Procedure Administering (Except BridgeError Unit) :=
  admin.recreateEach [] admin.resolver.entityTypes

end IndexAdmin

end EntitySearch
