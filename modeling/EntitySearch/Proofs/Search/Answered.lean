import EntitySearch.Proofs.Procedure.Leads
import EntitySearch.Proofs.Schema.Resolved
import EntitySearch.Search.Execution
import Mathlib.Data.List.Forall2

/-!
# What a search makes of an answer

The body of an answer is read twice: first as the hits of the engine, then as entities of the schema.
Three things can go wrong, and the first of them decides. A body without hits, or with a hit that has
no identifier, is no answer at all; an answer in which a part of the index has failed is refused for
its first failure, whatever was found; and a hit of a type that is not registered spoils the page.
Otherwise every hit becomes one reference, in its place, read as its own type asks.

* `Json.Reports`: what is reported as the reason of a failure; `Json.reports_iff`.
* `Hit.Types`, `Hit.Refers`: the entity type of a hit in a body, and the reference to its entity.
* `SearchResponse.ofJson_of_readable`, `SearchResponse.ofJson_of_unreadable`: the first reading.
* `SearchPage.referencesOf_of_registered`, `SearchPage.referencesOf_of_unregistered`: the second
  reading.
* `Searcher.run_execute`: a search whose engine reads its answers in a body.
* `Searcher.execute_of_body`: the main result.
-/

namespace EntitySearch

/-! ## Bodies of answers -/

namespace Json

/-- The hits that the body of an answer lists. -/
def listedHits (body : Json) : List Json :=
  (((body.get? "hits").bind fun found => found.get? "hits").bind asArray?).getD []

/-- The failures of parts of the index that the body of an answer lists. -/
def listedFailures (body : Json) : List Json :=
  (((body.get? "_shards").bind fun shards => shards.get? "failures").bind asArray?).getD []

/-- Whether a body is no answer to a search: it has no hits, or one without an identifier. -/
def Unreadable (body : Json) : Prop :=
  body.get? "hits" = none ∨ ∃ hit ∈ body.listedHits, ∀ id, hit.get? "_id" ≠ some (.string id)

/-- What an answer reports as the reason of a failure: a text as it is, an object with texts for its
type and its reason as both, and one with a text for its reason alone as this text. Any other value is
reported as the text that it has as a value, and there is nothing to report where there is none. -/
inductive Reports : Option Json → String → Prop
  | nothing : Reports none ""
  | text (reason : String) : Reports (some (.string reason)) reason
  | typed {cause : Json} {kind reason : String} (named : cause.get? "type" = some (.string kind))
    (explained : cause.get? "reason" = some (.string reason)) :
    Reports (some cause) (kind ++ ": " ++ reason)
  | untyped {cause : Json} {reason : String}
    (unnamed : ∀ kind, cause.get? "type" ≠ some (.string kind))
    (explained : cause.get? "reason" = some (.string reason)) : Reports (some cause) reason
  | value {cause : Json} (other : ∀ reason, cause ≠ .string reason)
    (unexplained : ∀ reason, cause.get? "reason" ≠ some (.string reason)) :
    Reports (some cause) cause.text

/-- The entity type that the document of a hit carries. -/
def carriedType? (hit : Json) : Option String :=
  (hit.get? "_source").bind fun source => (source.get? "__type").bind asString?

end Json

/-- The entity type of a hit in a body: the one in its document, else the engine's own type of it,
unless that is the type of all documents, else the first type asked for. -/
inductive Hit.Types (asked : String) (hit : Json) : String → Prop
  | carried {entityType : String} (carried : hit.carriedType? = some entityType) :
    Types asked hit entityType
  | reported {entityType : String} (bare : hit.carriedType? = none)
    (reported : hit.get? "_type" = some (.string entityType)) (own : entityType ≠ "_doc") :
    Types asked hit entityType
  | asked (bare : hit.carriedType? = none)
    (unreported : ∀ entityType, hit.get? "_type" = some (.string entityType) → entityType = "_doc") :
    Types asked hit asked

/-- Whether a reference is that to the entity of a hit in a body. -/
def Hit.Refers (registry : Registry) (asked : String) (hit : Json) (reference : EntityReference) :
    Prop :=
  ∃ entityType descriptor id, Types asked hit entityType ∧
    registry.find? entityType = some descriptor ∧ hit.get? "_id" = some (.string id) ∧
    reference = ⟨entityType, descriptor.idField, EntityId.decode id descriptor.idType⟩

namespace Json

theorem asString?_eq_some {value : Json} {text : String} :
    value.asString? = some text ↔ value = .string text := by
  cases value <;> simp [asString?]

theorem bind_asString?_eq_some {member : Option Json} {text : String} :
    member.bind asString? = some text ↔ member = some (.string text) := by
  cases member <;> simp [asString?_eq_some]

/-- The reason of a failure is read as it is reported. -/
theorem reports_errorReason (cause : Json) : Reports (some cause) (errorReason cause) := by
  cases cause with
  | string reason => exact .text reason
  | object members =>
    rw [errorReason]
    split
    · next named explained => exact .typed named explained
    · next explained unnamed => exact .untyped unnamed explained
    · next unexplained _ => exact .value nofun unexplained
  | _ => exact .value nofun nofun

/-- There is only one way to report it. -/
theorem Reports.eq_errorReason {cause : Json} {reason : String} (h : Reports (some cause) reason) :
    reason = errorReason cause := by
  cases h with
  | text => rfl
  | typed named explained =>
    cases cause with
    | object members =>
      change Fields.find? members "type" = _ at named
      change Fields.find? members "reason" = _ at explained
      rw [errorReason, named, explained]
    | _ => cases named
  | untyped unnamed explained =>
    cases cause with
    | object members =>
      change Fields.find? members "reason" = _ at explained
      rw [errorReason, explained]
      split
      · next named _ => exact absurd named (unnamed _)
      · next same _ => exact Json.string.inj (Option.some.inj same)
      · next other _ => exact absurd rfl (other reason)
    | _ => cases explained
  | value other unexplained =>
    cases cause with
    | string reason => exact absurd rfl (other reason)
    | object members =>
      rw [errorReason]
      split
      · next _ explained => exact absurd explained (unexplained _)
      · next explained _ => exact absurd explained (unexplained _)
      · rfl
    | _ => rfl

theorem reports_iff {member : Option Json} {reason : String} :
    Reports member reason ↔ (member.map errorReason).getD "" = reason := by
  constructor
  · intro h
    cases member with
    | none =>
      cases h
      rfl
    | some cause => exact h.eq_errorReason.symm
  · rintro rfl
    cases member with
    | none => exact .nothing
    | some cause => exact reports_errorReason cause

end Json

namespace Hit

variable {asked : String} {hit : Json}

theorem types_iff {entityType : String} :
    Types asked hit entityType ↔ (SearchResponse.hitType? hit).getD asked = entityType := by
  have carries : ((hit.get? "_source").bind fun source =>
      (source.get? typeField).bind Json.asString?) = hit.carriedType? := rfl
  rw [SearchResponse.hitType?, carries]
  cases hc : hit.carriedType? with
  | some carried =>
    constructor
    · rintro (⟨carried⟩ | bare | bare)
      · exact Option.some.inj (hc.symm.trans carried)
      · cases hc.symm.trans bare
      · cases hc.symm.trans bare
    · rintro rfl
      exact .carried hc
  | none =>
    cases hr : (hit.get? "_type").bind Json.asString? with
    | none =>
      constructor
      · rintro (⟨carried⟩ | ⟨-, reported⟩ | -)
        · cases hc.symm.trans carried
        · cases hr.symm.trans (Json.bind_asString?_eq_some.mpr reported)
        · rfl
      · rintro rfl
        refine .asked hc fun entityType reported => ?_
        cases hr.symm.trans (Json.bind_asString?_eq_some.mpr reported)
    | some name =>
      have there := Json.bind_asString?_eq_some.mp hr
      by_cases own : name = "_doc"
      · subst own
        constructor
        · rintro (⟨carried⟩ | ⟨-, reported, own⟩ | -)
          · cases hc.symm.trans carried
          · rw [there] at reported
            cases reported
            exact absurd rfl own
          · rfl
        · rintro rfl
          refine .asked hc fun entityType reported => ?_
          rw [there] at reported
          cases reported
          rfl
      · have kept : (some name).filter (fun reported : String => reported ≠ "_doc") = some name := by
          simp [own]
        rw [kept]
        constructor
        · rintro (⟨carried⟩ | ⟨-, reported⟩ | ⟨-, unreported⟩)
          · cases hc.symm.trans carried
          · rw [there] at reported
            cases reported
            rfl
          · exact absurd (unreported name there) own
        · rintro rfl
          exact .reported hc there own

end Hit

theorem Hit.Refers.eq {registry : Registry} {asked : String} {hit : Json}
    {reference : EntityReference} (h : Hit.Refers registry asked hit reference)
    {descriptor : Descriptor}
    (known : registry.find? ((SearchResponse.hitType? hit).getD asked) = some descriptor)
    {id : String} (named : hit.get? "_id" = some (.string id)) :
    reference = EntityReference.ofHit descriptor id := by
  obtain ⟨entityType, found, other, types, hf, ho, rfl⟩ := h
  rw [Hit.types_iff.mp types, hf] at known
  cases known
  cases named.symm.trans ho
  rw [EntityReference.ofHit, Registry.entityType_of_find? hf]

/-! ## The first reading -/

/-- Whether a hit is what is read of a hit in a body. -/
structure Hit.Reads (hit : Json) (found : Hit) : Prop where
  id : hit.get? "_id" = some (.string found.id)
  entityType : found.entityType = SearchResponse.hitType? hit

theorem Hit.Reads.types {hit : Json} {found : Hit} (read : Hit.Reads hit found) (asked : String) :
    Hit.Types asked hit (found.entityType.getD asked) :=
  Hit.types_iff.mpr (by rw [read.entityType])

namespace SearchResponse

variable {hits : List Json} {body : Json}

theorem hitOf_of_id {hit : Json} {id : String} (h : hit.get? "_id" = some (.string id)) :
    ∃ found, hitOf hit = .ok found ∧ Hit.Reads hit found := by
  have there : (hit.get? "_id").bind Json.asString? = some id := Json.bind_asString?_eq_some.mpr h
  unfold hitOf
  rw [there]
  exact ⟨_, rfl, h, rfl⟩

theorem hitOf_of_none {hit : Json} (h : ∀ id, hit.get? "_id" ≠ some (.string id)) :
    hitOf hit = .error (.decode "hit without _id") := by
  have none : (hit.get? "_id").bind Json.asString? = none :=
    Option.eq_none_iff_forall_ne_some.mpr fun id there => h id (Json.bind_asString?_eq_some.mp there)
  unfold hitOf
  rw [none]

theorem mapM_hitOf (h : ∀ hit ∈ hits, ∃ id, hit.get? "_id" = some (.string id)) :
    ∃ found, hits.mapM hitOf = .ok found ∧ List.Forall₂ Hit.Reads hits found := by
  induction hits with
  | nil => exact ⟨[], rfl, .nil⟩
  | cons hit rest ih =>
    obtain ⟨id, hid⟩ := h hit List.mem_cons_self
    obtain ⟨found, hf, reads⟩ := hitOf_of_id hid
    obtain ⟨others, ho, all⟩ := ih fun other hm => h other (List.mem_cons_of_mem _ hm)
    refine ⟨found :: others, ?_, .cons reads all⟩
    rw [List.mapM_cons, hf, ho]
    rfl

theorem mapM_hitOf_error {hit : Json} (hm : hit ∈ hits)
    (h : ∀ id, hit.get? "_id" ≠ some (.string id)) :
    hits.mapM hitOf = .error (.decode "hit without _id") := by
  induction hits with
  | nil => cases hm
  | cons first rest ih =>
    rw [List.mapM_cons]
    by_cases there : ∃ id, first.get? "_id" = some (.string id)
    · obtain ⟨id, hid⟩ := there
      obtain ⟨found, hf, -⟩ := hitOf_of_id hid
      have later : hit ∈ rest := by
        refine (List.mem_cons.mp hm).resolve_left ?_
        rintro rfl
        exact h id hid
      rw [hf, ih later]
      rfl
    · rw [hitOf_of_none fun id hid => there ⟨id, hid⟩]
      rfl

/-- A body that is no answer is refused. -/
theorem ofJson_of_unreadable (h : body.Unreadable) :
    ∃ text, ofJson body = .error (.decode text) := by
  unfold ofJson
  cases hb : body.get? "hits" with
  | none => exact ⟨_, rfl⟩
  | some found =>
    rcases h with none | ⟨hit, hm, unnamed⟩
    · cases hb.symm.trans none
    rw [Json.listedHits, hb] at hm
    have spoilt := mapM_hitOf_error hm unnamed
    rw [Option.bind_some] at spoilt
    dsimp only
    rw [spoilt]
    exact ⟨_, rfl⟩

/-- Any other body is read: its failures and its hits, in their order. -/
theorem ofJson_of_readable (h : ¬ body.Unreadable) :
    ∃ response, ofJson body = .ok response ∧
      response.shardFailures = body.listedFailures.map shardFailure ∧
      List.Forall₂ Hit.Reads body.listedHits response.hits := by
  rw [Json.Unreadable, not_or] at h
  obtain ⟨found, hb⟩ := Option.ne_none_iff_exists'.mp h.1
  have named : ∀ hit ∈ body.listedHits, ∃ id, hit.get? "_id" = some (.string id) := by
    intro hit hm
    by_contra unnamed
    exact h.2 ⟨hit, hm, fun id hid => unnamed ⟨id, hid⟩⟩
  obtain ⟨hits, hh, reads⟩ := mapM_hitOf named
  rw [Json.listedHits, hb, Option.bind_some] at hh
  unfold ofJson
  rw [hb]
  dsimp only
  rw [hh]
  refine ⟨_, rfl, ?_, reads⟩
  rw [Json.listedFailures, Option.bind_assoc]

end SearchResponse

/-! ## The second reading -/

theorem Search.descriptorsOf_registered {registry : Registry} {entityTypes : List String} :
    ∀ {descriptors : List Descriptor},
      descriptorsOf registry.resolver entityTypes = .ok descriptors →
        descriptors.map (·.entityType) = entityTypes ∧
          ∀ descriptor ∈ descriptors,
            registry.find? descriptor.entityType = some descriptor := by
  induction entityTypes with
  | nil =>
    intro descriptors h
    cases h
    exact ⟨rfl, nofun⟩
  | cons entityType rest ih =>
    intro descriptors h
    rw [descriptorsOf] at h
    cases hd : registry.resolver.descriptor entityType with
    | error cause =>
      rw [hd] at h
      cases h
    | ok descriptor =>
      rw [hd] at h
      cases hr : descriptorsOf registry.resolver rest with
      | error cause =>
        rw [hr] at h
        cases h
      | ok others =>
        rw [hr] at h
        cases h
        have known := Registry.descriptor_resolver.mp hd
        have own := Registry.entityType_of_find? known
        obtain ⟨names, all⟩ := ih hr
        refine ⟨by rw [List.map_cons, own, names], ?_⟩
        intro other ho
        rcases List.mem_cons.mp ho with rfl | ho
        · rw [own, known]
        · exact all other ho

namespace SearchPage

variable {registry : Registry} {first : Descriptor} {rest : List Descriptor} {hits : List Hit}

/-- A hit is read as the schema says of its entity type, whether or not this was asked for. -/
theorem referenceOf_eq
    (known : ∀ descriptor ∈ first :: rest, registry.find? descriptor.entityType = some descriptor)
    (hit : Hit) :
    referenceOf registry.resolver first rest hit =
      (registry.resolver.descriptor (hit.entityType.getD first.entityType)).map
        fun descriptor => .ofHit descriptor hit.id := by
  unfold referenceOf
  dsimp only
  split
  · next descriptor hf =>
    have own : descriptor.entityType = hit.entityType.getD first.entityType := by
      simpa using List.find?_some hf
    rw [← own, Registry.descriptor_resolver.mpr (known descriptor (List.mem_of_find?_eq_some hf))]
    rfl
  · rfl

theorem referenceOf_of_registered
    (known : ∀ descriptor ∈ first :: rest, registry.find? descriptor.entityType = some descriptor)
    {hit : Json} {found : Hit} (read : Hit.Reads hit found)
    (registered : ∀ entityType, Hit.Types first.entityType hit entityType →
      registry.find? entityType ≠ none) :
    ∃ reference, referenceOf registry.resolver first rest found = .ok reference ∧
      Hit.Refers registry first.entityType hit reference := by
  have types := read.types first.entityType
  obtain ⟨descriptor, hd⟩ := Option.ne_none_iff_exists'.mp (registered _ types)
  refine ⟨.ofHit descriptor found.id, ?_, _, descriptor, found.id, types, hd, read.id, ?_⟩
  · rw [referenceOf_eq known, Registry.descriptor_resolver.mpr hd]
    rfl
  · rw [EntityReference.ofHit, Registry.entityType_of_find? hd]

/-- Hits of registered types become references, in their order. -/
theorem referencesOf_of_registered
    (known : ∀ descriptor ∈ first :: rest, registry.find? descriptor.entityType = some descriptor)
    {listed : List Json} {hits : List Hit} (reads : List.Forall₂ Hit.Reads listed hits)
    (registered : ∀ hit ∈ listed, ∀ entityType, Hit.Types first.entityType hit entityType →
      registry.find? entityType ≠ none) :
    ∃ references, referencesOf registry.resolver first rest hits = .ok references ∧
      List.Forall₂ (Hit.Refers registry first.entityType) listed references := by
  induction reads with
  | nil => exact ⟨[], rfl, .nil⟩
  | cons read reads ih =>
    obtain ⟨reference, hr, refers⟩ :=
      referenceOf_of_registered known read (registered _ List.mem_cons_self)
    obtain ⟨others, ho, all⟩ := ih fun hit hm => registered hit (List.mem_cons_of_mem _ hm)
    refine ⟨reference :: others, ?_, .cons refers all⟩
    rw [referencesOf, hr, ho]
    rfl

/-- One hit of a type that is not registered is enough to spoil the page. -/
theorem referencesOf_of_unregistered
    (known : ∀ descriptor ∈ first :: rest, registry.find? descriptor.entityType = some descriptor)
    {listed : List Json} {hits : List Hit} (reads : List.Forall₂ Hit.Reads listed hits)
    {hit : Json} (hm : hit ∈ listed) {entityType : String}
    (types : Hit.Types first.entityType hit entityType)
    (unregistered : registry.find? entityType = none) :
    ∃ cause, referencesOf registry.resolver first rest hits = .error cause := by
  induction reads with
  | nil => cases hm
  | @cons other found listed hits read reads ih =>
    rw [referencesOf]
    cases hr : referenceOf registry.resolver first rest found with
    | error cause => exact ⟨cause, rfl⟩
    | ok reference =>
      have later : hit ∈ listed := by
        refine (List.mem_cons.mp hm).resolve_left ?_
        rintro rfl
        have own : found.entityType.getD first.entityType = entityType := by
          rw [read.entityType, Hit.types_iff.mp types]
        rw [referenceOf_eq known, own, Registry.resolver] at hr
        dsimp only at hr
        rw [unregistered] at hr
        cases hr
      obtain ⟨cause, hc⟩ := ih later
      dsimp only
      rw [hc]
      exact ⟨cause, rfl⟩

end SearchPage

/-! ## Searches -/

/-- An engine that reads its answers to searches in a body, and keeps the requests that it was sent. -/
def Link.reading (body : Json) (sent : List SearchRequest) :
    (request : Link.Request) → Option (Link.Reply request × List SearchRequest)
  | .call (.search request) => some (SearchResponse.ofJson body, sent ++ [request])
  | .record _ => some ((), sent)
  | _ => none

namespace Searcher

variable {searcher : Searcher} {body : Json} {sent : List SearchRequest}

theorem run_recordAll {σ : Type}
    {serve? : σ → (request : Link.Request) → Option (Link.Reply request × σ)} {state : σ}
    (notes : ∀ measurement, serve? state (.record measurement) = some ((), state))
    (page : Except BridgeError SearchPage) (measurements : List Measurement) :
    ((recordAll measurements).bind fun _ => .done page).run serve? state = some (page, state) := by
  induction measurements with
  | nil => rfl
  | cons measurement rest ih => exact (Procedure.run_ask (notes measurement) _).trans ih

theorem run_call {α : Type} (request : SearchRequest)
    (next : Except EngineError SearchResponse → Procedure Link α) :
    ((Link.call (.search request)).bind next).run (Link.reading body) sent =
      (next (SearchResponse.ofJson body)).run (Link.reading body) (sent ++ [request]) := rfl

/-- A search is sent once, and its result is what the answer is read as. -/
theorem run_execute {search : Search} {request : SearchRequest} {first : Descriptor}
    {rest : List Descriptor} (builds : searcher.request search = .ok request)
    (described : search.descriptors searcher.resolver = .ok (first, rest)) :
    (searcher.execute search).run (Link.reading body) [] = some
      (match SearchResponse.ofJson body with
        | .error cause => .error (.engine cause)
        | .ok response => SearchPage.ofResponse searcher.resolver first rest response,
        [request]) := by
  rw [execute, builds, described]
  dsimp only
  refine (run_call request _).trans ?_
  cases SearchResponse.ofJson body with
  | error cause => rfl
  | ok response => exact run_recordAll (fun _ => rfl) _ _

theorem described_of_request {registry : Registry} {search : Search} {maxPageSize : Nat}
    {request : SearchRequest} (builds : search.request registry.resolver maxPageSize = .ok request) :
    ∃ first rest, search.descriptors registry.resolver = .ok (first, rest) ∧
      search.entityTypes.head? = some first.entityType ∧
      ∀ descriptor ∈ first :: rest,
        registry.find? descriptor.entityType = some descriptor := by
  cases hd : search.descriptors registry.resolver with
  | error cause =>
    rw [Search.request, hd] at builds
    cases builds
  | ok described =>
    obtain ⟨first, rest⟩ := described
    refine ⟨first, rest, rfl, ?_⟩
    unfold Search.descriptors at hd
    split at hd
    · cases hd
    · cases hd
    · next own others hds =>
      cases hd
      obtain ⟨names, known⟩ := Search.descriptorsOf_registered hds
      exact ⟨by rw [← names]; rfl, known⟩

end Searcher

/-- What a search makes of the body of an answer, if the first entity type that it asks for is
`asked`. -/
structure SearchPage.Follows (registry : Registry) (asked : String) (body : Json)
    (outcome : Except BridgeError SearchPage) : Prop where
  /-- A body is refused if it is no answer. -/
  unreadable : (∃ text, outcome = .error (.engine (.decode text))) ↔ body.Unreadable
  /-- Otherwise the first failure of a part of the index decides, whatever the hits are. -/
  failed : ¬ body.Unreadable → ∀ reason, outcome = .error (.searchExecution reason) ↔
    ∃ failure, body.listedFailures.head? = some failure ∧
      Json.Reports (failure.get? "reason") reason
  /-- Otherwise a hit of a type that is not registered decides. -/
  unknown : ¬ body.Unreadable → body.listedFailures = [] →
    ((∃ cause, outcome = .error (.schema cause)) ↔ ∃ hit ∈ body.listedHits, ∃ entityType,
      Hit.Types asked hit entityType ∧ registry.find? entityType = none)
  /-- Otherwise every hit becomes a reference, in its place. -/
  found : ¬ body.Unreadable → body.listedFailures = [] →
    (∀ hit ∈ body.listedHits, ∀ entityType, Hit.Types asked hit entityType →
      registry.find? entityType ≠ none) →
    ∃ page, outcome = .ok page ∧
      List.Forall₂ (Hit.Refers registry asked) body.listedHits page.references

namespace SearchPage

variable {registry : Registry} {first : Descriptor} {rest : List Descriptor} {body : Json}

theorem follows_of_unreadable (h : body.Unreadable) {text : String} :
    Follows registry first.entityType body (.error (.engine (.decode text))) where
  unreadable := ⟨fun _ => h, fun _ => ⟨text, rfl⟩⟩
  failed readable := absurd h readable
  unknown readable := absurd h readable
  found readable := absurd h readable

theorem follows_of_failure (h : ¬ body.Unreadable) {failure : Json} {others : List Json}
    (failures : body.listedFailures = failure :: others) :
    Follows registry first.entityType body
      (.error (.searchExecution (SearchResponse.shardFailure failure).reason)) where
  unreadable := ⟨nofun, fun spoilt => absurd spoilt h⟩
  failed _ reason := by
    rw [failures, List.head?_cons]
    constructor
    · rintro ⟨⟩
      exact ⟨failure, rfl, Json.reports_iff.mpr rfl⟩
    · rintro ⟨_, ⟨⟩, reported⟩
      rw [← Json.reports_iff.mp reported]
      rfl
  unknown _ none := by
    rw [failures] at none
    cases none
  found _ none := by
    rw [failures] at none
    cases none

theorem follows_of_readable (h : ¬ body.Unreadable)
    (known : ∀ descriptor ∈ first :: rest, registry.find? descriptor.entityType = some descriptor)
    {response : SearchResponse}
    (failures : response.shardFailures = body.listedFailures.map SearchResponse.shardFailure)
    (reads : List.Forall₂ Hit.Reads body.listedHits response.hits) :
    Follows registry first.entityType body
      (ofResponse registry.resolver first rest response) := by
  unfold ofResponse
  cases hf : body.listedFailures with
  | cons failure others =>
    rw [failures, hf, List.map_cons]
    exact follows_of_failure h hf
  | nil =>
    rw [failures, hf, List.map_nil]
    dsimp only
    have unfailed (reason : String) : ¬ ∃ failure, body.listedFailures.head? = some failure ∧
        Json.Reports (failure.get? "reason") reason := by
      rintro ⟨failure, there, -⟩
      rw [hf] at there
      cases there
    by_cases registered : ∀ hit ∈ body.listedHits, ∀ entityType,
        Hit.Types first.entityType hit entityType → registry.find? entityType ≠ none
    · obtain ⟨references, hr, refers⟩ := referencesOf_of_registered known reads registered
      rw [hr]
      refine ⟨⟨nofun, fun spoilt => absurd spoilt h⟩,
        fun _ reason => ⟨nofun, fun failed => absurd failed (unfailed reason)⟩,
        fun _ _ => ⟨nofun, ?_⟩, fun _ _ _ => ⟨_, rfl, refers⟩⟩
      rintro ⟨hit, hm, entityType, types, unregistered⟩
      exact absurd unregistered (registered hit hm entityType types)
    · push Not at registered
      obtain ⟨hit, hm, entityType, types, unregistered⟩ := registered
      obtain ⟨cause, hc⟩ := referencesOf_of_unregistered known reads hm types unregistered
      rw [hc]
      exact ⟨⟨nofun, fun spoilt => absurd spoilt h⟩,
        fun _ reason => ⟨nofun, fun failed => absurd failed (unfailed reason)⟩,
        fun _ _ => ⟨fun _ => ⟨hit, hm, entityType, types, unregistered⟩, fun _ => ⟨cause, rfl⟩⟩,
        fun _ _ registered => absurd unregistered (registered hit hm entityType types)⟩

end SearchPage

namespace Searcher

/-- **What a search makes of an answer.** A search for registered types whose request can be built
sends it once. Whatever the body of the answer is, the result follows it: a body that is no answer is
refused; else the first failure of a part of the index decides; else a hit of a type that is not
registered; and else every hit becomes a reference, in its place. -/
theorem execute_of_body {registry : Registry} {maxPageSize : Nat} {search : Search}
    {request : SearchRequest}
    (builds : (Searcher.new registry.resolver maxPageSize).request search = .ok request)
    (body : Json) :
    ∃ asked outcome, search.entityTypes.head? = some asked ∧
      ((Searcher.new registry.resolver maxPageSize).execute search).run (Link.reading body) [] =
        some (outcome, [request]) ∧
      SearchPage.Follows registry asked body outcome := by
  obtain ⟨first, rest, described, asked, known⟩ := described_of_request builds
  refine ⟨first.entityType, _, asked, run_execute builds described, ?_⟩
  by_cases readable : body.Unreadable
  · obtain ⟨text, ht⟩ := SearchResponse.ofJson_of_unreadable readable
    rw [ht]
    exact SearchPage.follows_of_unreadable readable
  · obtain ⟨response, hr, failures, reads⟩ := SearchResponse.ofJson_of_readable readable
    rw [hr]
    exact SearchPage.follows_of_readable readable known failures reads

/-! ## A page of several types -/

/-- Two entity types of one index. -/
def sharedIndex : Registry :=
  .registerAll {} [⟨"A", "main", "id", .numeric, []⟩, ⟨"B", "main", "key", .string, []⟩]

/-- Three hits: one that says its type, one of a type that is not asked for, and one that says
nothing of its type. -/
def unaskedHits : List Json :=
  [.object [("_id", .string "7"), ("_source", .object [("__type", .string "A")])],
    .object [("_id", .string "x"), ("_type", .string "B")],
    .object [("_id", .string "y"), ("_type", .string "_doc")]]

/-- The body of an answer with these hits. -/
def unaskedBody : Json := .object [("hits", .object [("hits", .array unaskedHits)])]

/-- A failure of a part of the index, with a type and a reason. -/
def brokenPart : Json :=
  .object [("shard", .int 0), ("reason", .object [("type", .string "io"), ("reason", .string "lost")])]

/-- The body of an answer with the same hits, in which parts of the index have failed. -/
def brokenBody : Json := .object [("hits", .object [("hits", .array unaskedHits)]),
  ("_shards", .object [("failures", .array [brokenPart, .object [("reason", .string "later")]])])]

theorem readable_of_unaskedHits {body : Json} (found : body.get? "hits" ≠ none)
    (hits : body.listedHits = unaskedHits) : ¬ body.Unreadable := by
  have named : ∀ hit ∈ unaskedHits, ∃ id, hit.get? "_id" = some (.string id) :=
    List.forall_mem_cons.mpr ⟨⟨_, rfl⟩, List.forall_mem_cons.mpr ⟨⟨_, rfl⟩,
      List.forall_mem_singleton.mpr ⟨_, rfl⟩⟩⟩
  rintro (none | ⟨hit, hm, unnamed⟩)
  · exact found none
  · obtain ⟨id, hid⟩ := named hit (hits ▸ hm)
    exact unnamed id hid

/-- The hits become references of their own types. With the same hits the first failure decides. -/
theorem execute_of_body_unasked :
    (∃ page,
      ((Searcher.new sharedIndex.resolver 200).execute ⟨["A"], .matchAll, [], 0, none⟩).run
          (Link.reading unaskedBody) [] =
        some (.ok page, [⟨"main", ["A"], .matchAll, [], 0, 200⟩]) ∧
      page.references =
        [⟨"A", "id", .integer 7⟩, ⟨"B", "key", .text "x"⟩, ⟨"A", "id", .text "y"⟩]) ∧
    ((Searcher.new sharedIndex.resolver 200).execute ⟨["A"], .matchAll, [], 0, none⟩).run
        (Link.reading brokenBody) [] =
      some (.error (.searchExecution "io: lost"), [⟨"main", ["A"], .matchAll, [], 0, 200⟩]) := by
  have result (body : Json) :=
    @execute_of_body sharedIndex 200 ⟨["A"], .matchAll, [], 0, none⟩ _ rfl body
  constructor
  · obtain ⟨asked, outcome, head, run, follows⟩ := result unaskedBody
    cases head
    have registered : ∀ hit ∈ unaskedHits,
        sharedIndex.find? ((SearchResponse.hitType? hit).getD "A") ≠ none :=
      List.forall_mem_cons.mpr ⟨nofun, List.forall_mem_cons.mpr ⟨nofun,
        List.forall_mem_singleton.mpr nofun⟩⟩
    obtain ⟨⟨total, references⟩, rfl, refers⟩ :=
      follows.found (readable_of_unaskedHits nofun rfl) rfl
        fun hit hm entityType types => Hit.types_iff.mp types ▸ registered hit hm
    refine ⟨_, run, ?_⟩
    change List.Forall₂ _ [_, _, _] references at refers
    rcases refers with _ | ⟨first, _ | ⟨second, _ | ⟨third, ⟨⟩⟩⟩⟩
    rw [first.eq rfl rfl, second.eq rfl rfl, third.eq rfl rfl]
    rfl
  · obtain ⟨asked, outcome, head, run, follows⟩ := result brokenBody
    have reported : Json.Reports (brokenPart.get? "reason") ("io" ++ ": " ++ "lost") :=
      .typed rfl rfl
    have failed := (follows.failed (readable_of_unaskedHits nofun rfl) "io: lost").mpr
      ⟨brokenPart, rfl, reported⟩
    rw [run, failed]
    rfl

end Searcher

end EntitySearch
