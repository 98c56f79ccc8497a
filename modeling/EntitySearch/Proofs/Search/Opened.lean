import EntitySearch.Proofs.Query.Malformed
import EntitySearch.Search.Execution

/-!
# Why a search fails

A search of its own never says that a bridge is not open: it fails because the schema does not know
what is asked for, because its query tree has no meaning, or because the engine has no answer.

* `Opened`: that a result says something else than that a bridge is not open.
* `Search.rejects_request`, `SearchPage.opened_ofResponse`: the request and the answer of a search.
-/

namespace EntitySearch

/-- Whether a result says something else than that a bridge is not open. -/
def Opened {α : Type} (result : Except BridgeError α) : Prop := result ≠ .error .notOpen

theorem Rejects.opened {α : Type} {result : Except BridgeError α} (h : Rejects result) :
    Opened result := fun same => h .notOpen same

/-! ## The request -/

namespace Search

theorem rejects_sortPaths (descriptor : Descriptor) (sort : SortSpec) :
    Rejects (sortPaths descriptor sort) := by
  induction sort with
  | nil => exact .ok []
  | cons key rest ih =>
    unfold sortPaths
    split
    · exact .error trivial
    · exact ih.map

theorem rejects_descriptorsOf (resolver : Resolver) (entities : List String) :
    Rejects (descriptorsOf resolver entities) := by
  induction entities with
  | nil => exact .ok []
  | cons entity rest ih =>
    unfold descriptorsOf
    split
    · exact .error trivial
    · exact ih.map

theorem rejects_descriptors (search : Search) (resolver : Resolver) :
    Rejects (search.descriptors resolver) := by
  have known := rejects_descriptorsOf resolver search.entityTypes
  unfold descriptors
  split
  · next cause failed => exact .error (known cause failed)
  · exact .error trivial
  · exact .ok _

/-- A search is refused before the engine is asked only because it is malformed. -/
theorem rejects_request (search : Search) (resolver : Resolver) (maxPageSize : Nat) :
    Rejects (search.request resolver maxPageSize) := by
  refine (rejects_descriptors search resolver).bind fun found => ?_
  refine (rejects_targetFor resolver search.query found.1.entityType).bind fun query => ?_
  exact (rejects_sortPaths found.1 search.sort).bind fun sort => .ok _

end Search

/-! ## The answer -/

theorem SearchPage.opened_ofResponse (resolver : Resolver) (first : Descriptor)
    (rest : List Descriptor) (response : SearchResponse) :
    Opened (SearchPage.ofResponse resolver first rest response) := by
  unfold SearchPage.ofResponse
  split
  · nofun
  · split <;> nofun

end EntitySearch
