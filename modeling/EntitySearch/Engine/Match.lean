import EntitySearch.Engine.Glob
import EntitySearch.Json.Printer
import EntitySearch.Query.Target
import EntitySearch.Schema.Descriptor
import EntitySearch.Text.Case
import EntitySearch.Text.Word

/-!
# Which documents match a query

* `fieldValue?`: the value at a path of a document.
* `queryStringMatches`: a text of terms against a document.
* `TargetQuery.holds`: a query against a document.
-/

namespace EntitySearch

/-- The value at a path: sub-fields are views of the field that the path starts with. -/
def fieldValue? (source : Fields) (path : String) : Option Json :=
  Fields.find? source (String.ofList (path.toList.takeWhile (· ≠ '.')))

/-! ## Texts of terms -/

/-- A term without its sign, and how it counts. -/
inductive Term where
  | required (text : List Char)
  | excluded (text : List Char)
  | optional (text : List Char)

/-- Reads the sign of a term. -/
def Term.ofChars : List Char → Term
  | '+' :: text => .required text
  | '-' :: text => .excluded text
  | text => .optional text

/-- The required terms. -/
def requiredTerms (terms : List Term) : List (List Char) :=
  terms.filterMap fun
    | .required text => some text
    | _ => none

/-- The excluded terms. -/
def excludedTerms (terms : List Term) : List (List Char) :=
  terms.filterMap fun
    | .excluded text => some text
    | _ => none

/-- The optional terms. -/
def optionalTerms (terms : List Term) : List (List Char) :=
  terms.filterMap fun
    | .optional text => some text
    | _ => none

/-- The field that a term names before its first colon, if it has one, and its pattern. -/
def splitTerm (term : List Char) : Option (List Char) × List Char :=
  match term.dropWhile (· ≠ ':') with
  | _ :: pattern => (some (term.takeWhile (· ≠ ':')), pattern)
  | [] => (none, term)

/-- Whether a value fits a pattern in lower case, as a whole or with one of its tokens. -/
def textMatches (pattern : List Char) (value : Json) : Bool :=
  let text := Text.lower value.plainText.toList
  glob pattern text || (Text.tokens text).any (glob pattern)

/-- Whether a document has a value that fits a term: at the field that the term names, or anywhere
but in the reserved member. -/
def termMatches (source : Fields) (term : List Char) : Bool :=
  let (field, pattern) := splitTerm term
  if field = some ['*'] ∧ pattern = ['*'] then true
  else
    let pattern := Text.lower pattern
    match field with
    | some field =>
      ((fieldValue? source (String.ofList field)).map (textMatches pattern)).getD false
    | none =>
      (source.filter fun (name, _) => name ≠ typeField).any fun (_, value) =>
        textMatches pattern value

/-- Whether a document matches a text of terms: all that are required, none that is excluded, and
one that is optional if there are any and none is required. -/
def queryStringMatches (text : String) (source : Fields) : Bool :=
  let terms := (Text.terms text.toList).map Term.ofChars
  let required := requiredTerms terms
  let optional := optionalTerms terms
  required.all (termMatches source) && !(excludedTerms terms).any (termMatches source) &&
    (optional.isEmpty || !required.isEmpty || optional.any (termMatches source))

/-! ## Queries -/

namespace TargetQuery

mutual
/-- Whether a document matches a query. -/
def holds (source : Fields) : TargetQuery → Bool
  | .matchAll => true
  | .bool must mustNot should =>
    allHold source must && !anyHolds source mustNot &&
      (should.isEmpty || !must.isEmpty || anyHolds source should)
  | .wildcard path pattern =>
    match fieldValue? source path with
    | some value => glob pattern.toList value.plainText.toList
    | none => false
  | .queryString text => queryStringMatches text source
termination_by structural query => query
/-- Whether a document matches all queries of a list. -/
def allHold (source : Fields) : List TargetQuery → Bool
  | [] => true
  | query :: rest => holds source query && allHold source rest
termination_by structural queries => queries
/-- Whether a document matches a query of a list. -/
def anyHolds (source : Fields) : List TargetQuery → Bool
  | [] => false
  | query :: rest => holds source query || anyHolds source rest
termination_by structural queries => queries
end

end TargetQuery

end EntitySearch
