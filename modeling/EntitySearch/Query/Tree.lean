import EntitySearch.Json.Record

/-!
# Query trees

A query as a caller writes it: wildcards, literal texts, and groups of clauses, each of which is
required, excluded or optional.

* `Query`: a tree.
* `Query.isEmptyGroup`: the groups without any clause at any depth.
* `Query.text`: the literal form.
* `Query.toJson`, `Query.ofJson?`: the stored form.
-/

namespace EntitySearch

/-- How a clause takes part in its group. -/
inductive Occur where
  /-- Required. -/
  | must
  /-- Excluded. -/
  | mustNot
  /-- Optional. -/
  | should
  /-- Given by a name that has no meaning. -/
  | unrecognized
deriving DecidableEq

namespace Occur

/-- The sign in front of a clause. -/
def sign : Occur → String
  | .must => "+"
  | .mustNot => "-"
  | .should | .unrecognized => ""

/-- The stored name. -/
def name : Occur → String
  | .must => "MUST"
  | .mustNot => "MUST_NOT"
  | .should => "SHOULD"
  | .unrecognized => "UNRECOGNIZED"

/-- The meaning of a stored name. -/
def ofName : String → Occur
  | "MUST" => .must
  | "MUST_NOT" => .mustNot
  | "SHOULD" => .should
  | _ => .unrecognized

/-- Reads a stored name. It may also stand alone in an object, beside nothing. -/
def ofJson? : Json → Option Occur
  | .object [(name, .object [])] => some (ofName name)
  | value => value.choice?.map ofName

end Occur

/-- A query tree. -/
inductive Query where
  /-- Every document. -/
  | matchAll
  /-- The documents with a field that fits a pattern. -/
  | wildcard (field pattern : String)
  /-- A group of clauses in their order. -/
  | group (clauses : List (Occur × Query))
  /-- A text that is handed on as it is. -/
  | verbatim (text : String)

/-- A member of a group. -/
abbrev Clause := Occur × Query

namespace Query

/-! ## Empty groups -/

mutual
/-- Whether a tree is a group without any clause at any depth. -/
def isEmptyGroup : Query → Bool
  | .group clauses => allEmpty clauses
  | _ => false
termination_by structural query => query
/-- Whether all members of a group are empty groups. -/
def allEmpty : List (Occur × Query) → Bool
  | [] => true
  | (_, query) :: rest => query.isEmptyGroup && allEmpty rest
termination_by structural clauses => clauses
end

/-! ## The literal form -/

/-- Whether a tree is a group. -/
def isGroup : Query → Bool
  | .group _ => true
  | _ => false

mutual
/-- The literal form: the clauses of a group after their signs, inner groups in parentheses, and
empty groups left out. -/
def text : Query → String
  | .matchAll => "*:*"
  | .wildcard field pattern => field ++ ":" ++ pattern
  | .verbatim text => text
  | .group clauses => clausesText "" clauses
termination_by structural query => query
/-- The literal forms of clauses, the first after `space` and the others after a blank. -/
def clausesText : String → List (Occur × Query) → String
  | _, [] => ""
  | space, (occur, query) :: rest =>
    if query.isEmptyGroup then clausesText space rest
    else
      let body := if query.isGroup then "(" ++ query.text ++ ")" else query.text
      space ++ occur.sign ++ body ++ clausesText " " rest
termination_by structural _ clauses => clauses
end

/-! ## The stored form -/

mutual
/-- The stored form. -/
def toJson : Query → Json
  | .matchAll => .object [("kind", .string "match_all")]
  | .wildcard field pattern =>
    .object [("kind", .string "wildcard"), ("field", .string field), ("pattern", .string pattern)]
  | .group clauses =>
    .object [("kind", .string "boolean"), ("clauses", .array (clausesJson clauses))]
  | .verbatim text => .object [("kind", .string "opaque"), ("text", .string text)]
termination_by structural query => query
/-- The stored forms of clauses. -/
def clausesJson : List (Occur × Query) → List Json
  | [] => []
  | (occur, query) :: rest =>
    .object [("occur", .string occur.name), ("node", query.toJson)] :: clausesJson rest
termination_by structural clauses => clauses
end

/-- The kinds of trees. -/
inductive Kind where
  | matchAll
  | wildcard
  | group
  | verbatim
deriving DecidableEq

namespace Kind

/-- The kind of a stored name. -/
def ofName? : String → Option Kind
  | "match_all" => some .matchAll
  | "wildcard" => some .wildcard
  | "boolean" => some .group
  | "opaque" => some .verbatim
  | _ => none

/-- The kind of a number. -/
def ofNat? : Nat → Option Kind
  | 0 => some .matchAll
  | 1 => some .wildcard
  | 2 => some .group
  | 3 => some .verbatim
  | _ => none

/-- Reads a kind: its name, or inside of a group also its number. -/
def ofJson? (inside : Bool) : Json → Option Kind
  | .string name => ofName? name
  | value => if inside then value.asNat?.bind ofNat? else none

end Kind

mutual
/-- Reads a stored tree, which may stand inside of a group: an object that names its kind, or an
array that starts with its kind. -/
def read? (inside : Bool) : Json → Option Query
  | .object members =>
    match (Fields.find? members "kind").bind (Kind.ofJson? inside) with
    | some .matchAll => some .matchAll
    | some .wildcard => do
      let field ← (Fields.find? members "field").bind Json.asString?
      let pattern ← (Fields.find? members "pattern").bind Json.asString?
      return .wildcard field pattern
    | some .group => (clausesMember? members).map .group
    | some .verbatim => ((Fields.find? members "text").bind Json.asString?).map .verbatim
    | none => none
  | .array [kind] => if Kind.ofJson? inside kind = some .matchAll then some .matchAll else none
  | .array [kind, .string field, .string pattern] =>
    if Kind.ofJson? inside kind = some .wildcard then some (.wildcard field pattern) else none
  | .array [kind, .array items] =>
    if Kind.ofJson? inside kind = some .group then (clausesOf? items).map .group else none
  | .array [kind, .string text] =>
    if Kind.ofJson? inside kind = some .verbatim then some (.verbatim text) else none
  | _ => none
termination_by structural value => value
/-- Reads the clauses among the members of a group. -/
def clausesMember? : List (String × Json) → Option (List (Occur × Query))
  | [] => none
  | (name, .array items) :: rest =>
    if name = "clauses" then clausesOf? items else clausesMember? rest
  | (name, _) :: rest => if name = "clauses" then none else clausesMember? rest
termination_by structural members => members
/-- Reads the clauses of a group. -/
def clausesOf? : List Json → Option (List (Occur × Query))
  | [] => some []
  | item :: rest => do
    let clause ← clauseOf? item
    let clauses ← clausesOf? rest
    return clause :: clauses
termination_by structural items => items
/-- Reads a clause. -/
def clauseOf? : Json → Option (Occur × Query)
  | .object members => do
    let occur ← (Fields.find? members "occur").bind Occur.ofJson?
    let query ← treeMember? members
    return (occur, query)
  | .array [first, second] => do
    let occur ← Occur.ofJson? first
    let query ← read? true second
    return (occur, query)
  | _ => none
termination_by structural value => value
/-- Reads the tree among the members of a clause. -/
def treeMember? : List (String × Json) → Option Query
  | [] => none
  | (name, value) :: rest => if name = "node" then read? true value else treeMember? rest
termination_by structural members => members
end

/-- Reads a stored tree. -/
def ofJson? : Json → Option Query := read? false

end Query

end EntitySearch
