import EntitySearch.Engine.Match
import EntitySearch.Engine.Search

/-!
# The order of search hits

* `compareValues`: two values, as numbers if both are numbers and else by their texts.
* `compareSources`: two documents by the paths of a sort; a document without a value at a path
  comes last in either direction.
-/

namespace EntitySearch

/-- The order of two values. -/
def compareValues (a b : Json) : Ordering :=
  match a.asBinary64?, b.asBinary64? with
  | some x, some y => x.compare y
  | _, _ => compare a.plainText b.plainText

/-- The order of two values at a path, in the direction of the sort. -/
def SortPath.compareValues (key : SortPath) (a b : Json) : Ordering :=
  let order := EntitySearch.compareValues a b
  if key.ascending then order else order.swap

/-- The order of two documents. -/
def compareSources : List SortPath → Fields → Fields → Ordering
  | [], _, _ => .eq
  | key :: rest, a, b =>
    match fieldValue? a key.path, fieldValue? b key.path with
    | none, none => compareSources rest a b
    | none, some _ => .gt
    | some _, none => .lt
    | some x, some y =>
      match key.compareValues x y with
      | .eq => compareSources rest a b
      | order => order

end EntitySearch
