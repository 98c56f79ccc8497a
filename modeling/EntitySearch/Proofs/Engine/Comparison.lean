import EntitySearch.Engine.Order
import Mathlib.Tactic.Common

/-!
# The order of search hits is a preorder

Documents are compared path by path, the first path that tells them apart deciding, and a document
without a value at a path comes after those that have one. Whatever the values are, a document is
equal to itself and two documents change sides if they are compared the other way round.

The order is transitive at a path whose values are compared in one way only: as numbers, if all of
them are numbers, or as texts. Values of both kinds together may go round in a circle, since two
numbers are compared by their size and each of them with a text by its digits
(`not_transitive_compareSources`).

* `compareSources_cons`: a path and those after it.
* `Uniform`, `Sortable`: values that are compared in one way, and documents with such values.
* `transCmp_compareSources`: the order of sortable documents is transitive.
* `compareSources_preorder`: all of this, and where documents without a value come.
-/

namespace EntitySearch

open Std

/-! ## Paths one after the other -/

/-- The order of two values that may be missing: a missing one comes last. -/
def missingLast {α : Type} (cmp : α → α → Ordering) : Option α → Option α → Ordering
  | none, none => .eq
  | none, some _ => .gt
  | some _, none => .lt
  | some x, some y => cmp x y

/-- The order of two documents at a path. -/
def compareAt (key : SortPath) (a b : Fields) : Ordering :=
  missingLast key.compareValues (fieldValue? a key.path) (fieldValue? b key.path)

/-- **A path decides** before those after it. -/
theorem compareSources_cons (key : SortPath) (rest : List SortPath) (a b : Fields) :
    compareSources (key :: rest) a b = (compareAt key a b).then (compareSources rest a b) := by
  rw [compareSources, compareAt]
  cases fieldValue? a key.path with
  | none => cases fieldValue? b key.path <;> rfl
  | some x =>
    cases fieldValue? b key.path with
    | none => rfl
    | some y =>
      simp only [missingLast]
      cases key.compareValues x y <;> rfl

theorem compareSources_append (first rest : List SortPath) (a b : Fields) :
    compareSources (first ++ rest) a b =
      (compareSources first a b).then (compareSources rest a b) := by
  induction first with
  | nil => rfl
  | cons key first ih =>
    rw [List.cons_append, compareSources_cons, compareSources_cons, ih, Ordering.then_assoc]

/-! ## Both ways round -/

theorem compareValues_numbers {x y : Json} {m n : Binary64} (hx : x.asBinary64? = some m)
    (hy : y.asBinary64? = some n) : compareValues x y = compare m.value n.value := by
  unfold compareValues
  rw [hx, hy]
  rfl

theorem compareValues_texts {x y : Json} (h : x.asBinary64? = none ∨ y.asBinary64? = none) :
    compareValues x y = compare x.plainText y.plainText := by
  unfold compareValues
  split
  · rename_i hx hy
    rw [hx, hy] at h
    rcases h with h | h <;> cases h
  · rfl

instance : OrientedCmp compareValues where
  eq_swap {x y} := by
    cases hx : x.asBinary64? with
    | none =>
      rw [compareValues_texts (.inl hx), compareValues_texts (.inr hx)]
      exact OrientedOrd.eq_swap
    | some m =>
      cases hy : y.asBinary64? with
      | none =>
        rw [compareValues_texts (.inr hy), compareValues_texts (.inl hy)]
        exact OrientedOrd.eq_swap
      | some n =>
        rw [compareValues_numbers hx hy, compareValues_numbers hy hx]
        exact OrientedOrd.eq_swap

theorem missingLast_swap {α : Type} (cmp : α → α → Ordering) [OrientedCmp cmp] :
    ∀ x y : Option α, missingLast cmp y x = (missingLast cmp x y).swap
  | none, none => rfl
  | none, some _ => rfl
  | some _, none => rfl
  | some x, some y => (OrientedCmp.eq_swap : cmp y x = (cmp x y).swap)

instance (key : SortPath) : OrientedCmp key.compareValues where
  eq_swap {x y} := by
    have values : compareValues x y = (compareValues y x).swap := OrientedCmp.eq_swap
    unfold SortPath.compareValues
    rw [values]
    split <;> rfl

theorem compareSources_swap (sort : List SortPath) (a b : Fields) :
    compareSources sort b a = (compareSources sort a b).swap := by
  induction sort with
  | nil => rfl
  | cons key rest ih =>
    rw [compareSources_cons, compareSources_cons, Ordering.swap_then, ih, compareAt,
      missingLast_swap]
    rfl

/-! ## Values that are compared in one way -/

/-- Whether values are compared in one way: all of them are numbers, or any two of them are compared
by their texts, as two values are of which one is not a number. -/
def Uniform (values : List Json) : Prop :=
  (∀ x ∈ values, x.asBinary64?.isSome) ∨
    ∀ x ∈ values, ∀ y ∈ values, compareValues x y = compare x.plainText y.plainText

instance (values : List Json) : Decidable (Uniform values) := inferInstanceAs (Decidable (_ ∨ _))

/-- The values of documents at a path. -/
def valuesAt (path : String) (docs : List Fields) : List Json :=
  docs.filterMap (fieldValue? · path)

/-- Whether documents have values of one kind at every path of a sort. -/
def Sortable (sort : List SortPath) (docs : List Fields) : Prop :=
  ∀ key ∈ sort, Uniform (valuesAt key.path docs)

instance (sort : List SortPath) (docs : List Fields) : Decidable (Sortable sort docs) :=
  inferInstanceAs (Decidable (∀ key ∈ sort, _))

theorem mem_valuesAt {path : String} {docs : List Fields} {doc : Fields} (hd : doc ∈ docs)
    {x : Json} (hx : fieldValue? doc path = some x) : x ∈ valuesAt path docs :=
  List.mem_filterMap.mpr ⟨doc, hd, hx⟩

theorem Uniform.exists_measure {values : List Json} (h : Uniform values) :
    ∃ (β : Type) (cmp : β → β → Ordering) (measure : Json → β), TransCmp cmp ∧
      ∀ x ∈ values, ∀ y ∈ values, compareValues x y = cmp (measure x) (measure y) := by
  rcases h with numbers | texts
  · refine ⟨Int, compare, fun x => (x.asBinary64?.getD default).value, inferInstance, ?_⟩
    intro x hx y hy
    obtain ⟨m, hm⟩ := Option.isSome_iff_exists.mp (numbers x hx)
    obtain ⟨n, hn⟩ := Option.isSome_iff_exists.mp (numbers y hy)
    simp only [compareValues, hm, hn]
    rfl
  · exact ⟨String, compare, Json.plainText, inferInstance, texts⟩

/-- An order, or the same order the other way round. -/
def directed {β : Type} (ascending : Bool) (cmp : β → β → Ordering) (x y : β) : Ordering :=
  if ascending then cmp x y else (cmp x y).swap

instance {β : Type} {cmp : β → β → Ordering} [TransCmp cmp] (ascending : Bool) :
    TransCmp (directed ascending cmp) := by
  cases ascending with
  | true => exact inferInstanceAs (TransCmp cmp)
  | false =>
    have swapped : directed false cmp = fun x y => cmp y x :=
      funext fun x => funext fun y => OrientedCmp.eq_swap.symm
    rw [swapped]
    exact TransCmp.opposite

instance {β : Type} {cmp : β → β → Ordering} [TransCmp cmp] : TransCmp (missingLast cmp) where
  eq_swap {x y} := missingLast_swap cmp y x
  isLE_trans {x y z} before after := by
    cases x with
    | none =>
      cases y with
      | none => exact after
      | some _ => cases before
    | some x =>
      cases z with
      | none => rfl
      | some z =>
        cases y with
        | none => cases after
        | some y => exact (TransCmp.isLE_trans before after : (cmp x z).isLE)

/-- **At one path** the order of documents is transitive if their values are of one kind. -/
theorem transCmp_compareAt {key : SortPath} {docs : List Fields}
    (h : Uniform (valuesAt key.path docs)) :
    TransCmp fun a b : { doc // doc ∈ docs } => compareAt key a b := by
  obtain ⟨β, cmp, measure, trans, same⟩ := h.exists_measure
  have eq : (fun a b : { doc // doc ∈ docs } => compareAt key a b) =
      fun a b : { doc // doc ∈ docs } => missingLast (directed key.ascending cmp)
        ((fieldValue? a key.path).map measure) ((fieldValue? b key.path).map measure) := by
    funext a b
    unfold compareAt
    cases ha : fieldValue? a.1 key.path with
    | none => cases fieldValue? b.1 key.path <;> rfl
    | some x =>
      cases hb : fieldValue? b.1 key.path with
      | none => rfl
      | some y =>
        have values := same x (mem_valuesAt a.2 ha) y (mem_valuesAt b.2 hb)
        simp only [missingLast, Option.map_some, SortPath.compareValues, directed, values]
  rw [eq]
  exact {
    eq_swap := missingLast_swap _ _ _
    isLE_trans := TransCmp.isLE_trans }

/-- **The order of documents** is transitive if they are sortable. -/
theorem transCmp_compareSources {docs : List Fields} : ∀ {sort : List SortPath},
    Sortable sort docs → TransCmp fun a b : { doc // doc ∈ docs } => compareSources sort a b
  | [], _ => { eq_swap := rfl, isLE_trans := fun _ _ => rfl }
  | key :: rest, h => by
    have first := transCmp_compareAt (h key List.mem_cons_self)
    have others := transCmp_compareSources fun other ho => h other (List.mem_cons_of_mem _ ho)
    simp only [compareSources_cons]
    exact inferInstanceAs (TransCmp (compareLex (fun a b : { doc // doc ∈ docs } =>
      compareAt key a b) fun a b => compareSources rest a b))

/-! ## Main results -/

theorem compareSources_missing {first rest : List SortPath} {key : SortPath} {a b : Fields}
    (even : compareSources first a b = .eq) (missing : fieldValue? a key.path = none)
    (present : (fieldValue? b key.path).isSome) :
    compareSources (first ++ key :: rest) a b = .gt := by
  obtain ⟨y, hy⟩ := Option.isSome_iff_exists.mp present
  rw [compareSources_append, even, compareSources_cons, compareAt, missing, hy]
  rfl

/-- **The order of documents.** For every sort and all documents, whatever their values are: a
document is equal to itself; two documents change sides if they are compared the other way round; a
document without a value at the path that decides comes last, in either direction of the sort; and
of documents whose values at every path are of one kind, numbers or compared by their texts, one
that is not after a second one, which is not after a third one, is not after the third one. -/
theorem compareSources_preorder (sort : List SortPath) :
    (∀ a, compareSources sort a a = .eq) ∧
    (∀ a b, compareSources sort b a = (compareSources sort a b).swap) ∧
    (∀ first key rest a b, sort = first ++ key :: rest → compareSources first a b = .eq →
      fieldValue? a key.path = none → (fieldValue? b key.path).isSome →
      compareSources sort a b = .gt ∧ compareSources sort b a = .lt) ∧
    (∀ a b c, Sortable sort [a, b, c] → compareSources sort a b ≠ .gt →
      compareSources sort b c ≠ .gt → compareSources sort a c ≠ .gt) := by
  have swap := compareSources_swap sort
  refine ⟨fun a => ?_, swap, ?_, fun a b c sortable hab hbc => ?_⟩
  · have same := swap a a
    cases ho : compareSources sort a a with
    | eq => rfl
    | lt => rw [ho] at same; cases same
    | gt => rw [ho] at same; cases same
  · rintro first key rest a b rfl even missing present
    have last : compareSources (first ++ key :: rest) a b = .gt :=
      compareSources_missing even missing present
    exact ⟨last, by rw [swap a b, last]; rfl⟩
  · have trans := transCmp_compareSources sortable
    have order := Ordering.isLE_iff_ne_gt.mp (trans.isLE_trans (a := ⟨a, by simp⟩)
      (b := ⟨b, by simp⟩) (c := ⟨c, by simp⟩) (Ordering.isLE_iff_ne_gt.mpr hab)
      (Ordering.isLE_iff_ne_gt.mpr hbc))
    exact order

/-- A sort by one field upwards and then by another one downwards. -/
def upThenDown : List SortPath := [⟨"g", true⟩, ⟨"f", false⟩]

/-- Documents with equal numbers at `g`, and with a text, a number and nothing at `f`. -/
def assorted : Fields × Fields × Fields :=
  ([("f", .string "x"), ("g", .int 1)], [("g", .int 1), ("f", .int 7)], [("g", .int 1)])

/-- These documents are in order: the text is before the number, and the document with neither is
last. -/
theorem compareSources_preorder_assorted :
    Sortable upThenDown [assorted.1, assorted.2.1, assorted.2.2] ∧
    compareSources upThenDown assorted.1 assorted.2.1 ≠ .gt ∧
    compareSources upThenDown assorted.2.1 assorted.2.2 ≠ .gt ∧
    compareSources upThenDown assorted.1 assorted.2.2 ≠ .gt ∧
    compareSources upThenDown assorted.2.2 assorted.2.1 = .gt := by
  obtain ⟨-, -, missing, trans⟩ := compareSources_preorder upThenDown
  have sortable : Sortable upThenDown [assorted.1, assorted.2.1, assorted.2.2] := by
    decide +kernel
  have before : compareSources upThenDown assorted.1 assorted.2.1 ≠ .gt := by decide +kernel
  have last : compareSources upThenDown assorted.2.2 assorted.2.1 = .gt :=
    (missing [⟨"g", true⟩] ⟨"f", false⟩ [] _ _ rfl (by decide +kernel) rfl rfl).1
  have after : compareSources upThenDown assorted.2.1 assorted.2.2 ≠ .gt := by decide +kernel
  exact ⟨sortable, before, after, trans _ _ _ sortable before after, last⟩

/-- A sort by one field. -/
def byField : List SortPath := [⟨"f", true⟩]

/-- The document with a value of this field. -/
def withField (value : Json) : Fields := [("f", value)]

/-- Ten is before the text `5` and that text before nine, but ten is after nine. -/
theorem not_transitive_compareSources :
    ¬ ∀ (sort : List SortPath) (a b c : Fields), compareSources sort a b ≠ .gt →
      compareSources sort b c ≠ .gt → compareSources sort a c ≠ .gt := by
  intro h
  have first : compareSources byField (withField (.int 10)) (withField (.string "5")) = .lt := by
    decide +kernel
  have second : compareSources byField (withField (.string "5")) (withField (.int 9)) = .lt := by
    decide +kernel
  have third : compareSources byField (withField (.int 10)) (withField (.int 9)) = .gt := by
    decide +kernel
  exact h byField _ _ _ (by rw [first]; decide) (by rw [second]; decide) third

end EntitySearch
