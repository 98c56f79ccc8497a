import EntitySearch.Engine.Operation
import EntitySearch.Proofs.Json.Reading

/-!
# The lines of a bulk request

The engine cuts the body of a bulk request at its line breaks and takes the lines one after the other:
an action, and the document after it if one is written. No text of a value has a line break, whatever
the strings in it, so the cut gives the lines that were written. Every action line reads back to its
action, and every line is the text of one value only, so the lines tell the writes of a request up to
what a request does not say: the type of a document that is removed.

* `Typed`: a document with its entity type.
* `Frame`, `Operation.frame`: what a request says of a write.
* `Framed`: the lines of writes.
* `splitOn_ends`: a text cut at the ends of its lines.
* `bulkBody_framed`: the body of a request is cut into the lines of its writes, and requests of one
  body say the same.
-/

namespace EntitySearch

open Json

/-! ## What a request says -/

/-- A document with its entity type: a member that held one keeps its place and is written over, and
otherwise the type comes last. -/
inductive Typed (entityType : String) : Fields → Fields → Prop
  | kept {before after : Fields} {old : Json} (first : typeField ∉ before.names) :
      Typed entityType (before ++ (typeField, old) :: after)
        (before ++ (typeField, .string entityType) :: after)
  | added {fields : Fields} (new : typeField ∉ fields.names) :
      Typed entityType fields (fields ++ [(typeField, .string entityType)])

theorem typed_cons {entityType name : String} {value : Json} {fields document : Fields}
    (h : name ≠ typeField) (typed : Typed entityType fields document) :
    Typed entityType ((name, value) :: fields) ((name, value) :: document) := by
  have apart {members : Fields} (new : typeField ∉ members.names) :
      typeField ∉ Fields.names ((name, value) :: members) := by
    rw [Fields.names, List.map_cons, List.mem_cons, not_or]
    exact ⟨h.symm, new⟩
  cases typed with
  | @kept before after old first =>
    exact @Typed.kept entityType ((name, value) :: before) after old (apart first)
  | added new => exact .added (apart new)

theorem typed_source (entityType : String) (fields : Fields) :
    Typed entityType fields (Operation.source entityType fields) := by
  unfold Operation.source
  induction fields with
  | nil => exact .added List.not_mem_nil
  | cons member fields ih =>
    obtain ⟨name, value⟩ := member
    rw [Fields.insert]
    split
    · next same =>
      subst same
      exact @Typed.kept entityType [] fields value List.not_mem_nil
    · next other => exact typed_cons other ih

/-- What a request says of a write. -/
structure Frame where
  action : String
  index : String
  id : String
  document : Option Fields

namespace Operation

/-- Whether a document is written. -/
def isPut : Operation → Bool
  | .put .. => true
  | .remove .. => false

/-- What a request says of a write: its action, the document it is about, and the one it writes. -/
def frame : Operation → Frame
  | .put index entityType id fields => ⟨"index", index, id, some (source entityType fields)⟩
  | .remove index _ id => ⟨"delete", index, id, none⟩

end Operation

/-- The lines of writes: an action line reads back to the action, the index and the identifier, and the
line of a document is the text of the document with its entity type. -/
inductive Framed : List Operation → List (List Char) → Prop
  | nil : Framed [] []
  | put {index entityType id : String} {fields document : Fields} {action : List Char}
      {operations : List Operation} {lines : List (List Char)}
      (parsed : Json.parse? (String.ofList action) =
        some (.object [("index", .object [("_index", .string index), ("_id", .string id)])]))
      (typed : Typed entityType fields document) (rest : Framed operations lines) :
      Framed (.put index entityType id fields :: operations)
        (action :: (Json.object document).render :: lines)
  | remove {index entityType id : String} {action : List Char}
      {operations : List Operation} {lines : List (List Char)}
      (parsed : Json.parse? (String.ofList action) =
        some (.object [("delete", .object [("_index", .string index), ("_id", .string id)])]))
      (rest : Framed operations lines) :
      Framed (.remove index entityType id :: operations) (action :: lines)

/-! ## The lines of a request -/

/-- The lines of a request. -/
def bulkLines (operations : List Operation) : List (List Char) :=
  (operations.flatMap Operation.lines).map Json.render

theorem bulkBody_toList (operations : List Operation) :
    (bulkBody operations).toList = (bulkLines operations).flatMap (· ++ ['\n']) := by
  rw [bulkBody, String.toList_ofList, bulkChars, bulkLines, List.flatMap_map, List.flatMap_assoc]

theorem newline_not_mem_bulkLines (operations : List Operation) :
    ∀ line ∈ bulkLines operations, '\n' ∉ line :=
  List.forall_mem_map.mpr fun value _ => newline_not_mem_render value

theorem reads_action (name index id : String) : Reads (Operation.action name index id) := by
  have distinct : ["_index", "_id"].Nodup := by decide
  have target : Reads (.object [("_index", .string index), ("_id", .string id)]) :=
    reads_object (List.cons_ne_nil _ _) distinct
      (List.forall_mem_cons.mpr ⟨reads_string index, List.forall_mem_singleton.mpr (reads_string id)⟩)
  exact reads_object (List.cons_ne_nil _ _) (List.nodup_singleton name)
    (List.forall_mem_singleton.mpr target)

theorem framed_bulkLines (operations : List Operation) : Framed operations (bulkLines operations) := by
  induction operations with
  | nil => exact .nil
  | cons operation operations ih =>
    cases operation with
    | put index entityType id fields =>
      exact .put (parse_render (reads_action "index" index id)) (typed_source entityType fields) ih
    | remove index entityType id =>
      exact .remove (parse_render (reads_action "delete" index id)) ih

theorem length_bulkLines (operations : List Operation) : (bulkLines operations).length =
    2 * operations.countP Operation.isPut + operations.countP (! Operation.isPut ·) := by
  rw [bulkLines, List.length_map]
  induction operations with
  | nil => rfl
  | cons operation operations ih =>
    rw [List.flatMap_cons, List.length_append, ih]
    cases operation with
    | put index entityType id fields =>
      have two : (Operation.put index entityType id fields).lines.length = 2 := rfl
      rw [two, List.countP_cons_of_pos rfl, List.countP_cons_of_neg (by simp [Operation.isPut])]
      omega
    | remove index entityType id =>
      have one : (Operation.remove index entityType id).lines.length = 1 := rfl
      rw [one, List.countP_cons_of_neg (by simp [Operation.isPut]), List.countP_cons_of_pos rfl]
      omega

/-! ## Cutting -/

/-- A text cut at the ends of its lines gives the lines, and nothing after the last one. -/
theorem splitOn_ends {lines : List (List Char)} (h : ∀ line ∈ lines, '\n' ∉ line) :
    (lines.flatMap (· ++ ['\n'])).splitOn '\n' = lines ++ [[]] := by
  induction lines with
  | nil => rfl
  | cons line lines ih =>
    rw [List.forall_mem_cons] at h
    rw [List.flatMap_cons, List.append_assoc, List.singleton_append,
      List.splitOn_append_cons_self_of_not_mem h.1, ih h.2]
    rfl

theorem count_ends {lines : List (List Char)} (h : ∀ line ∈ lines, '\n' ∉ line) :
    (lines.flatMap (· ++ ['\n'])).count '\n' = lines.length := by
  induction lines with
  | nil => rfl
  | cons line lines ih =>
    rw [List.forall_mem_cons] at h
    rw [List.flatMap_cons, List.count_append, List.count_append, List.count_eq_zero_of_not_mem h.1,
      ih h.2, List.length_cons, List.count_singleton_self]
    omega

/-! ## What the lines say -/

theorem lines_of_bulkLines {first second : List Operation} (h : bulkLines first = bulkLines second) :
    first.flatMap Operation.lines = second.flatMap Operation.lines :=
  List.map_injective_iff.mpr render_injective h

theorem action_inj {name name' index index' id id' : String}
    (h : Operation.action name index id = Operation.action name' index' id') :
    name = name' ∧ index = index' ∧ id = id' := by
  simpa [Operation.action] using h

/-- The lines of a write tell what the request says of it, and where the lines after it begin. -/
theorem lines_append_inj {first second : Operation} {rest others : List Json}
    (h : first.lines ++ rest = second.lines ++ others) :
    first.frame = second.frame ∧ rest = others := by
  cases first with
  | put =>
    cases second with
    | put =>
      obtain ⟨action, source⟩ := List.cons.inj h
      obtain ⟨-, rfl, rfl⟩ := action_inj action
      obtain ⟨document, rest⟩ := List.cons.inj source
      exact ⟨congrArg (fun document => Frame.mk _ _ _ (some document)) (Json.object.inj document),
        rest⟩
    | remove =>
      obtain ⟨name, -⟩ := action_inj (List.cons.inj h).1
      exact absurd name (by decide)
  | remove =>
    cases second with
    | put =>
      obtain ⟨name, -⟩ := action_inj (List.cons.inj h).1
      exact absurd name (by decide)
    | remove =>
      obtain ⟨action, rest⟩ := List.cons.inj h
      obtain ⟨-, rfl, rfl⟩ := action_inj action
      exact ⟨rfl, rest⟩

theorem lines_ne_nil (operation : Operation) : operation.lines ≠ [] := by
  cases operation <;> exact List.cons_ne_nil _ _

theorem frames_eq {first second : List Operation}
    (h : first.flatMap Operation.lines = second.flatMap Operation.lines) :
    first.map Operation.frame = second.map Operation.frame := by
  induction first generalizing second with
  | nil =>
    cases second with
    | nil => rfl
    | cons operation second =>
      exact absurd (List.append_eq_nil_iff.mp h.symm).1 (lines_ne_nil operation)
  | cons operation first ih =>
    cases second with
    | nil => exact absurd (List.append_eq_nil_iff.mp h).1 (lines_ne_nil operation)
    | cons other second =>
      obtain ⟨frame, rest⟩ := lines_append_inj h
      rw [List.map_cons, List.map_cons, frame, ih rest]

/-- **The body of a request is cut into the lines of its writes.** Every line ends with one line break
and has no other, so cutting at the line breaks gives the lines in the order of the writes: two for a
document that is written and one for a document that is removed. Requests of one body say the same of
the same number of writes. -/
theorem bulkBody_framed (operations : List Operation) :
    (∃ lines, (bulkBody operations).toList = lines.flatMap (· ++ ['\n']) ∧
      (∀ line ∈ lines, '\n' ∉ line) ∧
      (bulkBody operations).toList.splitOn '\n' = lines ++ [[]] ∧
      Framed operations lines) ∧
    (bulkBody operations).toList.count '\n' =
      2 * operations.countP Operation.isPut + operations.countP (! Operation.isPut ·) ∧
    ∀ others, bulkBody others = bulkBody operations →
      others.map Operation.frame = operations.map Operation.frame := by
  have whole := newline_not_mem_bulkLines operations
  have body := bulkBody_toList operations
  refine ⟨⟨bulkLines operations, body, whole, ?_, framed_bulkLines operations⟩, ?_, ?_⟩
  · rw [body, splitOn_ends whole]
  · rw [body, count_ends whole, length_bulkLines]
  · intro others same
    have cut := congrArg (fun body => body.toList.splitOn '\n') same
    simp only [bulkBody_toList, splitOn_ends (newline_not_mem_bulkLines _)] at cut
    exact frames_eq (lines_of_bulkLines (List.append_cancel_right cut))

end EntitySearch
