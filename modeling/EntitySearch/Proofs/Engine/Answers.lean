import EntitySearch.Engine.Call
import Mathlib.Data.List.Basic

/-!
# What an engine has answered

The answers of an engine, in their order, and what they say of an index.

* `Answer`: a request and its outcome; `refused`, `heard`: the answers to a request that is sent
  again.
* `Answer.Creates`, `Answer.MayCreate`, `Answer.Finds`, `Answer.Assures`, `Answer.Deletes`: what an
  answer says of an index.
* `Followed`: answers of one kind are followed by answers of another kind.
* `Vouches`, `Vouched`: answers that leave no doubt that an index exists, and answers that end so as
  far as an index is concerned.
-/

namespace EntitySearch

/-- The index that a request of administration is about. -/
def Call.index? : Call → Option String
  | .indexExists index | .createIndex index _ | .deleteIndex index | .health index _ _ => some index
  | _ => none

/-- A request and what the engine answered to it. -/
structure Answer where
  call : Call
  outcome : call.Outcome

/-- The answers to a request that fails again and again. -/
def refused (call : Call) (errors : List EngineError) : List Answer :=
  errors.map fun error => ⟨call, .error error⟩

/-- The answers to a request that is sent again: errors, and the last answer. -/
def heard (call : Call) (earlier : List EngineError) (last : call.Outcome) : List Answer :=
  refused call earlier ++ [⟨call, last⟩]

theorem heard_error (call : Call) (earlier : List EngineError) (error : EngineError) :
    heard call earlier (.error error) = refused call (earlier ++ [error]) := by
  rw [heard, refused, refused, List.map_append]
  rfl

theorem mem_heard_iff {call : Call} {earlier : List EngineError} {last : call.Outcome}
    {answer : Answer} : answer ∈ heard call earlier last ↔
      (∃ error ∈ earlier, ⟨call, .error error⟩ = answer) ∨ answer = ⟨call, last⟩ := by
  rw [heard, List.mem_append, List.mem_singleton, refused, List.mem_map]

namespace Answer

/-- Whether the engine says that it has created an index. -/
inductive Creates (index : String) : Answer → Prop
  | created (mapping : Json) (acknowledged : Bool) :
    Creates index ⟨.createIndex index mapping, .ok (.created acknowledged)⟩

/-- Whether the engine may have created an index: it says so, or its answer is lost. -/
inductive MayCreate (index : String) : Answer → Prop
  | created (mapping : Json) (acknowledged : Bool) :
    MayCreate index ⟨.createIndex index mapping, .ok (.created acknowledged)⟩
  | lost (mapping : Json) (error : EngineError) :
    MayCreate index ⟨.createIndex index mapping, .error error⟩

/-- Whether the engine says that an index exists already. -/
inductive Finds (index : String) : Answer → Prop
  | there : Finds index ⟨.indexExists index, .ok true⟩
  | alreadyExists (mapping : Json) : Finds index ⟨.createIndex index mapping, .ok .alreadyExists⟩

/-- Whether the engine says that an index does not exist, or exists no longer. -/
inductive Misses (index : String) : Answer → Prop
  | missing : Misses index ⟨.indexExists index, .ok false⟩
  | deleted : Misses index ⟨.deleteIndex index, .ok ()⟩
  | notFound (name : String) : Misses index ⟨.deleteIndex index, .error (.notFound name)⟩

/-- Whether the engine says that an index is usable, and has not given up on waiting for it. -/
inductive Assures (index : String) : Answer → Prop
  | usable (limit : Duration) (health : IndexHealth) (status : .yellow ≤ health.status)
    (inTime : health.timedOut = false) : Assures index ⟨.health index .yellow limit, .ok health⟩

/-- Whether the engine says that it has removed an index. -/
inductive Deletes (index : String) : Answer → Prop
  | deleted : Deletes index ⟨.deleteIndex index, .ok ()⟩

variable {index : String} {answer : Answer}

theorem Creates.about (h : answer.Creates index) : answer.call.index? = some index := by
  cases h
  rfl

theorem MayCreate.about (h : answer.MayCreate index) : answer.call.index? = some index := by
  cases h <;> rfl

theorem Finds.about (h : answer.Finds index) : answer.call.index? = some index := by
  cases h <;> rfl

theorem Deletes.about (h : answer.Deletes index) : answer.call.index? = some index := by
  cases h
  rfl

end Answer

/-! ## One answer after another -/

/-- Whether every answer of the first kind is followed by one of the second kind. -/
def Followed (first second : Answer → Prop) : List Answer → Prop
  | [] => True
  | answer :: rest => (first answer → ∃ later ∈ rest, second later) ∧ Followed first second rest

namespace Followed

variable {first second : Answer → Prop} {answers more : List Answer}

theorem of_none (h : ∀ answer ∈ answers, ¬ first answer) : Followed first second answers := by
  induction answers with
  | nil => trivial
  | cons answer rest ih =>
    exact ⟨fun ha => absurd ha (h answer List.mem_cons_self),
      ih fun other ho => h other (List.mem_cons_of_mem _ ho)⟩

theorem append (h : Followed first second answers) (h' : Followed first second more) :
    Followed first second (answers ++ more) := by
  induction answers with
  | nil => exact h'
  | cons answer rest ih =>
    obtain ⟨ha, hr⟩ := h
    refine ⟨fun hf => ?_, ih hr⟩
    obtain ⟨later, hl, hs⟩ := ha hf
    exact ⟨later, List.mem_append_left _ hl, hs⟩

theorem prepend (h : ∃ later ∈ more, second later) (h' : Followed first second more) :
    Followed first second (answers ++ more) := by
  induction answers with
  | nil => exact h'
  | cons answer rest ih =>
    obtain ⟨later, hl, hs⟩ := h
    exact ⟨fun _ => ⟨later, List.mem_append_right _ hl, hs⟩, ih⟩

end Followed

/-! ## Indices that exist -/

/-- The answers after which there is no doubt that an index exists: the engine has found it, or has
created it and says that it is usable. -/
inductive Vouches (index : String) : List Answer → Prop
  | found {answer : Answer} (finds : answer.Finds index) : Vouches index [answer]
  | made (mapping : Json) {answer : Answer} (assures : answer.Assures index) :
    Vouches index [⟨.createIndex index mapping, .ok (.created true)⟩, answer]

theorem Vouches.usable {index : String} {answers : List Answer} (h : Vouches index answers) :
    Followed (Answer.Creates index) (Answer.Assures index) answers := by
  cases h with
  | found finds =>
    refine ⟨fun hc => ?_, trivial⟩
    cases finds <;> cases hc
  | made mapping assures =>
    refine ⟨fun _ => ⟨_, List.mem_cons_self, assures⟩, fun hc => ?_, trivial⟩
    cases assures
    cases hc

/-- Whether no answer is about an index. -/
def Untouched (index : String) (answers : List Answer) : Prop :=
  ∀ answer ∈ answers, answer.call.index? ≠ some index

/-- Whether answers end, as far as an index is concerned, with those that leave no doubt that it
exists. -/
def Vouched (index : String) (answers : List Answer) : Prop :=
  ∃ early last late, answers = early ++ (last ++ late) ∧ Vouches index last ∧ Untouched index late

namespace Untouched

variable {index : String} {answers more : List Answer}

theorem nil (index : String) : Untouched index [] := nofun

theorem append (h : Untouched index answers) (h' : Untouched index more) :
    Untouched index (answers ++ more) :=
  List.forall_mem_append.mpr ⟨h, h'⟩

theorem of_other {other : String} (h : other ≠ index)
    (about : ∀ answer ∈ answers, answer.call.index? = some other) : Untouched index answers :=
  fun answer ha hi => h (Option.some.inj ((about answer ha).symm.trans hi))

end Untouched

namespace Vouched

variable {index : String} {answers more : List Answer}

theorem append (h : Vouched index answers) (h' : Untouched index more) :
    Vouched index (answers ++ more) := by
  obtain ⟨early, last, late, rfl, hl, hu⟩ := h
  refine ⟨early, last, late ++ more, ?_, hl, hu.append h'⟩
  simp only [List.append_assoc]

theorem prepend (h : Vouched index more) : Vouched index (answers ++ more) := by
  obtain ⟨early, last, late, rfl, hl, hu⟩ := h
  exact ⟨answers ++ early, last, late, (List.append_assoc _ _ _).symm, hl, hu⟩

/-- Every creation before such answers is followed by one that finds the index, or says that it is
usable. -/
theorem followed (h : Vouched index answers) : Followed (Answer.MayCreate index)
    (fun answer => answer.Assures index ∨ answer.Finds index) answers := by
  obtain ⟨early, last, late, rfl, hl, hu⟩ := h
  have quiet : Followed (Answer.MayCreate index)
      (fun answer => answer.Assures index ∨ answer.Finds index) late :=
    .of_none fun answer ha hm => hu answer ha hm.about
  cases hl with
  | found finds =>
    refine .prepend ⟨_, List.mem_append_left _ List.mem_cons_self, .inr finds⟩ ⟨fun hm => ?_, quiet⟩
    cases finds <;> cases hm
  | made mapping assures =>
    refine .prepend ⟨_, List.mem_append_left _ (List.mem_cons_of_mem _ List.mem_cons_self),
      .inl assures⟩ ⟨fun _ => ⟨_, List.mem_cons_self, .inl assures⟩, fun hm => ?_, quiet⟩
    cases assures
    cases hm

end Vouched

end EntitySearch
