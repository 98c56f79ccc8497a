import EntitySearch.Proofs.Engine.Answers
import EntitySearch.Proofs.Engine.Settled

/-!
# What an engine in memory replies

An engine in memory answers some requests in their order, while others may use it as well as long as
they remove no index. An index goes only if the engine says so, and if the answers vouch for an index,
it is there.

* `MemoryEngine.handle`: a request is received and answered.
* `MemoryEngine.Retains`: no index is gone.
* `MemoryEngine.Replies`: the answers to some requests.
* `Replies.retains`: an index is there until the engine says that it has removed it.
* `Replies.vouched`: an index that the answers vouch for is there.
-/

namespace EntitySearch

theorem Indices.find?_erase (indices : Indices) (name key : String) :
    Indices.find? (indices.erase name) key = if name = key then none else indices.find? key := by
  induction indices with
  | nil => split <;> rfl
  | cons entry rest ih =>
    obtain ⟨own, index⟩ := entry
    rw [Indices.erase, List.filter_cons, Indices.find?]
    change Indices.find? (if decide (own ≠ name) = true then _ :: Indices.erase rest name
      else Indices.erase rest name) key = _
    by_cases ho : own = name
    · simp only [ho, ne_eq, not_true_eq_false, decide_false, Bool.false_eq_true, if_false, ih]
      by_cases h : name = key <;> simp [h]
    · simp only [ne_eq, ho, not_false_eq_true, decide_true, if_true, Indices.find?, ih]
      by_cases h : own = key
      · have apart : ¬ name = key := fun hn => ho (h.trans hn.symm)
        simp [h, apart]
      · simp [h]

namespace MemoryEngine

/-- Receives a request and answers it, or breaks it off. -/
def handle (engine : MemoryEngine) (call : Call) : MemoryEngine × Option call.Outcome :=
  (engine.record call).answer? (engine.delay call) call

/-- Whether no index is gone. -/
def Retains (engine later : MemoryEngine) : Prop :=
  ∀ name, engine.hasIndex name = true → later.hasIndex name = true

variable {engine before after later : MemoryEngine} {index : String} {answers more : List Answer}

theorem Retains.refl (engine : MemoryEngine) : engine.Retains engine := fun _ => id

theorem Retains.trans (h : engine.Retains before) (h' : before.Retains later) :
    engine.Retains later := fun name => h' name ∘ h name

/-! ## One request -/

theorem retains_bulk (engine : MemoryEngine) (delay : Duration) (operations : List Operation) :
    engine.Retains (engine.bulk delay operations).1 := by
  intro name present
  rcases bulk_cases engine delay operations with ⟨error, outage, -, hb⟩ | hb
  · rw [hb]
    exact present
  · rw [hb, (writeAll_eq operations 0 engine).1]
    exact (hasIndex_foldl_write_iff _ name).mpr (.inl present)

theorem hasIndex_answer? {delay : Duration} {call : Call} {outcome : call.Outcome}
    (h : engine.answer? delay call = (after, some outcome)) (present : engine.hasIndex index = true)
    (kept : ¬ Answer.Deletes index ⟨call, outcome⟩) : after.hasIndex index = true := by
  by_cases quiet : call.writes = false
  · have undisturbed := (answer?_undisturbed engine delay quiet).present index present
    rwa [h] at undisturbed
  cases call with
  | bulk operations =>
    have retained := retains_bulk engine delay operations index present
    rwa [bulk_of_answer? h] at retained
  | deleteIndex name =>
    obtain ⟨hs, ho⟩ := Prod.mk.inj h
    have ho : (engine.deleteIndex name).2 = outcome := Option.some.inj ho
    subst hs ho
    change (engine.deleteIndex name).1.hasIndex index = true
    by_cases there : engine.hasIndex name = true
    · have apart : name ≠ index := by
        rintro rfl
        rw [deleteIndex, if_pos there] at kept
        exact kept .deleted
      rw [deleteIndex, if_pos there, hasIndex, Indices.find?_erase, if_neg apart]
      exact present
    · rw [deleteIndex, if_neg there]
      exact present
  | _ => exact absurd rfl quiet

theorem hasIndex_of_create {delay : Duration} {mapping : Json} {outcome : Outcome .createIndex}
    (h : engine.answer? delay (.createIndex index mapping) = (after, some outcome)) :
    after.hasIndex index = true := by
  have created : (engine.createIndex index mapping).1 = after := congrArg Prod.fst h
  rw [← created, createIndex]
  split
  · next there => exact there
  · exact hasIndex_set _ _ _ (.inl rfl)

/-! ## Several requests -/

/-- The answers of an engine to some requests. Before and after each of them others may have used the
engine, but no index was removed. -/
inductive Replies : MemoryEngine → List Answer → MemoryEngine → Prop
  | nil {first last : MemoryEngine} (others : first.Retains last) : Replies first [] last
  | cons {first current next last : MemoryEngine} {call : Call} {delay : Duration}
      {outcome : call.Outcome} {rest : List Answer} (others : first.Retains current)
      (answered : current.answer? delay call = (next, some outcome)) (replies : Replies next rest last) :
      Replies first (⟨call, outcome⟩ :: rest) last

namespace Replies

theorem of_retains (others : engine.Retains before) (h : before.Replies answers later) :
    engine.Replies answers later := by
  cases h with
  | nil others' => exact .nil (others.trans others')
  | cons others' answered more => exact .cons (others.trans others') answered more

theorem append (h : engine.Replies answers before) (h' : before.Replies more later) :
    engine.Replies (answers ++ more) later := by
  induction h with
  | nil others => exact h'.of_retains others
  | cons others answered _ ih => exact .cons others answered (ih h')

theorem of_append (h : engine.Replies (answers ++ more) later) :
    ∃ between, engine.Replies answers between ∧ between.Replies more later := by
  induction answers generalizing engine with
  | nil => exact ⟨engine, .nil (.refl engine), h⟩
  | cons answer rest ih =>
    cases h with
    | cons others answered more =>
      obtain ⟨between, first, second⟩ := ih more
      exact ⟨between, .cons others answered first, second⟩

theorem of_handle {call : Call} {outcome : call.Outcome}
    (h : engine.handle call = (after, some outcome)) : engine.Replies [⟨call, outcome⟩] after := by
  have recorded : engine.Retains (engine.record call) := fun _ => id
  exact .cons recorded h (.nil (.refl after))

/-- **An index goes only if the engine says so.** -/
theorem retains (h : engine.Replies answers later) (present : engine.hasIndex index = true)
    (kept : ∀ answer ∈ answers, ¬ answer.Deletes index) : later.hasIndex index = true := by
  induction h with
  | nil others => exact others index present
  | cons others answered _ ih =>
    refine ih (hasIndex_answer? answered (others index present) (kept _ List.mem_cons_self)) ?_
    exact fun answer ha => kept answer (List.mem_cons_of_mem _ ha)

theorem of_vouches (h : engine.Replies answers later) (vouches : Vouches index answers) :
    later.hasIndex index = true := by
  cases vouches with
  | found finds =>
    obtain _ | ⟨-, answered, ⟨others⟩⟩ := h
    refine others index ?_
    cases finds with
    | there =>
      obtain ⟨rfl, found⟩ := Prod.mk.inj answered
      exact Except.ok.inj (Option.some.inj found)
    | alreadyExists mapping => exact hasIndex_of_create answered
  | made mapping assures =>
    obtain _ | ⟨-, answered, rest⟩ := h
    refine rest.retains (hasIndex_of_create answered) fun answer ha hd => ?_
    cases List.mem_singleton.mp ha
    cases assures
    cases hd

/-- **An index is there if the answers vouch for it.** -/
theorem vouched (h : engine.Replies answers later) (vouched : Vouched index answers) :
    later.hasIndex index = true := by
  obtain ⟨early, last, late, rfl, vouches, quiet⟩ := vouched
  obtain ⟨_, -, h⟩ := h.of_append
  obtain ⟨_, settled, h⟩ := h.of_append
  exact h.retains (settled.of_vouches vouches) fun answer ha hd => quiet answer ha hd.about

end Replies

end MemoryEngine

end EntitySearch
