import EntitySearch.Index.Ready
import Mathlib.Data.List.Basic

/-!
# Guards of indices

Every index has a guard of its own, so what happens to the guard of one index changes nothing for the
others: whether an index is known to be ready changes only when its guard is left or taken away.

* `ReadyTable.Sound`: indices have guards of their own; every access keeps this.
* `isKnown_guardOf`, `isKnown_set`, `isKnown_forget`: what is known after an access.
* `ReadyTable.Idle`: nobody is setting an index up, so nobody waits; `ReadyTable.tried`: the table after
  somebody has tried to.
-/

namespace EntitySearch.ReadyTable

/-- Whether all numbers are those of guards, and no two indices share one. -/
structure Sound (table : ReadyTable) : Prop where
  bound : ∀ {index number}, table.number? index = some number → number < table.guards.length
  own : ∀ {index other number}, table.number? index = some number →
    table.number? other = some number → index = other

variable {table : ReadyTable}

theorem Sound.empty : Sound {} := ⟨nofun, nofun⟩

/-! ## Numbers -/

theorem number?_append (numbers more : List (String × Nat)) (guards : List Guard)
    (index : String) :
    number? ⟨guards, numbers ++ more⟩ index =
      (number? ⟨guards, numbers⟩ index).or (number? ⟨guards, more⟩ index) := by
  simp only [number?, List.find?_append, Option.map_or]

theorem number?_single (guards : List Guard) (name : String) (number : Nat) (index : String) :
    number? ⟨guards, [(name, number)]⟩ index = if name = index then some number else none := by
  rw [number?, List.find?_cons]
  by_cases h : name = index <;> simp [h]

theorem number?_forget (table : ReadyTable) (name index : String) :
    (table.forget name).number? index = if name = index then none else table.number? index := by
  obtain ⟨guards, numbers⟩ := table
  simp only [number?, forget]
  induction numbers with
  | nil => simp
  | cons entry rest ih =>
    obtain ⟨key, number⟩ := entry
    rw [List.filter_cons, List.find?_cons]
    by_cases hk : key = name
    · subst hk
      simp only [ne_eq, not_true_eq_false, decide_false, Bool.false_eq_true, if_false, ih]
      by_cases h : key = index <;> simp [h]
    · simp only [ne_eq, hk, not_false_eq_true, decide_true, if_true, List.find?_cons]
      by_cases h : key = index
      · subst h
        simp [Ne.symm hk]
      · simp only [h, decide_false, ih]

theorem guardOf_of_some {name : String} {number : Nat} (h : table.number? name = some number) :
    table.guardOf name = (number, table) := by
  rw [guardOf, h]

theorem guardOf_of_none {name : String} (h : table.number? name = none) :
    table.guardOf name = (table.guards.length,
      { guards := table.guards ++ [.vacant]
        numbers := table.numbers ++ [(name, table.guards.length)] }) := by
  rw [guardOf, h]

theorem number?_guardOf (table : ReadyTable) (name index : String) :
    (table.guardOf name).2.number? index =
      if name = index then some (table.guardOf name).1 else table.number? index := by
  cases h : table.number? name with
  | some number =>
    rw [guardOf_of_some h]
    by_cases same : name = index
    · rw [if_pos same, ← same, h]
    · rw [if_neg same]
  | none =>
    rw [guardOf_of_none h, number?_append, number?_single]
    change (table.number? index).or _ = _
    by_cases same : name = index
    · rw [if_pos same, if_pos same, ← same, h, Option.none_or]
    · rw [if_neg same, if_neg same, Option.or_none]

/-! ## Accesses -/

theorem Sound.guardOf (h : table.Sound) (name : String) : (table.guardOf name).2.Sound := by
  cases hn : table.number? name with
  | some number =>
    rw [guardOf_of_some hn]
    exact h
  | none =>
    have numbers := number?_guardOf table name
    rw [guardOf_of_none hn] at numbers ⊢
    constructor
    · intro index number hi
      rw [numbers] at hi
      rw [List.length_append]
      by_cases same : name = index
      · rw [if_pos same] at hi
        cases hi
        exact Nat.lt_succ_self _
      · rw [if_neg same] at hi
        exact Nat.lt_succ_of_lt (h.bound hi)
    · -- The new number is beyond all numbers that were given before.
      have fresh : ∀ {index}, table.number? index ≠ some table.guards.length :=
        fun hi => Nat.lt_irrefl _ (h.bound hi)
      intro index other number hi ho
      rw [numbers] at hi ho
      by_cases same : name = index <;> by_cases same' : name = other
      · exact same.symm.trans same'
      · rw [if_pos same] at hi
        rw [if_neg same', ← hi] at ho
        exact absurd ho fresh
      · rw [if_pos same'] at ho
        rw [if_neg same, ← ho] at hi
        exact absurd hi fresh
      · rw [if_neg same] at hi
        rw [if_neg same'] at ho
        exact h.own hi ho

theorem isKnown_guardOf (h : table.Sound) (name index : String) :
    (table.guardOf name).2.isKnown index = table.isKnown index := by
  cases hn : table.number? name with
  | some number => rw [guardOf_of_some hn]
  | none =>
    rw [isKnown, number?_guardOf, guardOf_of_none hn, isKnown]
    by_cases same : name = index
    · rw [if_pos same, ← same, hn]
      simp only [List.getElem?_concat_length]
      decide
    · rw [if_neg same]
      cases hi : table.number? index with
      | none => rfl
      | some number =>
        dsimp only
        rw [List.getElem?_append_left (h.bound hi)]

theorem Sound.guardOf_eq (h : table.Sound) {name : String} {number : Nat} {after : ReadyTable}
    (looked : table.guardOf name = (number, after)) :
    after.Sound ∧ after.number? name = some number ∧
      ∀ index, after.isKnown index = table.isKnown index := by
  have sound := h.guardOf name
  have own := number?_guardOf table name name
  have known := isKnown_guardOf h name
  rw [looked] at sound own known
  rw [if_pos rfl] at own
  exact ⟨sound, own, known⟩

theorem Sound.set (h : table.Sound) (number : Nat) (guard : Guard) :
    Sound { table with guards := table.guards.set number guard } where
  bound hi := by
    rw [List.length_set]
    exact h.bound hi
  own hi ho := h.own hi ho

/-- What is known after a guard has changed. -/
theorem isKnown_set (h : table.Sound) {name : String} {number : Nat}
    (hn : table.number? name = some number) (guard : Guard) (index : String) :
    isKnown { table with guards := table.guards.set number guard } index =
      if name = index then guard == Guard.ready else table.isKnown index := by
  have numbers : number? { table with guards := table.guards.set number guard } index =
    table.number? index := rfl
  rw [isKnown, numbers]
  by_cases same : name = index
  · rw [if_pos same, ← same, hn]
    dsimp only
    rw [List.getElem?_set_self (h.bound hn)]
    rfl
  · rw [if_neg same, isKnown]
    cases hi : table.number? index with
    | none => rfl
    | some other =>
      have apart : number ≠ other := by
        rintro rfl
        exact same (h.own hn hi)
      dsimp only
      rw [List.getElem?_set_ne apart]

theorem Sound.forget (h : table.Sound) (name : String) : (table.forget name).Sound where
  bound {index number} hi := by
    rw [number?_forget] at hi
    split at hi
    · cases hi
    · exact h.bound hi
  own {index other number} hi ho := by
    rw [number?_forget] at hi ho
    split at hi
    · cases hi
    split at ho
    · cases ho
    · exact h.own hi ho

theorem isKnown_forget (table : ReadyTable) (name index : String) :
    (table.forget name).isKnown index = if name = index then false else table.isKnown index := by
  rw [isKnown, number?_forget]
  by_cases same : name = index
  · rw [if_pos same, if_pos same]
  · rw [if_neg same, if_neg same]
    rfl

/-- A guard is left alone if the index is known to be ready, and entered otherwise. -/
theorem enter?_cases {number : Nat} {isReady : Bool} {after : ReadyTable}
    (h : table.enter? number = some (isReady, after)) {name : String}
    (hn : table.number? name = some number) :
    isReady = table.isKnown name ∧ after =
      if isReady then table else { table with guards := table.guards.set number .entered } := by
  rw [isKnown, hn]
  rw [enter?] at h
  split at h
  · next ready =>
    cases h
    simp only [ready]
    exact ⟨rfl, rfl⟩
  · next vacant =>
    cases h
    simp only [vacant]
    exact ⟨rfl, rfl⟩
  · cases h

/-- A guard that is entered and left makes its index known if the set-up was a success, and changes
nothing that is known of others. -/
theorem Sound.leave_entered (h : table.Sound) {name : String} {number : Nat}
    (hn : table.number? name = some number) (success : Bool) {after : ReadyTable}
    (ha : after = leave { table with guards := table.guards.set number .entered } number success) :
    after.Sound ∧ after.isKnown name = success ∧
      ∀ other, name ≠ other → after.isKnown other = table.isKnown other := by
  have inside : Sound { table with guards := table.guards.set number .entered } :=
    h.set number .entered
  subst ha
  refine ⟨inside.set number _, ?_, fun other apart => ?_⟩
  · rw [leave, isKnown_set inside hn, if_pos rfl]
    cases success <;> rfl
  · rw [leave, isKnown_set inside hn, if_neg apart, isKnown_set h hn, if_neg apart]

/-! ## Idle tables -/

/-- Whether nobody is setting an index up. -/
def Idle (table : ReadyTable) : Prop := Guard.entered ∉ table.guards

theorem Idle.empty : Idle {} := List.not_mem_nil

theorem Idle.guardOf (h : table.Idle) (name : String) : (table.guardOf name).2.Idle := by
  cases hn : table.number? name with
  | some number =>
    rw [guardOf_of_some hn]
    exact h
  | none =>
    rw [guardOf_of_none hn]
    intro inside
    rcases List.mem_append.mp inside with inside | inside
    · exact h inside
    · exact absurd (List.mem_singleton.mp inside) (by decide)

theorem Idle.leave (h : table.Idle) (number : Nat) (success : Bool) :
    (table.leave number success).Idle := by
  intro inside
  rcases List.mem_or_eq_of_mem_set inside with inside | inside
  · exact h inside
  · cases success <;> cases inside

theorem enter?_of_known {name : String} {number : Nat} (hn : table.number? name = some number)
    (known : table.isKnown name = true) : table.enter? number = some (true, table) := by
  rw [isKnown, hn] at known
  rw [enter?, beq_iff_eq.mp known]

theorem Idle.enter?_of_unknown (h : table.Idle) (sound : table.Sound) {name : String} {number : Nat}
    (hn : table.number? name = some number) (unknown : table.isKnown name = false) :
    table.enter? number =
      some (false, { table with guards := table.guards.set number .entered }) := by
  have bound := sound.bound hn
  have there := List.getElem?_eq_getElem bound
  rw [isKnown, hn] at unknown
  dsimp only at unknown
  rw [there] at unknown
  rw [enter?, there]
  cases hg : table.guards[number] with
  | vacant => rfl
  | ready => exact absurd (hg ▸ unknown) (by decide)
  | entered => exact absurd (hg ▸ List.getElem_mem bound) h

theorem guardOf_of_known {name : String} (known : table.isKnown name = true) :
    ∃ number, table.number? name = some number ∧ table.guardOf name = (number, table) := by
  rw [isKnown] at known
  split at known
  · next number hn => exact ⟨number, hn, guardOf_of_some hn⟩
  · cases known

/-- The table after somebody has tried to set an index up. -/
def tried (table : ReadyTable) (name : String) (success : Bool) : ReadyTable :=
  (table.guardOf name).2.leave (table.guardOf name).1 success

theorem leave_entered (table : ReadyTable) (number : Nat) (success : Bool) :
    leave { table with guards := table.guards.set number .entered } number success =
      table.leave number success := by
  rw [leave, leave, List.set_set]

/-- An attempt to set an index up decides whether it is known, and changes nothing for others. -/
theorem Sound.tried (h : table.Sound) (name : String) (success : Bool) :
    (table.tried name success).Sound ∧
      ∀ index, (table.tried name success).isKnown index =
        if name = index then success else table.isKnown index := by
  have looked : table.guardOf name = ((table.guardOf name).1, (table.guardOf name).2) := rfl
  obtain ⟨sound, own, same⟩ := h.guardOf_eq looked
  refine ⟨sound.set _ _, fun index => ?_⟩
  rw [ReadyTable.tried, ReadyTable.leave, isKnown_set sound own, same]
  cases success <;> rfl

theorem Idle.tried (h : table.Idle) (name : String) (success : Bool) :
    (table.tried name success).Idle := (h.guardOf name).leave _ success

end EntitySearch.ReadyTable
