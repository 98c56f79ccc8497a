import EntitySearch.Proofs.Queue.Account

/-!
# What reports list

A job publishes up to three failures. The items without an operation and those that the engine
rejects are listed by reports of their own, which have no position of the job in common. A failure of
the whole request, or of making it visible, lists all items of the job; so it lists again those of the
other reports, and apart from them it says the truth.

* `BulkFailure.Distinct`: reports that list no position twice.
* `BulkPlan.rejected_ofItems`: the items at the positions that are rejected.
* `BulkPlan.Follows.parts`: what a job publishes, with what may be listed twice.
* `BulkPlan.Follows.acknowledged_iff`: which items of a job that is not made visible are written.
-/

namespace EntitySearch

/-- Whether each report lists the items at some positions of a job, and no position is listed twice,
neither by one report nor by two of them. -/
def BulkFailure.Distinct (items : List WorkItem) (reports : List BulkFailure) : Prop :=
  ∃ positions : List (List Nat),
    List.Forall₂ (fun report own => own.map (fun position => items[position]?) =
      report.items.map some) reports positions ∧ positions.flatten.Nodup

/-! ## Positions -/

section Positions

variable {α β : Type} (p : α → Bool) (xs : List α)

/-- The positions of the elements that have a property. -/
def positionsOf : List Nat := (xs.zipIdx.filter fun entry => p entry.1).map (·.2)

theorem map_getElem?_positionsOf : (positionsOf p xs).map (fun position => xs[position]?) =
    (xs.filter p).map some := by
  have at_position : ∀ entry ∈ xs.zipIdx.filter fun entry => p entry.1,
      ((fun position => xs[position]?) ∘ fun entry => entry.2) entry = some entry.1 :=
    fun entry he => List.mk_mem_zipIdx_iff_getElem?.mp (List.mem_filter.mp he).1
  have elements : (xs.zipIdx.filter fun entry => p entry.1).map (·.1) = xs.filter p := by
    have same : (fun entry : α × Nat => p entry.1) = p ∘ fun entry => entry.1 := rfl
    rw [same, ← List.filter_map]
    exact congrArg _ (List.zipIdx_map_fst 0 xs)
  rw [positionsOf, List.map_map, List.map_congr_left at_position, ← elements, List.map_map]
  rfl

theorem nodup_positionsOf : (positionsOf p xs).Nodup := by
  refine (List.filter_sublist.map _).nodup ?_
  rw [List.zipIdx_map_snd]
  exact List.nodup_range'

theorem mem_positionsOf {position : Nat} :
    position ∈ positionsOf p xs ↔ ∃ x, xs[position]? = some x ∧ p x = true := by
  simp [positionsOf, List.mk_mem_zipIdx_iff_getElem?]

theorem filterMap_positionsOf (f : α → β) :
    (positionsOf p xs).filterMap (fun position => (xs[position]?).map f) = (xs.filter p).map f := by
  calc (positionsOf p xs).filterMap (fun position => (xs[position]?).map f)
    _ = ((positionsOf p xs).map fun position => xs[position]?).filterMap (·.map f) := by
      rw [List.filterMap_map]
      rfl
    _ = (xs.filter p).filterMap (some ∘ f) := by
      rw [map_getElem?_positionsOf, List.filterMap_map]
      rfl
    _ = (xs.filter p).map f := congrFun (List.filterMap_eq_map (f := f)) _

end Positions

theorem BulkFailure.distinct_of_filters {items : List WorkItem} {reports : List BulkFailure}
    {properties : List (WorkItem → Bool)}
    (listed : List.Forall₂ (fun report property => report.items = items.filter property) reports
      properties)
    (exclude : properties.Pairwise fun p q => ∀ item, p item = true → ¬ q item = true) :
    Distinct items reports := by
  refine ⟨properties.map (positionsOf · items), ?_, List.nodup_flatten.mpr ⟨?_, ?_⟩⟩
  · refine List.forall₂_map_right_iff.mpr (listed.imp fun report property same => ?_)
    rw [map_getElem?_positionsOf, same]
  · simp only [List.forall_mem_map]
    exact fun property _ => nodup_positionsOf property items
  · refine List.pairwise_map.mpr (exclude.imp fun {p q} h => ?_)
    intro position hp hq
    obtain ⟨item, there, ofP⟩ := (mem_positionsOf p items).mp hp
    obtain ⟨other, same, ofQ⟩ := (mem_positionsOf q items).mp hq
    rw [there] at same
    cases same
    exact h item ofP ofQ

/-- Reports of rejected items, each of which lists the items with a property. -/
structure BulkFailure.ListedBy (items : List WorkItem) (reports : List BulkFailure)
    (properties : List (WorkItem → Bool)) : Prop where
  listed : List.Forall₂ (fun report property => report.items = items.filter property) reports
    properties
  rejected : ∀ report ∈ reports, report.kind = .rejected

namespace BulkFailure.ListedBy

variable {items : List WorkItem} {reports others : List BulkFailure}
  {properties more : List (WorkItem → Bool)}

theorem append (h : ListedBy items reports properties) (ho : ListedBy items others more) :
    ListedBy items (reports ++ others) (properties ++ more) :=
  ⟨List.rel_append h.listed ho.listed, List.forall_mem_append.mpr ⟨h.rejected, ho.rejected⟩⟩

theorem optional {nothing : Prop} [Decidable nothing] {report : BulkFailure}
    {property : WorkItem → Bool} (same : report.items = items.filter property)
    (rejected : report.kind = .rejected) : ∃ own : List (WorkItem → Bool),
      own.Sublist [property] ∧ ListedBy items (if nothing then [] else [report]) own := by
  split
  · exact ⟨[], List.nil_sublist _, .nil, List.forall_mem_nil _⟩
  · exact ⟨[property], .refl _, .cons same .nil, List.forall_mem_singleton.mpr rejected⟩

end BulkFailure.ListedBy

namespace BulkPlan

variable {resolver : Resolver} {items : List WorkItem}

/-! ## The two parts of a job -/

theorem unresolved_eq_filter : (ofItems resolver items).unresolved =
    items.filter fun item => (resolver.operation? item).isNone := by
  induction items with
  | nil => rfl
  | cons item rest ih =>
    rw [ofItems, List.filter_cons, Resolver.operation?, ← ih]
    cases resolver.descriptor item.entityType <;> rfl

theorem items_entries : (ofItems resolver items).entries.map (·.2) =
    items.filter fun item => (resolver.operation? item).isSome := by
  induction items with
  | nil => rfl
  | cons item rest ih =>
    rw [ofItems, List.filter_cons, Resolver.operation?, ← ih]
    cases resolver.descriptor item.entityType <;> rfl

/-- The items that are rejected one by one, by the documents that are refused. -/
theorem rejected_ofItems {response : BulkResponse}
    (h : BulkResponse.OneByOne (ofItems resolver items).operations response) :
    ∃ refused : List String, (ofItems resolver items).rejected response.rejections =
      items.filter fun item =>
        (resolver.operation? item).isSome && refused.contains item.id := by
  obtain ⟨refused, positions⟩ := h
  refine ⟨refused, ?_⟩
  -- the operations and their entries have the same positions
  have entries : response.rejections.map (·.position) =
      positionsOf (fun entry => refused.contains entry.1.id) (ofItems resolver items).entries := by
    rw [positions, operations, List.zipIdx_map, List.filter_map, List.map_map]
    rfl
  have own : ∀ entry ∈ (ofItems resolver items).entries, refused.contains entry.1.id =
      refused.contains entry.2.id := by
    rintro ⟨operation, item⟩ he
    rw [Resolver.id_of_operation? (of_mem_entries he).2]
  calc (ofItems resolver items).rejected response.rejections
    _ = (response.rejections.map (·.position)).filterMap fun position =>
          ((ofItems resolver items).entries[position]?).map (·.2) := by
      rw [List.filterMap_map]
      rfl
    _ = ((ofItems resolver items).entries.filter fun entry =>
          refused.contains entry.1.id).map (·.2) := by
      rw [entries, filterMap_positionsOf]
    _ = ((ofItems resolver items).entries.map (·.2)).filter fun item =>
          refused.contains item.id := by
      rw [List.filter_congr own, List.filter_map]
      rfl
    _ = items.filter fun item =>
          (resolver.operation? item).isSome && refused.contains item.id := by
      rw [items_entries, List.filter_filter]
      exact List.filter_congr fun item _ => Bool.and_comm _ _

/-! ## What a job publishes -/

namespace Follows

variable {assumed stronger : List Operation → BulkResponse → Prop} {course : JobCourse}
  {ledger : Ledger}

theorem mono {plan : BulkPlan} (h : plan.Follows stronger items course ledger)
    (weaker : ∀ {operations response}, stronger operations response →
      assumed operations response) : plan.Follows assumed items course ledger :=
  { h with assumed := fun response hr => weaker (h.assumed response hr) }

/-- **What a job publishes**: reports of single items, which list no position of the job twice, and
behind them at most one failure, which lists all items of the job. -/
theorem parts (h : (ofItems resolver items).Follows BulkResponse.OneByOne items course ledger) :
    ∃ single whole, ledger.published = single ++ whole ∧ BulkFailure.Distinct items single ∧
      (∀ failure ∈ single, failure.kind = .rejected) ∧ whole.length ≤ 1 ∧
      ∀ failure ∈ whole, failure.kind ≠ .rejected ∧ failure.items = items := by
  let unknown : WorkItem → Bool := fun item => (resolver.operation? item).isNone
  have dropped : ∃ own : List (WorkItem → Bool), own.Sublist [unknown] ∧
      BulkFailure.ListedBy items (ofItems resolver items).dropped own :=
    BulkFailure.ListedBy.optional unresolved_eq_filter rfl
  obtain ⟨own, only, listed⟩ := dropped
  have apart : own.Pairwise fun p q => ∀ item, p item = true → ¬ q item = true :=
    (List.pairwise_singleton _ _).sublist only
  rw [h.published]
  cases course with
  | unsent =>
    exact ⟨_, [], rfl, BulkFailure.distinct_of_filters listed.listed apart, listed.rejected,
      Nat.zero_le 1, List.forall_mem_nil _⟩
  | undelivered cause =>
    refine ⟨_, _, rfl, BulkFailure.distinct_of_filters listed.listed apart, listed.rejected,
      Nat.le_refl 1, ?_⟩
    exact List.forall_mem_singleton.mpr ⟨nofun, rfl⟩
  | delivered response invisible =>
    obtain ⟨refused, same⟩ := rejected_ofItems (h.assumed response rfl)
    have rejection : ∃ own : List (WorkItem → Bool), own.Sublist [_] ∧
        BulkFailure.ListedBy items (if response.isSuccess then []
          else [Writer.rejection (ofItems resolver items) response.rejections]) own :=
      BulkFailure.ListedBy.optional same rfl
    obtain ⟨more, onlyMore, listedMore⟩ := rejection
    have listed := listed.append listedMore
    refine ⟨_, JobCourse.hidden items invisible, (List.append_assoc _ _ _).symm,
      BulkFailure.distinct_of_filters listed.listed ?_, listed.rejected, ?_, ?_⟩
    · refine List.Pairwise.sublist (only.append onlyMore) ?_
      refine List.pairwise_pair.mpr fun item none some => ?_
      simp only [unknown, Bool.and_eq_true, Option.isNone_iff_eq_none,
        Option.isSome_iff_ne_none] at none some
      exact some.1 none
    · cases invisible <;> exact Nat.le_of_ble_eq_true rfl
    · cases invisible with
      | none => exact List.forall_mem_nil _
      | some cause => exact List.forall_mem_singleton.mpr ⟨nofun, rfl⟩

/-- **What is written of a job that is not made visible**: all items but those that are reported as
rejected. -/
theorem acknowledged_iff
    (h : (ofItems resolver items).Follows BulkResponse.OneByOne items course ledger)
    {failure : BulkFailure} (published : failure ∈ ledger.published)
    (refresh : failure.kind = .refresh) {item : WorkItem} (listed : item ∈ failure.items) :
    (∃ operation, resolver.operation? item = some operation ∧ operation ∈ ledger.acknowledged) ↔
      ∀ other ∈ ledger.published, other.kind = .rejected → item ∉ other.items := by
  obtain ⟨single, whole, same, -, rejected, size, all⟩ := h.parts
  have last : whole = [failure] := by
    rw [same] at published
    rcases List.mem_append.mp published with early | late
    · rw [rejected failure early] at refresh
      cases refresh
    · obtain ⟨first, rfl⟩ := List.length_eq_one_iff.mp
        (Nat.le_antisymm size (List.length_pos_of_mem late))
      rw [List.mem_singleton.mp late]
  subst last
  have kinds : ∀ other ∈ ledger.published, other.kind ≠ .refresh ↔ other.kind = .rejected := by
    intro other ho
    rw [same] at ho
    rcases List.mem_append.mp ho with early | late
    · simp [rejected other early]
    · simp [List.mem_singleton.mp late, refresh]
  have inJob : item ∈ items := (all failure List.mem_cons_self).2 ▸ listed
  have fate := (h.mono BulkResponse.OneByOne.byId).accounted.mem_undelivered_iff inJob
  simp only [Ledger.account, List.mem_flatMap, BulkFailure.mem_undelivered] at fate
  constructor
  · rintro ⟨operation, ho, acknowledged⟩ other published kind reported
    exact fate.mp ⟨other, published, (kinds other published).mpr kind, reported⟩ operation ho
      acknowledged
  · intro unreported
    by_contra unwritten
    obtain ⟨other, published, kind, reported⟩ := fate.mpr fun operation ho acknowledged =>
      unwritten ⟨operation, ho, acknowledged⟩
    exact unreported other published ((kinds other published).mp kind) reported

end Follows

end BulkPlan

end EntitySearch
