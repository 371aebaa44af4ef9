import SimEngine.Engine.QueryList
import SimEngine.Proofs.Rolls

/-!
# Query lists under change

A query list is a roll of its waiting queries.  While a delivery is in progress
its queries are in flight; a change that drops one of them leaves a mark.

**Definitions.**
* `QueryList.change`: registering, cancelling and clearing as changes of a roll.
* `QueryList.Orderly`: what all query lists have in common.

**Results.**
* `QueryList.orderly_changes`: changes keep a list orderly.
* `QueryList.roll_changes`: which queries wait after a sequence of changes.
* `QueryList.mem_cancelled_changes_iff`: which queries in flight are marked.
* `QueryList.queries_settle`: what a list holds once a delivery has ended.
-/

namespace SimEngine
namespace QueryList

variable {κ : Type}

/-- The query that a registration under a number makes. -/
def registered (id : Nat) (entry : Signature × κ) : PendingQuery κ :=
  ⟨id, entry.1, entry.2⟩

/-- Registers, cancels or clears. -/
def change (l : QueryList κ) : Roll.Change (Signature × κ) → QueryList κ
  | .enter entry => l.register entry.1 entry.2
  | .leave id => (l.cancel id).2
  | .dissolve => l.clear

/-- The number of the next query and the waiting queries. -/
def roll (l : QueryList κ) : Nat × List (PendingQuery κ) :=
  (l.lastId + 1, l.queries)

/--
The waiting queries stand in the order of their numbers, no number is used twice, and marks are
on queries in flight only.
-/
structure Orderly (l : QueryList κ) : Prop where
  ascending : (l.queries.map PendingQuery.id).Pairwise (· < ·)
  waiting_le : ∀ q ∈ l.queries, q.id ≤ l.lastId
  flying_le : ∀ id ∈ l.inFlight, id ≤ l.lastId
  flying_gone : ∀ q ∈ l.queries, q.id ∉ l.inFlight
  cancelled_flying : ∀ id ∈ l.cancelled, id ∈ l.inFlight

theorem isWaiting_iff (l : QueryList κ) (id : Nat) :
    l.isWaiting id = true ↔ ∃ q ∈ l.queries, q.id = id := by
  simp [isWaiting]

/-- Of a list with ascending numbers, taking out the first query of a number takes out all. -/
theorem eraseP_eq_filter
    {queries : List (PendingQuery κ)} (h : (queries.map PendingQuery.id).Pairwise (· < ·))
    (id : Nat) :
    (queries.eraseP fun q => q.id == id) = queries.filter fun q => q.id != id := by
  induction queries with
  | nil =>
      rfl
  | cons q rest ih =>
      rw [List.map_cons, List.pairwise_cons] at h
      obtain ⟨hlt, hrest⟩ := h
      by_cases hid : q.id = id
      · have hkeep : ∀ r ∈ rest, (r.id != id) = true := by
          intro r hr
          have := hlt r.id (List.mem_map_of_mem hr)
          rw [bne_iff_ne]
          omega
        simp [hid, List.filter_eq_self.2 hkeep]
      · simp [hid, ih hrest]

theorem lastId_change (l : QueryList κ) (c : Roll.Change (Signature × κ)) :
    l.lastId ≤ (l.change c).lastId := by
  cases c with
  | enter entry =>
      exact Nat.le_succ l.lastId
  | leave id =>
      simp only [change, cancel]
      split
      · exact Nat.le_refl _
      · split <;> exact Nat.le_refl _
  | dissolve =>
      exact Nat.le_refl _

/-- A cancelled query is taken out if it waits, and marked if it is in flight. -/
theorem cancel_queries
    {l : QueryList κ} (h : l.Orderly) (id : Nat) :
    (l.cancel id).2.queries = l.queries.filter fun q => q.id != id := by
  by_cases hwaiting : l.isWaiting id = true
  · simp [cancel, hwaiting, eraseP_eq_filter h.ascending]
  · have hkeep : ∀ q ∈ l.queries, (q.id != id) = true := by
      intro q hq
      rw [bne_iff_ne]
      exact fun hid => hwaiting ((l.isWaiting_iff id).2 ⟨q, hq, hid⟩)
    rw [cancel, if_neg hwaiting, List.filter_eq_self.2 hkeep]
    split <;> rfl

theorem mem_cancelled_cancel_iff
    {l : QueryList κ} (h : l.Orderly) (id other : Nat) :
    other ∈ (l.cancel id).2.cancelled ↔
      other ∈ l.cancelled ∨ (other ∈ l.inFlight ∧ id = other) := by
  by_cases hwaiting : l.isWaiting id = true
  · -- A query that waits is not in flight, so no mark is set.
    obtain ⟨q, hq, hid⟩ := (l.isWaiting_iff id).1 hwaiting
    have hgone := h.flying_gone q hq
    rw [cancel, if_pos hwaiting]
    constructor
    · exact Or.inl
    · rintro (hmark | ⟨hflying, heq⟩)
      · exact hmark
      · rw [hid, heq] at hgone
        exact absurd hflying hgone
  · rw [cancel, if_neg hwaiting]
    by_cases hflying : id ∈ l.inFlight ∧ id ∉ l.cancelled
    · rw [if_pos hflying]
      simp only [List.mem_append, List.mem_singleton]
      constructor
      · rintro (hmark | heq)
        · exact Or.inl hmark
        · rw [heq]
          exact Or.inr ⟨hflying.1, rfl⟩
      · rintro (hmark | ⟨_, heq⟩)
        · exact Or.inl hmark
        · exact Or.inr heq.symm
    · rw [if_neg hflying]
      constructor
      · exact Or.inl
      · rintro (hmark | ⟨hother, heq⟩)
        · exact hmark
        · rw [← heq] at hother ⊢
          by_contra hmark
          exact hflying ⟨hother, hmark⟩

theorem inFlight_change (l : QueryList κ) (c : Roll.Change (Signature × κ)) :
    (l.change c).inFlight = l.inFlight := by
  cases c with
  | enter entry =>
      rfl
  | leave id =>
      simp only [change, cancel]
      split
      · rfl
      · split <;> rfl
  | dissolve =>
      rfl

theorem mem_cancelled_change_iff
    {l : QueryList κ} (h : l.Orderly) (c : Roll.Change (Signature × κ)) (id : Nat) :
    id ∈ (l.change c).cancelled ↔ id ∈ l.cancelled ∨ (id ∈ l.inFlight ∧ c.drops id = true) := by
  cases c with
  | enter entry =>
      simp [change, register, Roll.Change.drops]
  | leave other =>
      simp only [change, mem_cancelled_cancel_iff h, Roll.Change.drops, beq_iff_eq]
  | dissolve =>
      simp only [change, clear, Roll.Change.drops, List.mem_append, List.mem_filter]
      by_cases hmark : id ∈ l.cancelled <;> simp [hmark]

theorem roll_change
    {l : QueryList κ} (h : l.Orderly) (c : Roll.Change (Signature × κ)) :
    (l.change c).roll = Roll.step PendingQuery.id registered l.roll c := by
  cases c with
  | enter entry =>
      rfl
  | leave id =>
      have hlast : (l.cancel id).2.lastId = l.lastId := by
        simp only [cancel]
        split
        · rfl
        · split <;> rfl
      simp [change, roll, Roll.step, cancel_queries h, hlast]
  | dissolve =>
      rfl

theorem Orderly.change
    {l : QueryList κ} (h : l.Orderly) (c : Roll.Change (Signature × κ)) :
    (l.change c).Orderly := by
  have hroll := roll_change h c
  have hflying := inFlight_change l c
  have hlast := lastId_change l c
  -- Queries that wait after the change waited before it, or have the next number.
  have hwaiting : ∀ q ∈ (l.change c).queries,
      q ∈ l.queries ∨ (q.id = l.lastId + 1 ∧ q.id ≤ (l.change c).lastId) := by
    intro q hq
    have hqueries := congrArg Prod.snd hroll
    rw [roll, roll] at hqueries
    simp only at hqueries
    rw [hqueries] at hq
    cases c with
    | enter entry =>
        rcases List.mem_append.1 hq with hq | hq
        · exact Or.inl hq
        · rw [List.mem_singleton.1 hq]
          exact Or.inr ⟨rfl, Nat.le_refl _⟩
    | leave id =>
        exact Or.inl (List.mem_filter.1 hq).1
    | dissolve =>
        simp [Roll.step] at hq
  refine ⟨?_, ?_, ?_, ?_, ?_⟩
  · have hqueries : (l.change c).queries = _ := congrArg Prod.snd hroll
    rw [hqueries]
    cases c with
    | enter entry =>
        simp only [Roll.step, roll, List.map_append, List.pairwise_append]
        refine ⟨h.ascending, List.pairwise_singleton _ _, ?_⟩
        intro id hid other hother
        obtain ⟨q, hq, rfl⟩ := List.mem_map.1 hid
        have hle := h.waiting_le q hq
        have hnew : other = l.lastId + 1 := List.mem_singleton.1 hother
        omega
    | leave id =>
        exact h.ascending.sublist (List.filter_sublist.map PendingQuery.id)
    | dissolve =>
        exact List.Pairwise.nil
  · intro q hq
    rcases hwaiting q hq with hq | ⟨_, hle⟩
    · exact Nat.le_trans (h.waiting_le q hq) hlast
    · exact hle
  · intro id hid
    rw [hflying] at hid
    exact Nat.le_trans (h.flying_le id hid) hlast
  · intro q hq hid
    rw [hflying] at hid
    rcases hwaiting q hq with hq | ⟨hnew, _⟩
    · exact h.flying_gone q hq hid
    · have := h.flying_le q.id hid
      omega
  · intro id hid
    rw [hflying]
    rcases (mem_cancelled_change_iff h c id).1 hid with hid | ⟨hid, _⟩
    · exact h.cancelled_flying id hid
    · exact hid

section Changes

variable {l : QueryList κ} (h : l.Orderly) (changes : List (Roll.Change (Signature × κ)))

include h

theorem orderly_changes : (changes.foldl change l).Orderly := by
  induction changes generalizing l with
  | nil =>
      exact h
  | cons c changes ih =>
      exact ih (h.change c)

theorem roll_changes :
    (changes.foldl change l).roll =
      changes.foldl (Roll.step PendingQuery.id registered) l.roll := by
  induction changes generalizing l with
  | nil =>
      rfl
  | cons c changes ih =>
      rw [List.foldl_cons, List.foldl_cons, ih (h.change c), roll_change h c]

omit h in
theorem lastId_changes : l.lastId ≤ (changes.foldl change l).lastId := by
  induction changes generalizing l with
  | nil =>
      exact Nat.le_refl _
  | cons c changes ih =>
      exact Nat.le_trans (lastId_change l c) ih

omit h in
theorem inFlight_changes : (changes.foldl change l).inFlight = l.inFlight := by
  induction changes generalizing l with
  | nil =>
      rfl
  | cons c changes ih =>
      exact ih.trans (inFlight_change l c)

theorem mem_cancelled_changes_iff (id : Nat) :
    id ∈ (changes.foldl change l).cancelled ↔
      id ∈ l.cancelled ∨ (id ∈ l.inFlight ∧ Roll.dropsAny changes id = true) := by
  induction changes generalizing l with
  | nil =>
      simp
  | cons c changes ih =>
      rw [List.foldl_cons, ih (h.change c), mem_cancelled_change_iff h, inFlight_change,
        Roll.dropsAny_cons, Bool.or_eq_true]
      tauto

end Changes

/-- No delivery of the list is in progress. -/
structure AtRest (l : QueryList κ) : Prop where
  orderly : l.Orderly
  landed : l.inFlight = []

namespace AtRest

theorem empty : (QueryList.empty : QueryList κ).AtRest where
  orderly :=
    { ascending := List.Pairwise.nil
      waiting_le := by simp [QueryList.empty]
      flying_le := by simp [QueryList.empty]
      flying_gone := by simp [QueryList.empty]
      cancelled_flying := by simp [QueryList.empty] }
  landed := rfl

theorem change {l : QueryList κ} (h : l.AtRest) (c : Roll.Change (Signature × κ)) :
    (l.change c).AtRest :=
  ⟨h.orderly.change c, (inFlight_change l c).trans h.landed⟩

theorem changes {l : QueryList κ} (h : l.AtRest)
    (changes : List (Roll.Change (Signature × κ))) : (changes.foldl QueryList.change l).AtRest :=
  ⟨orderly_changes h.orderly changes, (inFlight_changes changes).trans h.landed⟩

theorem cancelled_eq_nil {l : QueryList κ} (h : l.AtRest) : l.cancelled = [] := by
  apply List.eq_nil_iff_forall_not_mem.2
  intro id hid
  have hflying := h.orderly.cancelled_flying id hid
  rw [h.landed] at hflying
  cases hflying

theorem orderly_depart {l : QueryList κ} (h : l.AtRest) : l.depart.Orderly where
  ascending := List.Pairwise.nil
  waiting_le := by simp [depart]
  flying_le := by
    intro id hid
    obtain ⟨q, hq, rfl⟩ := List.mem_map.1 hid
    exact h.orderly.waiting_le q hq
  flying_gone := by simp [depart]
  cancelled_flying := by
    intro id hid
    have hcancelled : l.depart.cancelled = [] := h.cancelled_eq_nil
    rw [hcancelled] at hid
    cases hid

variable {l : QueryList κ} (h : l.AtRest) (changes : List (Roll.Change (Signature × κ)))

include h

theorem mem_cancelled_depart_iff {q : PendingQuery κ} (hq : q ∈ l.queries) :
    q.id ∈ (changes.foldl QueryList.change l.depart).cancelled ↔
      Roll.dropsAny changes q.id = true := by
  have hcancelled : l.depart.cancelled = [] := h.cancelled_eq_nil
  have hflying : q.id ∈ l.depart.inFlight := List.mem_map_of_mem hq
  rw [mem_cancelled_changes_iff h.orderly_depart, hcancelled]
  simp [hflying]

theorem queries_depart :
    (changes.foldl QueryList.change l.depart).queries =
      Roll.entered registered (l.lastId + 1) changes := by
  have hroll := congrArg Prod.snd (roll_changes h.orderly_depart changes)
  rw [roll, roll, Roll.foldl_step (fun _ _ => rfl)] at hroll
  exact hroll

/-- **What a list holds once a delivery has ended.** -/
theorem queries_settle :
    ((changes.foldl QueryList.change l.depart).settle l.queries).queries =
      Roll.kept PendingQuery.id l.queries changes
        ++ Roll.entered registered (l.lastId + 1) changes := by
  have hwaiting := h.queries_depart changes
  have hkept : (l.queries.filter fun q =>
        q.id ∉ (changes.foldl QueryList.change l.depart).cancelled) =
      Roll.kept PendingQuery.id l.queries changes := by
    apply List.filter_congr
    intro q hq
    by_cases hdrop : Roll.dropsAny changes q.id = true
    · simp [(h.mem_cancelled_depart_iff changes hq).2 hdrop, hdrop]
    · have hmark := mt (h.mem_cancelled_depart_iff changes hq).1 hdrop
      simp [hmark, hdrop]
  rw [settle]
  simp only [hwaiting, hkept]

theorem settle :
    ((changes.foldl QueryList.change l.depart).settle l.queries).AtRest := by
  have horderly := orderly_changes h.orderly_depart changes
  have hlast : l.lastId ≤ (changes.foldl QueryList.change l.depart).lastId :=
    lastId_changes (l := l.depart) changes
  have hentered : ∀ q ∈ (changes.foldl QueryList.change l.depart).queries,
      l.lastId + 1 ≤ q.id := by
    intro q hq
    rw [h.queries_depart changes] at hq
    exact Roll.le_number_of_mem_entered (fun _ _ => rfl) hq
  refine ⟨⟨?_, ?_, ?_, ?_, ?_⟩, rfl⟩
  · simp only [QueryList.settle, List.map_append, List.pairwise_append]
    refine ⟨h.orderly.ascending.sublist (List.filter_sublist.map PendingQuery.id),
      horderly.ascending, ?_⟩
    intro id hid other hother
    obtain ⟨q, hq, rfl⟩ := List.mem_map.1 hid
    obtain ⟨r, hr, rfl⟩ := List.mem_map.1 hother
    have hle := h.orderly.waiting_le q (List.mem_filter.1 hq).1
    have hge := hentered r hr
    omega
  · intro q hq
    rcases List.mem_append.1 hq with hq | hq
    · exact Nat.le_trans (h.orderly.waiting_le q (List.mem_filter.1 hq).1) hlast
    · exact horderly.waiting_le q hq
  · intro id hid
    cases hid
  · intro q _ hid
    cases hid
  · intro id hid
    cases hid

end AtRest

end QueryList
end SimEngine
