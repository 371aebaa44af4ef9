import Mathlib.Data.List.Basic

/-!
# Rolls

Query lists and channels are rolls: lists of members that are numbered in the
order in which they enter and stay until they leave.  A number is given out
once, so who is on a roll after a number of entries and departures can be told
without following them one by one.

**Results.**
* `foldl_step`: the members after a sequence of changes are those of before whom
  no change drops, in their order, and behind them those who entered meanwhile
  and whom no later change drops.
* `next_foldl_step`: the number that is next after a sequence of changes.
* `mem_entered_iff`: who has entered and was not dropped since.
-/

namespace SimEngine
namespace Roll

/-- A change of a roll. -/
inductive Change (κ : Type) where
  | enter (item : κ)
  | leave (id : Nat)
  /-- Everybody leaves. -/
  | dissolve

variable {κ ρ : Type}

/-- Whether a change drops the member of a number, if there is one. -/
def Change.drops (id : Nat) : Change κ → Bool
  | .enter _ => false
  | .leave other => other == id
  | .dissolve => true

/-- Whether some change of a sequence drops the member of a number. -/
def dropsAny (changes : List (Change κ)) (id : Nat) : Bool :=
  changes.any (Change.drops id)

@[simp] theorem dropsAny_nil (id : Nat) :
    dropsAny ([] : List (Change κ)) id = false :=
  rfl

@[simp] theorem dropsAny_cons (c : Change κ) (changes : List (Change κ)) (id : Nat) :
    dropsAny (c :: changes) id = (c.drops id || dropsAny changes id) :=
  rfl

@[simp] theorem dropsAny_append (first second : List (Change κ)) (id : Nat) :
    dropsAny (first ++ second) id = (dropsAny first id || dropsAny second id) :=
  List.any_append

/-- The number that is next and the members, after one change. -/
def step (number : ρ → Nat) (make : Nat → κ → ρ) : Nat × List ρ → Change κ → Nat × List ρ
  | (next, members), .enter item => (next + 1, members ++ [make next item])
  | (next, members), .leave id => (next, members.filter fun m => number m != id)
  | (next, _), .dissolve => (next, [])

/-- Those who enter by a sequence of changes and whom no later change drops. -/
def entered (make : Nat → κ → ρ) : Nat → List (Change κ) → List ρ
  | _, [] => []
  | next, .enter item :: changes =>
    (if dropsAny changes next then [] else [make next item])
      ++ entered make (next + 1) changes
  | next, .leave _ :: changes => entered make next changes
  | next, .dissolve :: changes => entered make next changes

/-- The members of before whom no change drops. -/
def kept (number : ρ → Nat) (members : List ρ) (changes : List (Change κ)) : List ρ :=
  members.filter fun m => !dropsAny changes (number m)

/-- **Who is on a roll after a sequence of changes.** -/
theorem foldl_step
    {number : ρ → Nat} {make : Nat → κ → ρ} (hmake : ∀ n item, number (make n item) = n)
    (next : Nat) (members : List ρ) (changes : List (Change κ)) :
    (changes.foldl (step number make) (next, members)).2 =
      kept number members changes ++ entered make next changes := by
  induction changes generalizing next members with
  | nil =>
      simp [kept, entered]
  | cons c changes ih =>
      cases c with
      | enter item =>
          simp only [List.foldl_cons, step, ih, kept, entered, List.filter_append]
          by_cases hdrop : dropsAny changes next = true
          · simp [Change.drops, hdrop, hmake]
          · simp [Change.drops, hdrop, hmake]
      | leave id =>
          simp only [List.foldl_cons, step, ih, kept, entered, List.filter_filter]
          congr 1
          apply List.filter_congr
          intro m _
          have hcomm : (number m != id) = !(id == number m) := by
            rw [bne, BEq.comm]
          simp [Change.drops, hcomm, Bool.and_comm]
      | dissolve =>
          simp [List.foldl_cons, step, ih, kept, entered, Change.drops]

theorem le_number_of_mem_entered
    {number : ρ → Nat} {make : Nat → κ → ρ} (hmake : ∀ n item, number (make n item) = n)
    {next : Nat} {changes : List (Change κ)} {m : ρ} (hm : m ∈ entered make next changes) :
    next ≤ number m := by
  induction changes generalizing next with
  | nil =>
      simp [entered] at hm
  | cons c changes ih =>
      cases c with
      | enter item =>
          rcases List.mem_append.1 hm with hm | hm
          · split at hm
            · simp at hm
            · have heq : number m = next := by
                rw [List.mem_singleton.1 hm, hmake]
              exact Nat.le_of_eq heq.symm
          · have := ih hm
            omega
      | leave id =>
          exact ih hm
      | dissolve =>
          exact ih hm

/-- A member of before is still on the roll if and only if no change drops it. -/
theorem mem_foldl_step_iff
    {number : ρ → Nat} {make : Nat → κ → ρ} (hmake : ∀ n item, number (make n item) = n)
    {next : Nat} {members : List ρ} {changes : List (Change κ)} {id : Nat} (hid : id < next) :
    (∃ m ∈ (changes.foldl (step number make) (next, members)).2, number m = id) ↔
      (∃ m ∈ members, number m = id) ∧ dropsAny changes id = false := by
  rw [foldl_step hmake]
  constructor
  · rintro ⟨m, hm, rfl⟩
    rcases List.mem_append.1 hm with hm | hm
    · obtain ⟨hm, hdrop⟩ := List.mem_filter.1 hm
      exact ⟨⟨m, hm, rfl⟩, by simpa using hdrop⟩
    · have := le_number_of_mem_entered hmake hm
      omega
  · rintro ⟨⟨m, hm, rfl⟩, hdrop⟩
    refine ⟨m, List.mem_append_left _ (List.mem_filter.2 ⟨hm, ?_⟩), rfl⟩
    simp [hdrop]

/-- Whether a change makes somebody enter. -/
def Change.enters : Change κ → Bool
  | .enter _ => true
  | _ => false

/-- How many enter by a sequence of changes. -/
def arrivals (changes : List (Change κ)) : Nat :=
  changes.countP Change.enters

@[simp] theorem arrivals_nil : arrivals ([] : List (Change κ)) = 0 :=
  rfl

@[simp] theorem arrivals_cons (c : Change κ) (changes : List (Change κ)) :
    arrivals (c :: changes) = arrivals changes + if c.enters then 1 else 0 :=
  List.countP_cons

theorem next_foldl_step
    (number : ρ → Nat) (make : Nat → κ → ρ) (next : Nat) (members : List ρ)
    (changes : List (Change κ)) :
    (changes.foldl (step number make) (next, members)).1 = next + arrivals changes := by
  induction changes generalizing next members with
  | nil =>
      rfl
  | cons c changes ih =>
      cases c with
      | enter item =>
          rw [List.foldl_cons, step, ih, arrivals_cons, Change.enters, if_pos rfl]
          omega
      | leave id =>
          exact ih next _
      | dissolve =>
          exact ih next _

/-- Those who have entered and were not dropped since. -/
theorem mem_entered_iff
    {make : Nat → κ → ρ} {next : Nat} {changes : List (Change κ)} {m : ρ} :
    m ∈ entered make next changes ↔
      ∃ first item rest, changes = first ++ .enter item :: rest ∧
        m = make (next + arrivals first) item ∧ dropsAny rest (next + arrivals first) = false := by
  induction changes generalizing next with
  | nil =>
      simp [entered]
  | cons c changes ih =>
      have hskip : c.enters = false →
          entered make next (c :: changes) = entered make next changes →
          (m ∈ entered make next (c :: changes) ↔
            ∃ first item rest, c :: changes = first ++ .enter item :: rest ∧
              m = make (next + arrivals first) item ∧
              dropsAny rest (next + arrivals first) = false) := by
        intro henters hentered
        have hshift : ∀ first, next + arrivals (c :: first) = next + arrivals first := by
          simp [henters]
        rw [hentered, ih]
        constructor
        · rintro ⟨first, item, rest, rfl, hm⟩
          exact ⟨c :: first, item, rest, rfl, by rwa [hshift]⟩
        · rintro ⟨first, item, rest, hsplit, hm⟩
          cases first with
          | nil =>
              rw [(List.cons.inj hsplit).1] at henters
              cases henters
          | cons c first =>
              obtain ⟨rfl, rfl⟩ := List.cons.inj hsplit
              rw [hshift] at hm
              exact ⟨first, item, rest, rfl, hm⟩
      cases c with
      | enter item =>
          have hshift : ∀ first : List (Change κ),
              next + arrivals (.enter item :: first) = next + 1 + arrivals first := by
            intro first
            simp only [arrivals_cons, Change.enters, if_true]
            omega
          rw [entered, List.mem_append, ih]
          constructor
          · rintro (hm | ⟨first, other, rest, rfl, rfl, hdrop⟩)
            · by_cases hdrop : dropsAny changes next = true
              · simp [hdrop] at hm
              · rw [if_neg hdrop, List.mem_singleton] at hm
                exact ⟨[], item, changes, rfl, hm, by simpa using hdrop⟩
            · refine ⟨.enter item :: first, other, rest, rfl, ?_⟩
              rw [hshift]
              exact ⟨rfl, hdrop⟩
          · rintro ⟨first, other, rest, hsplit, rfl, hdrop⟩
            cases first with
            | nil =>
                obtain ⟨hitem, rfl⟩ := List.cons.inj hsplit
                obtain rfl := Change.enter.inj hitem
                rw [arrivals_nil, Nat.add_zero] at hdrop ⊢
                simp [hdrop]
            | cons c first =>
                obtain ⟨rfl, rfl⟩ := List.cons.inj hsplit
                rw [hshift] at hdrop ⊢
                exact Or.inr ⟨first, other, rest, rfl, rfl, hdrop⟩
      | leave id =>
          exact hskip rfl rfl
      | dissolve =>
          exact hskip rfl rfl

/-- Numbers are given out in ascending order. -/
theorem le_of_mem_entered {next n : Nat} {changes : List (Change κ)}
    (hn : n ∈ entered (fun number _ => number) next changes) : next ≤ n := by
  have hle : next ≤ id n := le_number_of_mem_entered (fun _ _ => rfl) hn
  exact hle

theorem ascending_entered (next : Nat) (changes : List (Change κ)) :
    (entered (fun n _ => n) next changes).Pairwise (· < ·) := by
  induction changes generalizing next with
  | nil =>
      exact List.Pairwise.nil
  | cons c changes ih =>
      cases c with
      | enter item =>
          refine List.pairwise_append.2 ⟨?_, ih (next + 1), ?_⟩
          · split
            · exact List.Pairwise.nil
            · exact List.pairwise_singleton _ _
          · intro m hm other hother
            have hle := le_of_mem_entered hother
            have heq : m = next := by
              split at hm
              · simp at hm
              · exact List.mem_singleton.1 hm
            exact heq ▸ hle
      | leave id =>
          exact ih next
      | dissolve =>
          exact ih next

end Roll
end SimEngine
