import Mathlib.Data.Finset.Basic
import Mathlib.Data.List.Induction
import SimEngine.Signature

/-!
# What signatures demand

A signature is built up by demands, each about one component type.  It names
every type once in either list, however often it was demanded, and whether a set
of types has the signature depends on what is demanded only, not on the order.
A signature that was read may be any two lists; no set has it exactly if some
type stands in both.

**Definitions.**
* `Signature.Demand`, `Signature.build`: a demand, and the signature that a row
  of demands builds up.
* `FirstOccurrences`: the distinct items of a list, in the order in which they
  first occur there.

**Results.**
* `satisfiedBy_iff`: which sets have a signature.
* `FirstOccurrences.adjoin`: what one demand does to a list.
* `firstOccurrences_build`: the lists of a signature that was built up.
* `satisfiedBy_build`: which sets have such a signature.
* `isContradictory_iff_unsatisfied`: which signatures no set has.
* `demands_of_signatures`: what a signature that was built up demands, and
  whether any signature can be had.
-/

namespace SimEngine

/--
The distinct items of a list, in the order in which they first occur there.  The order is strict, so
no item stands there twice.
-/
structure FirstOccurrences {α : Type} [DecidableEq α] (items all : List α) : Prop where
  mem : ∀ x, x ∈ items ↔ x ∈ all
  ordered : items.Pairwise fun x y => all.idxOf x < all.idxOf y

namespace Signature

/-- A demand on the component types of an entity. -/
inductive Demand where
  | require (type : ComponentId)
  | exclude (type : ComponentId)
  deriving DecidableEq

namespace Demand

/-- The type that a demand requires. -/
def required? : Demand → Option ComponentId
  | .require type => some type
  | .exclude _ => none

/-- The type that a demand excludes. -/
def excluded? : Demand → Option ComponentId
  | .require _ => none
  | .exclude type => some type

end Demand

/-- The signature with one more demand. -/
def demand (s : Signature) : Demand → Signature
  | .require type => s.require type
  | .exclude type => s.exclude type

/-- The signature that a row of demands builds up. -/
def build (demands : List Demand) : Signature :=
  demands.foldl demand any

end Signature

section Lists

variable {items all : List ComponentId}

/-- One more item is put behind the others, unless it occurred before. -/
theorem FirstOccurrences.adjoin (h : FirstOccurrences items all) (type : ComponentId) :
    FirstOccurrences (Signature.adjoin items type) (all ++ [type]) := by
  -- The items occur where they did.
  have hplace : ∀ x ∈ items, (all ++ [type]).idxOf x = all.idxOf x := fun x hx => by
    rw [List.idxOf_append, if_pos ((h.mem x).1 hx)]
  have hordered : items.Pairwise fun x y =>
      (all ++ [type]).idxOf x < (all ++ [type]).idxOf y := by
    refine h.ordered.imp_of_mem fun {x y} hx hy hlt => ?_
    rwa [hplace x hx, hplace y hy]
  rw [Signature.adjoin]
  split
  case isTrue hknown =>
    refine ⟨fun x => ?_, hordered⟩
    rw [h.mem, List.mem_append, List.mem_singleton, or_iff_left_of_imp]
    rintro rfl
    exact (h.mem _).1 hknown
  case isFalse hnew =>
    refine ⟨fun x => ?_, ?_⟩
    · rw [List.mem_append, List.mem_append, h.mem]
    · refine List.pairwise_append.2 ⟨hordered, List.pairwise_singleton _ _, fun x hx y hy => ?_⟩
      obtain rfl := List.mem_singleton.1 hy
      have hlast : (all ++ [y]).idxOf y = all.length := by
        rw [List.idxOf_append, if_neg fun hmem => hnew ((h.mem y).2 hmem)]
        simp
      rw [hplace x hx, hlast]
      exact List.idxOf_lt_length_of_mem ((h.mem x).1 hx)

end Lists

namespace Signature

section Sets

variable (s : Signature) (has : ComponentId → Bool)

/-- **A set has a signature** if it has what is required and nothing that is excluded. -/
theorem satisfiedBy_iff :
    s.satisfiedBy has = true ↔
      (∀ type ∈ s.required, has type = true) ∧ ∀ type ∈ s.excluded, has type = false := by
  simp [satisfiedBy]

theorem isContradictory_iff :
    s.isContradictory = true ↔ ∃ type ∈ s.required, type ∈ s.excluded := by
  simp [isContradictory]

/-- Whoever has all that is required, and nothing else, has a signature without contradictions. -/
theorem satisfiedBy_required (h : s.isContradictory = false) :
    s.satisfiedBy (fun type => decide (type ∈ s.required)) = true := by
  rw [satisfiedBy_iff]
  refine ⟨fun type hrequired => decide_eq_true hrequired, fun type hexcluded => ?_⟩
  refine decide_eq_false fun hrequired => ?_
  rw [s.isContradictory_iff.2 ⟨type, hrequired, hexcluded⟩] at h
  cases h

/-- **No set has a signature** exactly if some type is both required and excluded. -/
theorem isContradictory_iff_unsatisfied :
    s.isContradictory = true ↔ ∀ has, s.satisfiedBy has = false := by
  constructor
  · intro hcontradictory has
    obtain ⟨type, hrequired, hexcluded⟩ := s.isContradictory_iff.1 hcontradictory
    refine Bool.eq_false_of_not_eq_true fun hmet => ?_
    obtain ⟨hhas, hlacks⟩ := (s.satisfiedBy_iff has).1 hmet
    exact Bool.noConfusion ((hhas type hrequired).symm.trans (hlacks type hexcluded))
  · intro hnone
    by_contra hconsistent
    have hmet := s.satisfiedBy_required (Bool.eq_false_of_not_eq_true hconsistent)
    rw [hnone] at hmet
    cases hmet

end Sets

section Rows

variable (demands : List Demand)

theorem build_concat (d : Demand) : build (demands ++ [d]) = (build demands).demand d := by
  rw [build, List.foldl_append]
  rfl

/-- **A signature that was built up** names each demanded type once, in the order of the demands. -/
theorem firstOccurrences_build :
    FirstOccurrences (build demands).required (demands.filterMap Demand.required?) ∧
    FirstOccurrences (build demands).excluded (demands.filterMap Demand.excluded?) := by
  induction demands using List.reverseRecOn with
  | nil =>
      exact ⟨⟨fun _ => Iff.rfl, List.Pairwise.nil⟩, ⟨fun _ => Iff.rfl, List.Pairwise.nil⟩⟩
  | append_singleton past d ih =>
      rw [build_concat, List.filterMap_append, List.filterMap_append]
      cases d with
      | require type =>
          refine ⟨ih.1.adjoin type, ?_⟩
          show FirstOccurrences (build past).excluded (past.filterMap Demand.excluded? ++ [])
          rw [List.append_nil]
          exact ih.2
      | exclude type =>
          refine ⟨?_, ih.2.adjoin type⟩
          show FirstOccurrences (build past).required (past.filterMap Demand.required? ++ [])
          rw [List.append_nil]
          exact ih.1

theorem mem_required_build (type : ComponentId) :
    type ∈ (build demands).required ↔ .require type ∈ demands := by
  rw [(firstOccurrences_build demands).1.mem, List.mem_filterMap]
  constructor
  · rintro ⟨_ | _, hmem, hrequired⟩
    · exact Option.some.inj hrequired ▸ hmem
    · cases hrequired
  · exact fun hmem => ⟨_, hmem, rfl⟩

theorem mem_excluded_build (type : ComponentId) :
    type ∈ (build demands).excluded ↔ .exclude type ∈ demands := by
  rw [(firstOccurrences_build demands).2.mem, List.mem_filterMap]
  constructor
  · rintro ⟨_ | _, hmem, hexcluded⟩
    · cases hexcluded
    · exact Option.some.inj hexcluded ▸ hmem
  · exact fun hmem => ⟨_, hmem, rfl⟩

/-- **Which sets have a signature that was built up**: those that meet every demand. -/
theorem satisfiedBy_build (has : ComponentId → Bool) :
    (build demands).satisfiedBy has = true ↔
      (∀ type, .require type ∈ demands → has type = true) ∧
      ∀ type, .exclude type ∈ demands → has type = false := by
  simp only [satisfiedBy_iff, mem_required_build, mem_excluded_build]

/-- Who meets demands meets some of them. -/
theorem satisfiedBy_build_of_subset {first second : List Demand} (h : first ⊆ second)
    {has : ComponentId → Bool} (hmet : (build second).satisfiedBy has = true) :
    (build first).satisfiedBy has = true := by
  rw [satisfiedBy_build] at hmet ⊢
  exact ⟨fun type hrequired => hmet.1 type (h hrequired),
    fun type hexcluded => hmet.2 type (h hexcluded)⟩

/-- A signature with given lists is built up from what is required, then what is excluded. -/
theorem ofLists_eq_build (required excluded : List ComponentId) :
    ofLists required excluded =
      build (required.map Demand.require ++ excluded.map Demand.exclude) := by
  rw [build, List.foldl_append, List.foldl_map, List.foldl_map]
  rfl

end Rows

/--
**What a signature that was built up demands, and whether any signature can be had.**  Its lists
hold the distinct types of the demands in the order in which they came first.  Which sets have it
depends on the set of the demands: neither their order nor their repetition makes a difference.
Whatever the two lists of a signature are, it contradicts itself exactly if no set of types has it,
and if it does not, some finite set has it.
-/
theorem demands_of_signatures :
    (∀ demands,
      FirstOccurrences (build demands).required (demands.filterMap Demand.required?) ∧
      FirstOccurrences (build demands).excluded (demands.filterMap Demand.excluded?)) ∧
    (∀ required excluded, ofLists required excluded =
      build (required.map Demand.require ++ excluded.map Demand.exclude)) ∧
    (∀ demands has, (build demands).satisfiedBy has = true ↔
      (∀ type, .require type ∈ demands → has type = true) ∧
      ∀ type, .exclude type ∈ demands → has type = false) ∧
    (∀ first second : List Demand, first ⊆ second → second ⊆ first →
      ∀ has, (build first).satisfiedBy has = (build second).satisfiedBy has) ∧
    (∀ s : Signature, s.isContradictory = true ↔ ∀ has, s.satisfiedBy has = false) ∧
    ∀ s : Signature, s.isContradictory = false ↔
      ∃ types : Finset ComponentId, s.satisfiedBy (fun type => decide (type ∈ types)) = true := by
  refine ⟨firstOccurrences_build, ofLists_eq_build, satisfiedBy_build, ?_,
    isContradictory_iff_unsatisfied, fun s => ⟨fun hconsistent => ?_, ?_⟩⟩
  · intro first second hfirst hsecond has
    rw [Bool.eq_iff_iff]
    exact ⟨satisfiedBy_build_of_subset hsecond, satisfiedBy_build_of_subset hfirst⟩
  · refine ⟨s.required.toFinset, ?_⟩
    simpa only [List.mem_toFinset] using s.satisfiedBy_required hconsistent
  · rintro ⟨types, hmet⟩
    refine Bool.eq_false_of_not_eq_true fun hcontradictory => ?_
    rw [s.isContradictory_iff_unsatisfied.1 hcontradictory] at hmet
    cases hmet

namespace Wordy

/-- A row of demands, one of them made twice. -/
def demands : List Demand :=
  [.require ⟨1⟩, .exclude ⟨2⟩, .require ⟨1⟩]

/-- The same demands, each made once. -/
def briefly : List Demand :=
  [.exclude ⟨2⟩, .require ⟨1⟩]

end Wordy

/-- It makes no difference that a type is required twice, and first. -/
theorem demands_of_signatures_wordy :
    Wordy.demands ⊆ Wordy.briefly ∧ Wordy.briefly ⊆ Wordy.demands ∧
    (build Wordy.demands).required = [⟨1⟩] ∧
    ∀ has, (build Wordy.demands).satisfiedBy has = (build Wordy.briefly).satisfiedBy has := by
  have hmore : Wordy.demands ⊆ Wordy.briefly := by decide
  have hless : Wordy.briefly ⊆ Wordy.demands := by decide
  exact ⟨hmore, hless, rfl, demands_of_signatures.2.2.2.1 _ _ hmore hless⟩

end Signature
end SimEngine
