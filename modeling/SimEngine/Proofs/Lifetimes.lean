import Mathlib.Algebra.GroupWithZero.Nat
import Mathlib.Data.List.Induction
import Mathlib.Data.List.Nodup
import SimEngine.Cast.Scene
import SimEngine.Proofs.Worlds

/-!
# Lifetimes

A world hands out one entity after the other and takes back none.  So a number
that someone kept after its entity has ended never comes to stand for another
entity: whatever is asked about it, the world knows nothing of it.

**Definitions.**
* `WorldOperation`, `World.operate`: what changes a world.
* `World.after`: the world after a row of operations.
* `World.spawned`, `World.despawned`: the entities that a row of operations
  begins and ends.
* `World.Lacks`: nothing is found of an entity, and nothing can be given to it.

**Results.**
* `World.lacks_of_not_living`: nothing is found of an entity that is not alive.
* `World.register_operate`: what one operation keeps.
* `World.register_after`: the entities of a world after any row of operations.
* `World.lifetimes`: who is alive then, and who never is again.
-/

namespace SimEngine

variable {F : ComponentFamily}

/-- An operation that may change a world. -/
inductive WorldOperation (F : ComponentFamily) where
  | spawn
  | insert (e : Entity) (kind : F.Kind) (value : F.Value kind)
  | remove (e : Entity) (kind : F.Kind)
  | write (e : Entity) (kind : F.Kind) (value : F.Value kind)
  | despawn (e : Entity)

namespace WorldOperation

/-- Whether an operation creates an entity. -/
def isSpawn : WorldOperation F → Bool
  | .spawn => true
  | _ => false

/-- The entity that an operation is given. -/
def target? : WorldOperation F → Option Entity
  | .spawn => none
  | .insert e _ _ => some e
  | .remove e _ => some e
  | .write e _ _ => some e
  | .despawn e => some e

/-- The entity that an operation begins. -/
def spawned? (w : World F) : WorldOperation F → Option Entity
  | .spawn => some w.spawn.1
  | _ => none

/-- The entity that an operation ends. -/
def despawned? (w : World F) : WorldOperation F → Option Entity
  | .despawn e => if w.contains e then some e else none
  | _ => none

end WorldOperation

namespace World

/-- The world after an operation; one that is refused leaves it as it is. -/
def operate (w : World F) : WorldOperation F → World F
  | .spawn => w.spawn.2
  | .insert e kind value => (w.insert e kind value).toOption.getD w
  | .remove e kind => (w.remove e kind).2
  | .write e kind value => (w.set? e kind value).getD w
  | .despawn e => (w.despawn e).toOption.getD w

/-- A world without entities after a row of operations. -/
def after (operations : List (WorldOperation F)) : World F :=
  operations.foldl operate .empty

/-- What is read off each operation of a row, in the world that it meets. -/
def readings (read : World F → WorldOperation F → Option Entity) (w : World F) :
    List (WorldOperation F) → List Entity
  | [] => []
  | operation :: rest => (read w operation).toList ++ readings read (w.operate operation) rest

/-- The entities that a row of operations hands out, the first one first. -/
def spawned (operations : List (WorldOperation F)) : List Entity :=
  readings (fun w operation => operation.spawned? w) .empty operations

/-- The entities that a row of operations ends. -/
def despawned (operations : List (WorldOperation F)) : List Entity :=
  readings (fun w operation => operation.despawned? w) .empty operations

/-- How many entities a row of operations asks for. -/
def spawns (operations : List (WorldOperation F)) : Nat :=
  operations.countP (·.isSpawn)

/--
Nothing is found of an entity.  Giving it data and ending it are refused, and no operation on it
changes the world.
-/
structure Lacks (w : World F) (e : Entity) : Prop where
  contains : w.contains e = false
  component? : ∀ type, w.component? e type = none
  hasType : ∀ type, w.hasType e type = false
  get? : ∀ kind, w.get? e kind = none
  set? : ∀ kind value, w.set? e kind value = none
  componentCount : w.componentCount e = 0
  query : ∀ s, e ∉ w.query s
  insert : ∀ kind value, w.insert e kind value = .error (.entityNotFound e)
  remove : ∀ kind, w.remove e kind = (none, w)
  despawn : w.despawn e = .error (.entityNotFound e)
  operate : ∀ operation : WorldOperation F, operation.target? = some e → w.operate operation = w

/--
The entities that a world has handed out are numbered from one, and those that are alive are
those that have not ended.
-/
structure Register (w : World F) (born ended : List Entity) : Prop where
  next : w.allocator.next = UInt64.ofNat (born.length + 1)
  numbers : born.map (·.id.toNat) = List.range' 1 born.length
  living : ∀ e, e ∈ w.living ↔ e ∈ born ∧ e ∉ ended
  ended : ∀ e ∈ ended, e ∈ born

section Living

variable (w : World F)

theorem mem_living_iff (e : Entity) :
    e ∈ w.living ↔ ∃ components, w.entities.find? e = some components :=
  w.entities.mem_keys_iff e

theorem contains_iff (e : Entity) : w.contains e = true ↔ e ∈ w.living := by
  rw [mem_living_iff, contains, OrderedMap.contains, Option.isSome_iff_exists]

theorem living_modifyEntity (e : Entity) (f : ComponentMap F → ComponentMap F) :
    (w.modifyEntity e f).living = w.living :=
  w.entities.keys_modify e f

theorem mem_living_spawn (e : Entity) :
    e ∈ w.spawn.2.living ↔ e ∈ w.living ∨ e = w.spawn.1 := by
  rw [mem_living_iff, mem_living_iff]
  show (∃ components, (w.entities.insert w.spawn.1 ∅).find? e = some components) ↔ _
  by_cases hnew : e = w.spawn.1
  · rw [hnew, OrderedMap.find?_insert_self]
    exact iff_of_true ⟨_, rfl⟩ (Or.inr rfl)
  · rw [OrderedMap.find?_insert_of_ne _ hnew]
    exact (or_iff_left hnew).symm

theorem mem_living_erase (e other : Entity) :
    other ∈ (⟨w.allocator, w.entities.erase e⟩ : World F).living ↔
      other ∈ w.living ∧ other ≠ e := by
  rw [mem_living_iff, mem_living_iff]
  by_cases heq : other = e
  · rw [heq, OrderedMap.find?_erase_self]
    exact iff_of_false (fun ⟨_, h⟩ => nomatch h) (fun h => h.2 rfl)
  · rw [OrderedMap.find?_erase_of_ne _ heq]
    exact (and_iff_left heq).symm

variable {w}

/-- **Nothing is found of an entity that is not alive.** -/
theorem lacks_of_not_living {e : Entity} (h : e ∉ w.living) : w.Lacks e := by
  have hnone : w.entities.find? e = none := by
    rw [Option.eq_none_iff_forall_ne_some]
    exact fun components hfind => h ((w.mem_living_iff e).2 ⟨components, hfind⟩)
  have habsent : w.contains e = false := by
    rw [contains, OrderedMap.contains, hnone]
    rfl
  have hbare : ∀ type, w.component? e type = none := by
    intro type
    rw [World.component?, hnone]
    rfl
  have hget : ∀ kind, w.get? e kind = none := by
    intro kind
    rw [World.get?, hbare]
    rfl
  have hset : ∀ kind value, w.set? e kind value = none := by
    intro kind value
    rw [World.set?, hget]
    rfl
  have hinsert : ∀ kind value, w.insert e kind value = .error (.entityNotFound e) := by
    intro kind value
    rw [World.insert, habsent]
    rfl
  have hremove : ∀ kind, w.remove e kind = (none, w) := by
    intro kind
    rw [World.remove, hbare]
  have hdespawn : w.despawn e = .error (.entityNotFound e) := by
    rw [World.despawn, habsent]
    rfl
  constructor
  case contains => exact habsent
  case component? => exact hbare
  case hasType => exact fun type => by rw [World.hasType, hbare, Option.isSome_none]
  case get? => exact hget
  case set? => exact hset
  case componentCount => rw [World.componentCount, hnone]
  case query =>
    intro s hmem
    unfold World.query at hmem
    split at hmem
    · cases hmem
    · exact h (List.mem_filter.1 hmem).1
  case insert => exact hinsert
  case remove => exact hremove
  case despawn => exact hdespawn
  case operate =>
    intro operation htarget
    cases operation with
    | spawn => cases htarget
    | insert other kind value =>
        obtain rfl := Option.some.inj htarget
        rw [World.operate, hinsert]
        rfl
    | remove other kind =>
        obtain rfl := Option.some.inj htarget
        rw [World.operate, hremove]
    | write other kind value =>
        obtain rfl := Option.some.inj htarget
        rw [World.operate, hset]
        rfl
    | despawn other =>
        obtain rfl := Option.some.inj htarget
        rw [World.operate, hdespawn]
        rfl

end Living

section Rows

variable {w : World F} {operations : List (WorldOperation F)} {born ended : List Entity}

theorem after_concat (operation : WorldOperation F) :
    after (operations ++ [operation]) = (after operations).operate operation := by
  rw [after, List.foldl_append]
  rfl

theorem readings_concat
    (read : World F → WorldOperation F → Option Entity) (operation : WorldOperation F) :
    readings read w (operations ++ [operation]) =
      readings read w operations ++ (read (operations.foldl World.operate w) operation).toList := by
  induction operations generalizing w with
  | nil =>
      exact List.append_nil _
  | cons first rest ih =>
      rw [List.cons_append, readings, readings, ih, List.append_assoc]
      rfl

/-- What an operation other than a creation or an end does to the register: nothing. -/
theorem Register.congr (h : Register w born ended) {w' : World F}
    (hallocator : w'.allocator = w.allocator) (hliving : w'.living = w.living) :
    Register w' born ended where
  next := by rw [hallocator, h.next]
  numbers := h.numbers
  living := by rw [hliving]; exact h.living
  ended := h.ended

theorem Register.spawn (h : Register w born ended) (hroom : born.length + 1 < UInt64.size) :
    Register w.spawn.2 (born ++ [w.spawn.1]) ended := by
  have hnumber : w.spawn.1.id.toNat = born.length + 1 := by
    show w.allocator.next.toNat = _
    rw [h.next]
    exact UInt64.toNat_ofNat_of_lt' hroom
  have hnew : w.spawn.1 ∉ born := by
    intro hmem
    have hbound : w.spawn.1.id.toNat ∈ List.range' 1 born.length :=
      h.numbers ▸ List.mem_map_of_mem hmem
    rw [List.mem_range'_1] at hbound
    omega
  constructor
  case next =>
    show w.allocator.next + 1 = _
    rw [h.next, List.length_append, List.length_singleton]
    exact (UInt64.ofNat_add _ _).symm
  case numbers =>
    rw [List.map_append, h.numbers, List.map_singleton, hnumber, List.length_append,
      List.length_singleton, List.range'_1_concat, Nat.add_comm 1]
  case living =>
    intro e
    rw [mem_living_spawn, h.living, List.mem_append, List.mem_singleton]
    constructor
    · rintro (⟨hborn, hlasting⟩ | rfl)
      · exact ⟨Or.inl hborn, hlasting⟩
      · exact ⟨Or.inr rfl, fun hended => hnew (h.ended _ hended)⟩
    · rintro ⟨hborn | hlast, hlasting⟩
      · exact Or.inl ⟨hborn, hlasting⟩
      · exact Or.inr hlast
  case ended => exact fun e he => List.mem_append_left _ (h.ended e he)

theorem Register.despawn (h : Register w born ended) {e : Entity} (halive : e ∈ w.living) :
    Register ⟨w.allocator, w.entities.erase e⟩ born (ended ++ [e]) where
  next := h.next
  numbers := h.numbers
  living other := by
    rw [mem_living_erase, h.living, List.mem_append, List.mem_singleton, not_or, and_assoc]
  ended other hother := by
    rcases List.mem_append.1 hother with hbefore | hnow
    · exact h.ended other hbefore
    · rw [List.mem_singleton.1 hnow]
      exact ((h.living e).1 halive).1

/-- **What one operation keeps**: entities are numbered on, and one that has ended stays so. -/
theorem register_operate (h : Register w born ended) (operation : WorldOperation F)
    (hroom : operation.isSpawn = true → born.length + 1 < UInt64.size) :
    Register (w.operate operation) (born ++ (operation.spawned? w).toList)
      (ended ++ (operation.despawned? w).toList) := by
  cases operation with
  | spawn =>
      simp only [WorldOperation.spawned?, WorldOperation.despawned?, Option.toList_none,
        List.append_nil]
      exact h.spawn (hroom rfl)
  | insert e kind value =>
      simp only [WorldOperation.spawned?, WorldOperation.despawned?, Option.toList_none,
        List.append_nil]
      rw [operate, insert]
      split
      · exact h.congr rfl (w.living_modifyEntity e _)
      · exact h
  | remove e kind =>
      simp only [WorldOperation.spawned?, WorldOperation.despawned?, Option.toList_none,
        List.append_nil]
      rw [operate, remove]
      split
      · exact h
      · exact h.congr rfl (w.living_modifyEntity e _)
  | write e kind value =>
      simp only [WorldOperation.spawned?, WorldOperation.despawned?, Option.toList_none,
        List.append_nil]
      rw [operate, set?]
      split
      · exact h.congr rfl (w.living_modifyEntity e _)
      · exact h
  | despawn e =>
      simp only [WorldOperation.spawned?, WorldOperation.despawned?, Option.toList_none,
        List.append_nil]
      rw [operate, World.despawn]
      split
      · rename_i hcontains
        exact h.despawn ((w.contains_iff e).1 hcontains)
      · rwa [Option.toList_none, List.append_nil]

theorem register_empty : Register (.empty : World F) [] [] where
  next := rfl
  numbers := rfl
  living _ := iff_of_false List.not_mem_nil (fun h => List.not_mem_nil h.1)
  ended _ he := he

theorem length_spawned (operations : List (WorldOperation F)) :
    (spawned operations).length = spawns operations := by
  induction operations using List.reverseRecOn with
  | nil =>
      rfl
  | append_singleton past operation ih =>
      rw [spawned, readings_concat, List.length_append, spawns, List.countP_append,
        List.countP_singleton]
      refine congrArg₂ (· + ·) ih ?_
      cases operation <;> rfl

/-- **The entities of a world after any row of operations**, by induction on those operations. -/
theorem register_after (hroom : spawns operations + 1 < UInt64.size) :
    Register (after operations) (spawned operations) (despawned operations) := by
  induction operations using List.reverseRecOn with
  | nil =>
      exact register_empty
  | append_singleton past operation ih =>
      rw [spawns, List.countP_append, List.countP_singleton] at hroom
      rw [after_concat, spawned, readings_concat, despawned, readings_concat]
      refine register_operate (ih (by rw [spawns]; omega)) operation fun hspawn => ?_
      rw [if_pos hspawn] at hroom
      rw [length_spawned, spawns]
      omega

end Rows

/--
**Who is alive after any row of operations, and who never is again.**  Entities are handed out in
the order of their numbers, from one on, so none is handed out twice.  Those that are alive are
listed in ascending order, and they are the ones that were begun and not ended.  Nothing is found of
one that has ended, whatever was done since.
-/
theorem lifetimes {operations : List (WorldOperation F)} (h : spawns operations < 2 ^ 64 - 1) :
    (spawned operations).map (·.id.toNat) = List.range' 1 (spawns operations) ∧
    (spawned operations).Nodup ∧
    Entity.null ∉ spawned operations ∧
    (∀ e ∈ (after operations).living, 1 ≤ e.id.toNat ∧ e.id.toNat ≤ spawns operations) ∧
    (after operations).living.Pairwise (· < ·) ∧
    (∀ e, e ∈ (after operations).living ↔ e ∈ spawned operations ∧ e ∉ despawned operations) ∧
    ∀ e ∈ despawned operations, (after operations).Lacks e := by
  have hregister : Register (after operations) (spawned operations) (despawned operations) :=
    register_after (Nat.add_lt_of_lt_sub h)
  have hnumbers := hregister.numbers
  rw [length_spawned] at hnumbers
  have hrange : ∀ e ∈ spawned operations, 1 ≤ e.id.toNat ∧ e.id.toNat ≤ spawns operations := by
    intro e he
    have hmem : e.id.toNat ∈ List.range' 1 (spawns operations) :=
      hnumbers ▸ List.mem_map_of_mem he
    rw [List.mem_range'_1] at hmem
    omega
  refine ⟨hnumbers, ?_, ?_, ?_, ?_, hregister.living, ?_⟩
  · refine List.Nodup.of_map (·.id.toNat) ?_
    rw [hnumbers]
    exact List.nodup_range'
  · intro hnull
    exact absurd (hrange _ hnull).1 (by decide)
  · exact fun e he => hrange e ((hregister.living e).1 he).1
  · exact (after operations).entities.ascending_keys
  · intro e hended
    refine lacks_of_not_living fun halive => ?_
    exact ((hregister.living e).1 halive).2 hended

namespace Stale

/-- Of two entities the first one ends; later its number is used again, and a third one begins. -/
def operations : List (WorldOperation sceneData) :=
  [.spawn, .spawn, .insert ⟨1⟩ DataKind.name "first", .despawn ⟨1⟩,
    .insert ⟨1⟩ DataKind.name "again", .despawn ⟨1⟩, .spawn]

end Stale

/-- The number of the entity that has ended stands for nothing once another one has begun. -/
theorem lifetimes_stale :
    spawns Stale.operations < 2 ^ 64 - 1 ∧
    (spawned Stale.operations).map (·.id.toNat) = [1, 2, 3] ∧
    (∀ e, e ∈ (after Stale.operations).living ↔ e = ⟨2⟩ ∨ e = ⟨3⟩) ∧
    (after Stale.operations).Lacks ⟨1⟩ := by
  have hfew : spawns Stale.operations < 2 ^ 64 - 1 := by decide
  obtain ⟨hnumbers, -, -, -, -, hliving, hlacks⟩ := lifetimes hfew
  have hspawned : spawned Stale.operations = [⟨1⟩, ⟨2⟩, ⟨3⟩] := by decide +kernel
  have hdespawned : despawned Stale.operations = [⟨1⟩] := by decide +kernel
  refine ⟨hfew, hnumbers, fun e => ?_, hlacks _ (by simp [hdespawned])⟩
  rw [hliving, hspawned, hdespawned]
  constructor
  · rintro ⟨hborn, hlasting⟩
    simp only [List.mem_cons, List.not_mem_nil, or_false] at hborn hlasting
    tauto
  · rintro (rfl | rfl) <;> decide

end World
end SimEngine
