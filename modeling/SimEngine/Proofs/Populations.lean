import Mathlib.Data.List.Perm.Basic
import SimEngine.Cast.Scene
import SimEngine.Proofs.Worlds

/-!
# Populations

The entities of a configuration are created one after the other in a world
without entities.  They are numbered from one in the order of the configuration;
each has its name, and a velocity if it is given one, and nothing else.

**Definitions.**
* `EntityConfig.components`: the components of an entity that is given.
* `EntityConfig.numbered?`: which of a list of entities an entity is.
* `Peopled`: the entities of a world are those of a list.
* `Scene.Shows`: the same, told entity by entity.

**Results.**
* `peopled_addEntity`: one more entity is created.
* `peopled_populate`: all are.
* `shows_populate`: what the world then looks like.
-/

namespace SimEngine

/-- The components of an entity of a configuration. -/
def EntityConfig.components (config : EntityConfig) : ComponentMap sceneData :=
  let named := (∅ : ComponentMap sceneData).insert (sceneData.typeOf DataKind.name)
    ⟨DataKind.name, config.name⟩
  match config.velocity with
  | some velocity => named.insert (sceneData.typeOf DataKind.velocity) ⟨DataKind.velocity, velocity⟩
  | none => named

/-- The configuration of an entity, if they are numbered from one. -/
def EntityConfig.numbered? (configs : List EntityConfig) (e : Entity) : Option EntityConfig :=
  if e.id.toNat = 0 then none else configs[e.id.toNat - 1]?

/-- The entities of a world are those of a list, numbered from one. -/
structure Peopled (w : Scene) (configs : List EntityConfig) : Prop where
  next : w.allocator.next = UInt64.ofNat (configs.length + 1)
  found : ∀ e, w.entities.find? e =
    (EntityConfig.numbered? configs e).map EntityConfig.components

/--
The living entities of a world are numbered from one in the order of a list; each has its name,
and a velocity if it is given one, and no other component.
-/
structure Scene.Shows (w : Scene) (configs : List EntityConfig) : Prop where
  living : w.living = (List.range configs.length).map fun k => ⟨UInt64.ofNat (k + 1)⟩
  carried : ∀ k config, configs[k]? = some config → ∀ type,
    w.component? ⟨UInt64.ofNat (k + 1)⟩ type =
      if type = sceneData.typeOf DataKind.name then
        some ⟨DataKind.name, config.name⟩
      else if type = sceneData.typeOf DataKind.velocity then
        config.velocity.map fun velocity => ⟨DataKind.velocity, velocity⟩
      else none

section Populations

variable {w : Scene} {configs : List EntityConfig}

theorem typeOf_velocity_ne_name :
    sceneData.typeOf DataKind.velocity ≠ sceneData.typeOf DataKind.name := by
  decide +kernel

theorem find?_components (config : EntityConfig) (type : ComponentId) :
    config.components.find? type =
      if type = sceneData.typeOf DataKind.name then
        some ⟨DataKind.name, config.name⟩
      else if type = sceneData.typeOf DataKind.velocity then
        config.velocity.map fun velocity => ⟨DataKind.velocity, velocity⟩
      else none := by
  have hnamed : ∀ other, ((∅ : ComponentMap sceneData).insert (sceneData.typeOf DataKind.name)
      ⟨DataKind.name, config.name⟩).find? other =
        if other = sceneData.typeOf DataKind.name then
          some ⟨DataKind.name, config.name⟩
        else none := by
    intro other
    split
    · rename_i hname
      rw [hname, OrderedMap.find?_insert_self]
    · rename_i hname
      rw [OrderedMap.find?_insert_of_ne _ hname, OrderedMap.find?_empty]
  unfold EntityConfig.components
  cases config.velocity with
  | none =>
      simp [hnamed]
  | some velocity =>
      by_cases hvelocity : type = sceneData.typeOf DataKind.velocity
      · subst hvelocity
        simp [typeOf_velocity_ne_name]
      · simp only [OrderedMap.find?_insert_of_ne _ hvelocity, hnamed, if_neg hvelocity]

/-- Who is numbered once there is one more. -/
theorem numbered?_concat (config : EntityConfig) (hsize : configs.length + 1 < UInt64.size)
    (e : Entity) :
    EntityConfig.numbered? (configs ++ [config]) e =
      if e = ⟨UInt64.ofNat (configs.length + 1)⟩ then some config
      else EntityConfig.numbered? configs e := by
  have hnumber : (UInt64.ofNat (configs.length + 1)).toNat = configs.length + 1 :=
    UInt64.toNat_ofNat_of_lt' hsize
  unfold EntityConfig.numbered?
  by_cases hnew : e = ⟨UInt64.ofNat (configs.length + 1)⟩
  · rw [if_pos hnew, hnew]
    simp only [hnumber, Nat.add_sub_cancel]
    rw [if_neg (Nat.succ_ne_zero _), List.getElem?_concat_length]
  · have hother : e.id.toNat ≠ configs.length + 1 := by
      intro heq
      rw [← hnumber] at heq
      exact hnew (congrArg Entity.mk (UInt64.toNat_inj.1 heq))
    rw [if_neg hnew]
    split
    · rfl
    · rcases Nat.lt_or_ge (e.id.toNat - 1) configs.length with hearlier | hlater
      · rw [List.getElem?_append_left hearlier]
      · rw [List.getElem?_eq_none hlater, List.getElem?_eq_none]
        rw [List.length_append, List.length_singleton]
        omega

/-- An entity that is alive takes the data that it is given. -/
theorem find?_insert {e : Entity} {carried : ComponentMap sceneData}
    (h : w.entities.find? e = some carried) (kind : DataKind) (value : DataKind.Value kind)
    (other : Entity) :
    ((World.insert w e kind value).toOption.getD w).entities.find? other =
      if other = e then some (carried.insert (sceneData.typeOf kind) ⟨kind, value⟩)
      else w.entities.find? other := by
  have hthere : w.contains e = true := by
    rw [World.contains, OrderedMap.contains, h]
    rfl
  rw [World.insert, if_pos hthere]
  show (w.entities.modify e _).find? other = _
  split
  · rename_i heq
    rw [heq, OrderedMap.find?_modify_self, h, Option.map_some]
  · rename_i hne
    exact OrderedMap.find?_modify_of_ne _ hne _

theorem allocator_insert (e : Entity) (kind : DataKind) (value : DataKind.Value kind) :
    ((World.insert w e kind value).toOption.getD w).allocator = w.allocator := by
  unfold World.insert
  split <;> rfl

/-- The world after one entity was created. -/
theorem find?_addEntity (config : EntityConfig) (e : Entity) :
    (Cast.addEntity w config).entities.find? e =
      if e = ⟨w.allocator.next⟩ then some config.components else w.entities.find? e := by
  have hborn : ∀ other, w.spawn.2.entities.find? other =
      if other = ⟨w.allocator.next⟩ then some ∅ else w.entities.find? other := by
    intro other
    show (w.entities.insert ⟨w.allocator.next⟩ ∅).find? other = _
    split
    · rename_i heq
      rw [heq, OrderedMap.find?_insert_self]
    · rename_i hne
      exact OrderedMap.find?_insert_of_ne _ hne _
  have hself := hborn ⟨w.allocator.next⟩
  rw [if_pos rfl] at hself
  have hnamed := find?_insert hself DataKind.name config.name
  have hnamed' := hnamed ⟨w.allocator.next⟩
  rw [if_pos rfl] at hnamed'
  unfold Cast.addEntity EntityConfig.components
  simp only [World.spawn, Allocator.allocate] at hnamed hnamed' hborn ⊢
  cases config.velocity with
  | none =>
      simp only [hnamed, hborn]
      split <;> rfl
  | some velocity =>
      simp only [find?_insert hnamed' DataKind.velocity velocity, hnamed, hborn]
      split <;> rfl

theorem allocator_addEntity (config : EntityConfig) :
    (Cast.addEntity w config).allocator = ⟨w.allocator.next + 1⟩ := by
  unfold Cast.addEntity
  simp only
  split
  · exact (allocator_insert _ _ _).trans (allocator_insert _ _ _)
  · exact allocator_insert _ _ _

/-- **One more entity is created.** -/
theorem peopled_addEntity (h : Peopled w configs) (config : EntityConfig)
    (hsize : configs.length + 1 < UInt64.size) :
    Peopled (Cast.addEntity w config) (configs ++ [config]) where
  next := by
    rw [allocator_addEntity, h.next, List.length_append, List.length_singleton]
    exact (UInt64.ofNat_add _ _).symm
  found e := by
    rw [find?_addEntity, numbered?_concat config hsize, h.next, h.found]
    split <;> rfl

theorem peopled_empty : Peopled .empty [] where
  next := rfl
  found e := by
    have hnone : EntityConfig.numbered? [] e = none := by
      unfold EntityConfig.numbered?
      split <;> rfl
    rw [hnone]
    rfl

/-- **All entities are created**, by induction on those that are. -/
theorem peopled_populate {further : List EntityConfig} (h : Peopled w configs)
    (hsize : (configs ++ further).length < UInt64.size) :
    Peopled (Cast.populate further w) (configs ++ further) := by
  induction further generalizing w configs with
  | nil =>
      rwa [List.append_nil]
  | cons config rest ih =>
      rw [List.append_cons] at hsize ⊢
      refine ih (peopled_addEntity h config ?_) hsize
      simp only [List.length_append, List.length_singleton] at hsize
      omega

/-- Ascending lists with the same members are the same. -/
theorem eq_of_ascending {κ : Type} [OrderedKey κ] {first second : List κ}
    (hfirst : first.Pairwise (· < ·)) (hsecond : second.Pairwise (· < ·))
    (hmem : ∀ x, x ∈ first ↔ x ∈ second) : first = second := by
  have hnodup : ∀ {l : List κ}, l.Pairwise (· < ·) → l.Nodup := by
    intro l hl
    refine hl.imp fun hlt heq => ?_
    rw [heq] at hlt
    exact OrderedKey.irrefl _ hlt
  refine ((List.perm_ext_iff_of_nodup (hnodup hfirst) (hnodup hsecond)).2 hmem).eq_of_pairwise
    (fun _ _ _ _ hlt hgt => ?_) hfirst hsecond
  exact absurd (OrderedKey.trans hlt hgt) (OrderedKey.irrefl _)

/-- What a world of numbered entities looks like. -/
theorem Peopled.shows (h : Peopled w configs) (hsize : configs.length < UInt64.size) :
    Scene.Shows w configs := by
  have hnumber : ∀ k, k < configs.length → (UInt64.ofNat (k + 1)).toNat = k + 1 :=
    fun k hk => UInt64.toNat_ofNat_of_lt' (Nat.lt_of_le_of_lt hk hsize)
  have hnumbered : ∀ k, k < configs.length →
      EntityConfig.numbered? configs ⟨UInt64.ofNat (k + 1)⟩ = configs[k]? := by
    intro k hk
    unfold EntityConfig.numbered?
    simp only [hnumber k hk, Nat.add_sub_cancel]
    exact if_neg (Nat.succ_ne_zero k)
  have hascending : ((List.range configs.length).map
      fun k => (⟨UInt64.ofNat (k + 1)⟩ : Entity)).Pairwise (· < ·) := by
    refine List.pairwise_map.2 (List.pairwise_lt_range.imp_of_mem fun hk hl hlt => ?_)
    have hk' := hnumber _ (List.mem_range.1 hk)
    have hl' := hnumber _ (List.mem_range.1 hl)
    show UInt64.ofNat _ < UInt64.ofNat _
    rw [UInt64.lt_iff_toNat_lt, hk', hl']
    omega
  constructor
  case living =>
    refine eq_of_ascending w.entities.ascending_keys hascending fun e => ?_
    rw [World.living, OrderedMap.mem_keys_iff, h.found, List.mem_map]
    constructor
    · rintro ⟨components, hfound⟩
      obtain ⟨config, hconfig, -⟩ := Option.map_eq_some_iff.1 hfound
      unfold EntityConfig.numbered? at hconfig
      split at hconfig
      · cases hconfig
      · rename_i hzero
        have hk := (List.getElem?_eq_some_iff.1 hconfig).1
        refine ⟨e.id.toNat - 1, List.mem_range.2 hk, congrArg Entity.mk ?_⟩
        rw [← UInt64.toNat_inj, hnumber _ hk]
        omega
    · rintro ⟨k, hk, rfl⟩
      rw [hnumbered k (List.mem_range.1 hk), List.getElem?_eq_getElem (List.mem_range.1 hk)]
      exact ⟨_, rfl⟩
  case carried =>
    intro k config hconfig type
    have hk := (List.getElem?_eq_some_iff.1 hconfig).1
    rw [World.component?, h.found, hnumbered k hk, hconfig]
    exact find?_components config type

/-- **What a world looks like that is peopled from a configuration.** -/
theorem shows_populate (hsize : configs.length < UInt64.size) :
    Scene.Shows (Cast.populate configs .empty) configs :=
  (peopled_populate peopled_empty hsize).shows hsize

end Populations
end SimEngine
