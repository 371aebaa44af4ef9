import SimEngine.Proofs.Maps
import SimEngine.World

/-!
# Queries of a world

An overwritten value leaves the component types of every entity as they are, so
it changes the answer to no query.

**Results.**
* `World.component?_set?_of_ne`: a write leaves all other components as they are.
* `World.query_set?`: a write leaves the answers to all queries as they are.
* `World.query_ascending`: an answer lists entities in ascending order.
-/

namespace SimEngine
namespace World

variable {F : ComponentFamily}

theorem component?_modifyEntity
    (w : World F) (e : Entity) (f : ComponentMap F → ComponentMap F)
    (other : Entity) (type : ComponentId) :
    (w.modifyEntity e f).component? other type =
      if other = e then ((w.entities.find? e).map f).bind (·.find? type)
      else w.component? other type := by
  split
  · rename_i h
    subst h
    rw [component?, modifyEntity, OrderedMap.find?_modify_self]
  · rename_i h
    rw [component?, component?, modifyEntity, OrderedMap.find?_modify_of_ne _ h]

theorem hasType_set?
    {w w' : World F} {e : Entity} {kind : F.Kind} {value : F.Value kind}
    (h : w.set? e kind value = some w') (other : Entity) (type : ComponentId) :
    w'.hasType other type = w.hasType other type := by
  unfold set? at h
  split at h
  · rename_i hcarried
    obtain rfl := Option.some.inj h
    rw [hasType, hasType, component?_modifyEntity]
    split
    · rename_i heq
      subst heq
      by_cases htype : type = F.typeOf kind
      · -- The entity carries the type that is written to.
        subst htype
        rw [get?] at hcarried
        cases hfind : w.entities.find? other with
        | none =>
            simp [component?, hfind] at hcarried
        | some components =>
            cases hcomponent : components.find? (F.typeOf kind) with
            | none => simp [component?, hfind, hcomponent] at hcarried
            | some c => simp [component?, hfind, hcomponent]
      · cases hfind : w.entities.find? other with
        | none =>
            simp [component?, hfind]
        | some components =>
            simp [component?, hfind, components.find?_insert_of_ne htype]
    · rfl
  · cases h

/-- A write leaves the components of other entities and of other types as they are. -/
theorem component?_set?_of_ne
    {w w' : World F} {e : Entity} {kind : F.Kind} {value : F.Value kind}
    (h : w.set? e kind value = some w') {other : Entity} {type : ComponentId}
    (hne : other = e → type ≠ F.typeOf kind) :
    w'.component? other type = w.component? other type := by
  unfold set? at h
  split at h
  · obtain rfl := Option.some.inj h
    rw [component?_modifyEntity]
    split
    · rename_i heq
      subst heq
      cases hfind : w.entities.find? other with
      | none =>
          simp [component?, hfind]
      | some components =>
          simp [component?, hfind, components.find?_insert_of_ne (hne rfl)]
    · rfl
  · cases h

theorem living_set?
    {w w' : World F} {e : Entity} {kind : F.Kind} {value : F.Value kind}
    (h : w.set? e kind value = some w') : w'.living = w.living := by
  unfold set? at h
  split at h
  · obtain rfl := Option.some.inj h
    exact w.entities.keys_modify e _
  · cases h

/-- **A write leaves the answers to all queries as they are.** -/
theorem query_set?
    {w w' : World F} {e : Entity} {kind : F.Kind} {value : F.Value kind}
    (h : w.set? e kind value = some w') (s : Signature) : w'.query s = w.query s := by
  have hsatisfies : w'.satisfies s = w.satisfies s := by
    funext other
    have htypes : w'.hasType other = w.hasType other := by
      funext type
      exact hasType_set? h other type
    rw [satisfies, satisfies, htypes]
  rw [query, query, living_set? h, hsatisfies]

theorem query_ascending (w : World F) (s : Signature) :
    (w.query s).Pairwise (· < ·) := by
  have hliving : w.living.Pairwise (· < ·) :=
    List.pairwise_map.2 w.entities.ascending
  unfold query
  split
  · exact List.Pairwise.nil
  · exact hliving.filter _

end World
end SimEngine
