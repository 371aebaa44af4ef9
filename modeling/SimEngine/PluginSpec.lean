import SimEngine.Entity
import SimEngine.Payload
/-!
# Plugin specifications

Which plugin to load, the entity its system is bound to, and the payload it is
configured with.
-/

namespace SimEngine

/-- A system to be loaded. -/
structure PluginSpec where
  name : String
  entity : Entity
  config : Payload
  deriving Repr, BEq

/-- Entities are written as their number. -/
def Entity.reader : Reader Entity := fun site draft =>
  (Reader.word site draft).map Entity.mk

namespace PluginSpec

/-- The specification of a plugin that is bound to no entity and has no fields. -/
def ofName (name : String) : PluginSpec := ⟨name, .null, .empty⟩

/-- A specification that is being read. -/
structure Slots where
  name : Option String
  entity : Option Entity
  config : Option Json

/-- Specifications are written as records; entity and payload may be left out. -/
def reader : Reader PluginSpec := fun site draft => do
  let shape : Reader.Shape Slots :=
    { name := "struct PluginSpec"
      fields :=
        [Reader.field "name" false Slots.name
            (fun s v => { s with name := some v }) Reader.string,
          Reader.field "entity" true Slots.entity
            (fun s v => { s with entity := some v }) Entity.reader,
          Reader.field "config" true Slots.config
            (fun s v => { s with config := some v }) Reader.tree] }
  let record ← shape.read ⟨none, none, none⟩ site draft
  return {
    name := ← Reader.needed "name" record.name
    entity := record.entity.getD .null
    config := (record.config.map Payload.mk).getD .empty }

/-- The tree that writes a specification. -/
def toJson (s : PluginSpec) : Json :=
  .ofMembers
    [("name", .str s.name), ("entity", .ofNat s.entity.id.toNat), ("config", s.config.tree)]

end PluginSpec
end SimEngine
