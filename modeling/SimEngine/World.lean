import SimEngine.Signature
/-!
# Worlds

A world holds the living entities and their components. A component is stored
under its component type together with the kind of its data: reading under the
right type but another kind finds nothing, inserting replaces whatever is
stored under the type, and removing takes it away whatever its kind.
-/

namespace SimEngine

/-- The components of one entity by their types. -/
abbrev ComponentMap (F : ComponentFamily) : Type :=
  OrderedMap ComponentId (Component F)

/-- Living entities and their components. -/
structure World (F : ComponentFamily) where
  allocator : Allocator
  entities : OrderedMap Entity (ComponentMap F)

/-- Why a world refuses an operation. -/
inductive WorldError where
  | entityNotFound (entity : Entity)
  deriving DecidableEq, Repr

/-- The sentence that reports a refusal. -/
def WorldError.message : WorldError → String
  | .entityNotFound e => e.describe ++ " not found"

namespace World

variable {F : ComponentFamily}

/-- A world without entities. -/
def empty : World F := ⟨.fresh, ∅⟩

instance : Inhabited (World F) := ⟨empty⟩

/-- Creates an entity without components. -/
def spawn (w : World F) : Entity × World F :=
  let (e, allocator) := w.allocator.allocate
  (e, ⟨allocator, w.entities.insert e ∅⟩)

/-- Whether an entity is alive. -/
def contains (w : World F) (e : Entity) : Bool :=
  w.entities.contains e

/-- The living entities in ascending order. -/
def living (w : World F) : List Entity :=
  w.entities.keys

/-- The number of living entities. -/
def entityCount (w : World F) : Nat :=
  w.entities.size

/-- The number of components of an entity. -/
def componentCount (w : World F) (e : Entity) : Nat :=
  match w.entities.find? e with
  | some components => components.size
  | none => 0

/-- The component of an entity under a component type. -/
def component? (w : World F) (e : Entity) (type : ComponentId) : Option (Component F) :=
  (w.entities.find? e).bind (·.find? type)

/-- Whether an entity carries a component type. -/
def hasType (w : World F) (e : Entity) (type : ComponentId) : Bool :=
  (w.component? e type).isSome

/-- The data of a kind that an entity carries. -/
def get? (w : World F) (e : Entity) (kind : F.Kind) : Option (F.Value kind) :=
  (w.component? e (F.typeOf kind)).bind (·.as? kind)

/-- Changes the components of an entity that is alive. -/
def modifyEntity (w : World F) (e : Entity) (f : ComponentMap F → ComponentMap F) : World F :=
  { w with entities := w.entities.modify e f }

/-- Gives data to an entity, in place of what it carries under the same component type. -/
def insert (w : World F) (e : Entity) (kind : F.Kind) (value : F.Value kind) :
    Except WorldError (World F) :=
  if w.contains e then
    .ok (w.modifyEntity e (·.insert (F.typeOf kind) ⟨kind, value⟩))
  else
    .error (.entityNotFound e)

/-- Takes away what an entity carries under the type of a kind; the data, if of that kind. -/
def remove (w : World F) (e : Entity) (kind : F.Kind) : Option (F.Value kind) × World F :=
  match w.component? e (F.typeOf kind) with
  | none => (none, w)
  | some taken => (taken.as? kind, w.modifyEntity e (·.erase (F.typeOf kind)))

/-- Overwrites data of a kind that an entity carries. -/
def set? (w : World F) (e : Entity) (kind : F.Kind) (value : F.Value kind) : Option (World F) :=
  if (w.get? e kind).isSome then
    some (w.modifyEntity e (·.insert (F.typeOf kind) ⟨kind, value⟩))
  else
    none

/-- Ends the life of an entity. -/
def despawn (w : World F) (e : Entity) : Except WorldError (World F) :=
  if w.contains e then .ok { w with entities := w.entities.erase e }
  else .error (.entityNotFound e)

/-- Whether an entity has a signature. -/
def satisfies (w : World F) (s : Signature) (e : Entity) : Bool :=
  s.satisfiedBy (w.hasType e)

/-- The living entities of a signature in ascending order. -/
def query (w : World F) (s : Signature) : List Entity :=
  if s.isContradictory then [] else w.living.filter (w.satisfies s)

end World
end SimEngine
