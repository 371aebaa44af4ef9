import SimEngine.World
/-!
# Stores

Systems do not know what keeps the entities and their data. They work on a
store, which tells who is alive and hands out what an entity carries under a
component type, whatever the kind of that data. Reading and overwriting data of
a kind goes by way of that: what is found under the type of the kind must be of
the kind. A world is a store.
-/

namespace SimEngine

/-- What systems may ask of whatever keeps the data; `σ` stands for its states. -/
structure ComponentStore (F : ComponentFamily) (σ : Type) where
  /-- The living entities in ascending order. -/
  living : σ → List Entity
  contains : σ → Entity → Bool
  hasType : σ → Entity → ComponentId → Bool
  component? : σ → Entity → ComponentId → Option (Component F)
  /-- A component for writing: what it is, and the state with other data in its place. -/
  slot? : σ → Entity → ComponentId → Option (Component F × (Component F → σ))

namespace ComponentStore

variable {F : ComponentFamily} {σ : Type} (store : ComponentStore F σ)

/-- Whether an entity carries the type of a kind. -/
def carries (s : σ) (e : Entity) (kind : F.Kind) : Bool :=
  store.hasType s e (F.typeOf kind)

/-- The data of a kind that an entity carries. -/
def read? (s : σ) (e : Entity) (kind : F.Kind) : Option (F.Value kind) :=
  (store.component? s e (F.typeOf kind)).bind (·.as? kind)

/-- Overwrites data of a kind that an entity carries. -/
def write? (s : σ) (e : Entity) (kind : F.Kind) (value : F.Value kind) : Option σ :=
  match store.slot? s e (F.typeOf kind) with
  | some (held, put) => (held.as? kind).map fun _ => put ⟨kind, value⟩
  | none => none

end ComponentStore

namespace World

variable {F : ComponentFamily}

/-- A world as a store. -/
def store : ComponentStore F (World F) where
  living := living
  contains := contains
  hasType := hasType
  component? := component?
  slot? w e type :=
    (w.component? e type).map fun held => (held, fun c => w.modifyEntity e (·.insert type c))

end World
end SimEngine
