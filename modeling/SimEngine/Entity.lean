import SimEngine.OrderedMap
/-!
# Entities

An entity is a number of 64 bits; zero stands for no entity. Fresh entities are
handed out in ascending order from one.
-/

namespace SimEngine

/-- The identity of an entity. -/
structure Entity where
  id : UInt64
  deriving DecidableEq, Repr

namespace Entity

/-- The entity that stands for none. -/
def null : Entity := ⟨0⟩

instance : Inhabited Entity := ⟨null⟩

/-- Whether the entity stands for none. -/
def isNull (e : Entity) : Bool :=
  e.id == 0

/-- The entity as messages show it. -/
def describe (e : Entity) : String :=
  if e.isNull then "Entity(null)" else "Entity(" ++ toString e.id.toNat ++ ")"

instance : OrderedKey Entity where
  lt a b := a.id < b.id
  decLt a b := inferInstanceAs (Decidable (a.id < b.id))
  irrefl a := OrderedKey.irrefl a.id
  trans := OrderedKey.trans (κ := UInt64)
  connected {a b} hab hba := by
    cases a; cases b
    exact congrArg Entity.mk (OrderedKey.connected (κ := UInt64) hab hba)

end Entity

/-- Hands out entities. -/
structure Allocator where
  next : UInt64
  deriving DecidableEq, Repr

namespace Allocator

/-- An allocator that has handed out nothing. -/
def fresh : Allocator := ⟨1⟩

/-- A fresh entity, and the allocator after it. -/
def allocate (a : Allocator) : Entity × Allocator :=
  (⟨a.next⟩, ⟨a.next + 1⟩)

/-- How many entities were handed out. -/
def count (a : Allocator) : UInt64 :=
  a.next - 1

/-- The next `n` entities, and the allocator after them. -/
def allocateMany (a : Allocator) : Nat → List Entity × Allocator
  | 0 => ([], a)
  | n + 1 =>
    let (e, a) := a.allocate
    let (rest, a) := a.allocateMany n
    (e :: rest, a)

end Allocator
end SimEngine
