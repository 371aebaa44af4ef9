import SimEngine.Entity
import SimEngine.Text.Quoted
/-!
# Component types

A component type is known by the hash of its name, so two kinds of data with
one name share their type. The hash starts from an offset and takes in the
UTF-8 bytes of the name one by one: exclusive or, then multiplication by a
prime, both in 64 bits.
-/

namespace SimEngine

/-- The identity of a component type. -/
structure ComponentId where
  hash : UInt64
  deriving DecidableEq, Repr

namespace ComponentId

instance : OrderedKey ComponentId where
  lt a b := a.hash < b.hash
  decLt a b := inferInstanceAs (Decidable (a.hash < b.hash))
  irrefl a := OrderedKey.irrefl a.hash
  trans := OrderedKey.trans (κ := UInt64)
  connected {a b} hab hba := by
    cases a; cases b
    exact congrArg ComponentId.mk (OrderedKey.connected (κ := UInt64) hab hba)

/-- The hash of no bytes. -/
def offset : UInt64 := 0xcbf29ce484222325

/-- The factor of each round. -/
def prime : UInt64 := 0x100000001b3

/-- Takes one byte into the hash. -/
def mix (hash : UInt64) (byte : UInt8) : UInt64 :=
  (hash ^^^ byte.toUInt64) * prime

/-- Takes bytes into the hash, the first one first. -/
def mixAll (hash : UInt64) (bytes : List UInt8) : UInt64 :=
  bytes.foldl mix hash

/-- The type of a name given as bytes. -/
def ofBytes (bytes : List UInt8) : ComponentId :=
  ⟨mixAll offset bytes⟩

/-- The type of a name. -/
def ofName (name : String) : ComponentId :=
  ofBytes name.toUTF8.toList

/-- The type as messages show it: sixteen digits in base 16. -/
def describe (c : ComponentId) : String :=
  "0x" ++ Text.paddedHex 16 c.hash.toNat

end ComponentId

/-- The kinds of data that components may hold, each with the name of its component type. -/
structure ComponentFamily where
  Kind : Type
  decEq : DecidableEq Kind
  Value : Kind → Type
  name : Kind → String

namespace ComponentFamily

variable (F : ComponentFamily)

instance : DecidableEq F.Kind := F.decEq

/-- The component type under which data of a kind is stored. -/
def typeOf (kind : F.Kind) : ComponentId :=
  ComponentId.ofName (F.name kind)

end ComponentFamily

/-- Data of some kind. -/
structure Component (F : ComponentFamily) where
  kind : F.Kind
  value : F.Value kind

namespace Component

variable {F : ComponentFamily}

/-- The data, if it is of the given kind. -/
def as? (c : Component F) (kind : F.Kind) : Option (F.Value kind) :=
  if h : c.kind = kind then some (h ▸ c.value) else none

end Component
end SimEngine
