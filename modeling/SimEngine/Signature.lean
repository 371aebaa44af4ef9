import SimEngine.Component
import SimEngine.Json.Decode
/-!
# Component signatures

A signature names the component types an entity must carry and those it must
not carry. Signatures that are built up name each type once in either list;
signatures that are read may repeat types, and may contradict themselves.
-/

namespace SimEngine

/-- Which component types an entity must and must not carry. -/
structure Signature where
  required : List ComponentId
  excluded : List ComponentId
  deriving DecidableEq, Repr

namespace Signature

/-- The signature that every entity has. -/
def any : Signature := ⟨[], []⟩

/-- The list with a type behind it, unless it holds the type. -/
def adjoin (types : List ComponentId) (type : ComponentId) : List ComponentId :=
  if type ∈ types then types else types ++ [type]

/-- Requires a component type. -/
def require (s : Signature) (type : ComponentId) : Signature :=
  { s with required := adjoin s.required type }

/-- Excludes a component type. -/
def exclude (s : Signature) (type : ComponentId) : Signature :=
  { s with excluded := adjoin s.excluded type }

/-- Whether a set of component types has the signature. -/
def satisfiedBy (s : Signature) (has : ComponentId → Bool) : Bool :=
  s.required.all has && !s.excluded.any has

/-- Whether some type is both required and excluded. -/
def isContradictory (s : Signature) : Bool :=
  s.required.any fun type => s.excluded.contains type

/-- The signature with the given lists, built up one type after the other. -/
def ofLists (required excluded : List ComponentId) : Signature :=
  excluded.foldl exclude (required.foldl require any)

/-- A signature that is being read. -/
structure Slots where
  required : Option (List ComponentId)
  excluded : Option (List ComponentId)

/-- Component types are written as their hash. -/
def typeReader : Reader ComponentId := fun site draft =>
  (Reader.word site draft).map ComponentId.mk

/-- Signatures are written as records of their two lists. -/
def reader : Reader Signature := fun site draft => do
  let shape : Reader.Shape Slots :=
    { name := "struct QueryDescriptor"
      fields :=
        [Reader.field "with" false Slots.required
            (fun p v => { p with required := some v }) (Reader.list typeReader),
          Reader.field "without" false Slots.excluded
            (fun p v => { p with excluded := some v }) (Reader.list typeReader)] }
  let record ← shape.read ⟨none, none⟩ site draft
  return ⟨← Reader.needed "with" record.required, ← Reader.needed "without" record.excluded⟩

/-- The tree that writes a list of types. -/
def typesToJson (types : List ComponentId) : Json :=
  .arr (types.map fun type => .ofNat type.hash.toNat)

/-- The tree that writes a signature. -/
def toJson (s : Signature) : Json :=
  .ofMembers [("with", typesToJson s.required), ("without", typesToJson s.excluded)]

end Signature
end SimEngine
