import SimEngine.Vector
import SimEngine.World
/-!
# The data of a scene

The kinds of data that the entities of a scene carry. Counts and aliases are
stored under one component type: an entity carries one of them at most, and
reading the other kind finds nothing.
-/

namespace SimEngine

/-- The kinds of data of a scene. -/
inductive DataKind where
  | tag
  | count
  | alias
  | name
  | velocity
  deriving DecidableEq, Repr

namespace DataKind

/-- What data of a kind consists of. -/
abbrev Value : DataKind → Type
  | .tag => Unit
  | .count => Int
  | .alias => String
  | .name => String
  | .velocity => Vector3

/-- The name of the component type under which data of a kind is stored. -/
def typeName : DataKind → String
  | .tag => "Tag"
  | .count => "Count"
  | .alias => "Count"
  | .name => "Name"
  | .velocity => "Velocity"

/-- The name of a kind. -/
def label : DataKind → String
  | .alias => "Alias"
  | kind => kind.typeName

/-- All kinds. -/
def all : List DataKind :=
  [.tag, .count, .alias, .name, .velocity]

/-- The kind of a name. -/
def ofLabel? (label : String) : Option DataKind :=
  all.find? fun kind => kind.label == label

end DataKind

/-- The data of a scene. -/
@[reducible] def sceneData : ComponentFamily where
  Kind := DataKind
  decEq := inferInstance
  Value := DataKind.Value
  name := DataKind.typeName

/-- The world of a scene. -/
abbrev Scene : Type := World sceneData

end SimEngine
