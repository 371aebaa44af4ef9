import SimEngine.Cast.Behavior
import SimEngine.Engine.TickLoop
/-!
# Setting a scene

The engine with the systems that come with it, and the entities of a
configuration: each has a name, and a velocity if it is given one.
-/

namespace SimEngine
namespace Cast

/-- Creates one entity of a configuration. -/
def addEntity (scene : Scene) (config : EntityConfig) : Scene :=
  let (e, scene) := scene.spawn
  let scene := (scene.insert e DataKind.name config.name).toOption.getD scene
  match config.velocity with
  | some velocity => (scene.insert e DataKind.velocity velocity).toOption.getD scene
  | none => scene

/-- Creates the entities of a configuration in their order. -/
def populate (configs : List EntityConfig) (scene : Scene) : Scene :=
  configs.foldl addEntity scene

/-- A loader for the systems that come with the engine, and for further plugins. -/
def loader (further : List (String × Factory)) : Loader cast :=
  let builtins := Builtin.all.map fun b => (b.name, Factory.builtin b)
  (builtins ++ further).foldl (fun l (name, factory) => l.register name factory) .empty

/-- An engine without systems. -/
def engine (further : List (String × Factory)) : Engine cast :=
  ⟨.empty, { Environment.initial Memory.empty with loader := loader further }⟩

/-- A loop made from a configuration. -/
def loopOfConfig (further : List (String × Factory)) (config : EngineConfig) :
    Except StartError (TickLoop cast) × Environment cast :=
  TickLoop.ofConfig behavior config populate (engine further)

end Cast
end SimEngine
