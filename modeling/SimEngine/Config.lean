import SimEngine.Duration
import SimEngine.PluginSpec
import SimEngine.Vector
/-!
# Configurations

What a simulation is started from: the timing of its loop, the entities to
create and the systems to load, in their order. Whatever a configuration leaves
out takes its default; both rates must be positive.
-/

namespace SimEngine

/-- The timing of the loop. -/
structure TickConfig where
  /-- Steps per second. -/
  tickRate : Float
  /-- How many steps to run; zero for no limit. -/
  maxTicks : UInt64
  /-- Scene updates per second. -/
  renderRate : Float
  startPaused : Bool
  deriving BEq, Repr

namespace TickConfig

/-- Sixty steps and thirty scene updates per second, without limit. -/
def default : TickConfig := ⟨60.0, 0, 30.0, false⟩

/-- The time that one step covers, if it can be told. -/
def stepDuration? (c : TickConfig) : Option Duration :=
  Duration.ofSeconds? (1.0 / c.tickRate)

/-- The time between two scene updates, if it can be told. -/
def renderInterval? (c : TickConfig) : Option Duration :=
  Duration.ofSeconds? (1.0 / c.renderRate)

/-- A timing that is being read. -/
structure Slots where
  tickRate : Option Float
  maxTicks : Option UInt64
  renderRate : Option Float
  startPaused : Option Bool

/-- Timings are written as records. -/
def reader : Reader TickConfig := fun site draft => do
  let shape : Reader.Shape Slots :=
    { name := "struct TickConfig"
      fields :=
        [Reader.field "tick_rate" true Slots.tickRate
            (fun s v => { s with tickRate := some v }) Reader.float,
          Reader.field "max_ticks" true Slots.maxTicks
            (fun s v => { s with maxTicks := some v }) Reader.word,
          Reader.field "render_rate" true Slots.renderRate
            (fun s v => { s with renderRate := some v }) Reader.float,
          Reader.field "start_paused" true Slots.startPaused
            (fun s v => { s with startPaused := some v }) Reader.boolean] }
  let record ← shape.read ⟨none, none, none, none⟩ site draft
  return {
    tickRate := record.tickRate.getD default.tickRate
    maxTicks := record.maxTicks.getD default.maxTicks
    renderRate := record.renderRate.getD default.renderRate
    startPaused := record.startPaused.getD default.startPaused }

end TickConfig

/-- An entity to create. -/
structure EntityConfig where
  name : String
  velocity : Option Vector3
  deriving BEq, Repr

namespace EntityConfig

/-- An entity that is being read. -/
structure Slots where
  name : Option String
  velocity : Option (Option Vector3)

/-- Entities to create are written as records. -/
def reader : Reader EntityConfig := fun site draft => do
  let shape : Reader.Shape Slots :=
    { name := "struct EntityConfig"
      fields :=
        [Reader.field "name" false Slots.name
            (fun s v => { s with name := some v }) Reader.string,
          Reader.field "velocity" true Slots.velocity
            (fun s v => { s with velocity := some v }) (Reader.option Vector3.reader)] }
  let record ← shape.read ⟨none, none⟩ site draft
  return ⟨← Reader.needed "name" record.name, record.velocity.join⟩

end EntityConfig

/-- What a simulation is started from. -/
structure EngineConfig where
  tick : TickConfig
  entities : List EntityConfig
  systems : List PluginSpec
  deriving BEq, Repr

/-- Why a configuration is refused. -/
inductive EngineConfigError where
  | misfit (cause : Misfit)
  | rateNotPositive (field : String) (rate : Float)
  deriving Repr

/-- The sentence that reports a refusal. -/
def EngineConfigError.message : EngineConfigError → String
  | .misfit cause => cause.message
  | .rateNotPositive field rate =>
    field ++ " must be positive, got " ++ DecimalStyle.plain.render rate

namespace EngineConfig

/-- No entities, no systems, and the default timing. -/
def default : EngineConfig := ⟨.default, [], []⟩

/-- A configuration that is being read. -/
structure Slots where
  tick : Option TickConfig
  entities : Option (List EntityConfig)
  systems : Option (List PluginSpec)

/-- Configurations are written as records. -/
def reader : Reader EngineConfig := fun site draft => do
  let shape : Reader.Shape Slots :=
    { name := "struct EngineConfig"
      fields :=
        [Reader.field "tick" true Slots.tick
            (fun s v => { s with tick := some v }) TickConfig.reader,
          Reader.field "entities" true Slots.entities
            (fun s v => { s with entities := some v }) (Reader.list EntityConfig.reader),
          Reader.field "systems" true Slots.systems
            (fun s v => { s with systems := some v }) (Reader.list PluginSpec.reader)] }
  let record ← shape.read ⟨none, none, none⟩ site draft
  return ⟨record.tick.getD .default, record.entities.getD [], record.systems.getD []⟩

/-- Accepts a configuration whose rates are positive. -/
def validate (c : EngineConfig) : Except EngineConfigError EngineConfig :=
  if !(c.tick.tickRate > 0.0) then .error (.rateNotPositive "tick_rate" c.tick.tickRate)
  else if !(c.tick.renderRate > 0.0) then
    .error (.rateNotPositive "render_rate" c.tick.renderRate)
  else .ok c

/-- The configuration that a text writes. -/
def ofText (text : String) : Except EngineConfigError EngineConfig :=
  match Reader.ofText reader text with
  | .ok c => c.validate
  | .error cause => .error (.misfit cause)

/-- The tree's text read as a configuration. -/
def ofTree (tree : Json) : Except EngineConfigError EngineConfig :=
  ofText tree.compact

end EngineConfig

/-- Why nothing can be read from a path. -/
inductive FileFault where
  | notFound
  | permissionDenied
  /-- A name within the path stands for a file. -/
  | notADirectory
  | isADirectory
  | nameTooLong
  /-- The file's bytes are no text. -/
  | notText
  | other (details : String)
  deriving DecidableEq, Repr

/-- The sentence that reports why nothing can be read. -/
def FileFault.message : FileFault → String
  | .notFound => "No such file or directory (os error 2)"
  | .permissionDenied => "Permission denied (os error 13)"
  | .notADirectory => "Not a directory (os error 20)"
  | .isADirectory => "Is a directory (os error 21)"
  | .nameTooLong => "File name too long (os error 36)"
  | .notText => "stream did not contain valid UTF-8"
  | .other details => details

/-- Why a configuration file is refused. -/
inductive ConfigFileError where
  | unreadable (path : String) (cause : FileFault)
  | refused (path : String) (cause : EngineConfigError)
  deriving Repr

/-- The refusal of a file as a failure. -/
def ConfigFileError.toFailure : ConfigFileError → Failure
  | .unreadable path cause => ⟨["failed to read config file " ++ path, cause.message]⟩
  | .refused path cause => ⟨["invalid config file " ++ path, cause.message]⟩

/-- The configuration in a file, given what is read from its path. -/
def EngineConfig.ofFile (path : String) (contents : Except FileFault String) :
    Except ConfigFileError EngineConfig :=
  match contents with
  | .error cause => .error (.unreadable path cause)
  | .ok text => (EngineConfig.ofText text).mapError (.refused path)

end SimEngine
