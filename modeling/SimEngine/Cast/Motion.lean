import SimEngine.Cast.Data
import SimEngine.Payload
import SimEngine.PluginSpec
import SimEngine.StepInfo
/-!
# Systems about motion

One system accelerates the entity it is bound to, scaled by a gain that is kept
as a parameter of the simulation. Another logs the velocities of the entities
that move, or of the one it is bound to, every so many steps.
-/

namespace SimEngine

/-- How an entity is accelerated. -/
structure Propulsion where
  acceleration : Vector3
  /-- The length to which velocities are shortened. -/
  maxSpeed : Option Float32

namespace Propulsion

/-- Without acceleration and without limit. -/
def none : Propulsion := ⟨.zero, .none⟩

/-- A propulsion that is being read. -/
structure Slots where
  acceleration : Option Vector3
  maxSpeed : Option (Option Float32)

/-- Propulsions are written as records; the limit may be left out. -/
def reader : Reader Propulsion := fun site draft => do
  let shape : Reader.Shape Slots :=
    { name := "struct Params"
      fields :=
        [Reader.field "acceleration" false Slots.acceleration
            (fun s v => { s with acceleration := some v }) Vector3.reader,
          Reader.field "max_speed" true Slots.maxSpeed
            (fun s v => { s with maxSpeed := some v }) (Reader.option Reader.float32)] }
  let record ← shape.read ⟨.none, .none⟩ site draft
  return ⟨← Reader.needed "acceleration" record.acceleration, record.maxSpeed.join⟩

/-- Whether the propulsion leaves every velocity as it is. -/
def isIdle (t : Propulsion) : Bool :=
  t.acceleration == .zero

/-- The velocity after a span of `dt` seconds. -/
def apply (t : Propulsion) (gain dt : Float32) (velocity : Vector3) : Vector3 :=
  let faster := velocity.add ((t.acceleration.scale gain).scale dt)
  match t.maxSpeed with
  | some limit => faster.clampLength limit
  | .none => faster

end Propulsion

/-- A system that accelerates an entity. -/
structure Accelerate where
  entity : Entity
  propulsion : Propulsion
  /-- The parameter that holds the gain, once it is declared. -/
  gain : Option String

namespace Accelerate

/-- A system made for an entity and not yet configured. -/
def forEntity (entity : Entity) : Accelerate := ⟨entity, .none, .none⟩

/-- The parameter that holds the gain for an entity. -/
def gainName (entity : Entity) : String :=
  "accelerate." ++ toString entity.id.toNat ++ ".gain"

/-- The gain that a parameter's value stands for; a value that is no number stands for one. -/
def gainOf (value : Option Json) : Float32 :=
  match value with
  | some tree =>
    match Reader.ofTree Reader.float32 tree with
    | .ok gain => gain
    | .error _ => 1.0
  | .none => 1.0

end Accelerate

/-- A system that logs velocities. -/
structure VelocityLog where
  /-- The one entity to log, or none for every entity that moves. -/
  entity : Entity
  /-- The number of steps from one log to the next. -/
  every : UInt64
  /-- How many lines were logged; a counter of 64 bits agrees with it below `2 ^ 64`. -/
  lines : Nat
  /-- The number of a step is divided by that of the steps from one log to the next. -/
  every_ne_zero : every ≠ 0

namespace VelocityLog

/-- How many steps lie between two logs by default. -/
def defaultEvery : UInt64 := 60

theorem max_one_ne_zero (every : UInt64) : max every 1 ≠ 0 := by
  show (if every ≤ 1 then 1 else every) ≠ 0
  split
  · decide
  · rename_i hlarge
    rintro rfl
    exact hlarge (by decide)

/-- The system that a payload describes; a period of zero counts as one step. -/
def ofPayload (config : Payload) (entity : Entity) : Except ConfigError VelocityLog :=
  match config.readD Reader.word "every" defaultEvery with
  | .ok every => .ok ⟨entity, max every 1, 0, max_one_ne_zero every⟩
  | .error e => .error e

/-- Whether the system logs in a step. -/
def isDue (l : VelocityLog) (info : StepInfo) : Bool :=
  info.iterations % l.every == 0

/-- Whether the system logs an entity. -/
def selects (l : VelocityLog) (entity : Entity) : Bool :=
  l.entity.isNull || entity == l.entity

/-- The entities among which the system selects: those with a velocity. -/
def signature : Signature :=
  Signature.any.require (sceneData.typeOf DataKind.velocity)

end VelocityLog
end SimEngine
