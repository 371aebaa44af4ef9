import SimEngine.Cast.Memory
/-!
# What the built-in systems do

The calls of the systems that come with the engine, each as a program that ends
with what the system remembers afterwards. A call that fails leaves the system
as it was.
-/

namespace SimEngine

namespace Accelerate

/-- Binds the system to its entity, which must be alive, and reads the propulsion. -/
def configure (s : Accelerate) (context : ConfigureContext) : Deed Accelerate := do
  let alive ← Program.isAlive context.entity
  if context.entity.isNull || !alive then
    Program.fail
      (.ofMessage ("accelerate needs an existing entity, got " ++ context.entity.describe))
  else do
    let propulsion ← Program.ofExcept
      ((context.config.parse Propulsion.reader).mapError ConfigError.toFailure)
    return { s with entity := context.entity, propulsion := propulsion }

/-- Declares the gain for the entity. -/
def configureParameters (s : Accelerate) : Deed Accelerate := do
  Program.declare (gainName s.entity) (.ok (.num (.float 1.0)))
  return { s with gain := some (gainName s.entity) }

/-- The gain at present; one as long as none is declared. -/
def currentGain (s : Accelerate) : Deed Float32 :=
  match s.gain with
  | none => return 1.0
  | some name => return gainOf (← Program.getParameter name)

/-- Accelerates the entity, unless the simulation is paused. -/
def update (s : Accelerate) (info : StepInfo) : Deed Unit := do
  if info.paused || s.propulsion.isIdle then
    return ()
  else
    match ← Deed.velocity? s.entity with
    | none => return ()
    | some velocity => do
      let gain ← s.currentGain
      let dt := info.dt.toSeconds.toFloat32
      let _ ← Deed.setVelocity s.entity (s.propulsion.apply gain dt velocity)

end Accelerate

namespace VelocityLog

/-- Logs those of a list of entities that the system selects. -/
def logEach (l : VelocityLog) (info : StepInfo) : List Entity → Deed VelocityLog
  | [] => return l
  | e :: rest => do
    if l.selects e then
      match ← Deed.velocity? e with
      | none => l.logEach info rest
      | some velocity => do
        let name ← Deed.name? e
        Program.report
          (.velocity info.iterations info.simTime e (name.getD "-") velocity.length.toFloat)
        { l with lines := l.lines + 1 }.logEach info rest
    else
      l.logEach info rest

/-- Logs the selected entities, if it is time to. -/
def postUpdate (l : VelocityLog) (info : StepInfo) : Deed VelocityLog := do
  if l.isDue info then l.logEach info (← Program.find signature) else return l

end VelocityLog

namespace SimClock

/-- Subscribes to scene updates; the former subscription ends once there is a new one. -/
def configure (c : SimClock) (system : SystemId) (config : Payload) : Deed SimClock := do
  let logEvery ← Program.ofExcept ((logEveryOf config).mapError ConfigError.toFailure)
  let subscription ← Program.connect (.event .sceneUpdate) (Callback.clock system)
  match c.subscription with
  | none => return { c with logEvery := logEvery, subscription := some subscription }
  | some former => do
    Program.disconnect former
    return { c with logEvery := logEvery, subscription := some subscription }

/-- Shows the clock on a scene update. -/
def display (c : SimClock) : Deed SimClock := do
  let c := c.refresh
  if c.isDue then
    Program.report (.renderFrame c.frames c.iterations c.paused)
    return c
  else
    return c

end SimClock

namespace PauseAfter

/-- Pauses the simulation, or stops it, if it is time to. -/
def preUpdate (p : PauseAfter) (info : StepInfo) : Deed PauseAfter :=
  match p.decide info with
  | .wait => return p
  | .overflow => Program.panic .addOverflow
  | .pause => do
    Program.report (.pausing info.iterations)
    let _ ← Program.emit (.pause true)
    return { p with pausedAt := some info.iterations }
  | .stop => do
    Program.report (.stopping info.iterations)
    let _ ← Program.emit .stop
    return p

end PauseAfter
end SimEngine
