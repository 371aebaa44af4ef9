import SimEngine.Config
import SimEngine.Engine.Scheduler
/-!
# Tick loops

A tick loop makes one step after the other. Each tick tells its step how many
ticks went before and how much time has been simulated, loads the plugins that
were requested since the last tick, and lets the scheduler make the step. The
loop listens to three events: a pause, the wish to stop and the wish to load
plugins.
-/

namespace SimEngine

/-- A simulation that is driven tick by tick. -/
structure TickLoop (G : Guest) where
  config : TickConfig
  engine : Engine G
  /-- The step made last. -/
  last : Option StepInfo
  /-- How many faults the steps came to; a counter of 64 bits agrees with it below `2 ^ 64`. -/
  faults : Nat
  /-- The loop's own subscriptions. -/
  subscriptions : List Connection

/-- Why a tick cannot be made. -/
inductive TickError where
  | clock (cause : ClockError)
  /-- The time of a step cannot be told from the rate. -/
  | rateOutOfRange
  /-- A rate leaves no time between two ticks. -/
  | emptyPeriod
  deriving DecidableEq, Repr

/-- The sentence that reports the error. -/
def TickError.message : TickError → String
  | .clock cause => cause.message
  | .rateOutOfRange =>
    "cannot convert float seconds to Duration: value is either too big or NaN"
  | .emptyPeriod => "`period` must be non-zero."

/-- How a run came to its end. -/
inductive RunEnd where
  | finished
  | failed (cause : TickError)
  /-- The bound on the number of ticks was reached. -/
  | unfinished
  deriving DecidableEq, Repr

namespace TickLoop

variable {G : Guest} (b : Behavior G)

/-- A loop over an engine, not yet ticked. -/
def create (config : TickConfig) (e : Engine G) : TickLoop G :=
  let (onPause, channels) := e.env.channels.connect (.event .pause) .loop
  let (onStop, channels) := channels.connect (.event .stop) .loop
  let (onLoad, channels) := channels.connect (.event .loadPlugins) .loop
  let flags : LoopFlags := ⟨config.startPaused, false, []⟩
  { config := config
    engine := { e with env := { e.env with channels := channels, loop := flags } }
    last := none
    faults := 0
    subscriptions := [onPause, onStop, onLoad] }

/-- The environment of the loop. -/
def env (t : TickLoop G) : Environment G :=
  t.engine.env

/-- Whether the simulation is paused. -/
def isPaused (t : TickLoop G) : Bool :=
  t.env.loop.paused

/-- Pauses the simulation or goes on with it. -/
def setPaused (t : TickLoop G) (paused : Bool) : TickLoop G :=
  let env := { t.env with loop := { t.env.loop with paused := paused } }
  { t with engine := { t.engine with env := env } }

/-- The number of ticks made. -/
def tickId (t : TickLoop G) : Nat :=
  match t.last with
  | none => 0
  | some info => info.iterations.toNat + 1

/-- Whether a stop was requested or the limit is reached. -/
def isFinished (t : TickLoop G) : Bool :=
  t.env.loop.stopRequested || (t.config.maxTicks > 0 && t.config.maxTicks.toNat ≤ t.tickId)

/-- The time of the next step. -/
def nextInfo (t : TickLoop G) : Except TickError StepInfo :=
  match t.last with
  | some info => (info.next .zero t.isPaused).mapError .clock
  | none =>
    match t.config.stepDuration? with
    | none => .error .rateOutOfRange
    | some dt => .ok { StepInfo.first dt with paused := t.isPaused }

/-- Loads and attaches one requested plugin. -/
def loadOne (e : Engine G) (spec : PluginSpec) : Engine G :=
  match e.loadAndAttach b spec with
  | (.ok handle, e) =>
    { e with env := e.env.report (.requestAttached handle spec.name spec.entity) }
  | (.error cause, e) =>
    { e with env := e.env.report (.requestFailed spec.name spec.entity cause.message) }

/-- Loads and attaches the plugins requested so far. -/
def loadRequested (e : Engine G) : Engine G :=
  let flags := { e.env.loop with loadRequests := [] }
  e.env.loop.loadRequests.foldl (loadOne b) { e with env := { e.env with loop := flags } }

/-- Makes one tick. -/
def tick (t : TickLoop G) : Except TickError (StepReport × TickLoop G) :=
  match t.nextInfo with
  | .error cause => .error cause
  | .ok info =>
    let (report, e) := (loadRequested b t.engine).runStep b info
    .ok (report,
      { t with engine := e, last := some info, faults := t.faults + report.faults.length })

/-- Ticks until the loop is finished, but no more than `bound` times. -/
def tickUntilFinished (t : TickLoop G) : Nat → RunEnd × TickLoop G
  | 0 => (.unfinished, t)
  | bound + 1 =>
    match t.tick b with
    | .error cause => (.failed cause, t)
    | .ok (_, t) => if t.isFinished then (.finished, t) else t.tickUntilFinished bound

/-- Runs the loop to its end, with at most `bound` ticks. -/
def run (t : TickLoop G) (bound : Nat) : RunEnd × TickLoop G :=
  match t.config.stepDuration? with
  | none => (.failed .rateOutOfRange, t)
  | some _ => t.tickUntilFinished b bound

/-- Detaches every system. -/
def clear (t : TickLoop G) : TickLoop G :=
  { t with engine := t.engine.clear b }

/-- Runs the loop to its end beside a renderer, and detaches every system. -/
def runAsync (t : TickLoop G) (bound : Nat) : RunEnd × TickLoop G :=
  match t.config.stepDuration?, t.config.renderInterval? with
  | none, _ => (.failed .rateOutOfRange, t)
  | some step, interval =>
    if step.nanos = 0 then (.failed .emptyPeriod, t)
    else if interval.isNone then (.failed .rateOutOfRange, t)
    else
      match t.tickUntilFinished b bound with
      | (.finished, t) => (.finished, t.clear b)
      | (other, t) => (other, t)

end TickLoop

/-- Why a loop cannot be made from a configuration. -/
structure StartError where
  plugin : String
  cause : SystemError

/-- The error as a failure. -/
def StartError.toFailure (e : StartError) : Failure :=
  e.cause.toFailure.inContext ("failed to attach system '" ++ e.plugin ++ "'")

namespace TickLoop

variable {G : Guest} (b : Behavior G)

/-- Loads and attaches plugins in their order, up to the first that cannot be loaded. -/
def attachAll (t : TickLoop G) : List PluginSpec → Option StartError × TickLoop G
  | [] => (none, t)
  | spec :: rest =>
    match t.engine.loadAndAttach b spec with
    | (.ok _, e) => { t with engine := e }.attachAll rest
    | (.error cause, e) => (some ⟨spec.name, cause⟩, { t with engine := e })

/-- Drops the subscriptions of the loop. -/
def unsubscribe (t : TickLoop G) : TickLoop G :=
  let channels := t.subscriptions.foldl Channels.disconnect t.env.channels
  { t with engine := { t.engine with env := { t.env with channels := channels } } }

/-- The end of a loop: its engine is closed, then its subscriptions are dropped. -/
def close (t : TickLoop G) : TickLoop G :=
  { t with engine := t.engine.close b }.unsubscribe

/--
A loop made from a configuration: the entities are created by `populate`, then the systems are
loaded and attached. If one of them cannot be loaded, everything done so far is undone.
-/
def ofConfig (config : EngineConfig)
    (populate : List EntityConfig → World G.components → World G.components) (e : Engine G) :
    Except StartError (TickLoop G) × Environment G :=
  let t := create config.tick e
  let env := { t.env with world := populate config.entities t.env.world }
  match { t with engine := { t.engine with env := env } }.attachAll b config.systems with
  | (none, t) =>
    let notice := .worldReady t.env.world.entityCount t.engine.scheduler.size
    let t := { t with engine := { t.engine with env := t.env.report notice } }
    (.ok t, t.env)
  | (some cause, t) => (.error cause, (t.close b).env)

end TickLoop
end SimEngine
