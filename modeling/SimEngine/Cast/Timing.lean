import SimEngine.Engine.Event
import SimEngine.Payload
import SimEngine.StepInfo
/-!
# Systems about time

A clock follows the steps and is shown on every scene update. Another system
pauses the simulation after a number of steps, and may stop it some steps later.
-/

namespace SimEngine

/-- A clock that is shown on scene updates. -/
structure SimClock where
  /-- How many steps went before the step seen last. -/
  iterations : UInt64
  /-- The simulated time of the step seen last. -/
  simTime : Duration
  paused : Bool
  /-- How many scene updates were handled; a counter of 64 bits agrees with it below `2 ^ 64`. -/
  frames : Nat
  /-- The simulated time that was shown last. -/
  rendered : Option Duration
  /-- Every how many frames the clock is logged; zero for never. -/
  logEvery : UInt64
  subscription : Option Connection

namespace SimClock

/-- A clock that was not configured. -/
def fresh : SimClock := ⟨0, .zero, false, 0, none, 0, none⟩

/-- Every how many frames a payload wants the clock logged. -/
def logEveryOf (config : Payload) : Except ConfigError UInt64 :=
  config.readD Reader.word "log_every_frames" 0

/-- The clock in a step. -/
def follow (c : SimClock) (info : StepInfo) : SimClock :=
  { c with iterations := info.iterations, simTime := info.simTime, paused := info.paused }

/-- The clock after a scene update. -/
def refresh (c : SimClock) : SimClock :=
  { c with frames := c.frames + 1, rendered := some c.simTime }

/-- Whether the frame shown last is logged. -/
def isDue (c : SimClock) : Bool :=
  c.logEvery > 0 && c.frames % c.logEvery.toNat == 0

end SimClock

/-- A system that pauses the simulation. -/
structure PauseAfter where
  /-- The step in which to pause. -/
  after : UInt64
  /-- How many steps later to stop. -/
  stopAfter : Option UInt64
  /-- The step in which the simulation was paused. -/
  pausedAt : Option UInt64

/-- What the system does in a step. -/
inductive PauseAction where
  | wait
  | pause
  | stop
  /-- The step in which to stop is no number of 64 bits. -/
  | overflow
  deriving DecidableEq, Repr

namespace PauseAfter

/-- The system that a payload describes. -/
def ofPayload (config : Payload) : Except Failure PauseAfter :=
  match config.require Reader.word "after" with
  | .error e => .error e.toFailure
  | .ok after =>
    if after = 0 then .error (.ofMessage "<after> must be positive")
    else
      match config.read? Reader.word "stop_after" with
      | .error e => .error e.toFailure
      | .ok stopAfter => .ok ⟨after, stopAfter, none⟩

/-- What to do in a step. -/
def decide (p : PauseAfter) (info : StepInfo) : PauseAction :=
  match p.pausedAt with
  | none => if p.after ≤ info.iterations then .pause else .wait
  | some pausedAt =>
    match p.stopAfter with
    | none => .wait
    | some stopAfter =>
      if Nat.pow 2 64 ≤ pausedAt.toNat + stopAfter.toNat then .overflow
      else if info.iterations = pausedAt + stopAfter then .stop
      else .wait

end PauseAfter
end SimEngine
