import SimEngine.Duration
/-!
# The time of a step

What every call of a step is told: how many steps went before, the simulated
time at its start and how much of it the step covers, the wall-clock time, and
whether the simulation is paused. Simulated time does not advance over a paused
step.
-/

namespace SimEngine

/-- The time of one step. -/
structure StepInfo where
  iterations : UInt64
  simTime : Duration
  realTime : Duration
  dt : Duration
  paused : Bool
  deriving DecidableEq, Repr

/-- Why there is no next step. -/
inductive ClockError where
  | timeOverflow
  | counterOverflow
  deriving DecidableEq, Repr

/-- The sentence that reports the end of the clock. -/
def ClockError.message : ClockError → String
  | .timeOverflow => "overflow when adding durations"
  | .counterOverflow => "attempt to add with overflow"

namespace StepInfo

/-- The first step of a simulation. -/
def first (dt : Duration) : StepInfo :=
  ⟨0, .zero, .zero, dt, false⟩

/-- The simulated time at the end of the step. -/
def endTime? (info : StepInfo) : Option Duration :=
  if info.paused then some info.simTime else info.simTime.add? info.dt

/-- The step after this one. -/
def next (info : StepInfo) (realTime : Duration) (paused : Bool) : Except ClockError StepInfo :=
  match info.endTime? with
  | none => .error .timeOverflow
  | some simTime =>
    if info.iterations.toNat + 1 < Nat.pow 2 64 then
      .ok ⟨info.iterations + 1, simTime, realTime, info.dt, paused⟩
    else
      .error .counterOverflow

end StepInfo
end SimEngine
