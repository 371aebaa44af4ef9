import SimEngine.Session.Basic
/-!
# Steps of a session

Making steps, with the time advanced after each, and ticking a loop. An end of
the clock leaves everything as it is at that moment.
-/

namespace SimEngine
namespace Session

/-- Makes a number of steps. -/
def stepEngine (e : Engine cast) (info : StepInfo) :
    Nat → Except ClockError (List StepReport) × Engine cast × StepInfo
  | 0 => (.ok [], e, info)
  | n + 1 =>
    let (report, e) := e.runStep Cast.behavior info
    match info.next .zero info.paused with
    | .error cause => (.error cause, e, info)
    | .ok next =>
      let (reports, e, info) := stepEngine e next n
      (reports.map (report :: ·), e, info)

/-- Makes a number of steps, after pausing or going on if that is wished. -/
def step (s : Session) (times : Nat) (paused : Option Bool) :
    Except ClockError (List StepReport) × Session :=
  match s.drive with
  | .stepping e info =>
    let info := { info with paused := paused.getD info.paused }
    let (reports, e, info) := stepEngine e info times
    (reports, { s with drive := .stepping e info })
  | _ => (.ok [], s)

/-- Makes a number of ticks. -/
def tickLoop (t : TickLoop cast) : Nat → Except TickError (List StepReport) × TickLoop cast
  | 0 => (.ok [], t)
  | n + 1 =>
    match t.tick Cast.behavior with
    | .error cause => (.error cause, t)
    | .ok (report, t) =>
      let (reports, t) := tickLoop t n
      (reports.map (report :: ·), t)

/-- The loop that is driven. -/
def loop? (s : Session) : Option (TickLoop cast) :=
  match s.drive with
  | .looping t => some t
  | _ => none

/-- The session with another loop. -/
def withLoop (s : Session) (t : TickLoop cast) : Session :=
  { s with drive := .looping t }

/-- Makes a number of ticks of the loop. -/
def tick (s : Session) (times : Nat) : Except TickError (List StepReport) × Session :=
  match s.loop? with
  | none => (.ok [], s)
  | some t =>
    let (reports, t) := tickLoop t times
    (reports, s.withLoop t)

/-- How many ticks a run may take at most. -/
def runBound : Nat := Nat.pow 2 64

/-- Runs the loop to its end, beside a renderer or without one. -/
def run (s : Session) (isRendered : Bool) : RunEnd × Session :=
  match s.loop? with
  | none => (.finished, s)
  | some t =>
    let (outcome, t) :=
      if isRendered then t.runAsync Cast.behavior runBound else t.run Cast.behavior runBound
    (outcome, s.withLoop t)

end Session
end SimEngine
