import SimEngine.Capability
import SimEngine.Duration
import SimEngine.Engine.Handle
import SimEngine.Entity
/-!
# Notices

What a simulation reports while it runs. Every notice has a level, a message
and named fields.
-/

namespace SimEngine

/-- How grave a notice is. -/
inductive Level where
  | info
  | warn
  | error
  deriving DecidableEq, Repr

/-- The name of a level. -/
def Level.name : Level → String
  | .info => "INFO"
  | .warn => "WARN"
  | .error => "ERROR"

/-- The value of a field. -/
inductive NoticeField where
  | text (value : String)
  | count (value : Nat)
  | flag (value : Bool)
  | float (value : Float)

/-- A notice. -/
inductive Notice where
  | configured (handle : Handle) (system : String) (entity : Entity)
  | configureFailed (handle : Handle) (system : String) (entity : Entity) (error : String)
  | parametersFailed (handle : Handle) (system : String) (error : String)
  | withdrawn (handle : Handle) (system : String) (stage : Stage)
  | attached (handle : Handle) (system : String) (entity : Entity) (capabilities : Capabilities)
      (degraded : Bool)
  | detached (handle : Handle) (system : String)
  | faulted (handle : Handle) (system : String) (stage : Stage) (iteration : UInt64)
      (error : String)
  | subscriberPanicked (event : String) (connection : Nat) (reason : String)
  | unloading (plugin : String)
  | worldReady (entities systems : Nat)
  | pauseChanged (paused : Bool)
  | requestAttached (handle : Handle) (plugin : String) (entity : Entity)
  | requestFailed (plugin : String) (entity : Entity) (error : String)
  | pausing (iteration : UInt64)
  | stopping (iteration : UInt64)
  | renderFrame (frame : Nat) (iterations : UInt64) (paused : Bool)
  | velocity (iteration : UInt64) (simTime : Duration) (entity : Entity) (name : String)
      (speed : Float)

namespace Notice

/-- The level of a notice. -/
def level : Notice → Level
  | .configureFailed .. | .parametersFailed .. | .withdrawn .. | .requestFailed .. => .warn
  | .faulted .. | .subscriberPanicked .. => .error
  | _ => .info

/-- The message of a notice. -/
def message : Notice → String
  | .configured .. => "system configured"
  | .configureFailed .. => "system configuration failed; running degraded"
  | .parametersFailed .. => "parameter declaration failed; running degraded"
  | .withdrawn .. => "capability resolved at attach is no longer exposed; skipping"
  | .attached .. => "system attached"
  | .detached .. => "system detached"
  | .faulted .. => "system faulted; skipping its remaining phases this step"
  | .subscriberPanicked .. => "event subscriber panicked"
  | .unloading .. => "unloading plugin, no instances left"
  | .worldReady .. => "world ready"
  | .pauseChanged .. => "pause state changed"
  | .requestAttached .. => "attached requested plugin"
  | .requestFailed .. => "requested plugin failed to load"
  | .pausing .. => "pausing simulation"
  | .stopping .. => "requesting stop"
  | .renderFrame .. => "render frame"
  | .velocity .. => "velocity"

/-- The fields of a notice. -/
def fields : Notice → List (String × NoticeField)
  | .configured h s e =>
    [("handle", .text h.describe), ("system", .text s), ("entity", .text e.describe)]
  | .configureFailed h s e error =>
    [("handle", .text h.describe), ("system", .text s), ("entity", .text e.describe),
      ("error", .text error)]
  | .parametersFailed h s error =>
    [("handle", .text h.describe), ("system", .text s), ("error", .text error)]
  | .withdrawn h s stage =>
    [("handle", .text h.describe), ("system", .text s), ("phase", .text stage.describe)]
  | .attached h s e capabilities degraded =>
    [("handle", .text h.describe), ("system", .text s), ("entity", .text e.describe),
      ("capabilities", .text capabilities.describe), ("degraded", .flag degraded)]
  | .detached h s => [("handle", .text h.describe), ("system", .text s)]
  | .faulted h s stage iteration error =>
    [("handle", .text h.describe), ("system", .text s), ("phase", .text stage.describe),
      ("iteration", .count iteration.toNat), ("error", .text error)]
  | .subscriberPanicked event connection reason =>
    [("event", .text event), ("connection", .count connection), ("reason", .text reason)]
  | .unloading plugin => [("plugin", .text plugin)]
  | .worldReady entities systems => [("entities", .count entities), ("systems", .count systems)]
  | .pauseChanged paused => [("paused", .flag paused)]
  | .requestAttached h plugin e =>
    [("handle", .text h.describe), ("plugin", .text plugin), ("entity", .text e.describe)]
  | .requestFailed plugin e error =>
    [("plugin", .text plugin), ("entity", .text e.describe), ("error", .text error)]
  | .pausing iteration | .stopping iteration => [("iteration", .count iteration.toNat)]
  | .renderFrame frame iterations paused =>
    [("frame", .count frame), ("iterations", .count iterations.toNat), ("paused", .flag paused)]
  | .velocity iteration simTime e name speed =>
    [("iteration", .count iteration.toNat), ("sim_time", .float simTime.toSeconds),
      ("entity", .text e.describe), ("name", .text name), ("speed", .float speed)]

end Notice
end SimEngine
