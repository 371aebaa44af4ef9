import SimEngine.Cast.Scene
import SimEngine.Engine.Inspect
/-!
# Sessions

A session is one host at work with an engine. The host either makes the steps
itself or drives a loop; what it calls acts on the same engine that the systems
act on. Once the engine is gone, events and whatever the host holds remain.
-/

namespace SimEngine

/-- How the engine of a session is driven. -/
inductive Drive where
  /-- The host makes each step, with the time of the next one at hand. -/
  | stepping (engine : Engine cast) (info : StepInfo)
  | looping (loop : TickLoop cast)
  /-- The engine is gone. -/
  | ended (env : Environment cast)

namespace Drive

/-- The engine; one that is gone has no systems. -/
def engine : Drive → Engine cast
  | .stepping e _ => e
  | .looping t => t.engine
  | .ended env => ⟨.empty, env⟩

/-- The drive with another engine. -/
def withEngine (d : Drive) (e : Engine cast) : Drive :=
  match d with
  | .stepping _ info => .stepping e info
  | .looping t => .looping { t with engine := e }
  | .ended _ => .ended e.env

/-- Whether the engine is gone. -/
def isEnded : Drive → Bool
  | .ended _ => true
  | _ => false

end Drive

/-- A host at work with an engine. -/
structure Session where
  drive : Drive
  /-- The systems that were loaded and are kept under labels. -/
  loaded : OrderedMap String (Attachment cast)
  /-- The channels of no event, by their labels. -/
  channels : OrderedMap String Nat
  nextChannel : Nat

namespace Session

/-- A session at its beginning. -/
def ofDrive (drive : Drive) : Session := ⟨drive, ∅, ∅, 0⟩

/-- A session whose host makes the steps. -/
def stepping (further : List (String × Factory)) (info : StepInfo) : Session :=
  ofDrive (.stepping (Cast.engine further) info)

/-- A session whose host drives a loop without entities and systems. -/
def looping (further : List (String × Factory)) (config : TickConfig) : Session :=
  ofDrive (.looping (TickLoop.create config (Cast.engine further)))

/-- The environment that the host and the systems share. -/
def env (s : Session) : Environment cast := s.drive.engine.env

/-- The session with another engine. -/
def withEngine (s : Session) (e : Engine cast) : Session :=
  { s with drive := s.drive.withEngine e }

/-- The session with another environment. -/
def withEnv (s : Session) (env : Environment cast) : Session :=
  s.withEngine { s.drive.engine with env := env }

/-- What the cast remembers. -/
def memory (s : Session) : Memory := s.env.memory

/-- The session with another memory. -/
def withMemory (s : Session) (memory : Memory) : Session :=
  s.withEnv { s.env with memory := memory }

/-- The session with another world. -/
def withWorld (s : Session) (world : Scene) : Session :=
  s.withEnv { s.env with world := world }

/-- The session with other parameters. -/
def withParameters (s : Session) (parameters : Parameters) : Session :=
  s.withEnv { s.env with parameters := parameters }

/-- Does something as guest code would; a deed that does not end well yields a default. -/
def perform {α : Type} (s : Session) (default : α) (deed : Deed α) : α × Session :=
  match Cast.behavior.run .none deed s.env with
  | (.done a, env) => (a, s.withEnv env)
  | (_, env) => (default, s.withEnv env)

/-- Does something of which only the effect counts. -/
def performQuietly (s : Session) (deed : Deed Unit) : Session :=
  (s.perform () deed).2

/-- A handle that was never used. -/
def freshHandle (s : Session) : Handle × Session :=
  let (handle, env) := s.env.freshHandle
  (handle, s.withEnv env)

/-- Whether a handle may be named: it was handed out, was attached once or was configured for. -/
def knows (s : Session) (handle : Handle) : Bool :=
  handle ∈ s.memory.known

/-- Lets a handle be named. -/
def acquaint (s : Session) (handle : Handle) : Session :=
  s.withMemory (s.memory.acquaint handle)

/-- What is due at the end of a call: the handles attached by then may be named. -/
def settle (s : Session) : Session :=
  s.withMemory (s.drive.engine.scheduler.handles.foldl Memory.acquaint s.memory)

/-- What was written and reported since the last time, and the session without it. -/
def collect (s : Session) : List String × List Notice × Session :=
  (s.memory.trace.reverse, s.env.journal.reverse,
    s.withEnv { s.env with journal := [], memory := { s.memory with trace := [] } })

/-- The number of instances, of those among them that wait, and of the requests in the queue. -/
def counts (s : Session) : Nat × Nat × Nat :=
  let e := s.drive.engine
  (e.scheduler.size, e.scheduler.pending.length, e.env.commands.length)

/-- The end of the engine: its systems, its queue and the loop's subscriptions are let go of. -/
def close (s : Session) : Session :=
  match s.drive with
  | .stepping e _ => { s with drive := .ended (e.close Cast.behavior).env }
  | .looping t => { s with drive := .ended (t.close Cast.behavior).env }
  | .ended _ => s

end Session

/-- What remains of a loop that could not be made. -/
structure FailedStart where
  cause : StartError
  session : Session

/-- A session whose host drives a loop made from a configuration. -/
def Session.ofConfig (further : List (String × Factory)) (config : EngineConfig) :
    Except FailedStart Session :=
  match Cast.loopOfConfig further config with
  | (.ok loop, _) => .ok (.ofDrive (.looping loop))
  | (.error cause, env) => .error ⟨cause, .ofDrive (.ended env)⟩

end SimEngine
