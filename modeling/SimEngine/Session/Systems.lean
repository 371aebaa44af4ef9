import SimEngine.Session.Basic
/-!
# Systems of a session

Attaching, detaching and configuring systems, loading them by name, and holding
systems that are shared with the engine.
-/

namespace SimEngine
namespace Session

/-- One who held a shared system holds it no more. -/
def giveBack (s : Session) (system : SystemId) : Session :=
  s.performQuietly (Cast.giveBack system)

/-- Holds a system under a label, in place of what was held under it. -/
def share (s : Session) (label : String) (system : SystemId) : Session :=
  let former := s.memory.shared.find? label
  let memory := s.memory.hold system
  let s := s.withMemory { memory with shared := memory.shared.insert label system }
  match former with
  | some former => s.giveBack former
  | none => s

/-- Gives back what is held under a label; tells whether anything is. -/
def unshare (s : Session) (label : String) : Bool × Session :=
  match s.memory.shared.find? label with
  | none => (false, s)
  | some system =>
    let s := s.withMemory { s.memory with shared := s.memory.shared.erase label }
    (true, s.giveBack system)

/-- What is held under a label. -/
def shared? (s : Session) (label : String) : Option Role :=
  (s.memory.shared.find? label).bind s.memory.role?

/-- The number of those who hold what is held under a label. -/
def holders (s : Session) (label : String) : Option Nat :=
  (s.memory.shared.find? label).map s.memory.holders

/-- Changes the name or the interfaces of a scripted system that is held under a label. -/
def poke (s : Session) (label : String) (name : Option String)
    (exposed : Option Capabilities) : Session :=
  match s.memory.shared.find? label with
  | none => s
  | some system =>
    s.withMemory (s.memory.reviseScripted system fun state =>
      { state with name := name.getD state.name, exposed := exposed.getD state.exposed })

/-- Attaches a system; a shared one may be held under a label besides. -/
def attach (s : Session) (casting : Casting Script) (label : Option String) :
    Except Failure Handle × Session :=
  match s.memory.enlist casting with
  | .error failure => (.error failure, s)
  | .ok (attachment, memory) =>
    let s := s.withMemory memory
    let s := match label with
      | some label => if casting.isShared then s.share label attachment.system else s
      | none => s
    let (handle, e) :=
      s.drive.engine.attach Cast.behavior attachment casting.entity casting.config
    (.ok handle, (s.withEngine e).acquaint handle)

/-- Queues the attachment of a system. -/
def queueAttach (s : Session) (casting : Casting Script) : Except Failure Handle × Session :=
  match s.memory.enlist casting with
  | .error failure => (.error failure, s)
  | .ok (attachment, memory) =>
    let s := s.withMemory memory
    let (handle, env) := s.env.queueAttach attachment casting.entity casting.config
    (.ok handle, (s.withEnv env).acquaint handle)

/-- Queues a detachment; tells whether the queue is empty afterwards. -/
def queueDetach (s : Session) (handle : Handle) : Bool × Session :=
  let env := s.env.queueDetach handle
  (env.commands.isEmpty, s.withEnv env)

/-- Detaches a system. -/
def detach (s : Session) (handle : Handle) : Except SystemError Session :=
  (s.drive.engine.detach Cast.behavior handle).map s.withEngine

/-- Configures a system anew; tells whether it is sound afterwards. -/
def reconfigure (s : Session) (handle : Handle) (config : Option Payload) :
    Except SystemError (Bool × Session) :=
  (s.drive.engine.reconfigure Cast.behavior handle config).map fun (isSound, e) =>
    (isSound, s.withEngine e)

/-- Detaches every system. -/
def clear (s : Session) : Session :=
  s.withEngine (s.drive.engine.clear Cast.behavior)

/-- Loads a plugin and attaches its system. -/
def loadAndAttach (s : Session) (spec : PluginSpec) : Except SystemError Handle × Session :=
  match s.drive.engine.loadAndAttach Cast.behavior spec with
  | (.ok handle, e) => (.ok handle, (s.withEngine e).acquaint handle)
  | (.error cause, e) => (.error cause, s.withEngine e)

/-- The session with another loader. -/
def withLoader (s : Session) (loader : Loader cast) : Session :=
  s.withEnv { s.env with loader := loader }

/-- Lets go of a system that is not attached. -/
def release (s : Session) (attachment : Attachment cast) : Session :=
  s.withEnv (Cast.behavior.release attachment s.env)

/-- Loads a plugin and keeps its system under a label, in place of what was kept under it. -/
def load (s : Session) (label : String) (spec : PluginSpec) :
    Except SystemError (Attachment cast) × Session :=
  match Cast.behavior.load spec s.env with
  | (.error cause, env) => (.error cause, s.withEnv env)
  | (.ok attachment, env) =>
    let s := s.withEnv env
    let former := s.loaded.find? label
    let s := { s with loaded := s.loaded.insert label attachment }
    match former with
    | some former => (.ok attachment, s.release former)
    | none => (.ok attachment, s)

/-- Takes what is kept under a label. -/
def takeLoaded (s : Session) (label : String) : Option (Attachment cast × Session) :=
  (s.loaded.find? label).map fun attachment =>
    (attachment, { s with loaded := s.loaded.erase label })

/-- Lets go of what is kept under a label; tells whether anything is. -/
def unload (s : Session) (label : String) : Bool × Session :=
  match s.takeLoaded label with
  | some (attachment, s) => (true, s.release attachment)
  | none => (false, s)

/-- Queues the attachment of what is kept under a label. -/
def queueLoaded (s : Session) (label : String) (entity : Entity) (config : Payload) :
    Option (Handle × Session) :=
  (s.takeLoaded label).map fun (attachment, s) =>
    let (handle, env) := s.env.queueAttach attachment entity config
    (handle, (s.withEnv env).acquaint handle)

end Session
end SimEngine
