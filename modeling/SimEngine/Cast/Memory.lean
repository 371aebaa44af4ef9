import SimEngine.Cast.Motion
import SimEngine.Cast.Script
import SimEngine.Cast.Timing
import SimEngine.Engine.Environment
/-!
# The cast

The systems that an engine hosts here: those that come with it, and scripted
ones. What they remember lies in one memory, under a number for each system,
together with the lines that scripted code has written and the labels under
which it keeps subscriptions and queries.
-/

namespace SimEngine

/-- A system as it is remembered. -/
structure SystemId where
  number : Nat
  deriving DecidableEq, Repr

instance : OrderedKey SystemId where
  lt a b := a.number < b.number
  decLt a b := inferInstanceAs (Decidable (a.number < b.number))
  irrefl a := OrderedKey.irrefl a.number
  trans := OrderedKey.trans (κ := Nat)
  connected {a b} hab hba := by
    cases a; cases b
    exact congrArg SystemId.mk (OrderedKey.connected (κ := Nat) hab hba)

/-- What scripted code was configured for. -/
structure Link where
  handle : Handle
  entity : Entity
  config : Payload

/-- What scripted code may use. -/
structure Reach where
  /-- What it was configured for last: its query list and its payload. -/
  link : Option Link
  /-- The entity it was made for. -/
  origin : Entity
  /-- Whether it may queue requests. -/
  commands : Bool
  /-- Whether it may use the parameters. -/
  parameters : Bool

namespace Reach

/-- What a system may use before it is configured. -/
def ofEntity (entity : Entity) : Reach := ⟨none, entity, false, false⟩

/-- What a callback may use that the host connected. -/
def host : Reach := ⟨none, .null, true, true⟩

/-- The entity that the code stands for. -/
def entity (r : Reach) : Entity :=
  match r.link with
  | some link => link.entity
  | none => r.origin

/-- What the code may use once it is configured. -/
def linked (r : Reach) (link : Link) : Reach :=
  { r with link := some link, commands := true }

end Reach

/-- A scripted system. -/
structure ScriptedSystem where
  name : String
  exposed : Capabilities
  hooks : Hooks (List Beat)
  /-- How often each interface was called. -/
  calls : Hooks Nat
  reach : Reach
  /-- The subscriptions that end with the system. -/
  owned : List Connection

/-- The system that a script describes, made for an entity. -/
def ScriptedSystem.ofScript (script : Script) (entity : Entity) : ScriptedSystem where
  name := script.name
  exposed := script.capabilities
  hooks := script.hooks
  calls := .replicate 0
  reach := .ofEntity entity
  owned := []

/-- What a system is. -/
inductive Role where
  | accelerate (state : Accelerate)
  | velocityLog (state : VelocityLog)
  | simClock (state : SimClock)
  | pauseAfter (state : PauseAfter)
  | scripted (state : ScriptedSystem)

namespace Role

/-- The name under which a system is reported. -/
def name : Role → String
  | .accelerate _ => Builtin.accelerate.name
  | .velocityLog _ => Builtin.velocityLog.name
  | .simClock _ => Builtin.simClock.name
  | .pauseAfter _ => Builtin.pauseAfter.name
  | .scripted s => s.name

/-- The interfaces that a system offers. -/
def capabilities : Role → Capabilities
  | .accelerate _ => .ofList [.configure, .configureParameters, .phase .update]
  | .velocityLog _ => .ofList [.phase .postUpdate]
  | .simClock _ => .ofList [.configure, .phase .preUpdate]
  | .pauseAfter _ => .ofList [.phase .preUpdate]
  | .scripted s => s.exposed

/-- A system that comes with the engine, made for a payload and an entity. -/
def ofBuiltin (builtin : Builtin) (config : Payload) (entity : Entity) : Except Failure Role :=
  match builtin with
  | .accelerate => .ok (.accelerate (.forEntity entity))
  | .simClock => .ok (.simClock .fresh)
  | .velocityLog =>
    match VelocityLog.ofPayload config entity with
    | .ok log => .ok (.velocityLog log)
    | .error e => .error e.toFailure
  | .pauseAfter => (PauseAfter.ofPayload config).map .pauseAfter

end Role

/-- A system with the number of those who hold it. -/
structure Member where
  role : Role
  holders : Nat

/-- What is called back. -/
inductive Callback where
  /-- A clock that is shown. -/
  | clock (system : SystemId)
  /-- Scripted code; the number tells callbacks of one label apart. -/
  | scripted (label : String) (number : Nat) (run : List Beat) (reach : Reach)

/-- What makes the systems of a plugin. -/
inductive Factory where
  | builtin (builtin : Builtin)
  /-- Reads a script out of the specification. -/
  | scripted (make : PluginSpec → Outcome Script)

/-- What the cast remembers. -/
structure Memory where
  members : OrderedMap SystemId Member
  nextSystem : Nat
  nextCallback : Nat
  /-- How often each scripted callback was called. -/
  callbackCalls : OrderedMap Nat Nat
  /-- The subscriptions kept under labels. -/
  connections : OrderedMap String Connection
  /-- The query registered last under each label. -/
  queries : OrderedMap String (Handle × Nat)
  /-- The systems that the host holds under labels. -/
  shared : OrderedMap String SystemId
  /-- The handles that scripted code may name. -/
  known : List Handle
  /-- The lines written so far, the last one first. -/
  trace : List String

namespace Memory

/-- The memory in which nothing has happened. -/
def empty : Memory := ⟨∅, 0, 0, ∅, ∅, ∅, ∅, [], []⟩

def write (m : Memory) (line : String) : Memory :=
  { m with trace := line :: m.trace }

/-- Lets scripted code name a handle. -/
def acquaint (m : Memory) (handle : Handle) : Memory :=
  if handle ∈ m.known then m else { m with known := handle :: m.known }

/-- A system's part in the cast. -/
def role? (m : Memory) (system : SystemId) : Option Role :=
  (m.members.find? system).map Member.role

/-- Remembers a system that one holder holds. -/
def enroll (m : Memory) (role : Role) : SystemId × Memory :=
  (⟨m.nextSystem⟩,
    { m with
      members := m.members.insert ⟨m.nextSystem⟩ ⟨role, 1⟩
      nextSystem := m.nextSystem + 1 })

/-- Changes what is remembered of a system. -/
def revise (m : Memory) (system : SystemId) (f : Role → Role) : Memory :=
  { m with members := m.members.modify system fun member => { member with role := f member.role } }

def holders (m : Memory) (system : SystemId) : Nat :=
  match m.members.find? system with
  | some member => member.holders
  | none => 0

def hold (m : Memory) (system : SystemId) : Memory :=
  { m with
    members := m.members.modify system fun member =>
      { member with holders := member.holders + 1 } }

def unhold (m : Memory) (system : SystemId) : Memory :=
  { m with
    members := m.members.modify system fun member =>
      { member with holders := member.holders - 1 } }

def dismiss (m : Memory) (system : SystemId) : Memory :=
  { m with members := m.members.erase system }

/-- Changes a scripted system. -/
def reviseScripted (m : Memory) (system : SystemId) (f : ScriptedSystem → ScriptedSystem) :
    Memory :=
  m.revise system fun role =>
    match role with
    | .scripted s => .scripted (f s)
    | other => other

/-- The number of a new callback, and the memory after it. -/
def newCallback (m : Memory) : Nat × Memory :=
  (m.nextCallback, { m with nextCallback := m.nextCallback + 1 })

def callbackCount (m : Memory) (number : Nat) : Nat :=
  (m.callbackCalls.find? number).getD 0

def countCallback (m : Memory) (number : Nat) : Memory :=
  { m with callbackCalls := m.callbackCalls.insert number (m.callbackCount number + 1) }

/-- Whether some system remembered can still reach the queue of requests. -/
def holdsQueue (m : Memory) : Bool :=
  m.members.entries.any fun (_, member) =>
    match member.role with
    | .scripted s => s.reach.commands
    | _ => false

end Memory

/-- The guest that the cast is. -/
@[reducible] def cast : Guest where
  components := sceneData
  Memory := Memory
  System := SystemId
  Callback := Callback
  Factory := Factory

/-- What a member of the cast does when it is called. -/
abbrev Deed (α : Type) : Type := Program cast α

namespace Deed

def velocity? (entity : Entity) : Deed (Option Vector3) :=
  Program.read (G := cast) entity DataKind.velocity

def count? (entity : Entity) : Deed (Option Int) :=
  Program.read (G := cast) entity DataKind.count

def name? (entity : Entity) : Deed (Option String) :=
  Program.read (G := cast) entity DataKind.name

def setVelocity (entity : Entity) (velocity : Vector3) : Deed Bool :=
  Program.write (G := cast) entity DataKind.velocity velocity

def setCount (entity : Entity) (count : Int) : Deed Bool :=
  Program.write (G := cast) entity DataKind.count count

end Deed

end SimEngine
