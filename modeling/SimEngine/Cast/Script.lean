import SimEngine.Capability
import SimEngine.Engine.Event
import SimEngine.Engine.Handle
import SimEngine.Failure
import SimEngine.Parameters
import SimEngine.Signature
/-!
# Scripts

A script describes a system as data: the interfaces it offers and, for each of
them, the actions that a call performs one after the other. Callbacks that an
action registers or connects have actions of their own, and an action may queue
the attachment of another scripted system.
-/

namespace SimEngine

/-- Something for each interface of a system. -/
structure Hooks (α : Type) where
  configure : α
  configureParameters : α
  preUpdate : α
  update : α
  postUpdate : α

namespace Hooks

variable {α : Type}

/-- The same for every interface. -/
def replicate (a : α) : Hooks α := ⟨a, a, a, a, a⟩

/-- What belongs to an interface. -/
def get (h : Hooks α) : Capability → α
  | .configure => h.configure
  | .configureParameters => h.configureParameters
  | .phase .preUpdate => h.preUpdate
  | .phase .update => h.update
  | .phase .postUpdate => h.postUpdate

/-- Puts something in the place of what belongs to an interface. -/
def set (h : Hooks α) (capability : Capability) (a : α) : Hooks α :=
  match capability with
  | .configure => { h with configure := a }
  | .configureParameters => { h with configureParameters := a }
  | .phase .preUpdate => { h with preUpdate := a }
  | .phase .update => { h with update := a }
  | .phase .postUpdate => { h with postUpdate := a }

@[simp] theorem get_set_self (h : Hooks α) (c : Capability) (a : α) :
    (h.set c a).get c = a := by
  cases c with
  | configure => rfl
  | configureParameters => rfl
  | phase p => cases p <;> rfl

end Hooks

/-- The systems that come with an engine. -/
inductive Builtin where
  | accelerate
  | pauseAfter
  | simClock
  | velocityLog
  deriving DecidableEq, Repr

namespace Builtin

/-- All of them, in the order of their names. -/
def all : List Builtin :=
  [.accelerate, .pauseAfter, .simClock, .velocityLog]

/-- The name of the system, which is also that of its plugin. -/
def name : Builtin → String
  | .accelerate => "accelerate"
  | .pauseAfter => "pause_after"
  | .simClock => "sim_clock"
  | .velocityLog => "velocity_log"

/-- The system of a name. -/
def ofName? (name : String) : Option Builtin :=
  all.find? fun b => b.name == name

end Builtin

/-- The attachment whose end an action asks for. -/
inductive Target where
  | self
  | handle (handle : Handle)
  /-- A name that no handle has. -/
  | unknown
  deriving DecidableEq, Repr

/-- Where a system to be attached comes from; `σ` stands for scripts. -/
inductive Origin (σ : Type) where
  | script (script : σ)
  | builtin (builtin : Builtin)
  /-- A system that the host already shares under a label. -/
  | again (label : String)

/-- A system to be attached. -/
structure Casting (σ : Type) where
  origin : Origin σ
  /-- The host may hold the system too. -/
  isShared : Bool
  entity : Entity
  config : Payload

/-- A system as data; `β` stands for the actions of a call. -/
structure ScriptOf (β : Type) where
  name : String
  capabilities : Capabilities
  hooks : Hooks β

/-- What scripted code does. -/
inductive Action where
  | log (text : String)
  | fail (failure : Failure)
  | panic (panic : Panic)
  /-- Writes the time of the step. -/
  | info
  /-- Writes what the system was configured for. -/
  | link
  /-- Writes a field of the payload. -/
  | config (key : String)
  /-- Reads a field of the payload that must be a number. -/
  | require (key : String)
  /-- Offers other interfaces from now on. -/
  | expose (capabilities : Capabilities)
  | register (label : String) (signature : Signature) (run : List (Option (List Nat) × Action))
  | cancel (label : String)
  | clearQueries
  | queries
  /-- Subscribes to an event; the system may own the subscription instead of the label. -/
  | connect (event : Event) (label : String) (isOwned : Bool)
      (run : List (Option (List Nat) × Action))
  | disconnect (label : String)
  | emit (signal : Signal)
  | connections (event : Event)
  | attach (casting : Casting (ScriptOf (List (Option (List Nat) × Action))))
  | detach (target : Target)
  | commands
  /-- Adds to the count of an entity. -/
  | add (amount : Int) (entity : Option Entity)
  /-- Writes the count of an entity. -/
  | read (entity : Option Entity)
  | find (signature : Signature)
  | declare (name : String) (value : Convertible)
  | setParameter (name : String) (value : Convertible)
  /-- Writes a parameter. -/
  | parameter (name : String)

/-- An action, restricted to calls of the given numbers if there are any. -/
abbrev Beat : Type := Option (List Nat) × Action

/-- A system as data. -/
abbrev Script : Type := ScriptOf (List Beat)

/-- The script that does nothing. -/
def Script.idle (name : String) : Script := ⟨name, .none, .replicate []⟩

instance : Inhabited Script := ⟨.idle ""⟩

instance : Inhabited (Casting Script) := ⟨⟨.script default, false, .null, .empty⟩⟩

/-- The actions of the call of a number. -/
def actionsOf (beats : List Beat) (call : Nat) : List Action :=
  beats.filterMap fun (calls, action) =>
    match calls with
    | none => some action
    | some numbers => if call ∈ numbers then some action else none

end SimEngine
