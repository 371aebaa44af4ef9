import SimEngine.Engine.Guest
/-!
# Loaders

A loader makes systems by the names of their plugins and counts, for each name,
the instances that are alive.
-/

namespace SimEngine

/-- Factories by plugin name, and how many of their instances are alive. -/
structure Loader (G : Guest) where
  factories : OrderedMap String G.Factory
  live : OrderedMap String Nat

/-- Why a system is not loaded or not found. -/
inductive SystemError where
  | unknownPlugin (name : String)
  | construction (plugin message : String)
  | unknownHandle (handle : Handle)
  | config (cause : ConfigError)
  deriving Repr

namespace SystemError

/-- The sentence that reports the error. -/
def message : SystemError → String
  | .unknownPlugin name => "unknown system plugin '" ++ name ++ "'"
  | .construction plugin message =>
    "failed to construct system '" ++ plugin ++ "': " ++ message
  | .unknownHandle handle => "no system attached with handle " ++ handle.describe
  | .config cause => cause.message

/-- The error as a failure. -/
def toFailure : SystemError → Failure
  | .config cause => cause.toFailure
  | e => .ofMessage e.message

end SystemError

namespace Loader

variable {G : Guest}

/-- A loader without plugins. -/
def empty : Loader G := ⟨∅, ∅⟩

instance : Inhabited (Loader G) := ⟨empty⟩

/-- Gives a plugin a factory, in place of any former one. -/
def register (l : Loader G) (name : String) (factory : G.Factory) : Loader G :=
  { l with factories := l.factories.insert name factory }

/-- Takes the factory of a plugin away. -/
def unregister (l : Loader G) (name : String) : Loader G :=
  { l with factories := l.factories.erase name }

/-- Whether a plugin has a factory. -/
def contains (l : Loader G) (name : String) : Bool :=
  l.factories.contains name

/-- The plugins that have a factory, in ascending order. -/
def names (l : Loader G) : List String :=
  l.factories.keys

/-- How many instances of a plugin are alive. -/
def liveInstances (l : Loader G) (name : String) : Nat :=
  (l.live.find? name).getD 0

/-- One instance of a plugin more. -/
def count (l : Loader G) (name : String) : Loader G :=
  { l with live := l.live.insert name (l.liveInstances name + 1) }

/-- One instance of a plugin less; tells whether none is left. -/
def uncount (l : Loader G) (name : String) : Bool × Loader G :=
  match l.live.find? name with
  | none => (false, l)
  | some n =>
    if n ≤ 1 then (true, { l with live := l.live.erase name })
    else (false, { l with live := l.live.insert name (n - 1) })

end Loader
end SimEngine
