/-!
# Capabilities and phases

A system may offer any of five interfaces. Two belong to its start-up, three
are called once in every step, in the order of `StepPhase.all`. A `Stage` is a
place where a fault may arise: one of the interfaces, or the delivery of
queries, which no interface stands for.
-/

namespace SimEngine

/-- The calls of one step, in their order. -/
inductive StepPhase where
  | preUpdate
  | update
  | postUpdate
  deriving DecidableEq, Repr

/-- The phases of a step in the order in which they are passed through. -/
def StepPhase.all : List StepPhase :=
  [.preUpdate, .update, .postUpdate]

/-- The interfaces that a system may offer. -/
inductive Capability where
  | configure
  | configureParameters
  | phase (phase : StepPhase)
  deriving DecidableEq, Repr

/-- Where in the life of a system a call happens. -/
inductive Stage where
  | capability (capability : Capability)
  | queries
  deriving DecidableEq, Repr

/-- The interface called in a phase. -/
def StepPhase.capability (phase : StepPhase) : Capability :=
  .phase phase

/-- The stage of a phase. -/
def StepPhase.stage (phase : StepPhase) : Stage :=
  .capability (.phase phase)

/-- The phase as messages show it. -/
def StepPhase.describe : StepPhase → String
  | .preUpdate => "pre_update"
  | .update => "update"
  | .postUpdate => "post_update"

/-- The interface as messages show it. -/
def Capability.describe : Capability → String
  | .configure => "configure"
  | .configureParameters => "configure_parameters"
  | .phase p => p.describe

/-- The stage as messages show it. -/
def Stage.describe : Stage → String
  | .capability c => c.describe
  | .queries => "queries"

/-- All interfaces, in the order in which messages name them. -/
def Capability.all : List Capability :=
  [.configure, .configureParameters, .phase .preUpdate, .phase .update, .phase .postUpdate]

/-- A set of interfaces. -/
structure Capabilities where
  configure : Bool
  configureParameters : Bool
  preUpdate : Bool
  update : Bool
  postUpdate : Bool
  deriving DecidableEq, Repr

namespace Capabilities

/-- No interface. -/
def none : Capabilities := ⟨false, false, false, false, false⟩

/-- The interfaces for which a test holds. -/
def ofTest (offers : Capability → Bool) : Capabilities where
  configure := offers .configure
  configureParameters := offers .configureParameters
  preUpdate := offers (.phase .preUpdate)
  update := offers (.phase .update)
  postUpdate := offers (.phase .postUpdate)

/-- The interfaces of a list. -/
def ofList (list : List Capability) : Capabilities :=
  ofTest fun c => decide (c ∈ list)

/-- Whether an interface is in the set. -/
def has (set : Capabilities) : Capability → Bool
  | .configure => set.configure
  | .configureParameters => set.configureParameters
  | .phase .preUpdate => set.preUpdate
  | .phase .update => set.update
  | .phase .postUpdate => set.postUpdate

/-- Whether a stage is one of the interfaces in the set; queries never are. -/
def supports (set : Capabilities) : Stage → Bool
  | .capability c => set.has c
  | .queries => false

/-- Whether the set is empty. -/
def isEmpty (set : Capabilities) : Bool :=
  decide (set = none)

/-- The interfaces of the set, in the order in which messages name them. -/
def toList (set : Capabilities) : List Capability :=
  Capability.all.filter set.has

/-- The set as messages show it. -/
def describe (set : Capabilities) : String :=
  if set.isEmpty then "none" else String.intercalate "+" (set.toList.map Capability.describe)

@[simp] theorem has_ofTest (offers : Capability → Bool) (c : Capability) :
    (ofTest offers).has c = offers c := by
  cases c with
  | configure => rfl
  | configureParameters => rfl
  | phase p => cases p <;> rfl

end Capabilities
end SimEngine
