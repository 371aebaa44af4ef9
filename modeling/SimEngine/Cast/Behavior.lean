import SimEngine.Cast.Conduct
import SimEngine.Cast.Interpreter
import SimEngine.Engine.Instance
/-!
# The behaviour of the cast

What each member of the cast does on each call of the engine.
-/

namespace SimEngine
namespace Cast

/-- Lets a system do something; it is remembered as what it says it is afterwards, if it says so. -/
def tending (system : SystemId) (conduct : Role → Deed (Option Role)) : Deed Unit := do
  match (← Program.consult).role? system with
  | none => return ()
  | some role =>
    match ← conduct role with
    | none => return ()
    | some role => Program.revise fun m => m.revise system fun _ => role

/-- Configures a system. -/
def configure (system : SystemId) (context : ConfigureContext) : Deed Unit :=
  tending system fun
    | .accelerate s => return some (.accelerate (← s.configure context))
    | .simClock c => return some (.simClock (← c.configure system context.config))
    | .scripted s => do
      s.configure system context
      return none
    | _ => return none

/-- Has a system declare its parameters. -/
def configureParameters (system : SystemId) : Deed Unit :=
  tending system fun
    | .accelerate s => return some (.accelerate (← s.configureParameters))
    | .scripted s => do
      s.configureParameters system
      return none
    | _ => return none

/-- Calls a system in a phase. -/
def callPhase (phase : StepPhase) (system : SystemId) (info : StepInfo) : Deed Unit :=
  tending system fun role => do
    match role, phase with
    | .accelerate s, .update => do
      s.update info
      return none
    | .velocityLog l, .postUpdate => return some (.velocityLog (← l.postUpdate info))
    | .simClock c, .preUpdate => return some (.simClock (c.follow info))
    | .pauseAfter p, .preUpdate => return some (.pauseAfter (← p.preUpdate info))
    | .scripted s, phase => do
      s.call system phase.capability (Instance.accessOf phase) (some info)
      return none
    | _, _ => return none

/-- Calls a query back. -/
def onQuery (callback : Callback) (info : StepInfo) (entity : Entity) : Deed Unit :=
  match callback with
  | .clock _ => return ()
  | .scripted label number run reach => deliverScripted label number run reach info entity

/-- Calls a subscriber back. -/
def onSignal (callback : Callback) (signal : Signal) : Deed Unit :=
  match callback with
  | .clock system =>
    tending system fun
      | .simClock c => return some (.simClock (← c.display))
      | _ => return none
  | .scripted label number run reach => notifyScripted label number run reach signal

/-- Makes the system of a plugin. -/
def construct (factory : Factory) (spec : PluginSpec) : Deed SystemId :=
  let enroll (role : Role) : Deed SystemId := do
    let (system, memory) := (← Program.consult).enroll role
    Program.revise fun _ => memory
    return system
  match factory with
  | .builtin builtin => do
    enroll (← Program.ofExcept (Role.ofBuiltin builtin spec.config spec.entity))
  | .scripted make =>
    match make spec with
    | .done script => enroll (.scripted (.ofScript script spec.entity))
    | .failed failure => .fail failure
    | .panicked panic => .panic panic

/-- The end of a system that nobody holds any more. -/
def drop (system : SystemId) : Deed Unit := do
  match (← Program.consult).role? system with
  | some (.scripted s) => s.drop
  | some (.simClock c) =>
    match c.subscription with
    | some subscription => Program.disconnect subscription
    | none => pure ()
  | _ => pure ()
  Program.revise fun m => m.dismiss system

/-- One holder less; with the last one the system ends. -/
def giveBack (system : SystemId) : Deed Unit := do
  Program.revise fun m => m.unhold system
  if (← Program.consult).holders system = 0 then drop system else return ()

/-- A system comes to its end without a panic. -/
theorem completes_drop (system : SystemId) : (drop system).Completes := by
  have hdismiss : (Program.revise (G := cast) fun m => m.dismiss system).Completes :=
    Program.completes_request _
  refine Program.completes_ask fun m => ?_
  simp only
  split
  · rename_i s _
    exact s.completes_drop.bind fun _ => hdismiss
  · split
    · exact Program.completes_ask fun _ => hdismiss
    · exact hdismiss
  · exact hdismiss

theorem completes_giveBack (system : SystemId) : (giveBack system).Completes := by
  refine Program.completes_ask fun _ => Program.completes_ask fun m => ?_
  split
  · exact completes_drop system
  · exact trivial

/-- How many channels there are besides those that stand alone, and one more. -/
def depth : Nat := 6

/-- The behaviour of the cast. -/
def behavior : Behavior cast where
  name system m := ((m.role? system).map Role.name).getD ""
  offers system m capability :=
    match m.role? system with
    | some role => role.capabilities.has capability
    | none => false
  configure := configure
  configureParameters := configureParameters
  phase := callPhase
  onQuery := onQuery
  onSignal := onSignal
  construct := construct
  discard := drop
  giveBack := giveBack
  unloaded name := Program.revise fun m => m.write ("unload(" ++ name ++ ")")
  discard_completes := completes_drop
  giveBack_completes := completes_giveBack
  unloaded_completes _ := Program.completes_request _
  memoryHoldsQueue := Memory.holdsQueue
  callbackHoldsQueue
    | .clock _ => false
    | .scripted _ _ _ reach => reach.commands
  depth := depth

end Cast
end SimEngine
