import SimEngine.Engine.Scheduler

/-!
# Puppets

The least guest there is: its systems and callbacks are numbers, and it
remembers a number.  What they do is told apart from it, so that a run in which
just a few of them do anything can be written down in a few lines.

**Definitions.**
* `puppets`: the guest.
* `Puppets.idle`: the behaviour in which nothing is done.
-/

namespace SimEngine

/-- A guest of numbers. -/
abbrev puppets : Guest where
  components :=
    { Kind := Unit
      decEq := inferInstance
      Value := fun _ => Int
      name := fun _ => "speed" }
  Memory := Nat
  System := Nat
  Callback := Nat
  Factory := Nat

namespace Puppets

/-- Every system offers its phases, and no call does anything. -/
def idle : Behavior puppets where
  name _ _ := "puppet"
  offers _ _ capability := capability ≠ .configure ∧ capability ≠ .configureParameters
  configure _ _ := .done ()
  configureParameters _ := .done ()
  phase _ _ _ := .done ()
  onQuery _ _ _ := .done ()
  onSignal _ _ := .done ()
  construct factory _ := .done factory
  discard _ := .done ()
  giveBack _ := .done ()
  unloaded _ := .done ()
  discard_completes _ := trivial
  giveBack_completes _ := trivial
  unloaded_completes _ := trivial
  memoryHoldsQueue _ := false
  callbackHoldsQueue _ := false
  depth := 4

end Puppets
end SimEngine
