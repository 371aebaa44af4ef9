import SimEngine.Engine.Scheduler

/-!
# Recasts

A behavior in which the calls of a step are replaced and nothing else.  What
happens outside of those calls stays the same, the beginning of a step included.

**Definitions.**
* `Behavior.recast`: the behavior with other phases and query callbacks.

**Results.**
* `run_recast`: programs run as before.
* `beginStep_recast`: so do steps begin.
-/

namespace SimEngine

variable {G : Guest}

/-- The behavior with other phases and query callbacks. -/
def Behavior.recast (b : Behavior G) (phase : StepPhase → G.System → StepInfo → Program G Unit)
    (onQuery : G.Callback → StepInfo → Entity → Program G Unit) : Behavior G :=
  { b with phase := phase, onQuery := onQuery }

section Recasts

variable (b : Behavior G) (phase : StepPhase → G.System → StepInfo → Program G Unit)
  (onQuery : G.Callback → StepInfo → Entity → Program G Unit)

theorem releaseCommands_recast
    (run : Program G Unit → Environment G → Environment G) (env : Environment G)
    (commands : List (Command G)) :
    (b.recast phase onQuery).releaseCommands run env commands =
      b.releaseCommands run env commands := by
  induction commands generalizing env with
  | nil =>
      rfl
  | cons command rest ih =>
      cases command with
      | attach handle attachment entity config =>
          exact ih _
      | detach handle =>
          exact ih env

theorem tidyWith_recast
    (emit : Signal → Environment G → Nat × Environment G) (held : List (Snapshot G)) :
    (b.recast phase onQuery).tidyWith emit held = b.tidyWith emit held := by
  funext env
  simp only [Behavior.tidyWith, releaseCommands_recast]
  rfl

theorem notify_recast (room : Nat) : (b.recast phase onQuery).notify room = b.notify room := by
  induction room with
  | zero =>
      rfl
  | succ room ih =>
      funext busy held signal env
      simp only [Behavior.notify, ih, tidyWith_recast]
      rfl

theorem run_recast
    {α : Type} (access : Access) (p : Program G α) (env : Environment G) :
    (b.recast phase onQuery).run access p env = b.run access p env := by
  have hemit : (b.recast phase onQuery).emit = b.emit := by
    funext signal env
    exact congrArg (fun notify => notify [] [] signal env) (notify_recast b phase onQuery b.depth)
  have htidy : (b.recast phase onQuery).tidy = b.tidy := by
    funext env
    rw [Behavior.tidy, Behavior.tidy, hemit, tidyWith_recast]
  rw [Behavior.run, Behavior.run, hemit, htidy]

theorem release_recast : (b.recast phase onQuery).release = b.release := by
  have hquiet : (b.recast phase onQuery).runQuietly = b.runQuietly := by
    funext p env
    rw [Behavior.runQuietly, Behavior.runQuietly, run_recast]
  funext attachment env
  rw [Behavior.release, Behavior.release, hquiet]
  rfl

theorem call_recast (i : Instance G) :
    i.call (b.recast phase onQuery) = i.call b := by
  funext capability access program env
  simp only [Instance.call, run_recast]
  rfl

theorem configure_recast (i : Instance G) :
    i.configure (b.recast phase onQuery) = i.configure b := by
  funext config env
  simp only [Instance.configure, call_recast]
  rfl

theorem configureParameters_recast (i : Instance G) :
    i.configureParameters (b.recast phase onQuery) = i.configureParameters b := by
  funext env
  simp only [Instance.configureParameters, call_recast]
  rfl

theorem apply_recast (e : Engine G) (command : Command G) :
    e.apply (b.recast phase onQuery) command = e.apply b command := by
  cases command with
  | attach handle attachment entity config =>
      simp only [Engine.apply, Engine.attachAs, configure_recast, configureParameters_recast]
      rfl
  | detach handle =>
      simp only [Engine.apply, Engine.detach, Engine.dismiss, Instance.retire, release_recast]

theorem beginStep_recast (e : Engine G) :
    e.beginStep (b.recast phase onQuery) = e.beginStep b := by
  simp only [Engine.beginStep, Engine.applyCommands, apply_recast]

end Recasts
end SimEngine
