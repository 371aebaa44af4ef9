import SimEngine.Cast.Behavior
import SimEngine.Proofs.Runs

/-!
# What the built-in systems ask for

The systems that come with the engine ask for little: they look at the world,
write to it, use parameters, report, and pause or stop the simulation.  Only a
clock does more, when it is configured: it subscribes to scene updates.

**Definitions.**
* `Request.Modest`: the requests of the built-in systems.
* `Request.Observes`: those of them that leave the world as it is.
* `Request.Looks`: those that an accelerating system makes when it is configured.
* `Role.IsBuiltin`, `Role.token`: the built-in roles, and the subscription that
  a clock holds.
* `Role.Continues`: what may become of a built-in role in a call.

**Results.**
* `modest_accelerate_update`, `modest_velocityLog_postUpdate`,
  `modest_pauseAfter_preUpdate`: the phases of the systems ask modestly.
* `looking_accelerate_configure`, `looking_accelerate_configureParameters`: an
  accelerating system asks for less when it is configured.
* `observing_velocityLog_postUpdate`, `observing_pauseAfter_preUpdate`,
  `observing_simClock_display`: the other ones leave the world as it is.
-/

namespace SimEngine

/-- A request of a built-in system. -/
def Request.Modest : Request cast → Prop
  | .report _ | .isAlive _ | .find _ | .hasType _ _ | .read _ _ | .write _ _ _ => True
  | .declare _ _ | .setParameter _ _ | .getParameter _ => True
  | .emit (.pause _) | .emit .stop => True
  | _ => False

/-- A request of a built-in system that leaves the world as it is. -/
def Request.Observes : Request cast → Prop
  | .write _ _ _ => False
  | r => r.Modest

theorem Request.Observes.modest {r : Request cast} (h : r.Observes) : r.Modest := by
  cases r with
  | write e kind value => exact h.elim
  | _ => exact h

/-- A request that looks for an entity, declares a parameter or reports. -/
def Request.Looks {G : Guest} : Request G → Prop
  | .isAlive _ | .declare _ _ | .report _ => True
  | _ => False

theorem Request.Looks.observes {r : Request cast} (h : r.Looks) : r.Observes := by
  cases r <;> trivial

theorem Request.Looks.modest {r : Request cast} (h : r.Looks) : r.Modest :=
  h.observes.modest

namespace Role

/-- The role of a system that comes with the engine. -/
def IsBuiltin : Role → Prop
  | .scripted _ => False
  | _ => True

/-- The subscription that a clock holds. -/
def token : Role → Option Connection
  | .simClock c => c.subscription
  | _ => none

/-- A built-in role that holds the same subscription as another. -/
def Continues (role next : Role) : Prop :=
  next.IsBuiltin ∧ next.token = role.token

end Role

section Modesty

/-- An accelerating system that is configured accelerates the entity it is configured for. -/
theorem looking_accelerate_configure (s : Accelerate) (context : ConfigureContext) :
    (s.configure context).Confined Request.Looks fun next => next.entity = context.entity := by
  refine confined_ask trivial fun isAlive => ?_
  split
  · exact trivial
  · exact (confined_ofExcept fun _ _ => trivial).bind fun _ (_ : True) => rfl

theorem modest_accelerate_configure (s : Accelerate) (context : ConfigureContext) :
    (s.configure context).Confined Request.Modest fun _ => True :=
  (looking_accelerate_configure s context).mono (fun _ => Request.Looks.modest) fun _ _ => trivial

/-- An accelerating system that declares its gain goes on as before. -/
theorem looking_accelerate_configureParameters (s : Accelerate) :
    s.configureParameters.Confined Request.Looks fun next =>
      next.entity = s.entity ∧ next.propulsion = s.propulsion := by
  have hdeclare : (Program.declare (G := cast) (Accelerate.gainName s.entity)
      (.ok (.num (.float 1.0)))).Confined Request.Looks fun _ => True :=
    ⟨trivial, fun _ => confined_ofExcept fun _ _ => trivial⟩
  exact hdeclare.bind fun _ _ => ⟨rfl, rfl⟩

theorem modest_accelerate_configureParameters (s : Accelerate) :
    s.configureParameters.Confined Request.Modest fun _ => True :=
  (looking_accelerate_configureParameters s).mono (fun _ => Request.Looks.modest)
    fun _ _ => trivial

theorem modest_accelerate_update (s : Accelerate) (info : StepInfo) :
    (s.update info).Confined Request.Modest fun _ => True := by
  unfold Accelerate.update
  split
  · exact trivial
  · refine confined_ask trivial fun velocity => ?_
    split
    · exact trivial
    · have hgain : s.currentGain.Confined Request.Modest fun _ => True := by
        unfold Accelerate.currentGain
        split
        · exact trivial
        · exact confined_ask trivial fun _ => trivial
      exact hgain.bind fun gain _ => confined_ask trivial fun _ => trivial

theorem observing_logEach (l : VelocityLog) (info : StepInfo) (entities : List Entity) :
    (l.logEach info entities).Confined Request.Observes fun _ => True := by
  induction entities generalizing l with
  | nil => exact trivial
  | cons e rest ih =>
      unfold VelocityLog.logEach
      split
      · refine confined_ask trivial fun velocity => ?_
        split
        · exact ih l
        · refine confined_ask trivial fun name => ?_
          exact confined_ask trivial fun _ => ih _
      · exact ih l

theorem observing_velocityLog_postUpdate (l : VelocityLog) (info : StepInfo) :
    (l.postUpdate info).Confined Request.Observes fun _ => True := by
  unfold VelocityLog.postUpdate
  split
  · exact confined_ask trivial fun entities => observing_logEach l info entities
  · exact trivial

theorem modest_velocityLog_postUpdate (l : VelocityLog) (info : StepInfo) :
    (l.postUpdate info).Confined Request.Modest fun _ => True :=
  (observing_velocityLog_postUpdate l info).mono (fun _ => Request.Observes.modest) fun _ h => h

theorem observing_pauseAfter_preUpdate (p : PauseAfter) (info : StepInfo) :
    (p.preUpdate info).Confined Request.Observes fun _ => True := by
  unfold PauseAfter.preUpdate
  split
  · exact trivial
  · exact trivial
  · exact confined_ask trivial fun _ => confined_ask trivial fun _ => trivial
  · exact confined_ask trivial fun _ => confined_ask trivial fun _ => trivial

theorem modest_pauseAfter_preUpdate (p : PauseAfter) (info : StepInfo) :
    (p.preUpdate info).Confined Request.Modest fun _ => True :=
  (observing_pauseAfter_preUpdate p info).mono (fun _ => Request.Observes.modest) fun _ h => h

theorem observing_simClock_display (c : SimClock) :
    c.display.Confined Request.Observes fun _ => True := by
  simp only [SimClock.display]
  split
  · exact confined_ask trivial fun _ => trivial
  · exact trivial

theorem modest_simClock_display (c : SimClock) :
    c.display.Confined Request.Modest fun _ => True :=
  (observing_simClock_display c).mono (fun _ => Request.Observes.modest) fun _ h => h

end Modesty

end SimEngine
