import SimEngine.Engine.Scheduler
import SimEngine.Proofs.Deliveries
import SimEngine.Proofs.Laws

/-!
# The queue of requests

Guest code adds requests to the queue and takes none away, and each attachment
that it queues gets a handle of its own.  So do the host's attachments.

**Definitions.**
* `attachHandles`: the handles of the attachments in a queue.
* `Fresh`: different handles from a range of numbers.
* `Environment.Grows`: what any code does to the queue.

**Results.**
* `exists_call_env`, `exists_configure_env`, `exists_configureParameters_env`: when
  an instance is called, no more is done than to run its program and to report.
* `growLaw`: every run of guest code makes the queue grow.
* `grows_configure`, `grows_deliver`, `grows_release`: so does all that the engine
  does with one instance.
-/

namespace SimEngine

variable {G : Guest}

/-- The handles of the attachments in a queue. -/
def attachHandles (commands : List (Command G)) : List Handle :=
  commands.filterMap fun
    | .attach handle _ _ _ => some handle
    | .detach _ => none

@[simp] theorem attachHandles_append (first second : List (Command G)) :
    attachHandles (first ++ second) = attachHandles first ++ attachHandles second :=
  List.filterMap_append

/-- Different handles whose numbers are from `low` on and below `high`. -/
structure Fresh (low high : Nat) (handles : List Handle) : Prop where
  le : low ≤ high
  nodup : handles.Nodup
  bounds : ∀ h ∈ handles, low ≤ h.number ∧ h.number < high

theorem Fresh.nil {low high : Nat} (hle : low ≤ high) : Fresh low high [] :=
  ⟨hle, List.nodup_nil, by simp⟩

theorem Fresh.append
    {low mid high : Nat} {first second : List Handle}
    (h₁ : Fresh low mid first) (h₂ : Fresh mid high second) :
    Fresh low high (first ++ second) := by
  have hlow := h₁.le
  have hhigh := h₂.le
  refine ⟨Nat.le_trans hlow hhigh, ?_, ?_⟩
  · refine List.nodup_append.2 ⟨h₁.nodup, h₂.nodup, ?_⟩
    intro h hfirst other hsecond heq
    subst heq
    have := h₁.bounds h hfirst
    have := h₂.bounds h hsecond
    omega
  · intro h hh
    rcases List.mem_append.1 hh with hh | hh
    · have := h₁.bounds h hh
      omega
    · have := h₂.bounds h hh
      omega

/--
What any code does to the queue: requests are added behind the others, each attachment under a
handle of its own, and the engine stays alive if it is.
-/
structure Environment.Grows (env env' : Environment G) : Prop where
  orphaned : env'.orphaned = env.orphaned
  queue : ∃ added, env'.commands = env.commands ++ added ∧
    Fresh env.nextHandle env'.nextHandle (attachHandles added)

namespace Environment.Grows

theorem of_eq
    {env env' : Environment G} (horphaned : env'.orphaned = env.orphaned)
    (hcommands : env'.commands = env.commands) (hnext : env'.nextHandle = env.nextHandle) :
    env.Grows env' := by
  refine ⟨horphaned, [], ?_, ?_⟩
  · rw [hcommands, List.append_nil]
  · rw [hnext]
    exact Fresh.nil (Nat.le_refl _)

theorem refl (env : Environment G) : env.Grows env :=
  of_eq rfl rfl rfl

theorem trans
    {e₁ e₂ e₃ : Environment G} (h₁ : e₁.Grows e₂) (h₂ : e₂.Grows e₃) : e₁.Grows e₃ := by
  obtain ⟨added₁, hcommands₁, hfresh₁⟩ := h₁.queue
  obtain ⟨added₂, hcommands₂, hfresh₂⟩ := h₂.queue
  refine ⟨h₂.orphaned.trans h₁.orphaned, added₁ ++ added₂, ?_, ?_⟩
  · rw [hcommands₂, hcommands₁, List.append_assoc]
  · rw [attachHandles_append]
    exact hfresh₁.append hfresh₂

theorem alive
    {env env' : Environment G} (h : env.Grows env') (halive : env.orphaned = false) :
    env'.orphaned = false :=
  h.orphaned.trans halive

theorem report (env : Environment G) (notice : Notice) : env.Grows (env.report notice) :=
  of_eq rfl rfl rfl

theorem setQueryList
    (env : Environment G) (list : Handle) (l : QueryList G.Callback) :
    env.Grows (env.setQueryList list l) :=
  of_eq rfl rfl rfl

theorem tellLoop (env : Environment G) (signal : Signal) : env.Grows (env.tellLoop signal) := by
  cases signal <;> exact of_eq rfl rfl rfl

theorem queueAttach
    (env : Environment G) (attachment : Attachment G) (entity : Entity) (config : Payload) :
    env.Grows (env.queueAttach attachment entity config).2 where
  orphaned := rfl
  queue := by
    refine ⟨[.attach ⟨env.nextHandle⟩ attachment entity config], rfl, ?_⟩
    refine ⟨Nat.le_succ _, by simp [attachHandles], ?_⟩
    intro h hh
    rw [List.mem_singleton.1 hh]
    exact ⟨Nat.le_refl _, Nat.lt_succ_self _⟩

theorem queueDetach (env : Environment G) (handle : Handle) :
    env.Grows (env.queueDetach handle) where
  orphaned := rfl
  queue := ⟨[.detach handle], rfl, Fresh.nil (Nat.le_refl _)⟩

theorem performAt
    (b : Behavior G) (spot : Spot G) (r : Request G) (env : Environment G)
    (hr : ∀ signal, r ≠ .emit signal) : env.Grows (b.performAt spot r env).2 := by
  cases r with
  | queueAttach attachment entity config =>
      exact queueAttach env attachment entity config
  | queueDetach handle =>
      exact queueDetach env handle
  | _ =>
      obtain ⟨_, _, hafter⟩ := performAt_eq b spot _ env hr
      rw [hafter]
      exact of_eq rfl rfl rfl

end Environment.Grows

open Environment (Grows)

section Instances

variable (b : Behavior G) (i : Instance G) (env : Environment G)

/-- Who is called runs its program, or not, and what comes of it is reported. -/
theorem exists_call_env (capability : Capability) (access : Access) (program : Program G Unit) :
    ∃ left journal, (left = env ∨ left = (b.run access program env).2) ∧
      (i.call b capability access program env).2 = { left with journal := journal } := by
  unfold Instance.call
  split
  · refine ⟨_, (b.run access program env).2.journal, Or.inr rfl, ?_⟩
    simp only
    split <;> rfl
  · exact ⟨env, _, Or.inl rfl, rfl⟩

theorem exists_configure_env (config : Option Payload) :
    ∃ left journal, (left = env ∨ left = (b.run .full (b.configure i.attachment.system
        ⟨i.handle, i.entity, config.getD i.config⟩) env).2) ∧
      (i.configure b config env).2 = { left with journal := journal } := by
  let made := i.prepare config
  obtain ⟨left, journal, hleft, hcall⟩ := exists_call_env b made env .configure .full
    (b.configure made.attachment.system ⟨made.handle, made.entity, made.config⟩)
  simp only [made] at hcall
  unfold Instance.configure
  simp only
  split
  · split
    · rename_i heq
      rw [heq] at hcall
      obtain rfl : _ = { left with journal := journal } := hcall
      exact ⟨left, _, hleft, rfl⟩
    · rename_i heq
      rw [heq] at hcall
      obtain rfl : _ = { left with journal := journal } := hcall
      exact ⟨left, _, hleft, rfl⟩
  · exact ⟨env, env.journal, Or.inl rfl, rfl⟩

theorem exists_configureParameters_env :
    ∃ left journal, (left = env ∨
        left = (b.run .full (b.configureParameters i.attachment.system) env).2) ∧
      (i.configureParameters b env).2 = { left with journal := journal } := by
  obtain ⟨left, journal, hleft, hcall⟩ := exists_call_env b i env .configureParameters .full
    (b.configureParameters i.attachment.system)
  unfold Instance.configureParameters
  simp only
  split
  · split
    · rename_i heq
      rw [heq] at hcall
      obtain rfl : _ = { left with journal := journal } := hcall
      exact ⟨left, _, hleft, rfl⟩
    · rename_i heq
      rw [heq] at hcall
      exact ⟨left, journal, hleft, hcall⟩
  · exact ⟨env, env.journal, Or.inl rfl, rfl⟩

end Instances

section Engines

variable (b : Behavior G)

/-- **Every run of guest code makes the queue grow.** -/
theorem growLaw : TraceLaw b fun env _ env' => env.Grows env' where
  refl := Grows.refl
  trans := Grows.trans
  request := Grows.performAt b
  emit := fun _ _ env => Grows.refl env
  ensure := fun _ _ => Grows.of_eq rfl rfl rfl
  tell := fun signal env => Grows.tellLoop env signal
  report := fun notice env => Grows.report env notice
  turnTo := fun _ _ _ => Grows.of_eq rfl rfl rfl

variable {b} {env : Environment G} (halive : env.orphaned = false)

include halive

theorem grows_run (access : Access) {α : Type} (p : Program G α) :
    env.Grows (b.run access p env).2 :=
  (growLaw b).run (.top access) p halive

theorem grows_release (attachment : Attachment G) : env.Grows (b.release attachment env) := by
  unfold Behavior.release Behavior.releaseWith
  cases attachment.ownership with
  | shared =>
      exact grows_run halive .none _
  | plugin name unload =>
      have hdiscard : env.Grows (b.runQuietly (b.discard attachment.system) env) :=
        grows_run halive .none _
      cases unload with
      | none =>
          exact hdiscard
      | some unload =>
          cases unload with
          | announced =>
              exact hdiscard.trans (grows_run (hdiscard.alive halive) .none _)
          | counted =>
              simp only
              split
              · exact hdiscard.trans (Grows.of_eq rfl rfl rfl)
              · exact hdiscard.trans (Grows.of_eq rfl rfl rfl)

theorem grows_configure (i : Instance G) (config : Option Payload) :
    env.Grows (i.configure b config env).2 := by
  obtain ⟨left, journal, hleft, hconfigure⟩ := exists_configure_env b i env config
  rw [hconfigure]
  rcases hleft with rfl | rfl
  · exact Grows.of_eq rfl rfl rfl
  · exact (grows_run halive .full _).trans (Grows.of_eq rfl rfl rfl)

theorem grows_configureParameters (i : Instance G) :
    env.Grows (i.configureParameters b env).2 := by
  obtain ⟨left, journal, hleft, hdeclare⟩ := exists_configureParameters_env b i env
  rw [hdeclare]
  rcases hleft with rfl | rfl
  · exact Grows.of_eq rfl rfl rfl
  · exact (grows_run halive .full _).trans (Grows.of_eq rfl rfl rfl)

theorem grows_deliver (list : Handle) (info : StepInfo) :
    env.Grows (QueryList.deliver b list info env).2 := by
  have hstart : env.Grows (env.setQueryList list (env.queryList list).depart) :=
    Grows.setQueryList env list _
  have hvisits := (@TraceLaw.of_delivery G b list info _ (growLaw b) env halive).1
  rw [deliver_eq halive]
  exact (hstart.trans hvisits).trans (Grows.setQueryList _ list _)

theorem grows_load (spec : PluginSpec) : env.Grows (b.load spec env).2 := by
  unfold Behavior.load
  split
  · exact Grows.refl env
  · rename_i factory _
    have hrun := grows_run halive (b := b) .none (b.construct factory spec)
    rcases hanswer : b.run .none (b.construct factory spec) env with ⟨outcome, env'⟩
    rw [hanswer] at hrun
    simp only
    split
    · exact hrun.trans (Grows.of_eq rfl rfl rfl)
    · exact hrun

end Engines
end SimEngine
