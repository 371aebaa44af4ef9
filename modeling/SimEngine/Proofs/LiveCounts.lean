import SimEngine.Proofs.Custody

/-!
# Live counts

While an engine is alive, the counts of its loader change in two ways only: a
system is loaded, or one that was loaded is let go of.  All guest code, and what
the engine does around it, leaves the loader as it is.

**Results.**
* `loader_configure`, `loader_configureParameters`, `loader_attachAs`,
  `loader_turn`: who is attached, configured or has a turn leaves the loader as
  it is.
* `liveInstances_release`, `liveInstances_load`: who lets go of a system, or
  loads one.
* `liveInstances_of_departure`: who leaves is counted off.
* `liveInstances_of_no_departure`: where nobody leaves, no count goes down.
-/

namespace SimEngine

variable {G : Guest}

section Loaders

variable {b : Behavior G} {env : Environment G} (halive : env.orphaned = false)

include halive

theorem loader_run (access : Access) {α : Type} (p : Program G α) :
    (b.run access p env).2.loader = env.loader :=
  ((loaderLaw b).run (.top access) p halive).1

theorem loader_configure (i : Instance G) (config : Option Payload) :
    (i.configure b config env).2.loader = env.loader := by
  obtain ⟨left, journal, hleft, hconfigure⟩ := exists_configure_env b i env config
  rw [hconfigure]
  rcases hleft with rfl | rfl
  · rfl
  · exact loader_run halive .full _

theorem loader_configureParameters (i : Instance G) :
    (i.configureParameters b env).2.loader = env.loader := by
  obtain ⟨left, journal, hleft, hdeclare⟩ := exists_configureParameters_env b i env
  rw [hdeclare]
  rcases hleft with rfl | rfl
  · rfl
  · exact loader_run halive .full _

theorem loader_deliver (list : Handle) (info : StepInfo) :
    (QueryList.deliver b list info env).2.loader = env.loader := by
  have hvisits := (@TraceLaw.of_delivery G b list info _ (loaderLaw b) env halive).1
  rw [deliver_eq halive]
  exact hvisits.1

/-- **Who has a turn leaves the loader as it is.** -/
theorem loader_turn (info : StepInfo) (failed : List Handle) (slot : Pass × Instance G) :
    (b.turn info failed slot env).after.loader = env.loader := by
  have hreported : ∀ {pass : Pass} {i : Instance G} {result : Except String Unit}
      {left : Environment G}, (faultReported info pass i result left).loader = left.loader := by
    intro pass i result left
    cases result <;> rfl
  obtain ⟨pass, i⟩ := slot
  cases pass with
  | queries =>
      obtain ⟨delivery, left, n, hanswer, hturn⟩ := turn_queries b info failed i env
      have hdeliver := loader_deliver (b := b) halive i.handle info
      rw [hanswer] at hdeliver
      rw [hturn]
      exact hreported.trans hdeliver
  | phase p =>
      rcases turn_phase_cases b info failed p i env with
        ⟨_, hturn⟩ | ⟨_, hturn⟩ | ⟨outcome, left, _, _, _, hanswer, hturn⟩
      · rw [hturn]
      · rw [hturn]
        rfl
      · have hrun := loader_run (b := b) halive (Instance.accessOf p)
          (b.phase p i.attachment.system info)
        rw [hanswer] at hrun
        rw [hturn]
        exact hreported.trans hrun

/-- **Who lets go of a system** counts it off if it was loaded, and changes no other count. -/
theorem liveInstances_release (attachment : Attachment G) (plugin : String) :
    (b.release attachment env).loader.liveInstances plugin =
      env.loader.liveInstances plugin - countedIn plugin [attachment] := by
  have hquiet : ∀ {env : Environment G} (p : Program G Unit), env.orphaned = false →
      (b.runQuietly p env).loader = env.loader := fun p halive => loader_run halive .none p
  have halive' : (b.runQuietly (b.discard attachment.system) env).orphaned = false :=
    (grows_run halive .none _).alive halive
  by_cases hcounted : ∃ name, attachment.ownership = .plugin name (some .counted)
  · obtain ⟨name, hownership⟩ := hcounted
    rw [Behavior.release, (releaseWith_counted b.runQuietly hownership env).1,
      hquiet _ halive, countedIn_counted hownership]
  · have hnone : countedIn plugin [attachment] = 0 := by
      refine countedIn_of_not_counted (fun other => decide_eq_false fun heq => ?_) plugin
      exact hcounted ⟨other, heq⟩
    rw [hnone, Nat.sub_zero]
    have hsame : (b.release attachment env).loader = env.loader := by
      rcases hownership : attachment.ownership with ⟨name, _ | _ | _⟩ | _ <;>
        simp only [Behavior.release, Behavior.releaseWith, hownership]
      · exact hquiet _ halive
      · exact absurd ⟨name, hownership⟩ hcounted
      · exact (hquiet _ halive').trans (hquiet _ halive)
      · exact hquiet _ halive
    rw [hsame]

/-- **Who loads a system** counts it, and who cannot load it changes no count. -/
theorem liveInstances_load (spec : PluginSpec) (plugin : String) :
    (b.load spec env).2.loader.liveInstances plugin =
      env.loader.liveInstances plugin +
        match (b.load spec env).1 with
        | .ok attachment => countedIn plugin [attachment]
        | .error _ => 0 := by
  cases hload : (b.load spec env).1 with
  | error cause =>
      rw [loader_of_load_error halive hload]
      rfl
  | ok attachment =>
      unfold Behavior.load at hload ⊢
      cases hfind : env.loader.factories.find? spec.name with
      | none =>
          simp only [hfind] at hload
          cases hload
      | some factory =>
          have hrun := loader_run (b := b) halive .none (b.construct factory spec)
          rcases hanswer : b.run .none (b.construct factory spec) env with ⟨outcome, left⟩
          simp only [hfind, hanswer] at hload hrun ⊢
          cases houtcome : outcome.toExcept with
          | error message =>
              rw [houtcome] at hload
              cases hload
          | ok system =>
              simp only [houtcome] at hload ⊢
              obtain rfl := Except.ok.inj hload
              rw [liveInstances_count, hrun, countedIn_counted rfl]

omit halive in
/-- **Who is attached leaves the loader as it is.** -/
theorem loader_attachAs
    {e : Engine G} (halive : e.env.orphaned = false) (handle : Handle)
    (attachment : Attachment G) (entity : Entity) (config : Payload) :
    (e.attachAs b handle attachment entity config).env.loader = e.env.loader := by
  have hmade : (e.newcomer b handle attachment entity config).2.orphaned = false := halive
  have hconfigured := (grows_configure (b := b) hmade
    (e.newcomer b handle attachment entity config).1 none).alive hmade
  exact (loader_configureParameters hconfigured _).trans (loader_configure hmade _ none)

end Loaders

section Moments

variable {b : Behavior G} {m : Moment G} (halive : m.before.env.orphaned = false)

include halive

/-- **Who leaves is counted off**, if it was loaded. -/
theorem liveInstances_of_departure
    {i : Instance G} {env : Environment G} (h : m.departure? = some (i, env)) (plugin : String) :
    (m.after b).env.loader.liveInstances plugin =
      m.before.env.loader.liveInstances plugin - countedIn plugin [i.attachment] := by
  obtain ⟨hafter, hstill, _⟩ := env_after_departure (b := b) h
  have hloader : env.loader = m.before.env.loader := by
    obtain ⟨_, rfl⟩ := env_of_departure h
    rfl
  rw [hafter, ← hloader]
  exact liveInstances_release (hstill.orphaned.trans halive) i.attachment plugin

/-- **Where nobody leaves, no count goes down.** -/
theorem liveInstances_of_no_departure
    (h : m.departure? = none) (hact : ∀ arrangement, m.act ≠ .arrange arrangement)
    (plugin : String) :
    m.before.env.loader.liveInstances plugin ≤ (m.after b).env.loader.liveInstances plugin := by
  have hsame : (m.after b).env.loader = m.before.env.loader →
      m.before.env.loader.liveInstances plugin ≤
        (m.after b).env.loader.liveInstances plugin := by
    intro heq
    exact Nat.le_of_eq (by rw [heq])
  obtain ⟨e, act⟩ := m
  cases act with
  | load spec =>
      have hload := liveInstances_load (b := b) halive spec plugin
      exact Nat.le.intro hload.symm
  | carryOut mandate command =>
      cases command with
      | attach handle attachment entity config =>
          exact hsame (loader_attachAs halive handle attachment entity config)
      | detach handle =>
          refine hsame ?_
          rw [(after_of_no_departure h (Or.inl ⟨mandate, handle, rfl⟩)).1]
  | turn info failed slot =>
      exact hsame (loader_turn halive info failed slot)
  | reconfigure handle config =>
      refine hsame ?_
      simp only [Moment.after, Engine.perform, Engine.reconfigure]
      cases e.scheduler.instance? handle with
      | none => rfl
      | some i => exact loader_configure halive i config
  | expel =>
      refine hsame ?_
      rw [(after_of_no_departure h (Or.inr rfl)).1]
  | run access program =>
      exact hsame (loader_run halive access program)
  | arrange arrangement =>
      exact absurd rfl (hact arrangement)
  | _ => exact Nat.le_refl _

end Moments
end SimEngine
