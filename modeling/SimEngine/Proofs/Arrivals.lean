import SimEngine.Proofs.Adjustments

/-!
# How clocks come and go

A new system takes a place of its own, and no subscription; one that is let go
of leaves its place, and its subscription ends with it.  All other systems go on
as before.  This goes for systems that are loaded by name and for those that a
host has queued.

**Definitions.**
* `Made`, `Ended`: a system is remembered, and forgotten.

**Results.**
* `Placed.join`, `Placed.leave`: who is where afterwards.
* `load_cases`, `ended_release`: systems are loaded, and let go of.
* `AttachesBuiltins.undisturbed`: what a host does leaves the clocks as they are.
-/

namespace SimEngine

open Cast (behavior)

/-- A system is remembered that was not before, and all others go on as before. -/
structure Made (a : Attachment cast) (env left : Environment cast) : Prop where
  clocksConnected : left.ClocksConnected
  plugin : a.IsPlugin
  new : env.standing a.system = none
  self : (left.standing a.system).isSome = true
  fresh : ∀ watch, left.standing a.system = some (some watch) → watch = .fresh
  others : ∀ other, other ≠ a.system → left.standing other = env.standing other

/-- A system is forgotten, its subscription is dropped, and all others go on as before. -/
structure Ended (system : SystemId) (env left : Environment cast) : Prop where
  clocksConnected : left.ClocksConnected
  self : left.standing system = none
  others : ∀ other, other ≠ system → left.standing other = env.standing other
  commands : left.commands = env.commands
  listeners : left.listeners .sceneUpdate = env.otherListeners system

variable {env between left : Environment cast} {system : SystemId} {a : Attachment cast}
  {waiting attached rest : List (Attachment cast)}

section Places

/-- **A new system waits for its attachment.** -/
theorem Placed.join (h : Placed waiting attached env) (hmade : Made a env left) :
    Placed (a :: waiting) attached left where
  distinct := by
    refine List.nodup_cons.2 ⟨fun hmem => ?_, h.distinct⟩
    have hknown := (h.known a.system).2 hmem
    rw [hmade.new] at hknown
    cases hknown
  plugins := List.forall_mem_cons.2 ⟨hmade.plugin, h.plugins⟩
  known other := by
    by_cases hother : other = a.system
    · subst hother
      exact iff_of_true hmade.self List.mem_cons_self
    · rw [hmade.others other hother, h.known other]
      exact ⟨List.mem_cons_of_mem _, fun hmem => (List.mem_cons.1 hmem).resolve_left hother⟩
  fresh := by
    refine List.forall_mem_cons.2 ⟨hmade.fresh, fun other hother watch hwatch => ?_⟩
    refine h.fresh other hother watch ((hmade.others other.system fun heq => ?_).symm.trans hwatch)
    have hknown := (h.known other.system).2
      (List.mem_map_of_mem (List.mem_append_left attached hother))
    rw [heq, hmade.new] at hknown
    cases hknown

/-- **A system that is forgotten leaves its place.** -/
theorem Placed.leave (h : Placed waiting attached env) (hperm : attached.Perm (a :: rest))
    (hended : Ended a.system env left) : Placed waiting rest left := by
  have hplaces : ((waiting ++ attached).map Attachment.system).Perm
      (a.system :: (waiting ++ rest).map Attachment.system) :=
    ((hperm.append_left waiting).trans List.perm_middle).map _
  obtain ⟨hgone, hdistinct⟩ := List.nodup_cons.1 (hplaces.nodup_iff.1 h.distinct)
  have hstay : ∀ b ∈ waiting ++ rest, b ∈ waiting ++ attached := fun b hb =>
    ((hperm.append_left waiting).trans List.perm_middle).mem_iff.2 (List.mem_cons_of_mem a hb)
  refine ⟨hdistinct, fun b hb => h.plugins b (hstay b hb), fun other => ?_, ?_⟩
  · by_cases hother : other = a.system
    · subst hother
      rw [hended.self]
      exact iff_of_false (fun hnone => by cases hnone) hgone
    · rw [hended.others other hother, h.known other, hplaces.mem_iff, List.mem_cons]
      exact or_iff_right hother
  · intro b hb watch hwatch
    refine h.fresh b hb watch ((hended.others b.system fun heq => hgone ?_).symm.trans hwatch)
    rw [← heq]
    exact List.mem_map_of_mem (List.mem_append_left rest hb)

/-- A system that is attached has its place among those that are. -/
theorem Placed.enter (h : Placed (a :: waiting) attached env) :
    Placed waiting (attached ++ [a]) env := by
  have hplaces : (waiting ++ (attached ++ [a])).Perm (a :: (waiting ++ attached)) := by
    rw [← List.append_assoc]
    exact List.perm_append_comm
  refine ⟨((hplaces.map _).nodup_iff).2 h.distinct,
    fun b hb => h.plugins b (hplaces.mem_iff.1 hb), fun other => ?_,
    fun b hb => h.fresh b (List.mem_cons_of_mem a hb)⟩
  exact (h.known other).trans (hplaces.map Attachment.system).mem_iff.symm

/-- Systems that have their places are different ones. -/
theorem Placed.not_mem (h : Placed waiting attached env) (ha : a ∈ attached) :
    a.system ∉ waiting.map Attachment.system := by
  have hdistinct := h.distinct
  rw [List.map_append, List.nodup_append'] at hdistinct
  exact fun hmem => hdistinct.2.2 hmem (List.mem_map_of_mem ha)

end Places

section Making

/-- A system that was just made is no clock, or a clock that was not touched. -/
theorem Role.watch?_ofBuiltin {builtin : Builtin} {config : Payload} {entity : Entity}
    {role : Role} (h : Role.ofBuiltin builtin config entity = .ok role) {watch : Watch}
    (hwatch : role.watch? = some watch) : watch = .fresh := by
  rcases Role.ofBuiltin_cases h with
    ⟨-, rfl⟩ | ⟨-, rfl⟩ | ⟨-, _, -, rfl⟩ | ⟨-, _, -, rfl⟩
  · cases hwatch
  · exact (Option.some.inj hwatch).symm
  · cases hwatch
  · cases hwatch

/-- **A built-in system that is remembered is new.** -/
theorem made_enroll (h : env.ClocksConnected) {builtin : Builtin} {config : Payload}
    {entity : Entity} {role : Role} (hrole : Role.ofBuiltin builtin config entity = .ok role)
    {ownership : Ownership} (hplugin : Attachment.IsPlugin ⟨⟨env.memory.nextSystem⟩, ownership⟩)
    (hmemory : left.memory = (env.memory.enroll role).2) (halive : left.orphaned = env.orphaned)
    (hquiet : ∀ list, left.queryList list = env.queryList list)
    (hfactories : left.loader.factories = env.loader.factories)
    (hchannels : left.channels = env.channels) :
    Made ⟨⟨env.memory.nextSystem⟩, ownership⟩ env left := by
  have hself : left.memory.role? ⟨env.memory.nextSystem⟩ = some role := by
    rw [hmemory]
    exact env.memory.role?_enroll_self role
  have hothers : ∀ other, other ≠ (⟨env.memory.nextSystem⟩ : SystemId) →
      left.memory.role? other = env.memory.role? other := by
    rw [hmemory]
    exact fun other hother => env.memory.role?_enroll_of_ne role hother
  have hnew : env.memory.role? ⟨env.memory.nextSystem⟩ = none := by
    cases hbefore : env.memory.role? ⟨env.memory.nextSystem⟩ with
    | none => rfl
    | some before => exact absurd (h.builtin _ before hbefore).2 (Nat.lt_irrefl _)
  have hfresh : role.token = none := by
    rw [Role.token_eq_watch?]
    cases hwatch : role.watch? with
    | none => rfl
    | some watch => rw [Role.watch?_ofBuiltin hrole hwatch]; rfl
  refine
    { clocksConnected :=
        h.congr halive (fun list => ?_) hfactories (fun key => by rw [hchannels]) ?_ ?_
      plugin := hplugin
      new := Environment.standing_of_none hnew
      self := by
        rw [Environment.standing_of_role hself]
        rfl
      fresh := fun watch hwatch => ?_
      others := fun other hother => congrArg (Option.map Role.watch?) (hothers other hother) }
  · rw [hquiet]
    exact h.quiet list
  · intro other role' hrole'
    have hnext : left.memory.nextSystem = env.memory.nextSystem + 1 := by
      rw [hmemory]
      rfl
    rw [hnext]
    by_cases hother : other = ⟨env.memory.nextSystem⟩
    · subst hother
      obtain rfl := Option.some.inj (hself.symm.trans hrole')
      exact ⟨Role.isBuiltin_ofBuiltin hrole, Nat.lt_succ_self _⟩
    · obtain ⟨hbuiltin, hused⟩ := h.builtin other role' ((hothers other hother).symm.trans hrole')
      exact ⟨hbuiltin, Nat.lt_succ_of_lt hused⟩
  · intro other
    by_cases hother : other = ⟨env.memory.nextSystem⟩
    · rw [hother, Environment.tokenOf, Environment.tokenOf, hself, hnew]
      exact hfresh
    · exact congrArg (Option.bind · Role.token) (hothers other hother)
  · rw [Environment.standing_of_role hself] at hwatch
    exact Role.watch?_ofBuiltin hrole (Option.some.inj hwatch)

/-- **A system is loaded, or it is refused and nothing changes.** -/
theorem load_cases (h : env.ClocksConnected) (spec : PluginSpec) :
    (∃ cause, behavior.load spec env = (.error cause, env)) ∨
    ∃ a left, behavior.load spec env = (.ok a, left) ∧ Made a env left ∧
      left.commands = env.commands := by
  cases hfactory : env.loader.factories.find? spec.name with
  | none =>
      left
      refine ⟨.unknownPlugin spec.name, ?_⟩
      unfold Behavior.load
      rw [hfactory]
  | some factory =>
      obtain ⟨builtin, rfl⟩ := h.factories spec.name factory hfactory
      cases hrole : Role.ofBuiltin builtin spec.config spec.entity with
      | error failure => exact .inl (load_of_refused hfactory hrole)
      | ok role =>
          right
          refine ⟨_, _, load_of_accepted h.alive hfactory hrole, ?_, rfl⟩
          exact made_enroll h hrole ⟨_, _, rfl⟩ rfl rfl (fun _ => rfl) rfl rfl

end Making

section Ends

/-- A plugin that is let go of is forgotten, with its subscription. -/
theorem release_eq_of_plugin (h : env.ClocksConnected) (hplugin : a.IsPlugin) :
    ∃ memory loader journal, behavior.release a env = { env with
        channels := env.channelsWithout a.system
        memory := memory
        loader := loader
        journal := journal } ∧
      memory.members = (env.memory.dismiss a.system).members ∧
      memory.nextSystem = env.memory.nextSystem ∧
      loader.factories = env.loader.factories := by
  obtain ⟨name, unload, hownership⟩ := hplugin
  have hrun : behavior.runQuietly (behavior.discard a.system) env = { env with
      channels := env.channelsWithout a.system
      memory := env.memory.dismiss a.system } :=
    congrArg Prod.snd (run_drop_of_builtin h.alive fun role hrole => (h.builtin _ role hrole).1)
  unfold Behavior.release Behavior.releaseWith
  rw [hownership]
  simp only [hrun]
  cases unload with
  | none => exact ⟨_, _, _, rfl, rfl, rfl, rfl⟩
  | some unload =>
      cases unload with
      | announced =>
          have htold : ∀ env : Environment cast, env.orphaned = false →
              behavior.runQuietly (behavior.unloaded name) env =
                { env with memory := env.memory.write ("unload(" ++ name ++ ")") } :=
            fun env halive => congrArg Prod.snd (run_ask behavior .none (.revise _) .done halive)
          simp only [htold _ (show Environment.orphaned { env with
            channels := env.channelsWithout a.system
            memory := env.memory.dismiss a.system } = false from h.alive)]
          exact ⟨_, _, _, rfl, rfl, rfl, rfl⟩
      | counted =>
          simp only
          split <;> exact ⟨_, _, _, rfl, rfl, rfl, factories_uncount _ name⟩

/-- **A plugin that is let go of is forgotten, and its subscription ends with it.** -/
theorem ended_release (h : env.ClocksConnected) (hplugin : a.IsPlugin) :
    Ended a.system env (behavior.release a env) := by
  obtain ⟨memory, loader, journal, hrelease, hmembers, hnext, hfactories⟩ :=
    release_eq_of_plugin h hplugin
  have hroles := Memory.role?_of_members hmembers
  have hself : memory.role? a.system = none :=
    (hroles a.system).trans (env.memory.role?_dismiss_self a.system)
  have hothers : ∀ other, other ≠ a.system → memory.role? other = env.memory.role? other :=
    fun other hother => (hroles other).trans (env.memory.role?_dismiss_of_ne hother)
  -- What is written down and counted at the end of a plugin is of no account to clocks.
  have hsubscribed : ({ env with
      channels := env.channelsWithout a.system
      memory := memory } : Environment cast).ClocksConnected := by
    refine h.rearrange a.system [] hothers (fun role hrole => ?_) hnext
      (rewired_without h a.system) ?_ (List.forall_mem_nil _) fun _ => ?_
    · rw [hself] at hrole
      cases hrole
    · rw [List.append_nil]
      exact listeners_without h a.system
    · rw [hself]
      rfl
  rw [hrelease]
  refine
    { clocksConnected := { hsubscribed with
        factories := by
          rw [hfactories]
          exact h.factories }
      self := Environment.standing_of_none hself
      others := fun other hother => congrArg (Option.map Role.watch?) (hothers other hother)
      commands := rfl
      listeners := listeners_without h a.system }

end Ends

section Hosts

theorem Request.IsMild.isOrdinary {r : Request cast} (h : r.IsMild) : r.IsOrdinary := by
  cases r with
  | write e kind value => exact trivial
  | _ => exact h

/-- Scripted code outside of all systems that changes no subscription makes ordinary requests. -/
theorem ordinary_performAll {s : Scope} (h : s.Aside) {actions : List Action}
    (hactions : ∀ action ∈ actions, action.IsOrdinary) :
    (performAll s actions).AttachesBuiltins Request.IsOrdinary :=
  attachesBuiltins_performAll fun action hmem =>
    attachesBuiltins_action h (fun _ => Request.IsMild.isOrdinary) (hactions action hmem)

/-- A system that is made and queued disturbs nobody. -/
theorem Made.undisturbed (h : Made a env left)
    (hqueued : queuedIn left.commands = queuedIn env.commands ++ [a]) : Undisturbed env left where
  clocksConnected := h.clocksConnected
  standing other watch hwatch := by
    refine (h.others other fun heq => ?_).trans hwatch
    rw [heq, h.new] at hwatch
    cases hwatch
  placed underway attached hplaced := by
    rw [hqueued, ← List.append_assoc]
    exact (hplaced.join h).perm (@List.perm_append_comm _ [a] _)

/-- **Having a built-in system attached disturbs nobody.** -/
theorem undisturbed_queueBuiltin (h : env.ClocksConnected) (builtin : Builtin) (config : Payload)
    (entity : Entity) (unload : Option Unload) (access : Access) :
    Undisturbed env
      (behavior.run access (Cast.queueBuiltin builtin config entity unload) env).2 := by
  unfold Behavior.run
  rcases @run_queueBuiltin env behavior.emit behavior.tidy access gentle_behavior.tidy h.alive
    builtin config entity unload with ⟨failure, hrun⟩ | ⟨role, hrole, hrun⟩ <;> rw [hrun]
  · exact .refl h
  · let a : Attachment cast := ⟨⟨env.memory.nextSystem⟩, .plugin role.name unload⟩
    have hmade : Made a env (Environment.queueAttach
        { env with memory := (env.memory.enroll role).2 } a entity config).2 :=
      made_enroll h hrole ⟨_, _, rfl⟩ rfl rfl (fun _ => rfl) rfl rfl
    exact hmade.undisturbed (queuedIn_append env.commands [.attach _ a entity config])

/-- **What a host does of its own accord leaves the clocks as they are.** -/
theorem Program.AttachesBuiltins.undisturbed {α : Type} {p : Deed α}
    (hp : p.AttachesBuiltins Request.IsOrdinary) (h : env.ClocksConnected) (access : Access) :
    Undisturbed env (behavior.run access p env).2 :=
  hp.keeps access Environment.ClocksConnected Undisturbed Undisturbed.trans
    Undisturbed.clocksConnected (fun hp h => undisturbed_run hp h access)
    (fun _ _ _ _ _ h => undisturbed_queueBuiltin h _ _ _ _ access) h

end Hosts

end SimEngine
