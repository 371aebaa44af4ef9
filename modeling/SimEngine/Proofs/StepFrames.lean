import SimEngine.Proofs.LoopBeginnings
import SimEngine.Proofs.Postings

/-!
# What a step of built-in systems leaves as it is

Of the systems that come with the engine only accelerating ones write to the
world, and what they write are velocities.  A paused step leaves the world as it
was.  Any other step leaves the entities and the types of their components as
they were, and all data but the velocities of entities to which an accelerating
system is bound.  This goes for steps that carry out requests, and for those in
which systems fail.

**Definitions.**
* `Environment.Moves`, `Engine.Binds`: an accelerating system is bound to an entity.
* `Pushed`: what a step leaves of a world.
* `Paced`: what the turns of a step leave of an environment.
* `Operation.IsBuiltin`, `Cast.Reached`: the engines to which only built-in systems
  are attached, each as a plugin.

**Results.**
* `paced_turn`: one turn moves those at most who are posted to.
* `Cast.Reached.staffed`: in reached engines everyone keeps to their posts.
* `step_moves_bound`: a step moves those at most to whom a system is bound.
-/

namespace SimEngine

open Cast (behavior)

/-- The component type of velocities. -/
abbrev velocityType : ComponentId :=
  sceneData.typeOf DataKind.velocity

/-- An accelerating system is bound to an entity: that of its instance, and the one it is for. -/
def Environment.Moves (env : Environment cast) (posts : List Post) (entity : Entity) : Prop :=
  ∃ post ∈ posts, post.2 = entity ∧
    ∃ propulsion, env.memory.aim? post.1.system = some (entity, propulsion)

/-- Velocities may have changed of those who may be moved, and nothing else of a world. -/
structure Pushed (may : Entity → Prop) (world left : Scene) : Prop where
  living : left.living = world.living
  types : ∀ entity type, left.hasType entity type = world.hasType entity type
  others : ∀ entity type, (may entity → type ≠ velocityType) →
    left.component? entity type = world.component? entity type

/-- What a part of a step leaves of an environment in which everyone keeps to their posts. -/
structure Paced (posts : List Post) (info : StepInfo) (env left : Environment cast) : Prop where
  staffed : Staffed posts left
  kept : ∀ system aim, env.memory.aim? system = some aim → left.memory.aim? system = some aim
  still : info.paused = true → left.world = env.world
  pushed : Pushed (left.Moves posts) env.world left.world

variable {posts : List Post} {env left : Environment cast} {info : StepInfo}

section Parts

namespace Pushed

theorem refl (may : Entity → Prop) (world : Scene) : Pushed may world world :=
  ⟨rfl, fun _ _ => rfl, fun _ _ _ => rfl⟩

theorem trans {may may' : Entity → Prop} {world between left : Scene}
    (h : Pushed may world between) (h' : Pushed may' between left)
    (hmay : ∀ entity, may entity → may' entity) : Pushed may' world left where
  living := h'.living.trans h.living
  types entity type := (h'.types entity type).trans (h.types entity type)
  others entity type hother :=
    (h'.others entity type hother).trans
      (h.others entity type fun hmoved => hother (hmay entity hmoved))

/-- Whoever overwrites a velocity pushes. -/
theorem of_set? {may : Entity → Prop} {world left : Scene} {entity : Entity} {velocity : Vector3}
    (h : world.set? entity DataKind.velocity velocity = some left) (hmay : may entity) :
    Pushed may world left where
  living := World.living_set? h
  types := World.hasType_set? h
  others _ _ hother := World.component?_set?_of_ne h fun heq => hother (heq ▸ hmay)

end Pushed

namespace Paced

theorem of_tame (h : Staffed posts env) (htame : Tame env left) : Paced posts info env left where
  staffed := h.tame htame
  kept := htame.kept
  still := fun _ => htame.world
  pushed := by
    rw [htame.world]
    exact .refl _ _

theorem refl (h : Staffed posts env) : Paced posts info env env :=
  .of_tame h (.refl h.civil)

theorem trans {between : Environment cast} (h : Paced posts info env between)
    (h' : Paced posts info between left) : Paced posts info env left where
  staffed := h'.staffed
  kept system aim haim := h'.kept system aim (h.kept system aim haim)
  still hpaused := (h'.still hpaused).trans (h.still hpaused)
  pushed := by
    refine h.pushed.trans h'.pushed fun entity ⟨post, hpost, hentity, propulsion, haim⟩ => ?_
    exact ⟨post, hpost, hentity, propulsion, h'.kept _ _ haim⟩

theorem journal (h : Paced posts info env left) (journal : List Notice) :
    Paced posts info env { left with journal := journal } :=
  h.trans (.of_tame h.staffed (.of_memory { h.staffed.civil with } rfl rfl))

end Paced

end Parts

section Turns

/-- Whoever sets a velocity overwrites one, or does nothing. -/
theorem run_setVelocity (halive : env.orphaned = false) (entity : Entity) (velocity : Vector3) :
    ∃ found left, behavior.run .full (Deed.setVelocity entity velocity) env = (.done found, left) ∧
      (left = env ∨ ∃ world, env.world.set? entity DataKind.velocity velocity = some world ∧
        left = { env with world := world }) := by
  have hwrite : ∀ made, env.write .full entity DataKind.velocity velocity = made →
      made.2 = env ∨ ∃ world, env.world.set? entity DataKind.velocity velocity = some world ∧
        made.2 = { env with world := world } := by
    rintro made rfl
    unfold Environment.write
    rw [if_pos rfl]
    split
    · rename_i world hworld
      exact .inr ⟨world, hworld, rfl⟩
    · exact .inl rfl
  rcases hmade : env.write .full entity DataKind.velocity velocity with ⟨found, made⟩
  have hcases := hwrite _ hmade
  have halive' : made.orphaned = false := by
    rcases hcases with rfl | ⟨world, -, rfl⟩ <;> exact halive
  refine ⟨found, made, ?_, hcases⟩
  refine (run_ask behavior .full (.write entity DataKind.velocity velocity) .done ?_).trans ?_
  · exact (congrArg (fun x => x.2.orphaned) hmade).trans halive'
  · exact congrArg (fun x : Bool × Environment cast => (Outcome.done x.1, x.2)) hmade

/-- An accelerating system overwrites the velocity of its entity, or does nothing. -/
theorem run_accelerate_update (halive : env.orphaned = false) (s : Accelerate) (info : StepInfo) :
    ∃ left, behavior.run .full (s.update info) env = (.done (), left) ∧
      (left = env ∨ ∃ velocity world, info.paused = false ∧ s.propulsion.isIdle = false ∧
        env.world.set? s.entity DataKind.velocity velocity = some world ∧
          left = { env with world := world }) := by
  by_cases hactive : info.paused = false ∧ s.propulsion.isIdle = false
  · obtain ⟨next, hupdate, hnone, hsome⟩ : ∃ next : Option Vector3 → Deed Unit,
        s.update info = (Deed.velocity? s.entity).bind next ∧ next none = .done () ∧
          ∀ velocity, next (some velocity) = s.currentGain.bind fun gain =>
            (Deed.setVelocity s.entity
              (s.propulsion.apply gain info.dt.toSeconds.toFloat32 velocity)).bind fun _ =>
                .done () := by
      unfold Accelerate.update
      rw [if_neg (by simp [hactive])]
      exact ⟨_, rfl, rfl, fun _ => rfl⟩
    have hread : ∀ next : Option Vector3 → Deed Unit,
        behavior.run .full ((Deed.velocity? s.entity).bind next) env =
          behavior.run .full (next (env.world.get? s.entity DataKind.velocity)) env :=
      fun next => run_ask behavior .full (.read s.entity DataKind.velocity) next halive
    have hgain : ∀ next : Float32 → Deed Unit, ∃ gain,
        behavior.run .full (s.currentGain.bind next) env = behavior.run .full (next gain) env := by
      intro next
      unfold Accelerate.currentGain
      split
      · exact ⟨1.0, rfl⟩
      · exact ⟨_, run_ask behavior .full (.getParameter _) _ halive⟩
    rw [hupdate, hread]
    cases env.world.get? s.entity DataKind.velocity with
    | none =>
        rw [hnone]
        exact ⟨env, rfl, .inl rfl⟩
    | some velocity =>
        rw [hsome]
        obtain ⟨gain, hrun⟩ := hgain fun gain => (Deed.setVelocity s.entity
          (s.propulsion.apply gain info.dt.toSeconds.toFloat32 velocity)).bind fun _ => .done ()
        obtain ⟨found, left, hset, hcases⟩ := run_setVelocity halive s.entity
          (s.propulsion.apply gain info.dt.toSeconds.toFloat32 velocity)
        have hthen := run_bind behavior.emit behavior.tidy .full (Deed.setVelocity s.entity
          (s.propulsion.apply gain info.dt.toSeconds.toFloat32 velocity)) (fun _ => .done ()) env
        replace hset : Program.run behavior.emit behavior.tidy .full (Deed.setVelocity s.entity
          (s.propulsion.apply gain info.dt.toSeconds.toFloat32 velocity)) env = _ := hset
        simp only [hset] at hthen
        refine ⟨left, hrun.trans hthen, ?_⟩
        rcases hcases with hsame | ⟨world, hset, hmade⟩
        · exact .inl hsame
        · exact .inr ⟨_, world, hactive.1, hactive.2, hset, hmade⟩
  · refine ⟨env, ?_, .inl rfl⟩
    unfold Accelerate.update
    rw [if_pos (by simpa [or_iff_not_imp_left] using hactive)]
    rfl

/-- An accelerating system moves the entity it is posted to. -/
theorem paced_update (h : Staffed posts env) (system : SystemId) :
    Paced posts info env (behavior.run .full (behavior.phase .update system info) env).2 := by
  have hrun : behavior.run .full (behavior.phase .update system info) env = _ :=
    run_tending (gentle_behavior.tidy env h.civil.alive)
  rw [hrun]
  cases hrole : env.memory.role? system with
  | none => exact .refl h
  | some role =>
      cases role with
      | scripted s => exact (h.civil.builtin system _ hrole).1.elim
      | accelerate s =>
          obtain ⟨left, hdone, hcases⟩ := run_accelerate_update h.civil.alive s info
          have hupdated : Paced posts info env left := by
            rcases hcases with rfl | ⟨velocity, world, hpaused, hidle, hset, rfl⟩
            · exact .refl h
            · have haim : env.memory.aim? system = some (s.entity, s.propulsion) :=
                Memory.aim?_of_role? hrole
              refine ⟨h.of_memory { h.civil with } rfl, fun _ _ haim => haim, fun hstill => ?_, ?_⟩
              · rw [hpaused] at hstill
                cases hstill
              · refine Pushed.of_set? hset ?_
                rcases h.posted system _ haim with hidle' | ⟨post, hpost, rfl, hentity⟩
                · rw [hidle] at hidle'
                  cases hidle'
                · exact ⟨post, hpost, hentity, s.propulsion, haim⟩
          have hconduct : (show Deed (Option Role) from do
              s.update info
              return none).run behavior.emit behavior.tidy .full env = _ :=
            run_bind behavior.emit behavior.tidy .full (s.update info) (fun _ => .done none) env
          replace hdone : (s.update info).run behavior.emit behavior.tidy .full env = _ := hdone
          simp only [hconduct, hdone]
          exact hupdated
      | _ => exact .refl h

/-- A system that is called in a phase moves the entity it is posted to at most. -/
theorem paced_phase (h : Staffed posts env) (phase : StepPhase) (system : SystemId) :
    Paced posts info env
      (behavior.run (Instance.accessOf phase) (behavior.phase phase system info) env).2 := by
  by_cases hphase : phase = .update
  · subst hphase
    exact paced_update h system
  · refine .of_tame h ((tame_tending (Instance.accessOf phase) fun role hbuiltin => ?_).run
      gentle_behavior h.civil)
    have hmeek : ∀ {α : Type} {p : Deed α}, p.Confined Request.Observes (fun _ => True) →
        p.Confined Request.Meek fun _ => True := fun hp =>
      hp.mono (fun _ hr => hr.meek) fun _ h => h
    cases role with
    | scripted s => exact hbuiltin.elim
    | accelerate s =>
        cases phase with
        | update => exact absurd rfl hphase
        | _ => exact confined_none
    | velocityLog l =>
        cases phase with
        | postUpdate =>
            exact (hmeek (observing_velocityLog_postUpdate l info)).bind fun _ _ =>
              confined_some ⟨trivial, rfl⟩
        | _ => exact confined_none
    | simClock c =>
        cases phase with
        | preUpdate => exact confined_some ⟨trivial, rfl⟩
        | _ => exact confined_none
    | pauseAfter p =>
        cases phase with
        | preUpdate =>
            exact (hmeek (observing_pauseAfter_preUpdate p info)).bind fun _ _ =>
              confined_some ⟨trivial, rfl⟩
        | _ => exact confined_none

/-- **One turn of a step moves those at most who are posted to.** -/
theorem paced_turn (h : Staffed posts env) (failed : List Handle) (slot : Pass × Instance cast) :
    Paced posts info env (behavior.turn info failed slot env).after := by
  obtain ⟨pass, i⟩ := slot
  cases pass with
  | queries =>
      obtain ⟨delivery, left, n, hanswer, hturn⟩ := turn_queries behavior info failed i env
      rw [deliver_of_quiet (h.civil.quiet i.handle)] at hanswer
      obtain ⟨rfl, rfl⟩ := Prod.mk.inj hanswer
      rw [hturn]
      exact .of_tame h (.of_memory ((h.civil.setQueryList i.handle rfl).setQueryList i.handle rfl)
        rfl rfl)
  | phase phase =>
      rcases turn_phase_cases behavior info failed phase i env with
        ⟨-, hturn⟩ | ⟨-, hturn⟩ | ⟨outcome, left, -, -, -, hanswer, hturn⟩
      · rw [hturn]
        exact .refl h
      · rw [hturn]
        exact (Paced.refl h).journal _
      · have hcalled : Paced posts info env (behavior.run (Instance.accessOf phase)
            (behavior.phase phase i.attachment.system info) env).2 := paced_phase h phase _
        rw [hanswer] at hcalled
        rw [hturn]
        show Paced posts info env (faultReported info _ i outcome.toExcept left)
        cases outcome.toExcept with
        | ok => exact hcalled
        | error message => exact hcalled.journal _

/-- So do all turns of a step. -/
theorem paced_turns (h : Staffed posts env) (failed : List Handle)
    (slots : List (Pass × Instance cast)) :
    Paced posts info env (lastOf Turn.after env (behavior.turns info failed slots env)) := by
  induction slots generalizing failed env with
  | nil => exact .refl h
  | cons slot rest ih =>
      have hturn : Paced posts info env (behavior.turn info failed slot env).after :=
        paced_turn h failed slot
      exact hturn.trans (ih hturn.staffed _)

/-- **A step moves those at most who are posted to**, in any world. -/
theorem paced_runStep {e : Engine cast} (h : Staffed e.posts e.env) (info : StepInfo) :
    let left := (e.runStep behavior info).2
    Staffed left.posts left.env ∧ (info.paused = true → left.env.world = e.env.world) ∧
      Pushed (left.env.Moves left.posts) e.env.world left.env.world := by
  intro left
  let begun := e.beginStep behavior
  let ended := lastOf Turn.after begun.env
    (behavior.turns info [] (slots begun.scheduler.instances) begun.env)
  have hleft : left = { begun with env := ended } := by
    show (e.runStep behavior info).2 = _
    rw [Engine.runStep, passThrough_eq]
  obtain ⟨hbegun, hworld⟩ := staffed_beginStep h
  have hpaced : Paced begun.posts info begun.env ended := paced_turns hbegun [] _
  rw [hleft]
  exact ⟨hpaced.staffed, fun hpaused => (hpaced.still hpaused).trans hworld,
    hworld ▸ hpaced.pushed⟩

end Turns

section Reachability

/-- What a host sets up beside built-in systems: it makes new ones, and keeps those there are. -/
structure Arrangement.IsBuiltin (a : Arrangement cast) (before : Memory) : Prop where
  bystanders : ∀ key, ∀ s ∈ (a.channels.get key).subscribers, s.callback.IsBystander
  used : ∀ system role, a.memory.role? system = some role → system.number < a.memory.nextSystem
  roles : ∀ system role, a.memory.role? system = some role → before.role? system = some role ∨
    ∃ builtin config entity, Role.ofBuiltin builtin config entity = .ok role
  factories : ∀ name factory, a.loader.factories.find? name = some factory →
    ∃ builtin, factory = .builtin builtin

/--
What a host does with built-in systems, each of which it attaches as a plugin.  Code of the host
connects bystanders only, and leaves the world as it is.
-/
def Operation.IsBuiltin (before : Memory) : Operation cast → Prop
  | .attach a _ _ => a.IsPlugin
  | .run _ program => program.AttachesBuiltins Request.Meek
  | .arrange a => a.IsBuiltin before
  | _ => True

/-- The engines that a host brings about with built-in systems only, each attached as a plugin. -/
inductive Cast.Reached : Engine cast → Prop
  | fresh :
      Reached ⟨.empty, .initial Memory.empty⟩
  | next
      {e : Engine cast} (h : Reached e) {operation : Operation cast}
      (hbuiltin : operation.IsBuiltin e.env.memory) :
      Reached (e.operate behavior operation)

variable {e : Engine cast}

theorem Cast.Reached.exists_log (h : Cast.Reached e) : ∃ log, Engine.Reached behavior log e := by
  induction h with
  | fresh => exact ⟨[], Engine.Reached.fresh (b := behavior) Memory.empty⟩
  | next _ _ ih =>
      obtain ⟨log, hreached⟩ := ih
      exact ⟨_, hreached.next _⟩

theorem staffed_arrange (h : Staffed posts env) {a : Arrangement cast}
    (ha : a.IsBuiltin env.memory) : Staffed posts (a.within env) where
  civil :=
    { h.civil with
      bystanders := ha.bystanders
      builtin := fun system role hrole => by
        refine ⟨?_, ha.used system role hrole⟩
        rcases ha.roles system role hrole with hbefore | ⟨builtin, config, entity, hmade⟩
        · exact (h.civil.builtin system role hbefore).1
        · exact Role.isBuiltin_ofBuiltin hmade
      factories := ha.factories }
  plugins := h.plugins
  posted system aim haim := by
    obtain ⟨role, hrole, haimed⟩ := Option.bind_eq_some_iff.1 haim
    rcases ha.roles system role hrole with hbefore | ⟨builtin, config, entity, hmade⟩
    · exact h.of_role hbefore haimed
    · exact .inl (Role.aim_ofBuiltin hmade haimed)

/-- An operation with built-in systems leaves everyone at their posts. -/
theorem staffed_operate (h : Staffed e.posts e.env) (hnodup : e.scheduler.handles.Nodup)
    {operation : Operation cast} (hbuiltin : operation.IsBuiltin e.env.memory) :
    Staffed (e.operate behavior operation).posts (e.operate behavior operation).env := by
  cases operation with
  | attach a entity config => exact (staffed_attach h hbuiltin entity config).1
  | loadAndAttach spec => exact (staffed_loadAndAttach h spec).1
  | detach handle =>
      simp only [Engine.operate]
      split
      · rename_i left hdetach
        exact (staffed_detach h hdetach).1
      · exact h
  | reconfigure handle config =>
      simp only [Engine.operate]
      split
      · rename_i sound left hreconfigure
        exact (staffed_reconfigure h hnodup hreconfigure).1
      · exact h
  | step info => exact (paced_runStep h info).1
  | clear => exact (staffed_clear h).1
  | run access program => exact h.tame ((hbuiltin.tame access).run gentle_behavior h.civil)
  | arrange a => exact staffed_arrange h hbuiltin

/-- **In reached engines everyone keeps to their posts.** -/
theorem Cast.Reached.staffed (h : Cast.Reached e) : Staffed e.posts e.env := by
  induction h with
  | fresh =>
      refine ⟨⟨rfl, fun _ => rfl, ?_, ?_, ?_, ?_⟩, List.forall_mem_nil _, ?_⟩
      · exact fun _ _ hs => by cases hs
      · exact fun _ _ hrole => by cases hrole
      · exact fun _ ha => by cases ha
      · exact fun _ _ hfactory => by cases hfactory
      · exact fun _ _ haim => by cases haim
  | next h hbuiltin ih =>
      obtain ⟨log, hreached⟩ := h.exists_log
      exact staffed_operate ih hreached.sound.nodup_handles hbuiltin

end Reachability

/-- The engine in another world. -/
def Engine.within (e : Engine cast) (world : Scene) : Engine cast :=
  { e with env := { e.env with world := world } }

/-- An instance of an accelerating system is attached for an entity. -/
def Engine.Binds (e : Engine cast) (entity : Entity) : Prop :=
  ∃ i ∈ e.scheduler.all, i.entity = entity ∧
    (e.env.memory.aim? i.attachment.system).isSome = true

instance (e : Engine cast) (entity : Entity) : Decidable (e.Binds entity) :=
  inferInstanceAs (Decidable (∃ i ∈ e.scheduler.all, i.entity = entity ∧
    (e.env.memory.aim? i.attachment.system).isSome = true))

/--
**A step of built-in systems moves those at most to whom one of them is bound.**  Take an engine
that a host brings about with built-in systems only, each attached or queued as a plugin, and any
world.  A paused step leaves the world exactly as it was.  Any step leaves the living entities, the
component types of every entity, every component but velocities, and the velocity of every entity
for which no accelerating system is attached.
-/
theorem step_moves_bound {e : Engine cast} (h : Cast.Reached e) (world : Scene) (info : StepInfo) :
    let left := ((e.within world).runStep behavior info).2
    (info.paused = true → left.env.world = world) ∧
    left.env.world.living = world.living ∧
    (∀ entity type, left.env.world.hasType entity type = world.hasType entity type) ∧
    (∀ entity type, type ≠ velocityType →
      left.env.world.component? entity type = world.component? entity type) ∧
    ∀ entity, ¬ left.Binds entity →
      left.env.world.component? entity velocityType = world.component? entity velocityType := by
  have hstaffed : Staffed (e.within world).posts (e.within world).env :=
    h.staffed.of_memory { h.staffed.civil with } rfl
  obtain ⟨-, hstill, hpushed⟩ := paced_runStep hstaffed info
  refine ⟨hstill, hpushed.living, hpushed.types, fun entity type htype => ?_,
    fun entity hfree => ?_⟩
  · exact hpushed.others entity type fun _ => htype
  · refine hpushed.others entity velocityType fun hmoves => absurd ?_ hfree
    obtain ⟨post, hpost, hentity, propulsion, haim⟩ := hmoves
    obtain ⟨i, hi, rfl⟩ := List.mem_map.1 hpost
    exact ⟨i, hi, hentity, Option.isSome_iff_exists.2 ⟨_, haim⟩⟩

namespace Cast

/-- Two entities that drift. -/
def drifting : Scene :=
  populate [⟨"pushed", some ⟨1, 0, 0⟩⟩, ⟨"left alone", some ⟨0, 1, 0⟩⟩] .empty

/-- The plugins that come with the engine, and nothing else. -/
def bare : Arrangement cast where
  world := drifting
  parameters := .empty
  channels := ∅
  loader := loader []
  loop := ⟨false, false, []⟩
  journal := []
  memory := .empty

/-- An accelerating system for an entity. -/
def thruster (entity : Entity) : PluginSpec :=
  ⟨"accelerate", entity, ⟨.ofMembers [("acceleration", .arr [.ofNat 1, .ofNat 0, .ofNat 0])]⟩⟩

/-- The host has a built-in system attached in the next step, for an entity that does not live. -/
def summons : List Action :=
  [.attach ⟨.builtin .accelerate, false, ⟨9⟩, .empty⟩]

/-- The code of the host, which may queue requests. -/
def hostScope : Scope := ⟨"host", .none, none, none, .host, none⟩

/-- A system accelerates the first entity, and another one is queued. -/
def pushing : Engine cast :=
  (((Engine.operate behavior ⟨.empty, .initial Memory.empty⟩ (.arrange bare)).operate behavior
    (.loadAndAttach (thruster ⟨1⟩))).operate behavior (.run .none (performAll hostScope summons)))

theorem reached_pushing : Reached pushing := by
  have hbare : Operation.IsBuiltin Memory.empty (.arrange bare) :=
    { bystanders := fun _ _ hs => by cases hs
      used := fun _ _ hrole => by cases hrole
      roles := fun _ _ hrole => .inl hrole
      factories := fun name factory hfactory => by
        obtain ⟨builtin, -, rfl⟩ :=
          Option.map_eq_some_iff.1 ((find?_loader name).symm.trans hfactory)
        exact ⟨builtin, rfl⟩ }
  have hsummons : ∀ action ∈ summons, ¬ action.Recruits := by
    intro action haction hrecruits
    rw [List.mem_singleton.1 haction] at hrecruits
    cases hrecruits with
    | attach hother => exact hother ⟨rfl, .accelerate, rfl⟩
  have hready := Reached.fresh.next hbare
  have hattached :=
    hready.next (show Operation.IsBuiltin _ (.loadAndAttach (thruster ⟨1⟩)) from trivial)
  exact hattached.next (show Operation.IsBuiltin _ (.run .none (performAll hostScope summons)) from
    meek_performAll ⟨rfl, rfl, rfl⟩ hsummons)

end Cast

theorem step_moves_bound_pushing :
    Cast.Reached Cast.pushing ∧
    ((Cast.pushing.within Cast.drifting).runStep behavior
      { StepInfo.first .sixtieth with paused := true }).2.env.world = Cast.drifting ∧
    let left := ((Cast.pushing.within Cast.drifting).runStep behavior (.first .sixtieth)).2
    left.scheduler.all.map (fun i => (i.entity, i.degraded)) = [(⟨1⟩, false), (⟨9⟩, true)] ∧
    left.Binds ⟨1⟩ ∧ ¬ left.Binds ⟨2⟩ ∧ left.env.world.living = [⟨1⟩, ⟨2⟩] ∧
    left.env.world.component? ⟨2⟩ velocityType = Cast.drifting.component? ⟨2⟩ velocityType := by
  have hpaused := (step_moves_bound Cast.reached_pushing Cast.drifting
    { StepInfo.first .sixtieth with paused := true }).1 rfl
  obtain ⟨-, hliving, -, -, hfree⟩ :=
    step_moves_bound Cast.reached_pushing Cast.drifting (.first .sixtieth)
  have hcourse : let left :=
        ((Cast.pushing.within Cast.drifting).runStep behavior (.first .sixtieth)).2
      left.scheduler.all.map (fun i => (i.entity, i.degraded)) = [(⟨1⟩, false), (⟨9⟩, true)] ∧
        left.Binds ⟨1⟩ ∧ ¬ left.Binds ⟨2⟩ := by decide +kernel
  obtain ⟨hattached, hbound, hunbound⟩ := hcourse
  have hbegun : Cast.drifting.living = [⟨1⟩, ⟨2⟩] := by decide +kernel
  exact ⟨Cast.reached_pushing, hpaused, hattached, hbound, hunbound, hliving.trans hbegun,
    hfree _ hunbound⟩

end SimEngine
