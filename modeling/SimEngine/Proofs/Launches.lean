import SimEngine.Proofs.BuiltinLoops
import SimEngine.Proofs.ParameterHistories

/-!
# Launching an accelerating plugin

An accelerating plugin that the host loads and attaches is made, configured for
its entity, and declares the gain for that entity; none of this depends on the
other systems.  So all that a launch comes to can be told in advance, but for
what is reported.

**Definitions.**
* `PluginSpec.propulsion?`: how a plugin is to accelerate its entity, if it can be
  configured for it.
* `Accelerate.boundFor`, `Accelerate.tuned`: a system that was configured, and one
  that has declared its gain.
* `PluginSpec.engaged`, `PluginSpec.isFaulty`: the system that is launched, and
  whether it is degraded.
* `Engine.launchee`, `Engine.launched`: the new instance, and the engine after the
  launch.

**Results.**
* `run_configure_accelerate`, `run_declare_accelerate`: the two calls of a launch.
* `loadAndAttach_accelerate`: what becomes of the engine.
-/

namespace SimEngine

open Cast (behavior)

/-- The value of a gain that is declared and not yet set. -/
def Accelerate.defaultGain : Json := .num (.float 1.0)

/-- How a plugin is to accelerate its entity, if it can be configured for it in a world. -/
def PluginSpec.propulsion? (spec : PluginSpec) (world : Scene) : Except Failure Propulsion :=
  if spec.entity.isNull || !world.contains spec.entity then
    .error (.ofMessage ("accelerate needs an existing entity, got " ++ spec.entity.describe))
  else
    (spec.config.parse Propulsion.reader).mapError ConfigError.toFailure

/-- A system that was configured for a plugin in a world: as it was before if it cannot be. -/
def Accelerate.boundFor (s : Accelerate) (spec : PluginSpec) (world : Scene) : Accelerate :=
  match spec.propulsion? world with
  | .ok propulsion => { s with entity := spec.entity, propulsion := propulsion }
  | .error _ => s

/-- A system that has declared its gain: as it was before if the name was taken. -/
def Accelerate.tuned (s : Accelerate) (parameters : Parameters) : Accelerate :=
  { s with
    gain :=
      if parameters.contains (gainName s.entity) then s.gain else some (gainName s.entity) }

/-- The system of a plugin that was launched in a world, beside parameters. -/
def PluginSpec.engaged (spec : PluginSpec) (world : Scene) (parameters : Parameters) :
    Accelerate :=
  ((Accelerate.forEntity spec.entity).boundFor spec world).tuned parameters

/-- Whether a plugin that was launched in a world, beside parameters, is degraded. -/
def PluginSpec.isFaulty (spec : PluginSpec) (world : Scene) (parameters : Parameters) : Bool :=
  !(spec.propulsion? world).isOk || parameters.contains (Accelerate.gainName spec.entity)

theorem Accelerate.entity_boundFor {s : Accelerate} {spec : PluginSpec}
    (h : s.entity = spec.entity) (world : Scene) :
    (s.boundFor spec world).entity = spec.entity := by
  unfold boundFor
  cases spec.propulsion? world with
  | ok propulsion => rfl
  | error failure => exact h

theorem PluginSpec.entity_engaged (spec : PluginSpec) (world : Scene) (parameters : Parameters) :
    (spec.engaged world parameters).entity = spec.entity :=
  Accelerate.entity_boundFor rfl world

theorem OrderedMap.insert_insert {κ β : Type} [OrderedKey κ] (m : OrderedMap κ β) (key : κ)
    (value value' : β) : (m.insert key value).insert key value' = m.insert key value' := by
  refine eq_of_find? fun other => ?_
  by_cases hother : other = key
  · rw [hother, find?_insert_self, find?_insert_self]
  · simp only [find?_insert_of_ne _ hother]

theorem Memory.revise_enroll (m : Memory) (role role' : Role) :
    (m.enroll role).2.revise ⟨m.nextSystem⟩ (fun _ => role') = (m.enroll role').2 := by
  have hmodify : ((m.members.insert ⟨m.nextSystem⟩ ⟨role, 1⟩).modify ⟨m.nextSystem⟩
      fun member => { member with role := role' }) =
        m.members.insert ⟨m.nextSystem⟩ ⟨role', 1⟩ := by
    rw [OrderedMap.modify, OrderedMap.find?_insert_self]
    exact m.members.insert_insert _ _ _
  simp only [enroll, revise, hmodify]

theorem Memory.revise_revise (m : Memory) (system : SystemId) (f g : Role → Role) :
    (m.revise system f).revise system g = m.revise system fun role => g (f role) := by
  simp only [revise, OrderedMap.modify]
  cases hfind : m.members.find? system with
  | none => simp only [hfind]
  | some member => simp only [OrderedMap.find?_insert_self, OrderedMap.insert_insert]

/-- Remembering a system as what it is changes nothing. -/
theorem Memory.revise_self {m : Memory} {system : SystemId} {role : Role}
    (h : m.role? system = some role) : (m.revise system fun _ => role) = m := by
  obtain ⟨member, hmember, rfl⟩ := Option.map_eq_some_iff.1 h
  have hsame : (m.members.modify system fun other => { other with role := member.role }) =
      m.members := by
    refine OrderedMap.eq_of_find? fun other => ?_
    by_cases hother : other = system
    · rw [hother, OrderedMap.find?_modify_self, hmember]
      rfl
    · exact m.members.find?_modify_of_ne hother _
  rw [revise, hsame]

section Calls

variable {env : Environment cast} {system : SystemId} {s : Accelerate}

/-- An accelerating system binds itself to its entity, or fails; either way all else stays. -/
theorem run_accelerate_configure (halive : env.orphaned = false) (s : Accelerate)
    (handle : Handle) (spec : PluginSpec) :
    behavior.run .full (s.configure ⟨handle, spec.entity, spec.config⟩) env =
      match spec.propulsion? env.world with
      | .ok propulsion =>
        (.done { s with entity := spec.entity, propulsion := propulsion }, env)
      | .error failure => (.failed failure, env) := by
  refine (run_ask behavior .full (.isAlive spec.entity) _ halive).trans ?_
  show behavior.run .full (if (spec.entity.isNull || !env.world.contains spec.entity) = true
    then _ else _) env = _
  unfold PluginSpec.propulsion?
  split
  · rfl
  · cases spec.config.parse Propulsion.reader <;> rfl

/-- The system remembers how it is to accelerate its entity, unless it cannot be configured. -/
theorem run_configure_accelerate (halive : env.orphaned = false)
    (hrole : env.memory.role? system = some (.accelerate s)) (handle : Handle)
    (spec : PluginSpec) :
    behavior.run .full (behavior.configure system ⟨handle, spec.entity, spec.config⟩) env =
      match spec.propulsion? env.world with
      | .ok propulsion =>
        (.done (), { env with
          memory := env.memory.revise system fun _ =>
            .accelerate { s with entity := spec.entity, propulsion := propulsion } })
      | .error failure => (.failed failure, env) := by
  have htidy : ∀ {left : Environment cast}, left.orphaned = false → behavior.tidy left = left :=
    fun h => behavior.tidyWith_of_not_orphaned h
  have hrun : behavior.run .full
      (behavior.configure system ⟨handle, spec.entity, spec.config⟩) env = _ :=
    run_tending (htidy halive)
  have hthen : (show Deed (Option Role) from do
      return some (.accelerate (← s.configure ⟨handle, spec.entity, spec.config⟩))).run
        behavior.emit behavior.tidy .full env = _ :=
    run_bind behavior.emit behavior.tidy .full
      (s.configure ⟨handle, spec.entity, spec.config⟩) _ env
  have hconfigured : (s.configure ⟨handle, spec.entity, spec.config⟩).run behavior.emit
      behavior.tidy .full env = _ := run_accelerate_configure halive s handle spec
  rw [hrun, hrole]
  simp only
  rw [hthen, hconfigured]
  cases spec.propulsion? env.world with
  | error failure => rfl
  | ok propulsion => exact congrArg (Prod.mk _) (htidy halive)

/-- An accelerating system declares the gain for its entity, unless the name is taken. -/
theorem run_accelerate_declare (halive : env.orphaned = false) (s : Accelerate) :
    behavior.run .full s.configureParameters env =
      match env.parameters.declare (Accelerate.gainName s.entity)
        (.ok Accelerate.defaultGain) with
      | .ok parameters =>
        (.done { s with gain := some (Accelerate.gainName s.entity) },
          { env with parameters := parameters })
      | .error cause => (.failed ⟨cause.causes⟩, env) := by
  let request : Request cast :=
    .declare (Accelerate.gainName s.entity) (.ok Accelerate.defaultGain)
  have hperform : request.perform behavior.emit .full env =
      match env.parameters.declare (Accelerate.gainName s.entity)
        (.ok Accelerate.defaultGain) with
      | .ok parameters => (.ok (), { env with parameters := parameters })
      | .error cause => (.error cause, env) := rfl
  have halive' : (request.perform behavior.emit .full env).2.orphaned = false := by
    rw [hperform]
    cases env.parameters.declare (Accelerate.gainName s.entity) (.ok Accelerate.defaultGain) <;>
      exact halive
  refine (run_ask behavior .full request _ halive').trans ?_
  rw [hperform]
  cases env.parameters.declare (Accelerate.gainName s.entity) (.ok Accelerate.defaultGain) <;> rfl

/-- The system takes down the name of the gain that it declared. -/
theorem run_declare_accelerate (halive : env.orphaned = false)
    (hrole : env.memory.role? system = some (.accelerate s)) :
    behavior.run .full (behavior.configureParameters system) env =
      match env.parameters.declare (Accelerate.gainName s.entity)
        (.ok Accelerate.defaultGain) with
      | .ok parameters =>
        (.done (), { env with
          parameters := parameters
          memory := env.memory.revise system fun _ =>
            .accelerate { s with gain := some (Accelerate.gainName s.entity) } })
      | .error cause => (.failed ⟨cause.causes⟩, env) := by
  have htidy : ∀ {left : Environment cast}, left.orphaned = false → behavior.tidy left = left :=
    fun h => behavior.tidyWith_of_not_orphaned h
  have hrun : behavior.run .full (behavior.configureParameters system) env = _ :=
    run_tending (htidy halive)
  have hthen : (show Deed (Option Role) from do
      return some (.accelerate (← s.configureParameters))).run
        behavior.emit behavior.tidy .full env = _ :=
    run_bind behavior.emit behavior.tidy .full s.configureParameters _ env
  have hdeclared : s.configureParameters.run behavior.emit behavior.tidy .full env = _ :=
    run_accelerate_declare halive s
  rw [hrun, hrole]
  simp only
  rw [hthen, hdeclared]
  cases env.parameters.declare (Accelerate.gainName s.entity) (.ok Accelerate.defaultGain) with
  | error cause => rfl
  | ok parameters => exact congrArg (Prod.mk _) (htidy halive)

end Calls

section Instances

variable {env : Environment cast} {i : Instance cast} {s : Accelerate}

/-- A call of an interface that a system offers is a run of its program. -/
theorem call_of_offered {capability : Capability} {access : Access} {program : Deed Unit}
    (hoffers : behavior.offers i.attachment.system env.memory capability = true) :
    i.call behavior capability access program env =
      match behavior.run access program env with
      | (.done (), left) => (.completed, left)
      | (.failed failure, left) => (.failed failure.describe, left)
      | (.panicked panic, left) => (.failed ("panicked: " ++ panic.describe), left) := by
  rw [Instance.call, if_pos hoffers]
  rcases behavior.run access program env with ⟨_ | _ | _, left⟩ <;> rfl

theorem offers_accelerate (hrole : env.memory.role? i.attachment.system = some (.accelerate s))
    (capability : Capability) :
    behavior.offers i.attachment.system env.memory capability =
      (Role.accelerate s).capabilities.has capability := by
  simp only [behavior, hrole]

/-- **An accelerating plugin is configured**; it is degraded if it cannot be. -/
theorem configure_accelerate (env : Environment cast) (spec : PluginSpec)
    (halive : env.orphaned = false)
    (hrole : env.memory.role? i.attachment.system = some (.accelerate s))
    (hshown : i.capabilities.configure = true) (hentity : i.entity = spec.entity)
    (hconfig : i.config = spec.config) :
    ∃ journal, i.configure behavior none env =
      ({ i.prepare none with degraded := !(spec.propulsion? env.world).isOk },
        { env with
          journal := journal
          memory := env.memory.revise i.attachment.system fun _ =>
            .accelerate (s.boundFor spec env.world) }) := by
  have hcontext : (⟨(i.prepare none).handle, (i.prepare none).entity, (i.prepare none).config⟩ :
      ConfigureContext) = ⟨i.handle, spec.entity, spec.config⟩ :=
    congrArg₂ (ConfigureContext.mk i.handle) hentity hconfig
  have hrun : behavior.run .full (behavior.configure (i.prepare none).attachment.system
      ⟨i.handle, spec.entity, spec.config⟩) env = _ :=
    run_configure_accelerate halive hrole i.handle spec
  have hcall : (i.prepare none).call behavior .configure .full
      (behavior.configure (i.prepare none).attachment.system
        ⟨i.handle, spec.entity, spec.config⟩) env = _ :=
    call_of_offered (offers_accelerate (i := i.prepare none) hrole .configure)
  rw [hrun] at hcall
  rw [Instance.configure]
  simp only [show (i.prepare none).capabilities.configure = true from hshown, if_true]
  rw [hcontext, hcall, Accelerate.boundFor]
  cases spec.propulsion? env.world with
  | error failure => exact ⟨_, by rw [Memory.revise_self hrole]; rfl⟩
  | ok propulsion => exact ⟨_, rfl⟩

/-- **An accelerating plugin declares its gain**; it is degraded if the name is taken. -/
theorem configureParameters_accelerate (env : Environment cast)
    (halive : env.orphaned = false)
    (hrole : env.memory.role? i.attachment.system = some (.accelerate s))
    (hshown : i.capabilities.configureParameters = true) :
    ∃ journal, i.configureParameters behavior env =
      ({ i with
          degraded := i.degraded || env.parameters.contains (Accelerate.gainName s.entity) },
        { env with
          journal := journal
          parameters := (env.parameters.respond
            (.declare (Accelerate.gainName s.entity) (.ok Accelerate.defaultGain))).2
          memory := env.memory.revise i.attachment.system fun _ =>
            .accelerate (s.tuned env.parameters) }) := by
  have hrun := run_declare_accelerate halive hrole
  have hcall : i.call behavior .configureParameters .full
      (behavior.configureParameters i.attachment.system) env = _ :=
    call_of_offered (offers_accelerate hrole .configureParameters)
  rw [hrun] at hcall
  rw [Instance.configureParameters, if_pos hshown]
  simp only
  rw [hcall, Parameters.respond, Parameters.attempt, Parameters.declare, Accelerate.tuned]
  cases env.parameters.contains (Accelerate.gainName s.entity) with
  | true => exact ⟨_, by simp [Memory.revise_self hrole]; rfl⟩
  | false => exact ⟨_, by simp; rfl⟩

end Instances

/-- An attachment is the making of an instance, its configuration and its declaration. -/
theorem attachAs_eq {G : Guest} {b : Behavior G} {e : Engine G} {handle : Handle}
    {attachment : Attachment G} {entity : Entity} {config : Payload}
    {made configured declared : Instance G × Environment G}
    (hmade : Instance.create b handle attachment entity config e.env = made)
    (hconfigured : made.1.configure b none made.2 = configured)
    (hdeclared : configured.1.configureParameters b configured.2 = declared) :
    e.attachAs b handle attachment entity config =
      ⟨{ e.scheduler with pending := e.scheduler.pending ++ [declared.1] },
        declared.2.report (.attached handle declared.1.name entity declared.1.capabilities
          declared.1.degraded)⟩ := by
  subst hmade hconfigured hdeclared
  rfl

section Attachments

variable {e : Engine cast} {spec : PluginSpec} {system : SystemId}

/-- The instance that a new accelerating system comes to when it is attached. -/
def Engine.launchee (e : Engine cast) (spec : PluginSpec) (handle : Handle)
    (attachment : Attachment cast) : Instance cast where
  handle := handle
  name := Builtin.accelerate.name
  attachment := attachment
  entity := spec.entity
  capabilities := .ofList [.configure, .configureParameters, .phase .update]
  config := spec.config
  state := .configured
  degraded := spec.isFaulty e.env.world e.env.parameters

/-- The engine after an accelerating plugin was launched, with what was reported by then. -/
def Engine.launched (e : Engine cast) (spec : PluginSpec) (journal : List Notice) :
    Engine cast where
  scheduler :=
    { e.scheduler with
      pending := e.scheduler.pending ++ [e.launchee spec ⟨e.env.nextHandle⟩
        ⟨⟨e.env.memory.nextSystem⟩, .plugin spec.name (some .counted)⟩] }
  env :=
    { e.env with
      parameters := (e.env.parameters.respond
        (.declare (Accelerate.gainName spec.entity) (.ok Accelerate.defaultGain))).2
      queries := e.env.queries.insert ⟨e.env.nextHandle⟩ .empty
      loader := e.env.loader.count spec.name
      nextHandle := e.env.nextHandle + 1
      journal := journal
      memory := (e.env.memory.enroll
        (.accelerate (spec.engaged e.env.world e.env.parameters))).2 }

/-- **A new accelerating system is attached**: it is configured, and declares the gain. -/
theorem attachAs_accelerate (halive : e.env.orphaned = false) (handle : Handle)
    {attachment : Attachment cast}
    (hrole : e.env.memory.role? attachment.system = some (.accelerate (.forEntity spec.entity))) :
    ∃ journal, e.attachAs behavior handle attachment spec.entity spec.config =
      ⟨{ e.scheduler with
          pending := e.scheduler.pending ++ [e.launchee spec handle attachment] },
        { e.env with
          parameters := (e.env.parameters.respond
            (.declare (Accelerate.gainName spec.entity) (.ok Accelerate.defaultGain))).2
          queries := e.env.queries.insert handle .empty
          journal := journal
          memory := e.env.memory.revise attachment.system fun _ =>
            .accelerate (spec.engaged e.env.world e.env.parameters) }⟩ := by
  let made : Environment cast := e.env.setQueryList handle .empty
  let i : Instance cast :=
    { e.launchee spec handle attachment with state := .created, degraded := false }
  have hmade : Instance.create behavior handle attachment spec.entity spec.config e.env =
      (i, made) := by
    simp only [Instance.create, behavior, hrole]
    rfl
  let bound : Accelerate := (Accelerate.forEntity spec.entity).boundFor spec e.env.world
  have hbound : bound.entity = spec.entity := Accelerate.entity_boundFor rfl e.env.world
  obtain ⟨journal, hconfigured⟩ := configure_accelerate (i := i) made spec halive hrole rfl rfl rfl
  let configured : Environment cast :=
    { made with
      journal := journal
      memory := e.env.memory.revise attachment.system fun _ => .accelerate bound }
  obtain ⟨journal', hdeclared⟩ := configureParameters_accelerate
    (i := { i.prepare none with degraded := !(spec.propulsion? e.env.world).isOk })
    (s := bound) configured halive (Memory.role?_revise_self hrole _) rfl
  have hattached := attachAs_eq hmade hconfigured hdeclared
  rw [hbound] at hattached
  have hmemory : (configured.memory.revise attachment.system fun _ =>
      .accelerate (bound.tuned e.env.parameters)) = e.env.memory.revise attachment.system fun _ =>
        .accelerate (spec.engaged e.env.world e.env.parameters) :=
    e.env.memory.revise_revise attachment.system (fun _ => .accelerate bound) fun _ =>
      .accelerate (bound.tuned e.env.parameters)
  let recruit := e.launchee spec handle attachment
  refine ⟨.attached handle recruit.name spec.entity recruit.capabilities recruit.degraded ::
    journal', hattached.trans ?_⟩
  rw [← hmemory]
  rfl

end Attachments

/--
**A launch in one piece.**  Whatever else there is, the plugin is attached under a handle of its
own; it is degraded if it cannot be configured for its entity, or if the gain for the entity was
declared before.
-/
theorem loadAndAttach_accelerate {e : Engine cast} (halive : e.env.orphaned = false)
    {spec : PluginSpec}
    (hfactory : e.env.loader.factories.find? spec.name = some (.builtin .accelerate)) :
    ∃ journal, e.loadAndAttach behavior spec =
      (.ok ⟨e.env.nextHandle⟩, e.launched spec journal) := by
  let loaded : Environment cast :=
    { e.env with
      memory := (e.env.memory.enroll (.accelerate (.forEntity spec.entity))).2
      loader := e.env.loader.count spec.name
      nextHandle := e.env.nextHandle + 1 }
  have hload : behavior.load spec e.env =
      (.ok ⟨⟨e.env.memory.nextSystem⟩, .plugin spec.name (some .counted)⟩,
        { loaded with nextHandle := e.env.nextHandle }) := load_of_accepted halive hfactory rfl
  let attachment : Attachment cast :=
    ⟨⟨e.env.memory.nextSystem⟩, .plugin spec.name (some .counted)⟩
  have hrole : loaded.memory.role? attachment.system =
      some (.accelerate (.forEntity spec.entity)) :=
    e.env.memory.role?_enroll_self _
  obtain ⟨journal, hattached⟩ :=
    attachAs_accelerate (e := { e with env := loaded }) halive ⟨e.env.nextHandle⟩ hrole
  refine ⟨journal, ?_⟩
  rw [Engine.loadAndAttach, hload]
  show (Except.ok (⟨e.env.nextHandle⟩ : Handle), ({ e with env := loaded } : Engine cast).attachAs
    behavior ⟨e.env.nextHandle⟩ attachment spec.entity spec.config) = _
  rw [hattached]
  simp only [loaded, attachment, Memory.revise_enroll]
  rfl

end SimEngine
