import SimEngine.Cast.Scene
import SimEngine.Proofs.HonestCast
import SimEngine.Proofs.LiveCounts
import SimEngine.Proofs.LoopCourses
import SimEngine.Proofs.RenderedTicks

/-!
# How loops of built-in systems begin and end

A loop that is made from a configuration whose plugins are all built in is at
rest: loading a system remembers it, and configuring it may do no more than
check its payload, declare a parameter, or subscribe a clock to scene updates.
When everything is detached in the end, each system is forgotten, its
subscription is dropped, and its plugin is counted off.

**Definitions.**
* `Cast.AllBuiltin`: the configurations with built-in systems only.

**Results.**
* `settled_loopOfConfig`: a loop made from such a configuration is at rest.
* `settled_retireAll`: detaching everything keeps a loop at rest.
* `Settled.nobody`: a loop at rest without attachments has no system.
-/

namespace SimEngine

open Cast (behavior)

/-- The systems of a configuration are built in. -/
def Cast.AllBuiltin (further : List (String × Factory)) (config : EngineConfig) : Prop :=
  ∀ spec ∈ config.systems, ∃ builtin,
    (Cast.loader further).factories.find? spec.name = some (.builtin builtin)

variable {attachments : List (Attachment cast)} {env : Environment cast} {system : SystemId}

theorem Settled.perm (h : Settled attachments env) {others : List (Attachment cast)}
    (hperm : attachments.Perm others) : Settled others env :=
  { h with
    builtin := fun system role hrole =>
      have hbuiltin := h.builtin system role hrole
      ⟨hbuiltin.1, (hperm.map Attachment.system).mem_iff.1 hbuiltin.2.1, hbuiltin.2.2⟩
    loaded := fun a ha => h.loaded a (hperm.mem_iff.2 ha)
    balanced := h.balanced.congr fun _ => countedIn_perm hperm.symm }

section Loading

/-- **The systems that the plugins make**, each as it is when it is new. -/
theorem Role.ofBuiltin_cases {builtin : Builtin} {config : Payload} {entity : Entity}
    {role : Role} (h : Role.ofBuiltin builtin config entity = .ok role) :
    (builtin = .accelerate ∧ role = .accelerate (.forEntity entity)) ∨
    (builtin = .simClock ∧ role = .simClock .fresh) ∨
    (builtin = .velocityLog ∧
      ∃ log, VelocityLog.ofPayload config entity = .ok log ∧ role = .velocityLog log) ∨
    (builtin = .pauseAfter ∧
      ∃ p, PauseAfter.ofPayload config = .ok p ∧ role = .pauseAfter p) := by
  unfold Role.ofBuiltin at h
  cases builtin with
  | accelerate =>
      exact Or.inl ⟨rfl, (Except.ok.inj h).symm⟩
  | simClock =>
      exact Or.inr (Or.inl ⟨rfl, (Except.ok.inj h).symm⟩)
  | velocityLog =>
      simp only at h
      split at h
      · rename_i log hmade
        exact Or.inr (Or.inr (Or.inl ⟨rfl, log, hmade, (Except.ok.inj h).symm⟩))
      · cases h
  | pauseAfter =>
      simp only at h
      cases hmade : PauseAfter.ofPayload config with
      | error failure =>
          rw [hmade] at h
          cases h
      | ok p =>
          rw [hmade] at h
          exact Or.inr (Or.inr (Or.inr ⟨rfl, p, rfl, (Except.ok.inj h).symm⟩))

theorem Role.isBuiltin_ofBuiltin {builtin : Builtin} {config : Payload} {entity : Entity}
    {role : Role} (h : Role.ofBuiltin builtin config entity = .ok role) : role.IsBuiltin := by
  rcases Role.ofBuiltin_cases h with
    ⟨-, rfl⟩ | ⟨-, rfl⟩ | ⟨-, _, -, rfl⟩ | ⟨-, _, -, rfl⟩ <;> trivial

/-- A new system is one more, and counted for its plugin. -/
theorem settled_enroll (h : Settled attachments env) {role : Role} (hrole : role.IsBuiltin)
    (name : String) :
    Settled (⟨⟨env.memory.nextSystem⟩, .plugin name (some .counted)⟩ :: attachments)
      { env with
        memory := (env.memory.enroll role).2
        loader := env.loader.count name } := by
  have hnew := env.memory.role?_enroll_self role
  have hold : ∀ other : SystemId, other ≠ ⟨env.memory.nextSystem⟩ →
      (env.memory.enroll role).2.role? other = env.memory.role? other :=
    fun _ hother => env.memory.role?_enroll_of_ne role hother
  refine { h with builtin := ?_, loaded := ?_, balanced := ?_, clocks := ?_ }
  · intro system role' hrole'
    have hrole' : (env.memory.enroll role).2.role? system = some role' := hrole'
    by_cases hsystem : system = ⟨env.memory.nextSystem⟩
    · subst hsystem
      obtain rfl : role = role' := Option.some.inj (hnew.symm.trans hrole')
      exact ⟨hrole, List.mem_cons_self, Nat.lt_succ_self _⟩
    · rw [hold system hsystem] at hrole'
      obtain ⟨hbuiltin, hmem, hused⟩ := h.builtin system role' hrole'
      exact ⟨hbuiltin, List.mem_cons_of_mem _ hmem, Nat.lt_succ_of_lt hused⟩
  · intro a ha
    rcases List.mem_cons.1 ha with rfl | ha
    · exact ⟨name, rfl⟩
    · exact h.loaded a ha
  · intro plugin
    have hbefore := h.balanced plugin
    rw [liveInstances_count, countedIn_cons, countedIn_counted rfl, hbefore]
    exact (Nat.add_assoc _ _ _).trans (congrArg _ (Nat.add_comm _ _))
  · intro s hs
    obtain ⟨system, role', hcallback, hrole', htoken⟩ := h.clocks s hs
    have hsystem : system ≠ ⟨env.memory.nextSystem⟩ := by
      rintro rfl
      exact Nat.lt_irrefl _ (h.builtin _ role' hrole').2.2
    exact ⟨system, role', hcallback, (hold system hsystem).trans hrole', htoken⟩

/-- A built-in system whose payload serves is remembered and counted. -/
theorem load_of_accepted (halive : env.orphaned = false) {spec : PluginSpec} {builtin : Builtin}
    (hfactory : env.loader.factories.find? spec.name = some (.builtin builtin)) {role : Role}
    (hrole : Role.ofBuiltin builtin spec.config spec.entity = .ok role) :
    behavior.load spec env =
      (.ok ⟨⟨env.memory.nextSystem⟩, .plugin spec.name (some .counted)⟩, { env with
        memory := (env.memory.enroll role).2
        loader := env.loader.count spec.name }) := by
  have hconstruct : behavior.run .none (behavior.construct (.builtin builtin) spec) env =
      (.done ⟨env.memory.nextSystem⟩, { env with memory := (env.memory.enroll role).2 }) := by
    show behavior.run .none (Cast.construct (.builtin builtin) spec) env = _
    simp only [Cast.construct, hrole]
    refine (run_ask behavior .none .consult _ halive).trans ?_
    exact run_ask behavior .none (.revise _) _ halive
  unfold Behavior.load
  simp only [hfactory, hconstruct]
  rfl

/-- A built-in system whose payload does not serve is not loaded. -/
theorem load_of_refused {spec : PluginSpec} {builtin : Builtin}
    (hfactory : env.loader.factories.find? spec.name = some (.builtin builtin))
    {failure : Failure} (hrole : Role.ofBuiltin builtin spec.config spec.entity = .error failure) :
    ∃ cause, behavior.load spec env = (.error cause, env) := by
  have hconstruct : behavior.run .none (behavior.construct (.builtin builtin) spec) env =
      (.failed failure, env) := by
    show behavior.run .none (Cast.construct (.builtin builtin) spec) env = _
    simp only [Cast.construct, hrole]
    rfl
  unfold Behavior.load
  simp only [hfactory, hconstruct]
  exact ⟨_, rfl⟩

/-- Loading a built-in system adds it to those at rest. -/
theorem settled_load (h : Settled attachments env) {spec : PluginSpec} {builtin : Builtin}
    (hfactory : env.loader.factories.find? spec.name = some (.builtin builtin))
    {a : Attachment cast} {left : Environment cast}
    (hload : behavior.load spec env = (.ok a, left)) :
    Settled (a :: attachments) left ∧ left.loader.factories = env.loader.factories := by
  cases hrole : Role.ofBuiltin builtin spec.config spec.entity with
  | error failure =>
      obtain ⟨cause, hrefused⟩ := load_of_refused hfactory hrole
      rw [hrefused] at hload
      cases hload
  | ok role =>
      rw [load_of_accepted h.alive hfactory hrole] at hload
      obtain ⟨ha, rfl⟩ := Prod.mk.inj hload
      obtain rfl := Except.ok.inj ha
      exact ⟨settled_enroll h (Role.isBuiltin_ofBuiltin hrole) spec.name, rfl⟩

/-- The channels after a clock has subscribed anew. -/
def Environment.resubscribed (env : Environment cast) (system : SystemId)
    (former : Option Connection) : Channels (Listener Callback) :=
  let channels := (env.channels.connect (.event .sceneUpdate) (.guest (.clock system))).2
  match former with
  | none => channels
  | some former => channels.disconnect former

/-- Afterwards there are former subscribers, but not the one in place of which the clock is. -/
theorem mem_resubscribed {former : Option Connection} {event : Event}
    {s : Subscriber (Listener Callback)}
    (hs : s ∈ ((env.resubscribed system former).get (.event event)).subscribers) :
    (s ∈ env.listeners event ∧ former ≠ some ⟨.event event, s.id⟩) ∨
      (event = .sceneUpdate ∧ s.callback = .guest (.clock system) ∧
        (env.channels.connect (.event .sceneUpdate) (.guest (.clock system))).1 =
          ⟨.event .sceneUpdate, s.id⟩) := by
  cases former with
  | none =>
      rcases Channels.mem_subscribers_connect hs with hs | ⟨heq, rfl⟩
      · exact .inl ⟨hs, Option.some_ne_none _ |>.symm⟩
      · exact .inr ⟨ChannelKey.event.inj heq, rfl, rfl⟩
  | some former =>
      obtain ⟨hs, hne⟩ := Channels.mem_subscribers_disconnect hs
      rcases Channels.mem_subscribers_connect hs with hs | ⟨heq, rfl⟩
      · exact .inl ⟨hs, fun heq => hne (Option.some.inj heq)⟩
      · exact .inr ⟨ChannelKey.event.inj heq, rfl, rfl⟩

/-- A clock subscribes to scene updates, in place of any former subscription. -/
theorem settled_resubscribe (h : Settled attachments env) {c : SimClock}
    (hrole : env.memory.role? system = some (.simClock c)) (logEvery : UInt64) :
    let held := (env.channels.connect (.event .sceneUpdate) (.guest (.clock system))).1
    let next : SimClock := { c with logEvery := logEvery, subscription := some held }
    Settled attachments { env with
      channels := env.resubscribed system c.subscription
      memory := env.memory.revise system fun _ => .simClock next } := by
  intro held next
  have hself := Memory.role?_revise_self hrole fun _ => .simClock next
  refine h.rearrange system ?_ ?_ rfl ?_ ?_ ?_
  · exact fun other hother => Memory.role?_revise_of_ne _ hother _
  · intro role hrole'
    obtain rfl : Role.simClock next = role := Option.some.inj (hself.symm.trans hrole')
    exact ⟨trivial, by rw [hrole]; rfl⟩
  · intro key
    unfold Environment.resubscribed
    split
    · rw [Channels.current_get_connect]
      exact h.resting key
    · rw [Channels.current_get_disconnect, Channels.current_get_connect]
      exact h.resting key
  · intro event hevent s hs
    rcases mem_resubscribed hs with ⟨hs, -⟩ | ⟨heq, -⟩
    · exact hs
    · exact absurd heq hevent
  · intro s hs
    rcases mem_resubscribed hs with ⟨hs, hne⟩ | ⟨-, hown, hheld⟩
    · refine .inr ⟨hs, fun hown => hne ?_⟩
      have htoken := h.token_of_mem hs hown
      rw [hrole] at htoken
      exact htoken
    · refine .inl ⟨hown, ?_⟩
      rw [hself]
      exact congrArg some hheld

theorem settled_tidy (h : Settled attachments env) : Settled attachments (behavior.tidy env) := by
  rw [tidy_of_settled h]
  exact h

/-- A role that asks modestly leaves everything at rest. -/
theorem settled_tending (h : Settled attachments env) {conduct : Role → Deed (Option Role)}
    (hconduct : ∀ role, env.memory.role? system = some role →
      (conduct role).Confined Request.Modest fun result => ∀ next ∈ result, role.Continues next)
    (access : Access) :
    Settled attachments (behavior.run access (Cast.tending system conduct) env).2 := by
  cases hrole : env.memory.role? system with
  | none =>
      have hrun : behavior.run access (Cast.tending system conduct) env = _ :=
        run_tending (tidy_of_settled h)
      rw [hrun, hrole]
      exact h
  | some role =>
      exact (sameResult_tending_modest h (.refl env) hrole hrole (hconduct role hrole)
        access).settled

/-- The configuration of a clock whose payload serves. -/
theorem run_simClock_configure (halive : env.orphaned = false) (c : SimClock)
    (system : SystemId) {config : Payload} {logEvery : UInt64}
    (hlog : SimClock.logEveryOf config = .ok logEvery) (access : Access) :
    let held := (env.channels.connect (.event .sceneUpdate) (.guest (.clock system))).1
    behavior.run access (c.configure system config) env =
      (.done { c with logEvery := logEvery, subscription := some held },
        { env with channels := env.resubscribed system c.subscription }) := by
  unfold SimClock.configure Environment.resubscribed
  rw [hlog]
  refine (run_ask behavior access (.connect _ _) _ halive).trans ?_
  cases c.subscription with
  | none => rfl
  | some former => exact run_ask behavior access (.disconnect former) _ halive

/-- **A system that is configured stays at rest**, a clock with its new subscription. -/
theorem settled_configure (h : Settled attachments env) (system : SystemId)
    (context : ConfigureContext) (access : Access) :
    Settled attachments (behavior.run access (behavior.configure system context) env).2 := by
  by_cases hclock : ∃ c, env.memory.role? system = some (.simClock c)
  · obtain ⟨c, hrole⟩ := hclock
    have hrun : behavior.run access (behavior.configure system context) env = _ :=
      run_tending_of_role h hrole access
    have hthen : behavior.run access
        (do return some (Role.simClock (← c.configure system context.config))) env = _ :=
      run_bind behavior.emit behavior.tidy access (c.configure system context.config)
        (fun c => .done (some (Role.simClock c))) env
    rw [hrun]
    simp only
    rw [hthen]
    cases hlog : SimClock.logEveryOf context.config with
    | error cause =>
        have hfailed : (c.configure system context.config).run behavior.emit behavior.tidy access
            env = (.failed cause.toFailure, env) := by
          unfold SimClock.configure
          rw [hlog]
          rfl
        rw [hfailed]
        exact h
    | ok logEvery =>
        have hdone : (c.configure system context.config).run behavior.emit behavior.tidy access
            env = _ := run_simClock_configure h.alive c system hlog access
        rw [hdone]
        exact settled_tidy (settled_resubscribe h hrole logEvery)
  · refine settled_tending h (fun role hrole => ?_) access
    cases role with
    | accelerate s =>
        exact (modest_accelerate_configure s context).bind fun _ _ => confined_some ⟨trivial, rfl⟩
    | simClock c => exact (hclock ⟨c, hrole⟩).elim
    | scripted s => exact ((h.builtin system _ hrole).1).elim
    | _ => exact confined_none

theorem settled_configureParameters (h : Settled attachments env) (system : SystemId)
    (access : Access) :
    Settled attachments
      (behavior.run access (behavior.configureParameters system) env).2 := by
  refine settled_tending h (fun role hrole => ?_) access
  cases role with
  | accelerate s =>
      exact (modest_accelerate_configureParameters s).bind fun _ _ => confined_some ⟨trivial, rfl⟩
  | scripted s => exact ((h.builtin system _ hrole).1).elim
  | _ => exact confined_none

theorem settled_instance_configure (h : Settled attachments env) (i : Instance cast) :
    Settled attachments (i.configure behavior none env).2 ∧
      (i.configure behavior none env).2.loader = env.loader := by
  refine ⟨?_, loader_configure h.alive i none⟩
  obtain ⟨left, journal, hleft, hconfigure⟩ := exists_configure_env behavior i env none
  rw [hconfigure]
  rcases hleft with rfl | rfl
  · exact { h with }
  · exact { settled_configure h _ _ .full with }

theorem settled_instance_configureParameters (h : Settled attachments env) (i : Instance cast) :
    Settled attachments (i.configureParameters behavior env).2 ∧
      (i.configureParameters behavior env).2.loader = env.loader := by
  refine ⟨?_, loader_configureParameters h.alive i⟩
  obtain ⟨left, journal, hleft, hdeclare⟩ := exists_configureParameters_env behavior i env
  rw [hdeclare]
  rcases hleft with rfl | rfl
  · exact { h with }
  · exact { settled_configureParameters h _ .full with }

/-- Attaching a loaded system leaves everything at rest. -/
theorem settled_attachAs {e : Engine cast} (h : Settled attachments e.env) (handle : Handle)
    (a : Attachment cast) (entity : Entity) (config : Payload) :
    Settled attachments (e.attachAs behavior handle a entity config).env ∧
      (e.attachAs behavior handle a entity config).env.loader = e.env.loader := by
  rcases hcreate : Instance.create behavior handle a entity config e.env with ⟨i, env⟩
  have hcreated : Settled attachments env ∧ env.loader = e.env.loader := by
    obtain ⟨-, rfl⟩ := Prod.mk.inj hcreate
    exact ⟨h.setQueryList handle rfl, rfl⟩
  have hconfigured := settled_instance_configure hcreated.1 i
  have hdeclared := settled_instance_configureParameters hconfigured.1
    (i.configure behavior none env).1
  simp only [Engine.attachAs, hcreate]
  exact ⟨hdeclared.1.of_calm (.report _ _),
    hdeclared.2.trans (hconfigured.2.trans hcreated.2)⟩

/-- **A loop to which built-in systems are attached is at rest.** -/
theorem settled_attachAll {t left : TickLoop cast} {specs : List PluginSpec}
    (h : Settled t.engine.attachments t.env)
    (hspecs : ∀ spec ∈ specs, ∃ builtin,
      t.env.loader.factories.find? spec.name = some (.builtin builtin))
    (hall : t.attachAll behavior specs = (none, left)) :
    Settled left.engine.attachments left.env := by
  induction specs generalizing t with
  | nil =>
      obtain ⟨-, rfl⟩ := Prod.mk.inj hall
      exact h
  | cons spec rest ih =>
      obtain ⟨builtin, hfactory⟩ := hspecs spec List.mem_cons_self
      unfold TickLoop.attachAll Engine.loadAndAttach at hall
      rcases hload : behavior.load spec t.engine.env with ⟨cause | a, env⟩
      · rw [hload] at hall
        cases hall
      · rw [hload] at hall
        obtain ⟨hloaded, hfactories⟩ := settled_load h hfactory hload
        -- The attached system is the last one, not the first one.
        let e : Engine cast := ⟨t.engine.scheduler, env.freshHandle.2⟩
        have hready : Settled (e.attachments ++ [a]) e.env :=
          (show Settled (a :: t.engine.attachments) e.env from
            { hloaded with balanced := hloaded.balanced.of_eq rfl rfl }).perm
            (@List.perm_append_comm _ [a] t.engine.attachments)
        obtain ⟨hattached, hloader⟩ :=
          settled_attachAs hready env.freshHandle.1 a spec.entity spec.config
        rw [← attachments_attachAs] at hattached
        refine ih (t := { t with
          engine := e.attachAs behavior env.freshHandle.1 a spec.entity spec.config })
          hattached (fun other hother => ?_) hall
        obtain ⟨builtin', hfactory'⟩ := hspecs other (List.mem_cons_of_mem spec hother)
        refine ⟨builtin', ?_⟩
        have hsame := (congrArg Loader.factories hloader).trans hfactories
        exact (congrArg (·.find? other.name) hsame).trans hfactory'

/-- A loader that only knows plugins has loaded nothing. -/
theorem liveInstances_loader (further : List (String × Factory)) (plugin : String) :
    (Cast.loader further).liveInstances plugin = 0 := by
  have hregister : ∀ {register : Loader cast → String × Factory → Loader cast},
      (∀ l p, (register l p).live = l.live) → ∀ (plugins : List (String × Factory)) l,
        (plugins.foldl register l).live = l.live := by
    intro register hregister plugins
    induction plugins with
    | nil => exact fun _ => rfl
    | cons p rest ih => exact fun l => (ih _).trans (hregister l p)
  have hlive : (Cast.loader further).live = (∅ : OrderedMap String Nat) := by
    refine hregister ?_ _ _
    exact fun _ _ => rfl
  rw [Loader.liveInstances, hlive]
  rfl

/-- A loop that was just made is at rest: it alone is subscribed to anything. -/
theorem settled_create (further : List (String × Factory)) (config : TickConfig)
    (world : Scene) :
    Settled [] { (TickLoop.create config (Cast.engine further)).env with world := world } := by
  have hlisteners : ∀ event, ∀ s ∈ Environment.listeners
      (TickLoop.create config (Cast.engine further)).env event,
      event ≠ .sceneUpdate ∧ s.callback = .loop := by
    intro event s hs
    rcases Channels.mem_subscribers_connect hs with hs | ⟨heq, rfl⟩
    · rcases Channels.mem_subscribers_connect hs with hs | ⟨heq, rfl⟩
      · rcases Channels.mem_subscribers_connect hs with hs | ⟨heq, rfl⟩
        · cases hs
        · exact ⟨(by rintro rfl; cases heq), rfl⟩
      · exact ⟨(by rintro rfl; cases heq), rfl⟩
    · exact ⟨(by rintro rfl; cases heq), rfl⟩
  exact
    { alive := rfl
      idle := rfl
      unasked := rfl
      quiet := fun _ => rfl
      resting := fun key => by
        show ((((Channels.connect _ _ _).2.connect _ _).2.connect _ _).2.get key).current = none
        rw [Channels.current_get_connect, Channels.current_get_connect,
          Channels.current_get_connect]
        rfl
      builtin := fun system role hrole => by cases hrole
      loaded := List.forall_mem_nil _
      balanced := fun plugin => liveInstances_loader further plugin
      pauses := fun s hs => (hlisteners .pause s hs).2
      stops := fun s hs => (hlisteners .stop s hs).2
      clocks := fun s hs => absurd rfl (hlisteners .sceneUpdate s hs).1 }

/-- **A loop made from a configuration with built-in systems is at rest.** -/
theorem settled_loopOfConfig {further : List (String × Factory)} {config : EngineConfig}
    (hbuiltin : Cast.AllBuiltin further config) {t : TickLoop cast}
    (h : (Cast.loopOfConfig further config).1 = .ok t) :
    Settled t.engine.attachments t.env := by
  unfold Cast.loopOfConfig TickLoop.ofConfig at h
  simp only at h
  split at h
  · rename_i left hattached
    obtain rfl := Except.ok.inj h
    refine (settled_attachAll ?_ ?_ hattached).of_calm (.report _ _)
    · exact settled_create further config.tick _
    · exact hbuiltin
  · cases h

end Loading

section Ends

/-- The channels after a system ended: its subscription is dropped. -/
def Environment.channelsWithout (env : Environment cast) (system : SystemId) :
    Channels (Listener Callback) :=
  match (env.memory.role? system).bind Role.token with
  | some c => env.channels.disconnect c
  | none => env.channels

/-- The end of a built-in system. -/
theorem run_drop_of_builtin (halive : env.orphaned = false)
    (hbuiltin : ∀ role, env.memory.role? system = some role → role.IsBuiltin) :
    behavior.run .none (Cast.drop system) env =
      (.done (), { env with
        channels := env.channelsWithout system
        memory := env.memory.dismiss system }) := by
  have hdismiss : ∀ {left : Environment cast}, left.orphaned = false →
      behavior.run .none (Program.revise (G := cast) fun m => m.dismiss system) left =
        (.done (), { left with memory := left.memory.dismiss system }) := by
    intro left halive
    exact run_ask behavior .none (.revise _) .done halive
  unfold Cast.drop Environment.channelsWithout
  refine (run_ask behavior .none .consult _ halive).trans ?_
  simp only [Request.perform, Program.bind]
  cases hrole : env.memory.role? system with
  | none => exact hdismiss halive
  | some role =>
      cases role with
      | scripted s => exact (hbuiltin _ hrole).elim
      | simClock c =>
          cases hsubscription : c.subscription with
          | none =>
              simp only [Option.bind_some, Role.token, hsubscription]
              exact hdismiss halive
          | some subscription =>
              simp only [Option.bind_some, Role.token, hsubscription]
              refine (run_ask behavior .none (.disconnect subscription) _ halive).trans ?_
              exact hdismiss halive
      | _ => exact hdismiss halive

theorem settled_drop (h : Settled attachments env) (system : SystemId) :
    Settled attachments { env with
      channels := env.channelsWithout system
      memory := env.memory.dismiss system } := by
  refine h.rearrange system ?_ ?_ rfl ?_ ?_ ?_
  · exact fun _ hother => env.memory.role?_dismiss_of_ne hother
  · intro role hrole
    rw [Memory.role?_dismiss_self] at hrole
    cases hrole
  · intro key
    unfold Environment.channelsWithout
    split
    · rw [Channels.current_get_disconnect]
      exact h.resting key
    · exact h.resting key
  · intro event _ s hs
    unfold Environment.channelsWithout at hs
    split at hs
    · exact (Channels.mem_subscribers_disconnect hs).1
    · exact hs
  · intro s hs
    right
    unfold Environment.channelsWithout at hs
    split at hs
    · rename_i c htoken
      obtain ⟨hmem, hne⟩ := Channels.mem_subscribers_disconnect hs
      refine ⟨hmem, fun hown => hne ?_⟩
      exact Option.some.inj (htoken.symm.trans (h.token_of_mem hmem hown))
    · rename_i htoken
      refine ⟨hs, fun hown => ?_⟩
      rw [h.token_of_mem hs hown] at htoken
      cases htoken

/-- A built-in system that was loaded is let go of. -/
theorem release_of_builtin (halive : env.orphaned = false) {a : Attachment cast} {name : String}
    (hownership : a.ownership = .plugin name (some .counted))
    (hbuiltin : ∀ role, env.memory.role? a.system = some role → role.IsBuiltin) :
    ∃ journal, behavior.release a env = { env with
      channels := env.channelsWithout a.system
      memory := env.memory.dismiss a.system
      loader := (env.loader.uncount name).2
      journal := journal } := by
  have hrun : behavior.runQuietly (behavior.discard a.system) env = { env with
      channels := env.channelsWithout a.system
      memory := env.memory.dismiss a.system } :=
    congrArg Prod.snd (run_drop_of_builtin halive hbuiltin)
  unfold Behavior.release Behavior.releaseWith
  rw [hownership]
  simp only [hrun]
  split <;> exact ⟨_, rfl⟩

/-- A system that is let go of leaves the other ones at rest. -/
theorem settled_release {a : Attachment cast} {rest : List (Attachment cast)}
    (h : Settled (a :: rest) env) :
    Settled rest (behavior.release a env) ∧ (behavior.release a env).world = env.world ∧
      (behavior.release a env).parameters = env.parameters ∧
        (behavior.release a env).loop = env.loop := by
  obtain ⟨name, hownership⟩ := h.loaded a List.mem_cons_self
  have hbalanced := (balanced_release Cast.honest_behavior a h.balanced).1
  have hdropped := settled_drop h a.system
  obtain ⟨journal, hrelease⟩ := release_of_builtin h.alive hownership fun role hrole =>
    (h.builtin a.system role hrole).1
  rw [hrelease] at hbalanced ⊢
  refine ⟨{ hdropped with
    builtin := fun system role hrole => ?_
    loaded := fun other hother => h.loaded other (List.mem_cons_of_mem a hother)
    balanced := hbalanced }, rfl, rfl, rfl⟩
  have hrole : (env.memory.dismiss a.system).role? system = some role := hrole
  obtain ⟨hbuiltin, hmem, hused⟩ := hdropped.builtin system role hrole
  have hother : system ≠ a.system := by
    rintro rfl
    rw [Memory.role?_dismiss_self] at hrole
    cases hrole
  exact ⟨hbuiltin, (List.mem_cons.1 hmem).resolve_left hother, hused⟩

/-- **When all systems are let go of, none is left**, and the world is as it was. -/
theorem settled_retireAll {instances : List (Instance cast)}
    (h : Settled (instances.map Instance.attachment) env) :
    let left := Engine.retireAll behavior env instances
    Settled [] left ∧ left.world = env.world ∧ left.parameters = env.parameters ∧
      left.loop = env.loop := by
  induction instances generalizing env with
  | nil => exact ⟨h, rfl, rfl, rfl⟩
  | cons i rest ih =>
      have hcleared := h.setQueryList i.handle
        (show ((env.queryList i.handle).clear).queries = [] from rfl)
      obtain ⟨hsettled, hworld, hparameters, hloop⟩ := settled_release hcleared
      obtain ⟨hended, hworld', hparameters', hloop'⟩ := ih hsettled
      exact ⟨hended, hworld'.trans hworld, hparameters'.trans hparameters, hloop'.trans hloop⟩

/-- Where no system is left, nobody is remembered, counted or subscribed to scene updates. -/
theorem Settled.nobody (h : Settled [] env) :
    (∀ system, env.memory.role? system = none) ∧ (∀ plugin, env.loader.liveInstances plugin = 0) ∧
      env.channels.connectionCount (.event .sceneUpdate) = 0 := by
  have hnone : ∀ system, env.memory.role? system = none := by
    intro system
    cases hrole : env.memory.role? system with
    | none => rfl
    | some role => exact absurd (h.builtin system role hrole).2.1 List.not_mem_nil
  refine ⟨hnone, fun plugin => ?_, ?_⟩
  · have hcount := h.balanced plugin
    rw [h.idle] at hcount
    exact hcount
  · refine List.length_eq_zero_iff.2 (List.eq_nil_iff_forall_not_mem.2 fun s hs => ?_)
    obtain ⟨system, role, -, hrole, -⟩ := h.clocks s hs
    rw [hnone] at hrole
    cases hrole

end Ends

end SimEngine
