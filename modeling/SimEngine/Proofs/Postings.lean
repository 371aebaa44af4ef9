import SimEngine.Proofs.Bystanders

/-!
# What accelerating systems are posted to

An accelerating system that does anything accelerates the entity that its
instance was attached for.  It takes on the entity when it is configured, and
every time it is configured, it is so for the entity of its instance; as long as
that has not succeeded, it accelerates nothing.  This goes for all engines to
which only built-in systems were attached, each as a plugin.

**Definitions.**
* `Instance.post`, `Engine.posts`: the system of an instance, and its entity.
* `Posted`: an aim is that of a post, or it is idle.
* `Staffed`: an environment in which accelerating systems keep to their posts.

**Results.**
* `staffed_attachAs`, `staffed_detach`, `staffed_retireAll`, `staffed_load`:
  systems come and go, and the others keep to their posts.
* `staffed_instance_configure`: so they do when one of them is configured.
* `staffed_beginStep`: so they do at the beginning of a step.
-/

namespace SimEngine

open Cast (behavior)

/-- A system and the entity that it is attached for. -/
abbrev Post : Type :=
  Attachment cast × Entity

/-- The system of an instance, and the entity that it is attached for. -/
def Instance.post (i : Instance cast) : Post :=
  (i.attachment, i.entity)

/-- The posts of all instances. -/
def Engine.posts (e : Engine cast) : List Post :=
  e.scheduler.all.map Instance.post

/-- Someone is posted to the entity that a system accelerates, or it accelerates nothing. -/
def Posted (posts : List Post) (system : SystemId) (aim : Entity × Propulsion) : Prop :=
  aim.2.isIdle = true ∨ ∃ post ∈ posts, post.1.system = system ∧ post.2 = aim.1

/-- Built-in systems are attached as plugins, and those that accelerate keep to their posts. -/
structure Staffed (posts : List Post) (env : Environment cast) : Prop where
  civil : env.Civil
  plugins : ∀ post ∈ posts, post.1.IsPlugin
  posted : ∀ system aim, env.memory.aim? system = some aim → Posted posts system aim

variable {posts : List Post} {env left : Environment cast}

theorem Posted.mono {posts' : List Post} (hsub : ∀ post ∈ posts, post ∈ posts')
    {system : SystemId} {aim : Entity × Propulsion} (h : Posted posts system aim) :
    Posted posts' system aim := by
  rcases h with hidle | ⟨post, hpost, hsystem, hentity⟩
  · exact .inl hidle
  · exact .inr ⟨post, hsub post hpost, hsystem, hentity⟩

namespace Staffed

/-- Whoever is tame leaves everyone at their posts. -/
theorem tame (h : Staffed posts env) (htame : Tame env left) : Staffed posts left where
  civil := htame.civil
  plugins := h.plugins
  posted system aim haim := by
    rcases htame.made system aim haim with hbefore | hidle
    · exact h.posted system aim hbefore
    · exact .inl hidle

theorem of_memory (h : Staffed posts env) (hcivil : left.Civil)
    (hmemory : left.memory = env.memory) : Staffed posts left where
  civil := hcivil
  plugins := h.plugins
  posted := by
    rw [hmemory]
    exact h.posted

/-- One more post. -/
theorem join (h : Staffed posts env) {post : Post} (hplugin : post.1.IsPlugin) :
    Staffed (posts ++ [post]) env where
  civil := h.civil
  plugins other hother := by
    rcases List.mem_append.1 hother with hother | hother
    · exact h.plugins other hother
    · rw [List.mem_singleton.1 hother]
      exact hplugin
  posted system aim haim :=
    (h.posted system aim haim).mono fun _ hpost => List.mem_append_left _ hpost

/-- A system that is remembered anew keeps to its post. -/
theorem revise (h : Staffed posts env) {system : SystemId} {next : Role}
    (hbuiltin : next.IsBuiltin) (hposted : ∀ aim, next.aim = some aim → Posted posts system aim) :
    Staffed posts { env with memory := env.memory.revise system fun _ => next } where
  civil := h.civil.revise hbuiltin
  plugins := h.plugins
  posted other aim haim := by
    by_cases hother : other = system
    · subst hother
      obtain ⟨role, hrole, haimed⟩ := Option.bind_eq_some_iff.1 haim
      obtain ⟨rfl, -⟩ := Memory.of_role?_revise hrole
      exact hposted aim haimed
    · exact h.posted other aim ((env.memory.aim?_revise_of_ne hother _).symm.trans haim)

/-- A role that is remembered keeps to its post. -/
theorem of_role (h : Staffed posts env) {system : SystemId} {role : Role}
    (hrole : env.memory.role? system = some role) {aim : Entity × Propulsion}
    (haim : role.aim = some aim) : Posted posts system aim :=
  h.posted system aim ((Memory.aim?_of_role? hrole).trans haim)

end Staffed

section Configurations

theorem staffed_tending (h : Staffed posts env) {system : SystemId}
    {conduct : Role → Deed (Option Role)} (access : Access)
    (hconduct : ∀ role, role.IsBuiltin → (conduct role).Confined Request.Meek fun result =>
      ∀ next ∈ result, next.IsBuiltin ∧ ∀ aim, next.aim = some aim →
        role.aim = some aim ∨ Posted posts system aim) :
    let left := (behavior.run access (Cast.tending system conduct) env).2
    Staffed posts left ∧ left.world = env.world := by
  have hconducted := fun role hrole =>
    tame_run access gentle_behavior (hconduct role (h.civil.builtin system role hrole).1) h.civil
  let kept (left : Environment cast) : Prop := Staffed posts left ∧ left.world = env.world
  have hsame : kept env := ⟨h, rfl⟩
  refine tending_leaves gentle_behavior.tidy h.civil.alive hsame ?_ ?_
  · intro role hrole
    have htame := (hconducted role hrole).1
    exact ⟨h.tame htame, htame.world⟩
  · intro role next left hrole hrun
    obtain ⟨htame, hresult⟩ := hconducted role hrole
    rw [hrun] at htame
    obtain ⟨hbuiltin, hposted⟩ := hresult _ _ hrun next rfl
    have hrevised := (h.tame htame).revise hbuiltin fun aim haim =>
      (hposted aim haim).elim (h.of_role hrole) id
    exact ⟨htame.civil.alive, hrevised, htame.world⟩

theorem meek_simClock_configure (c : SimClock) (system : SystemId) (config : Payload) :
    (c.configure system config).Confined Request.Meek fun _ => True := by
  refine (confined_ofExcept fun _ _ => trivial).bind fun logEvery (_ : True) => ?_
  refine confined_ask trivial fun subscription => ?_
  split
  · exact trivial
  · exact confined_ask trivial fun _ => trivial

/-- A system that is configured for its entity keeps to its post. -/
theorem staffed_configure (h : Staffed posts env) {post : Post} (hpost : post ∈ posts)
    (handle : Handle) (config : Payload) :
    let left := (behavior.run .full
      (behavior.configure post.1.system ⟨handle, post.2, config⟩) env).2
    Staffed posts left ∧ left.world = env.world := by
  refine staffed_tending h .full fun role hbuiltin => ?_
  cases role with
  | accelerate s =>
      refine ((looking_accelerate_configure s _).mono (fun _ hr => hr.observes.meek)
        fun _ hentity => hentity).bind fun next hentity => confined_some ⟨trivial, ?_⟩
      intro aim haim
      obtain rfl := Option.some.inj haim
      exact .inr (.inr ⟨post, hpost, rfl, hentity.symm⟩)
  | simClock c =>
      exact (meek_simClock_configure c _ _).bind fun _ _ =>
        confined_some ⟨trivial, fun _ haim => by cases haim⟩
  | scripted s => exact hbuiltin.elim
  | _ => exact confined_none

/-- A system that declares its parameters keeps to its post. -/
theorem staffed_configureParameters (h : Staffed posts env) (system : SystemId) :
    let left := (behavior.run .full (behavior.configureParameters system) env).2
    Staffed posts left ∧ left.world = env.world := by
  refine staffed_tending h .full fun role hbuiltin => ?_
  cases role with
  | accelerate s =>
      refine ((looking_accelerate_configureParameters s).mono (fun _ hr => hr.observes.meek)
        fun _ hsame => hsame).bind fun next hsame => confined_some ⟨trivial, ?_⟩
      intro aim haim
      have hkept : (Role.accelerate next).aim = (Role.accelerate s).aim :=
        congrArg some (Prod.ext hsame.1 hsame.2)
      exact .inl (hkept.symm.trans haim)
  | scripted s => exact hbuiltin.elim
  | _ => exact confined_none

/-- **A system whose instance is configured keeps to its post.** -/
theorem staffed_instance_configure (h : Staffed posts env) {i : Instance cast}
    (hpost : i.post ∈ posts) (config : Option Payload) :
    Staffed posts (i.configure behavior config env).2 ∧
      (i.configure behavior config env).2.world = env.world := by
  obtain ⟨left, journal, hleft, hconfigure⟩ := exists_configure_env behavior i env config
  rw [hconfigure]
  rcases hleft with rfl | rfl
  · exact ⟨h.of_memory { h.civil with } rfl, rfl⟩
  · obtain ⟨hstaffed, hworld⟩ := staffed_configure h hpost i.handle (config.getD i.config)
    exact ⟨hstaffed.of_memory { hstaffed.civil with } rfl, hworld⟩

theorem staffed_instance_configureParameters (h : Staffed posts env) (i : Instance cast) :
    Staffed posts (i.configureParameters behavior env).2 ∧
      (i.configureParameters behavior env).2.world = env.world := by
  obtain ⟨left, journal, hleft, hdeclare⟩ := exists_configureParameters_env behavior i env
  rw [hdeclare]
  rcases hleft with rfl | rfl
  · exact ⟨h.of_memory { h.civil with } rfl, rfl⟩
  · obtain ⟨hstaffed, hworld⟩ := staffed_configureParameters h i.attachment.system
    exact ⟨hstaffed.of_memory { hstaffed.civil with } rfl, hworld⟩

end Configurations

section Attachments

variable {e : Engine cast}

theorem posts_attachAs (e : Engine cast) (handle : Handle) (a : Attachment cast) (entity : Entity)
    (config : Payload) :
    (e.attachAs behavior handle a entity config).posts = e.posts ++ [(a, entity)] := by
  obtain ⟨degraded, hrecruit⟩ := exists_recruit_eq behavior e handle a entity config
  have hall : (e.attachAs behavior handle a entity config).scheduler.all =
      e.scheduler.all ++ [e.recruit behavior handle a entity config] :=
    (List.append_assoc _ _ _).symm
  rw [Engine.posts, hall, hrecruit, List.map_append]
  rfl

/-- **A plugin that is attached gets a post.** -/
theorem staffed_attachAs (h : Staffed e.posts e.env) (handle : Handle) {a : Attachment cast}
    (hplugin : a.IsPlugin) (entity : Entity) (config : Payload) :
    let left := e.attachAs behavior handle a entity config
    Staffed left.posts left.env ∧ left.env.world = e.env.world := by
  intro left
  rw [show left.posts = e.posts ++ [(a, entity)] from posts_attachAs e handle a entity config]
  have hjoined : Staffed (e.posts ++ [(a, entity)]) (e.env.setQueryList handle .empty) :=
    (h.join hplugin).of_memory (h.civil.setQueryList handle rfl) rfl
  let i : Instance cast := (Instance.create behavior handle a entity config e.env).1
  have hconfigured := staffed_instance_configure hjoined (i := i)
    (List.mem_append_right _ List.mem_cons_self) none
  have hdeclared := staffed_instance_configureParameters hconfigured.1
    (i.configure behavior none (e.env.setQueryList handle .empty)).1
  exact ⟨hdeclared.1.of_memory { hdeclared.1.civil with } rfl, hdeclared.2.trans hconfigured.2⟩

theorem factories_uncount (l : Loader cast) (name : String) :
    (l.uncount name).2.factories = l.factories := by
  unfold Loader.uncount
  split
  · rfl
  · split <;> rfl

/-- A plugin that is let go of is forgotten, and nobody else. -/
theorem release_of_plugin (h : env.Civil) {a : Attachment cast} (hplugin : a.IsPlugin) :
    let left := behavior.release a env
    left.Civil ∧ left.world = env.world ∧ ∀ system aim, left.memory.aim? system = some aim →
      aim.2.isIdle = true ∨ (system ≠ a.system ∧ env.memory.aim? system = some aim) := by
  obtain ⟨name, unload, hownership⟩ := hplugin
  let dropped : Environment cast :=
    { env with
      channels := env.channelsWithout a.system
      memory := env.memory.dismiss a.system }
  have hdropped : dropped.Civil :=
    { h with
      bystanders := fun key s hs => by
        have hs : s ∈ ((env.channelsWithout a.system).get key).subscribers := hs
        unfold Environment.channelsWithout at hs
        split at hs
        · exact h.bystanders key s (Channels.mem_subscribers_disconnect hs).1
        · exact h.bystanders key s hs
      builtin := fun system role hrole => by
        have hother : system ≠ a.system := by
          rintro rfl
          rw [Memory.role?_dismiss_self] at hrole
          cases hrole
        exact h.builtin system role ((env.memory.role?_dismiss_of_ne hother).symm.trans hrole) }
  have haims : ∀ system aim, dropped.memory.aim? system = some aim →
      system ≠ a.system ∧ env.memory.aim? system = some aim := by
    intro system aim haim
    obtain ⟨role, hrole, haimed⟩ := Option.bind_eq_some_iff.1 haim
    have hother : system ≠ a.system := by
      rintro rfl
      rw [Memory.role?_dismiss_self] at hrole
      cases hrole
    rw [Memory.role?_dismiss_of_ne _ hother] at hrole
    exact ⟨hother, (Memory.aim?_of_role? hrole).trans haimed⟩
  have hrun : behavior.runQuietly (behavior.discard a.system) env = dropped :=
    congrArg Prod.snd (run_drop_of_builtin h.alive fun role hrole => (h.builtin _ role hrole).1)
  intro left
  have hleft : left = behavior.releaseWith behavior.runQuietly a env := rfl
  unfold Behavior.releaseWith at hleft
  rw [hownership] at hleft
  simp only [hrun] at hleft
  cases unload with
  | none =>
      rw [hleft]
      exact ⟨hdropped, rfl, fun system aim haim => .inr (haims system aim haim)⟩
  | some unload =>
      cases unload with
      | announced =>
          have hmeek : (behavior.unloaded name).Confined Request.Meek fun _ => True :=
            confined_request (fun _ => ⟨rfl, rfl⟩) fun _ => trivial
          have htold : Tame dropped left := by
            rw [hleft]
            exact (hmeek.tame .none).run gentle_behavior hdropped
          refine ⟨htold.civil, htold.world, fun system aim haim => ?_⟩
          exact (htold.made system aim haim).symm.imp_right (haims system aim)
      | counted =>
          have hcounted : ∀ journal, ({ dropped with
              loader := (dropped.loader.uncount name).2
              journal := journal } : Environment cast).Civil := fun journal =>
            { hdropped with
              factories := fun other factory hfactory => h.factories other factory (by
                rw [← factories_uncount env.loader name]
                exact hfactory) }
          rw [hleft]
          simp only
          split
          · exact ⟨hcounted _, rfl, fun system aim haim => .inr (haims system aim haim)⟩
          · exact ⟨hcounted _, rfl, fun system aim haim => .inr (haims system aim haim)⟩

theorem Staffed.perm (h : Staffed posts env) {posts' : List Post} (hperm : posts.Perm posts') :
    Staffed posts' env where
  civil := h.civil
  plugins post hpost := h.plugins post (hperm.mem_iff.2 hpost)
  posted system aim haim := (h.posted system aim haim).mono fun _ => hperm.mem_iff.1

/-- A plugin that is let go of leaves its post. -/
theorem staffed_release {post : Post} (h : Staffed (post :: posts) env) :
    Staffed posts (behavior.release post.1 env) ∧
      (behavior.release post.1 env).world = env.world := by
  obtain ⟨hcivil, hworld, haims⟩ :=
    release_of_plugin h.civil (h.plugins post List.mem_cons_self)
  refine ⟨⟨hcivil, fun other hother => h.plugins other (List.mem_cons_of_mem _ hother), ?_⟩, hworld⟩
  intro system aim haim
  rcases haims system aim haim with hidle | ⟨hother, hbefore⟩
  · exact .inl hidle
  · rcases h.posted system aim hbefore with hidle | ⟨holder, hholder, hsystem, hentity⟩
    · exact .inl hidle
    · rcases List.mem_cons.1 hholder with rfl | hholder
      · exact absurd hsystem.symm hother
      · exact .inr ⟨holder, hholder, hsystem, hentity⟩

/-- **A system that is detached leaves its post.** -/
theorem staffed_detach (h : Staffed e.posts e.env) {handle : Handle} {left : Engine cast}
    (hdetach : e.detach behavior handle = .ok left) :
    Staffed left.posts left.env ∧ left.env.world = e.env.world := by
  unfold Engine.detach at hdetach
  split at hdetach
  · cases hdetach
  · rename_i i hfind
    obtain rfl := Except.ok.inj hdetach
    have hcleared : Staffed e.posts ((e.env.setQueryList i.handle
        (e.env.queryList i.handle).clear).report (.detached i.handle i.name)) :=
      h.of_memory { h.civil.setQueryList i.handle rfl with } rfl
    have hleaving : Staffed (i.post :: _) _ := hcleared.perm ((perm_erase hfind).map Instance.post)
    have hreleased := staffed_release hleaving
    exact hreleased

/-- **When all systems are detached, no post is left.** -/
theorem staffed_retireAll {instances : List (Instance cast)}
    (h : Staffed (instances.map Instance.post) env) :
    Staffed [] (Engine.retireAll behavior env instances) ∧
      (Engine.retireAll behavior env instances).world = env.world := by
  induction instances generalizing env with
  | nil => exact ⟨h, rfl⟩
  | cons i rest ih =>
      have hcleared := h.of_memory (h.civil.setQueryList i.handle
        (show (env.queryList i.handle).clear.queries = [] from rfl)) rfl
      obtain ⟨hreleased, hworld⟩ := staffed_release hcleared
      obtain ⟨hended, hworld'⟩ := ih hreleased
      exact ⟨hended, hworld'.trans hworld⟩

theorem staffed_clear (h : Staffed e.posts e.env) :
    Staffed (e.clear behavior).posts (e.clear behavior).env ∧
      (e.clear behavior).env.world = e.env.world :=
  staffed_retireAll (h.perm ((List.reverse_perm e.scheduler.all).symm.map Instance.post))

/-- **A system that is loaded is a plugin**, and has no aim yet. -/
theorem staffed_load (h : Staffed posts env) (spec : PluginSpec) :
    let loaded := behavior.load spec env
    Staffed posts loaded.2 ∧ loaded.2.world = env.world ∧ ∀ a, loaded.1 = .ok a → a.IsPlugin := by
  intro loaded
  cases hfactory : env.loader.factories.find? spec.name with
  | none =>
      have hload : loaded = (.error (.unknownPlugin spec.name), env) := by
        show behavior.load spec env = _
        unfold Behavior.load
        rw [hfactory]
      rw [hload]
      exact ⟨h, rfl, fun a ha => by cases ha⟩
  | some factory =>
      obtain ⟨builtin, rfl⟩ := h.civil.factories spec.name factory hfactory
      cases hrole : Role.ofBuiltin builtin spec.config spec.entity with
      | error failure =>
          obtain ⟨cause, hload⟩ := load_of_refused hfactory hrole
          rw [show loaded = _ from hload]
          exact ⟨h, rfl, fun a ha => by cases ha⟩
      | ok role =>
          have henrolled := h.tame (tame_enroll h.civil hrole)
          rw [show loaded = _ from load_of_accepted h.civil.alive hfactory hrole]
          refine ⟨henrolled.of_memory { henrolled.civil with } rfl, rfl, fun a ha => ?_⟩
          obtain rfl := Except.ok.inj ha
          exact ⟨_, _, rfl⟩

theorem staffed_attach (h : Staffed e.posts e.env) {a : Attachment cast} (hplugin : a.IsPlugin)
    (entity : Entity) (config : Payload) :
    let left := (e.attach behavior a entity config).2
    Staffed left.posts left.env ∧ left.env.world = e.env.world :=
  staffed_attachAs (e := { e with env := e.env.freshHandle.2 })
    (h.of_memory { h.civil with } rfl) e.env.freshHandle.1 hplugin entity config

theorem staffed_loadAndAttach (h : Staffed e.posts e.env) (spec : PluginSpec) :
    let left := (e.loadAndAttach behavior spec).2
    Staffed left.posts left.env ∧ left.env.world = e.env.world := by
  intro left
  obtain ⟨hloaded, hworld, hplugin⟩ := staffed_load h spec
  have hleft : left = (e.loadAndAttach behavior spec).2 := rfl
  unfold Engine.loadAndAttach at hleft
  rcases hload : behavior.load spec e.env with ⟨cause | a, env⟩
  all_goals rw [hload] at hleft hloaded hworld hplugin
  · rw [hleft]
    exact ⟨hloaded, hworld⟩
  · obtain ⟨hattached, hsame⟩ := staffed_attach (e := { e with env := env }) hloaded
      (hplugin a rfl) spec.entity spec.config
    rw [hleft]
    exact ⟨hattached, hsame.trans hworld⟩

/-- **A system that is configured anew keeps to its post.** -/
theorem staffed_reconfigure (h : Staffed e.posts e.env) (hnodup : e.scheduler.handles.Nodup)
    {handle : Handle} {config : Option Payload} {sound : Bool} {left : Engine cast}
    (hreconfigure : e.reconfigure behavior handle config = .ok (sound, left)) :
    Staffed left.posts left.env ∧ left.env.world = e.env.world := by
  unfold Engine.reconfigure at hreconfigure
  split at hreconfigure
  · cases hreconfigure
  · rename_i i hfind
    obtain ⟨hi, rfl⟩ := Scheduler.mem_of_instance? hfind
    have hconfigured := staffed_instance_configure h (List.mem_map_of_mem hi) config
    obtain ⟨degraded, hsame⟩ := exists_configure_eq behavior i config e.env
    rcases hrun : i.configure behavior config e.env with ⟨i', env⟩
    rw [hrun] at hreconfigure hconfigured hsame
    obtain ⟨-, rfl⟩ := Prod.mk.inj (Except.ok.inj hreconfigure)
    have hpost : i'.post = i.post := by
      rw [show i' = _ from hsame]
      rfl
    rw [show Engine.posts ⟨e.scheduler.replace i.handle i', env⟩ = e.posts from
      map_replace hnodup hi hpost]
    exact hconfigured

end Attachments

section Steps

variable {e : Engine cast}

theorem staffed_apply (h : Staffed e.posts e.env) {command : Command cast}
    (hplugins : ∀ a ∈ queuedIn [command], a.IsPlugin) :
    let left := e.apply behavior command
    Staffed left.posts left.env ∧ left.env.world = e.env.world := by
  cases command with
  | attach handle a entity config =>
      exact staffed_attachAs h handle (hplugins a List.mem_cons_self) entity config
  | detach handle =>
      simp only [Engine.apply]
      split
      · rename_i left hdetach
        exact staffed_detach h hdetach
      · exact ⟨h, rfl⟩

theorem staffed_foldl_apply (h : Staffed e.posts e.env) {commands : List (Command cast)}
    (hplugins : ∀ a ∈ queuedIn commands, a.IsPlugin) :
    let left := commands.foldl (fun e c => e.apply behavior c) e
    Staffed left.posts left.env ∧ left.env.world = e.env.world := by
  induction commands generalizing e with
  | nil => exact ⟨h, rfl⟩
  | cons command rest ih =>
      have hsplit : queuedIn (command :: rest) = queuedIn [command] ++ queuedIn rest :=
        queuedIn_append [command] rest
      rw [hsplit] at hplugins
      obtain ⟨happlied, hworld⟩ := staffed_apply h fun a ha =>
        hplugins a (List.mem_append_left _ ha)
      obtain ⟨hended, hworld'⟩ := ih happlied fun a ha => hplugins a (List.mem_append_right _ ha)
      exact ⟨hended, hworld'.trans hworld⟩

/-- **At the beginning of a step everyone keeps to their posts**, and the world is as it was. -/
theorem staffed_beginStep (h : Staffed e.posts e.env) :
    let begun := e.beginStep behavior
    Staffed begun.posts begun.env ∧ begun.env.world = e.env.world := by
  have hemptied : Staffed e.posts { e.env with commands := [] } :=
    h.of_memory { h.civil with plugins := fun a ha => by cases ha } rfl
  obtain ⟨hcarried, hworld⟩ := staffed_foldl_apply
    (e := { e with env := { e.env with commands := [] } }) hemptied h.civil.plugins
  refine ⟨?_, hworld⟩
  have hposts : (e.beginStep behavior).posts = (e.applyCommands behavior).posts := by
    simp [Engine.posts, Engine.beginStep, Scheduler.admitPending, Scheduler.all,
      Function.comp_def, Instance.admitted, Instance.post]
  rw [hposts]
  exact hcarried

end Steps

end SimEngine
