import SimEngine.Proofs.BuiltinSetups
import SimEngine.Proofs.Populations
import SimEngine.Proofs.Releases

/-!
# How a loop is made from a configuration

A loop creates the entities of its configuration, and then loads and attaches
its systems one by one.  With built-in systems this fails only where a
specification names no plugin, or one that does not accept its payload.  Then
all is undone: the systems are let go of, the one attached last first, and the
loop drops its own subscriptions.  Who else uses the loader or the channels
meanwhile finds both as they were.

**Definitions.**
* `Channels.Beyond`: channels in which only those of some subscriptions were
  added.
* `Assembled`: what was done over an environment for some attachments.
* `Cast.Accepts`: a specification that can be loaded.
* `Cast.Unused`: an engine over which a loop can be made.
* `Engine.loaded`, `Engine.upcoming`: an engine and an attachment while a system is loaded.
* `Instance.Follows`: an instance that was attached as a specification says.

**Results.**
* `Channels.Beyond.connect`, `Channels.Beyond.disconnect`: who subscribes, and
  who drops a subscription.
* `assembled_loadAndAttach`: a system is attached if it is accepted.
* `assembled_attachAll`: so are all systems, up to the first that is not.
* `assembled_release`, `assembled_retireAll`: the systems are let go of again.
* `undone_close`: so are the loop's own subscriptions.
* `loop_of_config`: when a loop can be made, what it is then, and what is left
  if it cannot.
-/

namespace SimEngine

open Cast (behavior)

/-- Channels in which there are the subscribers of others, and those of some subscriptions. -/
structure Channels.Beyond {κ : Type} (base cs : Channels κ) (held : List Connection) : Prop where
  orderly : ∀ key, (cs.get key).Orderly
  others : ∀ key, ((cs.get key).subscribers.filter fun s => (⟨key, s.id⟩ : Connection) ∉ held) =
    (base.get key).subscribers

/-- The subscriptions that attached systems hold. -/
def Environment.heldBy (env : Environment cast) (attachments : List (Attachment cast)) :
    List Connection :=
  attachments.filterMap fun a => env.tokenOf a.system

/--
What was done over an environment for attachments, besides parameters, query lists and reports:
their systems are loaded, each is remembered under a number of its own, and the subscribers are
those of before and those of the subscriptions that the systems and their loop hold.
-/
structure Assembled (base : Environment cast) (own : List Connection)
    (attachments : List (Attachment cast)) (env : Environment cast) : Prop where
  alive : env.orphaned = false
  idle : env.commands = []
  world : env.world = base.world
  factories : env.loader.factories = base.loader.factories
  counted : ∀ plugin, env.loader.liveInstances plugin =
    base.loader.liveInstances plugin + countedIn plugin attachments
  loaded : ∀ a ∈ attachments, ∃ name, a.ownership = .plugin name (some .counted)
  enrolled : ∀ a ∈ attachments, a.system.number < env.memory.nextSystem ∧
    ∃ role, env.memory.role? a.system = some role ∧ role.IsBuiltin
  distinct : (attachments.map Attachment.system).Nodup
  channels : base.channels.Beyond env.channels (own ++ env.heldBy attachments)

/-- A specification names a built-in plugin that accepts its payload. -/
def Cast.Accepts (spec : PluginSpec) : Prop :=
  ∃ builtin role, Builtin.ofName? spec.name = some builtin ∧
    Role.ofBuiltin builtin spec.config spec.entity = .ok role

/--
An engine over which a loop can be made: its scheduler and its world are new.  The loader has the
built-in plugins, and it and the channels may be in use elsewhere.
-/
structure Cast.Unused (e : Engine cast) : Prop where
  scheduler : e.scheduler = .empty
  world : e.env.world = .empty
  commands : e.env.commands = []
  alive : e.env.orphaned = false
  stocked : ∀ name, e.env.loader.factories.find? name =
    (Builtin.ofName? name).map Factory.builtin
  orderly : ∀ key, (e.env.channels.get key).Orderly

/-- A loop whose world is peopled, before any system is attached to it. -/
def TickLoop.peopled (config : EngineConfig) (e : Engine cast) : TickLoop cast :=
  let t := TickLoop.create config.tick e
  { t with engine := { t.engine with env := { t.env with
    world := Cast.populate config.entities t.env.world } } }

/-- A loop that reports that it is ready. -/
def TickLoop.announced (t : TickLoop cast) : TickLoop cast :=
  { t with engine := { t.engine with
    env := t.env.report (.worldReady t.env.world.entityCount t.engine.scheduler.size) } }

/-- An instance waits for its first step, and was attached as a specification says. -/
structure Instance.Follows (i : Instance cast) (spec : PluginSpec) : Prop where
  name : i.name = spec.name
  plugin : i.attachment.ownership = .plugin spec.name (some .counted)
  entity : i.entity = spec.entity
  config : i.config = spec.config
  state : i.state = .configured

namespace Channels.Beyond

variable {κ : Type} {base cs : Channels κ} {held : List Connection}

theorem refl (h : ∀ key, (base.get key).Orderly) : base.Beyond base [] where
  orderly := h
  others key := by simp

/-- Who subscribes gets a number that nobody else has. -/
theorem connect (h : base.Beyond cs held) (key : ChannelKey) (callback : κ)
    {held' : List Connection}
    (hheld : ∀ c, c ∈ held' ↔ c ∈ held ∨ c = (cs.connect key callback).1) :
    base.Beyond (cs.connect key callback).2 held' where
  orderly other := by
    rw [get_connect]
    split
    · exact (h.orderly key).connect callback
    · exact h.orderly other
  others other := by
    have hlt := (h.orderly key).listed_lt
    rw [get_connect, ← h.others other]
    split
    · rename_i heq
      subst heq
      have hnew : (⟨other, (cs.get other).nextId⟩ : Connection) ∈ held' :=
        (hheld _).2 (Or.inr rfl)
      show ((cs.get other).subscribers ++
        [(⟨(cs.get other).nextId, callback⟩ : Subscriber κ)]).filter _ = _
      rw [List.filter_append, List.filter_singleton]
      simp only [hnew, not_true_eq_false, decide_false, cond_false, List.append_nil]
      refine List.filter_congr fun s hs => ?_
      have hother : (⟨other, s.id⟩ : Connection) ≠ (cs.connect other callback).1 := by
        intro heq
        exact Nat.ne_of_lt (hlt s hs) (Connection.mk.inj heq).2
      simp [hheld, hother]
    · rename_i hne
      refine List.filter_congr fun s _ => ?_
      have hother : (⟨other, s.id⟩ : Connection) ≠ (cs.connect key callback).1 :=
        fun heq => hne (Connection.mk.inj heq).1
      simp [hheld, hother]

/-- Who drops a subscription leaves the others. -/
theorem disconnect (h : base.Beyond cs held) {c : Connection} {held' : List Connection}
    (hheld : ∀ x, x ∈ held ↔ x ∈ held' ∨ x = c) : base.Beyond (cs.disconnect c) held' where
  orderly other := by
    rw [get_disconnect]
    split
    · exact (h.orderly other).disconnect c.id
    · exact h.orderly other
  others other := by
    rw [get_disconnect, ← h.others other]
    split
    · rename_i heq
      subst heq
      have hleft : ((cs.get c.channel).disconnect c.id).subscribers =
          (cs.get c.channel).subscribers.filter fun s => s.id != c.id :=
        congrArg Prod.snd ((cs.get c.channel).roll_disconnect c.id)
      rw [hleft, List.filter_filter]
      refine List.filter_congr fun s _ => ?_
      have hself : (⟨c.channel, s.id⟩ : Connection) = c ↔ s.id = c.id :=
        ⟨congrArg Connection.id, fun hid => by rw [hid]⟩
      rw [Bool.eq_iff_iff]
      simp [hheld, hself, and_comm]
    · rename_i hne
      refine List.filter_congr fun s _ => ?_
      have hother : (⟨other, s.id⟩ : Connection) ≠ c :=
        fun heq => hne (congrArg Connection.channel heq)
      simp [hheld, hother]

theorem subscribers_eq (h : base.Beyond cs []) (key : ChannelKey) :
    (cs.get key).subscribers = (base.get key).subscribers := by
  have hothers := h.others key
  simpa using hothers

end Channels.Beyond

section Assembling

variable {base env env' : Environment cast} {own : List Connection}
  {rest : List (Attachment cast)} {a : Attachment cast}

theorem heldBy_concat (env : Environment cast) (rest : List (Attachment cast))
    (a : Attachment cast) :
    env.heldBy (rest ++ [a]) = env.heldBy rest ++ (env.tokenOf a.system).toList := by
  rw [Environment.heldBy, List.filterMap_append, Environment.heldBy]
  cases htoken : env.tokenOf a.system <;> simp [htoken]

theorem heldBy_congr (h : ∀ a ∈ rest, env'.memory.role? a.system = env.memory.role? a.system) :
    env'.heldBy rest = env.heldBy rest := by
  refine List.filterMap_congr fun a ha => ?_
  rw [Environment.tokenOf, Environment.tokenOf, h a ha]

/-- The system that was loaded last is none of the others. -/
theorem Assembled.ne_last (h : Assembled base own (rest ++ [a]) env) :
    ∀ other ∈ rest, other.system ≠ a.system := by
  have hdistinct := h.distinct
  rw [List.map_append, List.map_singleton] at hdistinct
  intro other hother
  exact (List.nodup_append.1 hdistinct).2.2 _ (List.mem_map_of_mem hother) _
    (List.mem_singleton_self _)

/-- A system is loaded. -/
theorem assembled_enroll (h : Assembled base own rest env) {role : Role}
    (hbuiltin : role.IsBuiltin) (hfresh : role.token = none) (name : String) :
    Assembled base own (rest ++ [⟨⟨env.memory.nextSystem⟩, .plugin name (some .counted)⟩])
      { env with
        memory := (env.memory.enroll role).2
        loader := env.loader.count name } := by
  have hself := env.memory.role?_enroll_self role
  -- Numbers are given in ascending order, so the new system is none of the others.
  have hne : ∀ other ∈ rest, other.system ≠ ⟨env.memory.nextSystem⟩ := by
    intro other hother heq
    have hlt := (h.enrolled other hother).1
    rw [heq] at hlt
    exact Nat.lt_irrefl _ hlt
  have hothers : ∀ other ∈ rest,
      (env.memory.enroll role).2.role? other.system = env.memory.role? other.system :=
    fun other hother => env.memory.role?_enroll_of_ne role (hne other hother)
  refine { h with counted := ?_, loaded := ?_, enrolled := ?_, distinct := ?_, channels := ?_ }
  · intro plugin
    rw [liveInstances_count, h.counted, countedIn_append, countedIn_counted rfl, Nat.add_assoc]
  · intro other hother
    rcases List.mem_append.1 hother with hother | hother
    · exact h.loaded other hother
    · rw [List.mem_singleton.1 hother]
      exact ⟨name, rfl⟩
  · intro other hother
    rcases List.mem_append.1 hother with hother | hother
    · obtain ⟨hused, known, hknown, hknown'⟩ := h.enrolled other hother
      exact ⟨Nat.lt_succ_of_lt hused, known, (hothers other hother).trans hknown, hknown'⟩
    · rw [List.mem_singleton.1 hother]
      exact ⟨Nat.lt_succ_self _, role, hself, hbuiltin⟩
  · rw [List.map_append, List.map_singleton]
    refine h.distinct.append (List.nodup_singleton _) (List.disjoint_singleton.2 fun hmem => ?_)
    obtain ⟨other, hother, heq⟩ := List.mem_map.1 hmem
    exact hne other hother heq
  · have hheld : Environment.heldBy { env with
        memory := (env.memory.enroll role).2
        loader := env.loader.count name } rest = env.heldBy rest := heldBy_congr hothers
    have hnone : Environment.tokenOf { env with
        memory := (env.memory.enroll role).2
        loader := env.loader.count name } ⟨env.memory.nextSystem⟩ = none := by
      rw [Environment.tokenOf, hself]
      exact hfresh
    rw [heldBy_concat, hheld, hnone, Option.toList_none, List.append_nil]
    exact h.channels

/-- The system that was loaded last is set up. -/
theorem Assembled.setUp (h : Assembled base own (rest ++ [a]) env)
    (hset : SetUp a.system env env') : Assembled base own (rest ++ [a]) env' where
  alive := hset.orphaned.trans h.alive
  idle := hset.commands.trans h.idle
  world := hset.world.trans h.world
  factories := (congrArg Loader.factories hset.loader).trans h.factories
  counted plugin := by rw [hset.loader, h.counted]
  loaded := h.loaded
  enrolled other hother := by
    obtain ⟨hused, role, hrole, hbuiltin⟩ := h.enrolled other hother
    rw [hset.nextSystem]
    refine ⟨hused, ?_⟩
    by_cases heq : other.system = a.system
    · rw [heq] at hrole ⊢
      exact hset.self role hrole hbuiltin
    · exact ⟨role, (hset.others _ heq).trans hrole, hbuiltin⟩
  distinct := h.distinct
  channels := by
    have hothers : env'.heldBy rest = env.heldBy rest :=
      heldBy_congr fun other hother => hset.others _ (h.ne_last other hother)
    have hbefore := h.channels
    rw [heldBy_concat] at hbefore ⊢
    rw [hothers]
    rcases hset.subscribed with ⟨htoken, hchannels⟩ | ⟨hnone, key, callback, hchannels, htoken⟩
    · rw [htoken, hchannels]
      exact hbefore
    · rw [hchannels, htoken]
      rw [hnone, Option.toList_none, List.append_nil] at hbefore
      exact hbefore.connect key callback fun c => by simp [or_assoc]

/-- **A system that was loaded is attached.** -/
theorem assembled_attachAs {e : Engine cast} (h : Assembled base own (rest ++ [a]) e.env)
    {role : Role} (hrole : e.env.memory.role? a.system = some role) (hbuiltin : role.IsBuiltin)
    (hfresh : role.token = none) (handle : Handle) (entity : Entity) (config : Payload) :
    Assembled base own (rest ++ [a]) (e.attachAs behavior handle a entity config).env :=
  h.setUp (setUp_attachAs h.alive hrole hbuiltin hfresh handle entity config)

end Assembling

section Attaching

variable {base : Environment cast} {own : List Connection}

theorem name_ofBuiltin {builtin : Builtin} {config : Payload} {entity : Entity} {role : Role}
    (h : Role.ofBuiltin builtin config entity = .ok role) :
    role.name = builtin.name ∧ role.token = none := by
  rcases Role.ofBuiltin_cases h with
    ⟨rfl, rfl⟩ | ⟨rfl, rfl⟩ | ⟨rfl, _, -, rfl⟩ | ⟨rfl, _, -, rfl⟩ <;> exact ⟨rfl, rfl⟩

/-- The engine once a system is loaded and has its handle. -/
def Engine.loaded (e : Engine cast) (spec : PluginSpec) (role : Role) : Engine cast :=
  { e with env := { e.env with
    memory := (e.env.memory.enroll role).2
    loader := e.env.loader.count spec.name
    nextHandle := e.env.nextHandle + 1 } }

/-- The attachment of the system that is loaded next. -/
def Engine.upcoming (e : Engine cast) (spec : PluginSpec) : Attachment cast :=
  ⟨⟨e.env.memory.nextSystem⟩, .plugin spec.name (some .counted)⟩

theorem loadAndAttach_of_accepted {e : Engine cast} (halive : e.env.orphaned = false)
    {spec : PluginSpec} {builtin : Builtin}
    (hfactory : e.env.loader.factories.find? spec.name = some (.builtin builtin)) {role : Role}
    (hrole : Role.ofBuiltin builtin spec.config spec.entity = .ok role) :
    e.loadAndAttach behavior spec = (.ok ⟨e.env.nextHandle⟩,
      (e.loaded spec role).attachAs behavior ⟨e.env.nextHandle⟩ (e.upcoming spec) spec.entity
        spec.config) := by
  unfold Engine.loadAndAttach
  simp only [load_of_accepted halive hfactory hrole]
  rfl

/-- A system whose payload serves is loaded and attached. -/
theorem assembled_of_accepted
    {e : Engine cast} (h : Assembled base own e.attachments e.env) {spec : PluginSpec}
    {builtin : Builtin} (hname : builtin.name = spec.name)
    (hfactory : e.env.loader.factories.find? spec.name = some (.builtin builtin)) {role : Role}
    (hrole : Role.ofBuiltin builtin spec.config spec.entity = .ok role) :
    ∃ handle i left, e.loadAndAttach behavior spec = (.ok handle, left) ∧
      Assembled base own left.attachments left.env ∧ i.Follows spec ∧
      left.scheduler = { e.scheduler with pending := e.scheduler.pending ++ [i] } := by
  obtain ⟨hcalled, hfresh⟩ := name_ofBuiltin hrole
  have hbuiltin := Role.isBuiltin_ofBuiltin hrole
  let a := e.upcoming spec
  let handle : Handle := ⟨e.env.nextHandle⟩
  let ready := e.loaded spec role
  let left := ready.attachAs behavior handle a spec.entity spec.config
  have hself : ready.env.memory.role? a.system = some role :=
    e.env.memory.role?_enroll_self role
  have hready : Assembled base own (e.attachments ++ [a]) ready.env :=
    (assembled_enroll h hbuiltin hfresh spec.name).setUp
      (.of_eq rfl rfl rfl rfl rfl rfl rfl fun _ hlist => hlist)
  have hattached : Assembled base own left.attachments left.env := by
    rw [show left.attachments = _ from attachments_attachAs behavior ready handle a _ _]
    exact assembled_attachAs hready hself hbuiltin hfresh handle spec.entity spec.config
  obtain ⟨degraded, hrecruit⟩ :=
    exists_recruit_eq behavior ready handle a spec.entity spec.config
  have hshown : behavior.name a.system ready.env.memory = spec.name := by
    show ((ready.env.memory.role? a.system).map Role.name).getD "" = spec.name
    rw [hself]
    exact hcalled.trans hname
  refine ⟨handle, ready.recruit behavior handle a spec.entity spec.config, left,
    loadAndAttach_of_accepted h.alive hfactory hrole, hattached, ?_, rfl⟩
  rw [hrecruit]
  exact ⟨hshown, rfl, rfl, rfl, rfl⟩

/-- **A system is attached if its specification can be loaded**, and else nothing changes. -/
theorem assembled_loadAndAttach
    (hstocked : ∀ name, base.loader.factories.find? name =
      (Builtin.ofName? name).map Factory.builtin)
    {e : Engine cast} (h : Assembled base own e.attachments e.env) (spec : PluginSpec) :
    (Cast.Accepts spec ∧ ∃ handle i left, e.loadAndAttach behavior spec = (.ok handle, left) ∧
      Assembled base own left.attachments left.env ∧ i.Follows spec ∧
      left.scheduler = { e.scheduler with pending := e.scheduler.pending ++ [i] }) ∨
    (¬ Cast.Accepts spec ∧ ∃ cause, e.loadAndAttach behavior spec = (.error cause, e)) := by
  have hfactory := hstocked spec.name
  rw [← h.factories] at hfactory
  cases hbuiltin : Builtin.ofName? spec.name with
  | none =>
      rw [hbuiltin, Option.map_none] at hfactory
      right
      constructor
      · rintro ⟨builtin, role, hname, -⟩
        rw [hbuiltin] at hname
        cases hname
      · unfold Engine.loadAndAttach Behavior.load
        simp only [hfactory]
        exact ⟨_, rfl⟩
  | some builtin =>
      rw [hbuiltin, Option.map_some] at hfactory
      have hname : builtin.name = spec.name := by
        simpa using List.find?_some hbuiltin
      cases hrole : Role.ofBuiltin builtin spec.config spec.entity with
      | error failure =>
          obtain ⟨cause, hload⟩ := load_of_refused hfactory hrole
          right
          constructor
          · rintro ⟨builtin', role, hname', hrole'⟩
            rw [hbuiltin] at hname'
            obtain rfl := Option.some.inj hname'
            rw [hrole] at hrole'
            cases hrole'
          · unfold Engine.loadAndAttach
            simp only [hload]
            exact ⟨cause, rfl⟩
      | ok role =>
          exact Or.inl ⟨⟨builtin, role, hbuiltin, hrole⟩,
            assembled_of_accepted h hname hfactory hrole⟩

/--
**The systems are attached up to the first whose specification cannot be loaded**, each as its
specification says.
-/
theorem assembled_attachAll
    (hstocked : ∀ name, base.loader.factories.find? name =
      (Builtin.ofName? name).map Factory.builtin)
    {t : TickLoop cast} (h : Assembled base own t.engine.attachments t.env)
    (specs : List PluginSpec) :
    ∃ error left, t.attachAll behavior specs = (error, left) ∧
      (error = none ↔ ∀ spec ∈ specs, Cast.Accepts spec) ∧
      Assembled base own left.engine.attachments left.env ∧
      left.subscriptions = t.subscriptions ∧
      left.engine.scheduler.instances = t.engine.scheduler.instances ∧
      (error = none → ∃ recruits,
        left.engine.scheduler.pending = t.engine.scheduler.pending ++ recruits ∧
        List.Forall₂ Instance.Follows recruits specs) := by
  induction specs generalizing t with
  | nil =>
      exact ⟨none, t, rfl, by simp, h, rfl, rfl, fun _ =>
        ⟨[], (List.append_nil _).symm, .nil⟩⟩
  | cons spec rest ih =>
      rcases assembled_loadAndAttach hstocked h spec with
        ⟨haccepts, handle, i, e, hattach, he, hfollows, hscheduler⟩ | ⟨hrefused, cause, hattach⟩
      · obtain ⟨error, left, hall, hiff, hleft, hsubscriptions, hinstances, hpending⟩ :=
          ih (t := { t with engine := e }) he
        refine ⟨error, left, ?_, ?_, hleft, hsubscriptions, ?_, fun hnone => ?_⟩
        · rw [TickLoop.attachAll, hattach]
          exact hall
        · rw [hiff]
          simp [haccepts]
        · rw [hinstances]
          exact (congrArg Scheduler.instances hscheduler :)
        · obtain ⟨recruits, hrecruits, hrest⟩ := hpending hnone
          refine ⟨i :: recruits, ?_, .cons hfollows hrest⟩
          rw [hrecruits, show e.scheduler.pending = _ from congrArg Scheduler.pending hscheduler,
            List.append_assoc]
          rfl
      · -- The systems before the refused one stay; they are let go of when the loop is closed.
        refine ⟨some ⟨spec.name, cause⟩, { t with engine := t.engine }, ?_, ?_, h, rfl, rfl, ?_⟩
        · rw [TickLoop.attachAll, hattach]
        · simp [hrefused]
        · rintro ⟨⟩

end Attaching

section Undoing

variable {base env : Environment cast} {own : List Connection}
  {rest : List (Attachment cast)} {a : Attachment cast}

/-- **The system that was attached last is let go of.** -/
theorem assembled_release (h : Assembled base own (rest ++ [a]) env) :
    Assembled base own rest (behavior.release a env) := by
  have hlast : a ∈ rest ++ [a] := List.mem_append_right rest (List.mem_singleton_self a)
  obtain ⟨name, hownership⟩ := h.loaded a hlast
  obtain ⟨-, role, hrole, hbuiltin⟩ := h.enrolled a hlast
  obtain ⟨journal, hrelease⟩ := release_of_builtin h.alive hownership fun other hother => by
    obtain rfl := Option.some.inj (hrole.symm.trans hother)
    exact hbuiltin
  have hothers : ∀ other ∈ rest,
      (env.memory.dismiss a.system).role? other.system = env.memory.role? other.system :=
    fun other hother => env.memory.role?_dismiss_of_ne (h.ne_last other hother)
  rw [hrelease]
  refine { h with factories := ?_, counted := ?_, loaded := ?_, enrolled := ?_, distinct := ?_
                  channels := ?_ }
  · refine Eq.trans ?_ h.factories
    show (env.loader.uncount name).2.factories = env.loader.factories
    unfold Loader.uncount
    split
    · rfl
    · split <;> rfl
  · intro plugin
    rw [liveInstances_uncount, h.counted, countedIn_append, countedIn_counted hownership]
    omega
  · exact fun other hother => h.loaded other (List.mem_append_left _ hother)
  · intro other hother
    obtain ⟨hused, known, hknown, hknown'⟩ := h.enrolled other (List.mem_append_left _ hother)
    exact ⟨hused, known, (hothers other hother).trans hknown, hknown'⟩
  · have hdistinct := h.distinct
    rw [List.map_append] at hdistinct
    exact (List.nodup_append.1 hdistinct).1
  · have hheld : Environment.heldBy { env with
        channels := env.channelsWithout a.system
        memory := env.memory.dismiss a.system
        loader := (env.loader.uncount name).2
        journal := journal } rest = env.heldBy rest := heldBy_congr hothers
    have hbefore := h.channels
    rw [heldBy_concat] at hbefore
    rw [hheld]
    show base.channels.Beyond (env.channelsWithout a.system) _
    unfold Environment.channelsWithout
    unfold Environment.tokenOf at hbefore
    cases htoken : (env.memory.role? a.system).bind Role.token with
    | none =>
        rw [htoken, Option.toList_none, List.append_nil] at hbefore
        exact hbefore
    | some c =>
        rw [htoken] at hbefore
        exact hbefore.disconnect fun x => by simp [or_assoc]

/-- **All systems are let go of**, by induction on those that are left. -/
theorem assembled_retireAll {instances : List (Instance cast)}
    (h : Assembled base own (instances.map Instance.attachment) env) :
    Assembled base own [] (Engine.retireAll behavior env instances.reverse) := by
  induction instances using List.reverseRecOn generalizing env with
  | nil => exact h
  | append_singleton rest i ih =>
      rw [List.map_append, List.map_singleton] at h
      have hcleared : Assembled base own (rest.map Instance.attachment ++ [i.attachment])
          (env.setQueryList i.handle (env.queryList i.handle).clear) :=
        h.setUp (.of_eq rfl rfl rfl rfl rfl rfl rfl (quiet_setQueryList i.handle rfl))
      rw [List.reverse_append, List.reverse_singleton]
      exact ih (assembled_release hcleared)

/-- Who drops all subscriptions that are its own leaves those of the others. -/
theorem Channels.Beyond.disconnectAll {κ : Type} {base cs : Channels κ} {held : List Connection}
    (h : base.Beyond cs held) : base.Beyond (held.foldl Channels.disconnect cs) [] := by
  induction held generalizing cs with
  | nil => exact h
  | cons c rest ih => exact ih (h.disconnect fun x => by simp [or_comm])

end Undoing

section Loops

variable {e : Engine cast}

/-- A loop that was just made has its three subscriptions, and a world of its own. -/
theorem assembled_create (he : Cast.Unused e) (config : TickConfig) (world : Scene) :
    Assembled { e.env with world := world } (TickLoop.create config e).subscriptions []
      { (TickLoop.create config e).env with world := world } where
  alive := he.alive
  idle := he.commands
  world := rfl
  factories := rfl
  counted _ := rfl
  loaded := List.forall_mem_nil _
  enrolled := List.forall_mem_nil _
  distinct := .nil
  channels := by
    have hconnect : ∀ {cs : Channels (Listener Callback)} {held : List Connection},
        e.env.channels.Beyond cs held → ∀ event, e.env.channels.Beyond
          (cs.connect (.event event) .loop).2 (held ++ [(cs.connect (.event event) .loop).1]) :=
      fun h event => h.connect (.event event) .loop fun c => by simp
    exact hconnect (hconnect (hconnect (.refl he.orderly) .pause) .stop) .loadPlugins

/-- **A loop that is closed undoes what was done over its environment.** -/
theorem undone_close {base : Environment cast} {t : TickLoop cast}
    (h : Assembled base t.subscriptions t.engine.attachments t.env) :
    (∀ plugin, (t.close behavior).env.loader.liveInstances plugin =
      base.loader.liveInstances plugin) ∧
    base.channels.Beyond (t.close behavior).env.channels [] := by
  have hcleared : Assembled base t.subscriptions [] (t.engine.clear behavior).env :=
    assembled_retireAll h
  -- The queue is empty, so the end of the engine lets go of nothing besides.
  have hclosed : (t.engine.close behavior).env =
      { (t.engine.clear behavior).env with orphaned := true } := by
    rcases (close_cases (b := behavior) t.engine).2 with hclosed | hclosed
    · exact hclosed
    · rw [hclosed, hcleared.idle]
      exact congrArg (fun commands =>
        { (t.engine.clear behavior).env with orphaned := true, commands := commands })
        hcleared.idle.symm
  constructor
  · intro plugin
    show (t.engine.close behavior).env.loader.liveInstances plugin = _
    rw [hclosed]
    exact hcleared.counted plugin
  · show base.channels.Beyond
      (t.subscriptions.foldl Channels.disconnect (t.engine.close behavior).env.channels) []
    rw [hclosed]
    have hleft := hcleared.channels
    rw [show (t.engine.clear behavior).env.heldBy [] = [] from rfl, List.append_nil] at hleft
    exact hleft.disconnectAll

/-- How a loop is made, in terms of how its systems are attached. -/
theorem ofConfig_eq (config : EngineConfig) (e : Engine cast) :
    TickLoop.ofConfig behavior config Cast.populate e =
      match (TickLoop.peopled config e).attachAll behavior config.systems with
      | (none, t) => (.ok t.announced, t.announced.env)
      | (some cause, t) => (.error cause, (t.close behavior).env) := by
  rcases hall : (TickLoop.peopled config e).attachAll behavior config.systems with ⟨_ | _, t⟩
  · unfold TickLoop.peopled at hall
    unfold TickLoop.ofConfig
    simp only [hall]
    rfl
  · unfold TickLoop.peopled at hall
    unfold TickLoop.ofConfig
    simp only [hall]

/-- A loop is peopled before its systems are attached. -/
theorem assembled_peopled (he : Cast.Unused e) (config : EngineConfig) :
    let t := TickLoop.peopled config e
    Assembled { e.env with world := Cast.populate config.entities .empty } t.subscriptions
      t.engine.attachments t.env ∧ t.engine.scheduler = .empty := by
  intro t
  have hempty : t.engine.scheduler = .empty := he.scheduler
  have hnobody : t.engine.attachments = [] := by
    rw [Engine.attachments, hempty]
    rfl
  have hcreated := assembled_create he config.tick (Cast.populate config.entities e.env.world)
  rw [hnobody]
  rw [he.world] at hcreated
  refine ⟨?_, hempty⟩
  show Assembled _ _ [] { (TickLoop.create config.tick e).env with
    world := Cast.populate config.entities e.env.world }
  rw [he.world]
  exact hcreated

/--
**A loop can be made exactly if each specification names a built-in plugin that accepts its
payload**; whether the systems are configured and declare their parameters with success does not
matter.  Then its world shows the entities of the configuration, and one instance for each
specification waits for its first step.  If it cannot be made, nobody is counted who was not counted
before, and the subscribers of each channel are those of before.

The entities are numbered by machine words; no list in memory has more of them than can be numbered.
-/
theorem loop_of_config (he : Cast.Unused e) (config : EngineConfig) :
    let made := TickLoop.ofConfig behavior config Cast.populate e
    ((∃ t, made.1 = .ok t) ↔ ∀ spec ∈ config.systems, Cast.Accepts spec) ∧
    (∀ t, made.1 = .ok t →
      (config.entities.length < UInt64.size → Scene.Shows t.env.world config.entities) ∧
      t.engine.scheduler.instances = [] ∧
      List.Forall₂ Instance.Follows t.engine.scheduler.pending config.systems) ∧
    (∀ cause, made.1 = .error cause →
      (∀ plugin, made.2.loader.liveInstances plugin = e.env.loader.liveInstances plugin) ∧
      ∀ key, made.2.channels.connectionCount key = e.env.channels.connectionCount key ∧
        (made.2.channels.get key).subscribers = (e.env.channels.get key).subscribers) := by
  intro made
  let base : Environment cast :=
    { e.env with world := Cast.populate config.entities .empty }
  have hstocked : ∀ name, base.loader.factories.find? name =
      (Builtin.ofName? name).map Factory.builtin := he.stocked
  obtain ⟨hpeopled, hempty⟩ := assembled_peopled he config
  obtain ⟨error, left, hall, hiff, hleft, hsubscriptions, hinstances, hpending⟩ :=
    assembled_attachAll hstocked hpeopled config.systems
  rw [hempty] at hinstances hpending
  have hmade : made = _ := ofConfig_eq config e
  rw [hall] at hmade
  cases error with
  | none =>
      obtain ⟨recruits, hrecruits, hfollow⟩ := hpending rfl
      obtain rfl : recruits = left.engine.scheduler.pending := hrecruits.symm
      rw [hmade]
      refine ⟨iff_of_true ⟨_, rfl⟩ (hiff.1 rfl), ?_, ?_⟩
      · rintro t ht
        obtain rfl := Except.ok.inj ht
        refine ⟨fun hsize => ?_, hinstances, hfollow⟩
        show Scene.Shows left.env.world config.entities
        rw [hleft.world]
        exact shows_populate hsize
      · rintro cause ⟨⟩
  | some cause =>
      rw [← hsubscriptions] at hleft
      obtain ⟨hcounts, hchannels⟩ := undone_close hleft
      rw [hmade]
      refine ⟨iff_of_false ?_ fun haccepts => ?_, ?_, ?_⟩
      · rintro ⟨t, ⟨⟩⟩
      · cases hiff.2 haccepts
      · rintro t ⟨⟩
      · rintro _ -
        refine ⟨hcounts, fun key => ?_⟩
        have hsame := hchannels.subscribers_eq key
        exact ⟨congrArg List.length hsame, hsame⟩

/-- The plugins that come with the engine are found under their names. -/
theorem find?_loader (name : String) :
    (Cast.loader []).factories.find? name = (Builtin.ofName? name).map Factory.builtin := by
  by_cases hname : name ∈ Builtin.all.map Builtin.name
  · obtain ⟨builtin, -, rfl⟩ := List.mem_map.1 hname
    cases builtin <;> rfl
  · have hother : ∀ builtin : Builtin, name ≠ builtin.name := by
      rintro builtin rfl
      cases builtin <;> exact hname (by decide)
    have hnone : Builtin.ofName? name = none :=
      List.find?_eq_none.2 fun builtin _ => by simpa using (hother builtin).symm
    have hfactories : (Cast.loader []).factories = Builtin.all.foldl
      (fun m builtin => m.insert builtin.name (Factory.builtin builtin)) ∅ := rfl
    rw [hnone, hfactories]
    simp [Builtin.all, OrderedMap.find?_insert_of_ne _ (hother _)]

/-- A loop can be made over an engine without systems. -/
theorem unused_engine : Cast.Unused (Cast.engine []) where
  scheduler := rfl
  world := rfl
  commands := rfl
  alive := rfl
  stocked := find?_loader
  orderly _ := .empty

namespace Cast

/-- An engine whose loader and channels somebody else uses as well. -/
def shared : Engine cast :=
  let e := engine []
  { e with env := { e.env with
    channels := (e.env.channels.connect (.event .pause) .loop).2
    loader := e.env.loader.count "sim_clock" } }

/-- Two entities, and three systems; there is nothing that the second one could accelerate. -/
def village : EngineConfig where
  tick := .default
  entities := [⟨"mill", none⟩, ⟨"cart", some .zero⟩]
  systems :=
    [.ofName "sim_clock", .ofName "accelerate",
      ⟨"pause_after", .null, ⟨.ofMembers [("after", .ofNat 1)]⟩⟩]

/-- The same, but the last system is not told when to pause. -/
def restless : EngineConfig :=
  { village with systems := [.ofName "sim_clock", .ofName "accelerate", .ofName "pause_after"] }

end Cast

theorem unused_shared : Cast.Unused Cast.shared where
  scheduler := rfl
  world := rfl
  commands := rfl
  alive := rfl
  stocked := unused_engine.stocked
  orderly key := by
    show ((Channels.connect _ _ _).2.get key).Orderly
    rw [Channels.get_connect]
    split
    · exact (unused_engine.orderly _).connect .loop
    · exact unused_engine.orderly key

theorem loop_of_config_shared :
    Cast.Unused Cast.shared ∧
    (∃ t, (TickLoop.ofConfig behavior Cast.village Cast.populate Cast.shared).1 = .ok t ∧
      t.env.world.living = [⟨1⟩, ⟨2⟩] ∧
      t.engine.scheduler.pending.map Instance.degraded = [false, true, false]) ∧
    (∃ cause, (TickLoop.ofConfig behavior Cast.restless Cast.populate Cast.shared).1 =
      .error cause) ∧
    let left := (TickLoop.ofConfig behavior Cast.restless Cast.populate Cast.shared).2
    left.loader.liveInstances "sim_clock" = 1 ∧ left.channels.connectionCount (.event .pause) = 1 ∧
      left.channels.connectionCount (.event .sceneUpdate) = 0 := by
  obtain ⟨hiff, hmade, -⟩ := loop_of_config unused_shared Cast.village
  obtain ⟨hiff', -, hundone⟩ := loop_of_config unused_shared Cast.restless
  obtain ⟨t, ht⟩ := hiff.2 fun spec hspec => by
    simp only [Cast.village, List.mem_cons, List.not_mem_nil, or_false] at hspec
    rcases hspec with rfl | rfl | rfl
    · exact ⟨.simClock, _, rfl, rfl⟩
    · exact ⟨.accelerate, _, rfl, rfl⟩
    · exact ⟨.pauseAfter, _, rfl, rfl⟩
  have hdegraded : (TickLoop.ofConfig behavior Cast.village Cast.populate
      Cast.shared).1.toOption.map (fun t => t.engine.scheduler.pending.map Instance.degraded) =
        some [false, true, false] := by decide +kernel
  rw [ht] at hdegraded
  refine ⟨unused_shared, ⟨t, ht, ?_, Option.some.inj hdegraded⟩, ?_⟩
  · exact ((hmade t ht).1 (by decide)).living
  · cases hrefused : (TickLoop.ofConfig behavior Cast.restless Cast.populate Cast.shared).1 with
    | ok t =>
        obtain ⟨builtin, role, hname, hrole⟩ :=
          hiff'.1 ⟨t, hrefused⟩ (.ofName "pause_after") (by simp [Cast.restless])
        obtain rfl : Builtin.pauseAfter = builtin := Option.some.inj hname
        cases hrole
    | error cause =>
        obtain ⟨hcounts, hchannels⟩ := hundone cause hrefused
        refine ⟨⟨cause, rfl⟩, (hcounts "sim_clock").trans rfl, ?_, ?_⟩
        · exact (hchannels (.event .pause)).1.trans rfl
        · exact (hchannels (.event .sceneUpdate)).1.trans rfl

end Loops

end SimEngine
