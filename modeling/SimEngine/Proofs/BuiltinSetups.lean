import SimEngine.Proofs.BuiltinLoops
import SimEngine.Proofs.LiveCounts

/-!
# How a built-in system is set up

A built-in system that was loaded is configured and declares its parameters.
Whether this succeeds or not, little changes: the system may remember its
settings, a clock subscribes to scene updates, a parameter may be declared, and
what happened is reported.

**Definitions.**
* `Environment.tokenOf`: the subscription that a system holds.
* `Environment.pauseOf`: what a system pauses the simulation by.
* `SetUp`: what setting up a system may change.

**Results.**
* `run_of_looking`: a program that looks changes parameters and reports only.
* `setUp_configure`, `setUp_configureParameters`: what the calls of a built-in
  system change.
* `setUp_instance_configure`, `setUp_instance_configureParameters`: so does the
  engine when it makes them.
* `setUp_attachAs`: so does the engine when it attaches a system that was loaded.
-/

namespace SimEngine

open Cast (behavior)

/-- The subscription that a system holds, if it holds one. -/
def Environment.tokenOf (env : Environment cast) (system : SystemId) : Option Connection :=
  (env.memory.role? system).bind Role.token

/-- What a role pauses the simulation by, if it does. -/
def Role.pause? : Role → Option PauseAfter
  | .pauseAfter p => some p
  | _ => none

/-- What a system pauses the simulation by, if it does. -/
def Environment.pauseOf (env : Environment cast) (system : SystemId) : Option PauseAfter :=
  (env.memory.role? system).bind Role.pause?

/--
What setting up a built-in system may change besides parameters, query lists and reports: what the
system remembers, and a subscription that it takes if it holds none.
-/
structure SetUp (system : SystemId) (env env' : Environment cast) : Prop where
  world : env'.world = env.world
  loader : env'.loader = env.loader
  commands : env'.commands = env.commands
  orphaned : env'.orphaned = env.orphaned
  loop : env'.loop = env.loop
  quiet : ∀ list, (env.queryList list).queries = [] → (env'.queryList list).queries = []
  nextSystem : env'.memory.nextSystem = env.memory.nextSystem
  others : ∀ other, other ≠ system → env'.memory.role? other = env.memory.role? other
  self : ∀ role, env.memory.role? system = some role → role.IsBuiltin →
    ∃ next, env'.memory.role? system = some next ∧ next.IsBuiltin
  pauses : env'.pauseOf system = env.pauseOf system
  orders : ∀ signal : Signal, signal.IsOrder →
    env'.channels.get signal.channel = env.channels.get signal.channel
  subscribed : env'.tokenOf system = env.tokenOf system ∧ env'.channels = env.channels ∨
    env.tokenOf system = none ∧ ∃ key callback,
      env'.channels = (env.channels.connect key callback).2 ∧
      env'.tokenOf system = some (env.channels.connect key callback).1

section Looking

variable {G : Guest} {b : Behavior G} {α : Type} {results : α → Prop}

/-- A program that looks changes parameters and reports only. -/
theorem run_of_looking {p : Program G α} (hp : p.Confined Request.Looks results) (access : Access)
    {env : Environment G} (halive : env.orphaned = false) :
    ∃ parameters journal, (b.run access p env).2 =
      { env with parameters := parameters, journal := journal } := by
  let kept (env left : Environment G) : Prop :=
    ∃ parameters journal, left = { env with parameters := parameters, journal := journal }
  have htrans : ∀ {env between left}, kept env between → kept between left → kept env left := by
    rintro env _ _ ⟨_, _, rfl⟩ ⟨parameters, journal, rfl⟩
    exact ⟨parameters, journal, rfl⟩
  have hasked : ∀ {env : Environment G} {r : Request G}, env.orphaned = false → r.Looks →
      kept env (r.perform b.emit access env).2 := by
    intro env r _ hr
    cases r with
    | isAlive e => exact ⟨_, _, rfl⟩
    | report notice => exact ⟨_, _, rfl⟩
    | declare name value =>
        simp only [Request.perform]
        split <;> exact ⟨_, _, rfl⟩
    | _ => exact hr.elim
  have hrefl : ∀ {env : Environment G}, env.orphaned = false → kept env env :=
    fun {env} _ => ⟨env.parameters, env.journal, rfl⟩
  refine hp.keeps hrefl htrans ?_ (fun _ => b.tidyWith_of_not_orphaned) hasked halive
  rintro env _ halive ⟨_, _, rfl⟩
  exact halive

end Looking

section SettingUp

variable {system : SystemId} {env env' : Environment cast}

/-- Nothing changes but parameters, query lists and reports. -/
theorem SetUp.of_eq (hworld : env'.world = env.world) (hloader : env'.loader = env.loader)
    (hcommands : env'.commands = env.commands) (horphaned : env'.orphaned = env.orphaned)
    (hloop : env'.loop = env.loop) (hmemory : env'.memory = env.memory)
    (hchannels : env'.channels = env.channels)
    (hquiet : ∀ list, (env.queryList list).queries = [] → (env'.queryList list).queries = []) :
    SetUp system env env' where
  world := hworld
  loader := hloader
  commands := hcommands
  orphaned := horphaned
  loop := hloop
  quiet := hquiet
  nextSystem := by rw [hmemory]
  others other _ := by rw [hmemory]
  self role hrole hbuiltin := ⟨role, by rw [hmemory, hrole], hbuiltin⟩
  pauses := by rw [Environment.pauseOf, Environment.pauseOf, hmemory]
  orders _ _ := by rw [hchannels]
  subscribed := Or.inl ⟨by rw [Environment.tokenOf, Environment.tokenOf, hmemory], hchannels⟩

/-- What is set up in two goes is set up; only one of them may be a first subscription. -/
theorem SetUp.trans {left : Environment cast} (h : SetUp system env env')
    (h' : SetUp system env' left) : SetUp system env left where
  world := h'.world.trans h.world
  loader := h'.loader.trans h.loader
  commands := h'.commands.trans h.commands
  orphaned := h'.orphaned.trans h.orphaned
  loop := h'.loop.trans h.loop
  quiet list hlist := h'.quiet list (h.quiet list hlist)
  nextSystem := h'.nextSystem.trans h.nextSystem
  others other hother := (h'.others other hother).trans (h.others other hother)
  self role hrole hbuiltin := by
    obtain ⟨next, hnext, hbuiltin'⟩ := h.self role hrole hbuiltin
    exact h'.self next hnext hbuiltin'
  pauses := h'.pauses.trans h.pauses
  orders signal hsignal := (h'.orders signal hsignal).trans (h.orders signal hsignal)
  subscribed := by
    rcases h.subscribed with ⟨htoken, hchannels⟩ | ⟨hnone, key, callback, hchannels, htoken⟩
    · rw [← htoken, ← hchannels]
      exact h'.subscribed
    · rcases h'.subscribed with ⟨htoken', hchannels'⟩ | ⟨hnone', -⟩
      · exact .inr ⟨hnone, key, callback, hchannels'.trans hchannels, htoken'.trans htoken⟩
      · rw [htoken] at hnone'
        cases hnone'

/-- A query list without queries takes the place of another. -/
theorem quiet_setQueryList (handle : Handle) {queries : QueryList Callback}
    (hqueries : queries.queries = []) (list : Handle) (hlist : (env.queryList list).queries = []) :
    ((env.setQueryList handle queries).queryList list).queries = [] := by
  by_cases hhandle : list = handle
  · subst hhandle
    simpa [Environment.setQueryList, Environment.queryList] using hqueries
  · simp only [Environment.queryList, Environment.setQueryList,
      OrderedMap.find?_insert_of_ne _ hhandle]
    exact hlist

/-- A system remembers its settings. -/
theorem setUp_revise {role next : Role} (hrole : env.memory.role? system = some role)
    (hnext : role.Continues next) (hpause : next.pause? = role.pause?) {parameters : Parameters}
    {journal : List Notice} :
    SetUp system env { env with
      parameters := parameters
      journal := journal
      memory := env.memory.revise system fun _ => next } where
  world := rfl
  loader := rfl
  commands := rfl
  orphaned := rfl
  loop := rfl
  quiet _ hlist := hlist
  nextSystem := rfl
  others other hother := Memory.role?_revise_of_ne _ hother _
  self _ _ _ := ⟨next, Memory.role?_revise_self hrole _, hnext.1⟩
  pauses := by
    rw [Environment.pauseOf, Environment.pauseOf, Memory.role?_revise_self hrole, hrole]
    exact hpause
  orders _ _ := rfl
  subscribed := by
    left
    refine ⟨?_, rfl⟩
    rw [Environment.tokenOf, Environment.tokenOf, Memory.role?_revise_self hrole, hrole]
    exact hnext.2

/-- A clock remembers the subscription that it takes. -/
theorem setUp_subscribe (halive : env.orphaned = false) {c : SimClock}
    (hrole : env.memory.role? system = some (.simClock c)) (hfresh : c.subscription = none)
    (logEvery : UInt64) :
    let held := (env.channels.connect (.event .sceneUpdate) (.guest (.clock system))).1
    let next : SimClock := { c with logEvery := logEvery, subscription := some held }
    let channels := (env.channels.connect (.event .sceneUpdate) (.guest (.clock system))).2
    SetUp system env (behavior.tidy { env with
      channels := channels
      memory := env.memory.revise system fun _ => .simClock next }) := by
  intro held next channels
  have hself := Memory.role?_revise_self hrole fun _ => .simClock next
  rw [Behavior.tidy, Behavior.tidyWith_of_not_orphaned]
  · constructor
    case others => exact fun other hother => Memory.role?_revise_of_ne _ hother _
    case self => exact fun _ _ _ => ⟨_, hself, trivial⟩
    case quiet => exact fun _ hlist => hlist
    case pauses =>
      rw [Environment.pauseOf, Environment.pauseOf, hself, hrole]
      rfl
    case orders =>
      intro signal hsignal
      refine (Channels.get_connect _ _ _ _).trans (if_neg fun hkey => ?_)
      cases signal with
      | pause paused => cases hkey
      | stop => cases hkey
      | _ => exact hsignal.elim
    case subscribed =>
      right
      refine ⟨?_, .event .sceneUpdate, .guest (.clock system), rfl, ?_⟩
      · rw [Environment.tokenOf, hrole]
        exact hfresh
      · rw [Environment.tokenOf, hself]
        rfl
    all_goals rfl
  · exact halive

/-- A system that looks around is set up. -/
theorem setUp_tending (halive : env.orphaned = false) {role : Role}
    (hrole : env.memory.role? system = some role) {conduct : Role → Deed (Option Role)}
    (hconduct : (conduct role).Confined Request.Looks fun result =>
      ∀ next ∈ result, role.Continues next ∧ next.pause? = role.pause?) (access : Access) :
    SetUp system env (behavior.run access (Cast.tending system conduct) env).2 := by
  obtain ⟨parameters, journal, hleft⟩ :=
    run_of_looking (b := behavior) hconduct access halive
  have hlooked : ∀ parameters journal,
      SetUp system env { env with parameters := parameters, journal := journal } := fun _ _ =>
    .of_eq rfl rfl rfl rfl rfl rfl rfl fun _ hlist => hlist
  refine tending_leaves (fun _ => behavior.tidyWith_of_not_orphaned) halive
    (hlooked env.parameters env.journal) ?_ ?_
  · intro other hother
    obtain rfl := Option.some.inj (hrole.symm.trans hother)
    show SetUp system env (behavior.run access (conduct role) env).2
    rw [hleft]
    exact hlooked parameters journal
  · intro other next left hother hanswer
    obtain rfl := Option.some.inj (hrole.symm.trans hother)
    obtain ⟨hnext, hpause⟩ := hconduct.result hanswer next rfl
    obtain rfl : left = _ := (congrArg Prod.snd hanswer).symm.trans hleft
    exact ⟨halive, setUp_revise hrole hnext hpause⟩

/-- A clock that holds no subscription takes one, if its payload serves. -/
theorem setUp_simClock (halive : env.orphaned = false) {c : SimClock}
    (hrole : env.memory.role? system = some (.simClock c)) (hfresh : c.subscription = none)
    (context : ConfigureContext) (access : Access) :
    SetUp system env (behavior.run access (behavior.configure system context) env).2 := by
  have htidy : ∀ {left : Environment cast}, left.orphaned = false → behavior.tidy left = left :=
    fun h => behavior.tidyWith_of_not_orphaned h
  have hrun : behavior.run access (behavior.configure system context) env = _ :=
    run_tending (htidy halive)
  have hthen : (show Deed (Option Role) from do
      return some (.simClock (← c.configure system context.config))).run
        behavior.emit behavior.tidy access env = _ :=
    run_bind behavior.emit behavior.tidy access (c.configure system context.config) _ env
  rw [hrun, hrole]
  simp only [hthen]
  cases hlog : SimClock.logEveryOf context.config with
  | error cause =>
      have hfailed : (c.configure system context.config).run behavior.emit behavior.tidy access
          env = (.failed cause.toFailure, env) := by
        unfold SimClock.configure
        rw [hlog]
        rfl
      rw [hfailed]
      exact .of_eq rfl rfl rfl rfl rfl rfl rfl fun _ hlist => hlist
  | ok logEvery =>
      have hdone : (c.configure system context.config).run behavior.emit behavior.tidy access
          env = _ := run_simClock_configure halive c system hlog access
      have hchannels : env.resubscribed system c.subscription =
          (env.channels.connect (.event .sceneUpdate) (.guest (.clock system))).2 := by
        rw [hfresh]
        rfl
      rw [hdone, hchannels]
      exact setUp_subscribe halive hrole hfresh logEvery

/-- **What a built-in system changes when it is configured** for the first time. -/
theorem setUp_configure (halive : env.orphaned = false) {role : Role}
    (hrole : env.memory.role? system = some role) (hbuiltin : role.IsBuiltin)
    (hfresh : role.token = none) (context : ConfigureContext) (access : Access) :
    SetUp system env (behavior.run access (behavior.configure system context) env).2 := by
  cases role with
  | simClock c => exact setUp_simClock halive hrole hfresh context access
  | scripted s => exact hbuiltin.elim
  | accelerate s =>
      refine setUp_tending halive hrole ?_ access
      exact (looking_accelerate_configure s context).bind
        fun _ _ => confined_some ⟨⟨trivial, rfl⟩, rfl⟩
  | _ => exact setUp_tending halive hrole confined_none access

/-- **What a built-in system changes when it declares its parameters.** -/
theorem setUp_configureParameters (halive : env.orphaned = false) {role : Role}
    (hrole : env.memory.role? system = some role) (hbuiltin : role.IsBuiltin) (access : Access) :
    SetUp system env (behavior.run access (behavior.configureParameters system) env).2 := by
  refine setUp_tending halive hrole ?_ access
  cases role with
  | accelerate s =>
      exact (looking_accelerate_configureParameters s).bind
        fun _ _ => confined_some ⟨⟨trivial, rfl⟩, rfl⟩
  | scripted s => exact hbuiltin.elim
  | _ => exact confined_none

/-- **The engine configures a built-in system.** -/
theorem setUp_instance_configure (halive : env.orphaned = false) (i : Instance cast) {role : Role}
    (hrole : env.memory.role? i.attachment.system = some role) (hbuiltin : role.IsBuiltin)
    (hfresh : role.token = none) :
    SetUp i.attachment.system env (i.configure behavior none env).2 := by
  obtain ⟨left, journal, hleft, hconfigure⟩ := exists_configure_env behavior i env none
  rw [hconfigure]
  rcases hleft with rfl | rfl
  · exact .of_eq rfl rfl rfl rfl rfl rfl rfl fun _ hlist => hlist
  · exact { setUp_configure halive hrole hbuiltin hfresh _ .full with }

/-- **The engine has a built-in system declare its parameters.** -/
theorem setUp_instance_configureParameters (halive : env.orphaned = false) (i : Instance cast)
    {role : Role} (hrole : env.memory.role? i.attachment.system = some role)
    (hbuiltin : role.IsBuiltin) :
    SetUp i.attachment.system env (i.configureParameters behavior env).2 := by
  obtain ⟨left, journal, hleft, hdeclare⟩ := exists_configureParameters_env behavior i env
  rw [hdeclare]
  rcases hleft with rfl | rfl
  · exact .of_eq rfl rfl rfl rfl rfl rfl rfl fun _ hlist => hlist
  · exact { setUp_configureParameters halive hrole hbuiltin .full with }

/-- **The engine attaches a built-in system that was loaded.** -/
theorem setUp_attachAs {e : Engine cast} (halive : e.env.orphaned = false) {a : Attachment cast}
    {role : Role} (hrole : e.env.memory.role? a.system = some role) (hbuiltin : role.IsBuiltin)
    (hfresh : role.token = none) (handle : Handle) (entity : Entity) (config : Payload) :
    SetUp a.system e.env (e.attachAs behavior handle a entity config).env := by
  let made := e.newcomer behavior handle a entity config
  let configured := made.1.configure behavior none made.2
  have hmade : SetUp a.system e.env made.2 :=
    .of_eq rfl rfl rfl rfl rfl rfl rfl (quiet_setQueryList handle rfl)
  have hconfigured : SetUp a.system made.2 configured.2 :=
    setUp_instance_configure (show made.2.orphaned = false from halive) made.1 hrole hbuiltin hfresh
  obtain ⟨next, hnext, hbuiltin'⟩ := hconfigured.self role hrole hbuiltin
  have hsame : configured.1.attachment = a := by
    obtain ⟨degraded, heq⟩ := exists_configure_eq behavior made.1 none made.2
    rw [show configured.1 = _ from heq]
    rfl
  have hdeclared := setUp_instance_configureParameters (hconfigured.orphaned.trans halive)
    configured.1 (by rw [hsame]; exact hnext) hbuiltin'
  rw [hsame] at hdeclared
  exact ((hmade.trans hconfigured).trans hdeclared).trans
    (.of_eq rfl rfl rfl rfl rfl rfl rfl fun _ hlist => hlist)

end SettingUp
end SimEngine
