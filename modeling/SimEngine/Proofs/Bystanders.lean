import SimEngine.Proofs.BuiltinLoops

/-!
# Bystanders

While built-in systems are at work, callbacks of the host may run: those that it
has connected to events.  They may do whatever the host lets them, notify other
events, connect and drop subscriptions, use the parameters, and have systems
attached or detached in the next step.  As long as these are built in, no such
callback touches the world or an accelerating system.

**Definitions.**
* `Role.aim`, `Memory.aim?`: the entity of an accelerating system, and how it
  accelerates it.
* `Action.Recruits`: an action that has a system attached which is not built in.
* `Action.IsOrdinary`: one that has built-in systems attached at most, and
  subscribes and unsubscribes nobody.
* `Callback.IsBystander`: a clock, or a callback of the host that recruits nobody.
* `Environment.Civil`: an environment of built-in systems and bystanders.
* `Tame`: what bystanders leave as it is.
* `Cast.queueBuiltin`: a built-in system is made, and its attachment is queued.
* `Program.AttachesBuiltins`: a program that makes requests of a kind and has
  built-in systems attached.

**Results.**
* `tame_run`: a program that makes meek requests is tame.
* `AttachesBuiltins.tame`: so is one that has built-in systems attached besides.
* `attachesBuiltins_action`, `meek_performAll`: scripted code of the host does no
  more, if it recruits nobody.
* `tame_notify`: so are notifications.
-/

namespace SimEngine

open Cast (behavior)

/-- The entity that a system accelerates, and how it does so. -/
def Role.aim : Role → Option (Entity × Propulsion)
  | .accelerate s => some (s.entity, s.propulsion)
  | _ => none

/-- The entity that a system accelerates, if it is remembered as one that does. -/
def Memory.aim? (m : Memory) (system : SystemId) : Option (Entity × Propulsion) :=
  (m.role? system).bind Role.aim

/-- A plugin owns the system. -/
def Attachment.IsPlugin (a : Attachment cast) : Prop :=
  ∃ name unload, a.ownership = .plugin name unload

/-- A built-in system is attached as a plugin. -/
def Casting.IsBuiltin (casting : Casting Script) : Prop :=
  casting.isShared = false ∧ ∃ builtin, casting.origin = .builtin builtin

/-- An action that has a system attached which is not built in, now or in a callback. -/
inductive Action.Recruits : Action → Prop
  | attach
      {casting : Casting Script} (h : ¬ casting.IsBuiltin) :
      Recruits (.attach casting)
  | connect
      {event : Event} {label : String} {isOwned : Bool} {run : List Beat} {beat : Beat}
      (hmem : beat ∈ run) (h : Recruits beat.2) :
      Recruits (.connect event label isOwned run)

/-- An action that has built-in systems attached at most, and subscribes and unsubscribes nobody. -/
def Action.IsOrdinary : Action → Prop
  | .connect _ _ _ _ | .disconnect _ => False
  | .attach casting => casting.IsBuiltin
  | _ => True

/-- A clock, or a callback of the host that recruits nobody. -/
def Callback.IsBystander : Callback → Prop
  | .clock _ => True
  | .scripted _ _ run reach => reach.link = none ∧ ∀ beat ∈ run, ¬ beat.2.Recruits

/-- The loop, a clock, or a callback of the host that recruits nobody. -/
def Listener.IsBystander : Listener Callback → Prop
  | .guest callback => callback.IsBystander
  | .loop => True

/--
An environment of built-in systems and bystanders.  No query is registered, only built-in systems
are remembered, each under a number that is used up, those in the queue are plugins, and the loader
knows no other ones.
-/
structure Environment.Civil (env : Environment cast) : Prop where
  alive : env.orphaned = false
  quiet : ∀ list, (env.queryList list).queries = []
  bystanders : ∀ key, ∀ s ∈ (env.channels.get key).subscribers, s.callback.IsBystander
  builtin : ∀ system role, env.memory.role? system = some role →
    role.IsBuiltin ∧ system.number < env.memory.nextSystem
  plugins : ∀ a ∈ queuedIn env.commands, a.IsPlugin
  factories : ∀ name factory, env.loader.factories.find? name = some factory →
    ∃ builtin, factory = .builtin builtin

/--
What bystanders leave as it is: the world, and the aims of accelerating systems.  A new system
accelerates nothing yet.
-/
structure Tame (env env' : Environment cast) : Prop where
  civil : env'.Civil
  world : env'.world = env.world
  kept : ∀ system aim, env.memory.aim? system = some aim → env'.memory.aim? system = some aim
  made : ∀ system aim, env'.memory.aim? system = some aim →
    env.memory.aim? system = some aim ∨ aim.2.isIdle = true

/-- A request that a bystander makes. -/
def Request.Meek : Request cast → Prop
  | .revise f => ∀ m, (f m).members = m.members ∧ (f m).nextSystem = m.nextSystem
  | .write _ _ _ | .register _ _ _ => False
  | .connect _ callback => callback.IsBystander
  | .queueAttach a _ _ => a.IsPlugin
  | _ => True

/-- A request that leaves the world, the systems and the subscriptions as they are. -/
def Request.IsMild : Request cast → Prop
  | .revise f => ∀ m, (f m).members = m.members ∧ (f m).nextSystem = m.nextSystem
  | .write _ _ _ | .register _ _ _ | .connect _ _ | .disconnect _ | .queueAttach _ _ _ => False
  | _ => True

/-- Makes a built-in system and queues its attachment as a plugin, if its payload serves. -/
def Cast.queueBuiltin (builtin : Builtin) (config : Payload) (entity : Entity)
    (unload : Option Unload) : Deed (Except Failure Handle) := do
  let m ← Program.consult
  match Role.ofBuiltin builtin config entity with
  | .error failure => return .error failure
  | .ok role => do
    Program.revise fun _ => (m.enroll role).2
    let handle ← Program.queueAttach ⟨(m.enroll role).1, .plugin role.name unload⟩ entity config
    return .ok handle

/-- A program that makes requests of a kind, and has built-in systems attached as plugins. -/
inductive Program.AttachesBuiltins (requests : Request cast → Prop) : {α : Type} → Deed α → Prop
  | confined
      {α : Type} {p : Deed α} (h : p.Confined requests fun _ => True) :
      AttachesBuiltins requests p
  | queue
      (builtin : Builtin) (config : Payload) (entity : Entity) (unload : Option Unload) :
      AttachesBuiltins requests (Cast.queueBuiltin builtin config entity unload)
  | bind
      {α β : Type} {p : Deed α} {next : α → Deed β} (hp : AttachesBuiltins requests p)
      (hnext : ∀ a, AttachesBuiltins requests (next a)) :
      AttachesBuiltins requests (p.bind next)

/-- Notifications that are tame, and nothing is due between two requests. -/
structure Gentle (emit : Signal → Environment cast → Nat × Environment cast)
    (tidy : Environment cast → Environment cast) : Prop where
  emit : ∀ signal env, env.Civil → Tame env (emit signal env).2
  tidy : ∀ env, env.orphaned = false → tidy env = env

/-- The code stands outside of all systems and steps. -/
structure Scope.Aside (s : Scope) : Prop where
  access : s.access = .none
  link : s.reach.link = none
  system : s.system = none

variable {env env' left : Environment cast} {α β : Type}

section Relation

namespace Tame

theorem refl (h : env.Civil) : Tame env env :=
  ⟨h, rfl, fun _ _ haim => haim, fun _ _ haim => Or.inl haim⟩

theorem trans (h : Tame env env') (h' : Tame env' left) : Tame env left where
  civil := h'.civil
  world := h'.world.trans h.world
  kept system aim haim := h'.kept system aim (h.kept system aim haim)
  made system aim haim := by
    rcases h'.made system aim haim with hbefore | hidle
    · exact h.made system aim hbefore
    · exact Or.inr hidle

/-- What leaves the memory and the world as they are is tame. -/
theorem of_memory (h : env'.Civil) (hworld : env'.world = env.world)
    (hmemory : env'.memory = env.memory) : Tame env env' where
  civil := h
  world := hworld
  kept := by
    rw [hmemory]
    exact fun _ _ haim => haim
  made := by
    rw [hmemory]
    exact fun _ _ haim => Or.inl haim

end Tame

theorem Memory.role?_of_members {m m' : Memory} (h : m'.members = m.members)
    (system : SystemId) : m'.role? system = m.role? system := by
  rw [role?, role?, h]

/-- Whoever writes down anything but systems is tame. -/
theorem tame_memory (h : env.Civil) {memory : Memory}
    (hmembers : memory.members = env.memory.members)
    (hnext : memory.nextSystem = env.memory.nextSystem) :
    Tame env { env with memory := memory } := by
  have hrole := Memory.role?_of_members hmembers
  have haim : ∀ system, memory.aim? system = env.memory.aim? system := by
    intro system
    rw [Memory.aim?, Memory.aim?, hrole]
  refine ⟨{ h with builtin := fun system role => ?_ }, rfl, fun system aim => ?_,
    fun system aim => ?_⟩
  · show memory.role? system = _ → _ ∧ _ < memory.nextSystem
    rw [hrole, hnext]
    exact h.builtin system role
  · show _ → memory.aim? system = _
    rw [haim]
    exact id
  · show memory.aim? system = _ → _
    rw [haim]
    exact Or.inl

/-- A new system accelerates nothing yet. -/
theorem Role.aim_ofBuiltin {builtin : Builtin} {config : Payload} {entity : Entity} {role : Role}
    (h : Role.ofBuiltin builtin config entity = .ok role) {aim : Entity × Propulsion}
    (haim : role.aim = some aim) : aim.2.isIdle = true := by
  rcases Role.ofBuiltin_cases h with
    ⟨-, rfl⟩ | ⟨-, rfl⟩ | ⟨-, _, -, rfl⟩ | ⟨-, _, -, rfl⟩
  · obtain rfl := Option.some.inj haim
    show Propulsion.none.isIdle = true
    decide +kernel
  · cases haim
  · cases haim
  · cases haim

theorem Memory.aim?_of_role? {m : Memory} {system : SystemId} {role : Role}
    (h : m.role? system = some role) : m.aim? system = role.aim := by
  rw [aim?, h]
  rfl

theorem Memory.aim?_enroll_of_ne (m : Memory) (role : Role) {system : SystemId}
    (hne : system ≠ ⟨m.nextSystem⟩) : (m.enroll role).2.aim? system = m.aim? system := by
  rw [aim?, aim?, role?_enroll_of_ne m role hne]

/-- Remembering a new built-in system is tame. -/
theorem tame_enroll (h : env.Civil) {builtin : Builtin} {config : Payload} {entity : Entity}
    {role : Role} (hrole : Role.ofBuiltin builtin config entity = .ok role) :
    Tame env { env with memory := (env.memory.enroll role).2 } := by
  have hnew : (env.memory.enroll role).2.aim? ⟨env.memory.nextSystem⟩ = role.aim := by
    rw [Memory.aim?, Memory.role?_enroll_self]
    rfl
  constructor
  case civil =>
    refine { h with builtin := fun system role' hrole' => ?_ }
    by_cases hsystem : system = ⟨env.memory.nextSystem⟩
    · subst hsystem
      have hself := (env.memory.role?_enroll_self role).symm.trans hrole'
      obtain rfl := Option.some.inj hself
      exact ⟨Role.isBuiltin_ofBuiltin hrole, Nat.lt_succ_self _⟩
    · have hold := (env.memory.role?_enroll_of_ne role hsystem).symm.trans hrole'
      obtain ⟨hbuiltin, hused⟩ := h.builtin system role' hold
      exact ⟨hbuiltin, Nat.lt_succ_of_lt hused⟩
  case world => rfl
  case kept =>
    intro system aim haim
    have hsystem : system ≠ ⟨env.memory.nextSystem⟩ := by
      rintro rfl
      obtain ⟨role', hrole', -⟩ := Option.bind_eq_some_iff.1 haim
      exact Nat.lt_irrefl _ (h.builtin _ role' hrole').2
    exact (env.memory.aim?_enroll_of_ne role hsystem).trans haim
  case made =>
    intro system aim haim
    by_cases hsystem : system = ⟨env.memory.nextSystem⟩
    · subst hsystem
      exact Or.inr (Role.aim_ofBuiltin hrole (hnew.symm.trans haim))
    · exact Or.inl ((env.memory.aim?_enroll_of_ne role hsystem).symm.trans haim)

theorem Environment.Civil.setQueryList (h : env.Civil) (handle : Handle)
    {list : QueryList Callback} (hlist : list.queries = []) :
    (env.setQueryList handle list).Civil :=
  { h with
    quiet := fun other => by
      by_cases hother : other = handle
      · subst hother
        simpa [Environment.setQueryList, Environment.queryList] using hlist
      · have hsame : (env.setQueryList handle list).queryList other = env.queryList other := by
          simp only [Environment.setQueryList, Environment.queryList,
            OrderedMap.find?_insert_of_ne _ hother]
        rw [hsame]
        exact h.quiet other }

theorem Environment.Civil.withChannels (h : env.Civil) {channels : Channels (Listener Callback)}
    (hbystanders : ∀ key, ∀ s ∈ (channels.get key).subscribers, s.callback.IsBystander) :
    ({ env with channels := channels } : Environment cast).Civil :=
  { h with bystanders := hbystanders }

theorem Environment.Civil.turnTo (h : env.Civil) (key : ChannelKey) (current : Option Nat) :
    (env.turnTo key current).Civil := by
  refine h.withChannels fun other s hs => ?_
  rw [Channels.get_turnTo] at hs
  split at hs
  · exact h.bystanders key s hs
  · exact h.bystanders other s hs

end Relation

section Programs

variable {emit : Signal → Environment cast → Nat × Environment cast}
variable {tidy : Environment cast → Environment cast} (access : Access)

/-- A meek request is tame. -/
theorem tame_perform (hgentle : Gentle emit tidy) (h : env.Civil) {r : Request cast}
    (hr : r.Meek) : Tame env (r.perform emit access env).2 := by
  cases r with
  | revise f => exact tame_memory h (hr env.memory).1 (hr env.memory).2
  | write e kind value => exact hr.elim
  | emit signal => exact hgentle.emit signal env h
  | connect key callback =>
      refine .of_memory (h.withChannels fun other s hs => ?_) rfl rfl
      rcases Channels.mem_subscribers_connect hs with hs | ⟨-, rfl⟩
      · exact h.bystanders other s hs
      · exact hr
  | disconnect c =>
      refine .of_memory (h.withChannels fun key s hs => ?_) rfl rfl
      exact h.bystanders key s (Channels.mem_subscribers_disconnect hs).1
  | register list signature callback => exact hr.elim
  | cancel list query =>
      refine .of_memory (h.setQueryList list ?_) rfl rfl
      show ((env.queryList list).cancel query).2.queries = []
      unfold QueryList.cancel
      split
      · simp [h.quiet list]
      · split <;> exact h.quiet list
  | clearQueries list => exact .of_memory (h.setQueryList list rfl) rfl rfl
  | queueAttach a entity config =>
      refine .of_memory { h with plugins := fun b hb => ?_ } rfl rfl
      have hb' : b ∈ queuedIn (env.commands ++ [.attach ⟨env.nextHandle⟩ a entity config]) := hb
      rw [queuedIn_append, List.mem_append] at hb'
      rcases hb' with hb' | hb'
      · exact h.plugins b hb'
      · rw [List.mem_singleton.1 hb']
        exact hr
  | queueDetach handle =>
      refine .of_memory { h with plugins := fun b hb => ?_ } rfl rfl
      have hb' : b ∈ queuedIn (env.commands ++ [.detach handle]) := hb
      rw [queuedIn_append] at hb'
      exact h.plugins b ((List.append_nil (queuedIn env.commands)) ▸ hb')
  | declare name value =>
      simp only [Request.perform]
      split
      · exact .of_memory { h with } rfl rfl
      · exact .refl h
  | setParameter name value =>
      simp only [Request.perform]
      split
      · exact .of_memory { h with } rfl rfl
      · exact .refl h
  | report notice => exact .of_memory { h with } rfl rfl
  | _ => exact .refl h

/-- A program goes on right after a request. -/
theorem run_ask_of_tidy (htidy : ∀ env, env.orphaned = false → tidy env = env) (r : Request cast)
    (next : r.Answer → Deed α) (halive : (r.perform emit access env).2.orphaned = false) :
    (Program.ask r next).run emit tidy access env =
      (next (r.perform emit access env).1).run emit tidy access
        (r.perform emit access env).2 := by
  show (next (r.perform emit access env).1).run emit tidy access
    (tidy (r.perform emit access env).2) = _
  rw [htidy _ halive]

/-- **What becomes of a built-in system that is to be attached**, while the engine is alive. -/
theorem run_queueBuiltin (htidy : ∀ env, env.orphaned = false → tidy env = env)
    (halive : env.orphaned = false) (builtin : Builtin) (config : Payload) (entity : Entity)
    (unload : Option Unload) :
    (∃ failure, (Cast.queueBuiltin builtin config entity unload).run emit tidy access env =
      (.done (.error failure), env)) ∨
    ∃ role, Role.ofBuiltin builtin config entity = .ok role ∧
      (Cast.queueBuiltin builtin config entity unload).run emit tidy access env =
        (.done (.ok ⟨env.nextHandle⟩),
          (Environment.queueAttach { env with memory := (env.memory.enroll role).2 }
            ⟨⟨env.memory.nextSystem⟩, .plugin role.name unload⟩ entity config).2) := by
  have hconsult : (Cast.queueBuiltin builtin config entity unload).run emit tidy access env = _ :=
    run_ask_of_tidy access htidy .consult _ halive
  rw [hconsult]
  simp only [Request.perform, Program.bind]
  cases hrole : Role.ofBuiltin builtin config entity with
  | error failure => exact .inl ⟨failure, rfl⟩
  | ok role =>
      let queue : Deed (Except Failure Handle) :=
        .ask (.queueAttach ⟨⟨env.memory.nextSystem⟩, .plugin role.name unload⟩ entity config)
          fun handle => .done (.ok handle)
      refine .inr ⟨role, rfl, ?_⟩
      refine (run_ask_of_tidy access htidy (.revise fun _ => (env.memory.enroll role).2)
        (fun _ => queue) halive).trans ?_
      exact run_ask_of_tidy access htidy (.queueAttach _ entity config) _ halive

/-- **A program that makes meek requests is tame.** -/
theorem tame_run (hgentle : Gentle emit tidy) {results : α → Prop} {p : Deed α}
    (hp : p.Confined Request.Meek results) (h : env.Civil) :
    Tame env (p.run emit tidy access env).2 ∧
      ∀ a left, p.run emit tidy access env = (.done a, left) → results a := by
  refine ⟨?_, fun a left hrun => hp.result hrun⟩
  exact hp.keeps .refl .trans (fun _ htame => htame.civil)
    (fun env h => hgentle.tidy env h.alive) (fun h => tame_perform access hgentle h) h

/-- A program is tame wherever notifications are. -/
structure Program.Tame (access : Access) (p : Deed α) : Prop where
  run : ∀ {emit tidy env}, Gentle emit tidy → env.Civil →
    SimEngine.Tame env (p.run emit tidy access env).2

theorem Program.Confined.tame {results : α → Prop} {p : Deed α}
    (hp : p.Confined Request.Meek results) : p.Tame access :=
  ⟨fun hgentle h => (tame_run access hgentle hp h).1⟩

theorem tame_ask {r : Request cast} {next : r.Answer → Deed α} (hr : r.Meek)
    (hnext : ∀ answer, (next answer).Tame access) : (Program.ask r next).Tame access := by
  refine ⟨fun hgentle h => ?_⟩
  have hasked := tame_perform access hgentle h hr
  rw [run_ask_of_tidy access hgentle.tidy r next hasked.civil.alive]
  exact hasked.trans ((hnext _).run hgentle hasked.civil)

/-- Having a built-in system attached is tame. -/
theorem tame_queueBuiltin (builtin : Builtin) (config : Payload) (entity : Entity)
    (unload : Option Unload) : (Cast.queueBuiltin builtin config entity unload).Tame access := by
  refine ⟨fun hgentle h => ?_⟩
  rcases run_queueBuiltin access hgentle.tidy h.alive builtin config entity unload with
    ⟨failure, hrun⟩ | ⟨role, hrole, hrun⟩ <;> rw [hrun]
  · exact .refl h
  · have hremembered := tame_enroll h hrole
    exact hremembered.trans
      (tame_perform access hgentle hremembered.civil (r := .queueAttach _ _ _) ⟨_, _, rfl⟩)

/--
What a program that has built-in systems attached leaves of an environment that is fit, if its
requests and those attachments leave it so.
-/
theorem Program.AttachesBuiltins.keeps {requests : Request cast → Prop}
    (Fit : Environment cast → Prop) (Kept : Environment cast → Environment cast → Prop)
    (htrans : ∀ {env between left}, Kept env between → Kept between left → Kept env left)
    (hfit : ∀ {env left}, Kept env left → Fit left)
    (hconfined : ∀ {α : Type} {p : Deed α} {env}, p.Confined requests (fun _ => True) → Fit env →
      Kept env (p.run emit tidy access env).2)
    (hqueue : ∀ builtin config entity unload {env}, Fit env →
      Kept env ((Cast.queueBuiltin builtin config entity unload).run emit tidy access env).2)
    {p : Deed α} (hp : p.AttachesBuiltins requests) {env : Environment cast} (h : Fit env) :
    Kept env (p.run emit tidy access env).2 := by
  induction hp generalizing env with
  | confined hp => exact hconfined hp h
  | queue builtin config entity unload => exact hqueue builtin config entity unload h
  | @bind _ _ p next _ _ ihp ihnext =>
      have hfirst := ihp h
      rw [run_bind]
      rcases hrun : p.run emit tidy access env with ⟨a | f | m, left⟩ <;> rw [hrun] at hfirst
      · exact htrans hfirst (ihnext a (hfit hfirst))
      · exact hfirst
      · exact hfirst

/-- **A program that makes meek requests and has built-in systems attached is tame.** -/
theorem Program.AttachesBuiltins.tame {p : Deed α} (hp : p.AttachesBuiltins Request.Meek) :
    p.Tame access :=
  ⟨fun hgentle h => hp.keeps access Environment.Civil SimEngine.Tame Tame.trans Tame.civil
    (fun hp h => (hp.tame access).run hgentle h)
    (fun _ _ _ _ _ h => (tame_queueBuiltin access _ _ _ _).run hgentle h) h⟩

end Programs

section Scripts

variable {s : Scope}

/-- Code outside of all systems is not configured for anything. -/
theorem mild_withLink (h : s.Aside) (deed : Link → Deed Unit) :
    (s.withLink deed).Confined Request.IsMild fun _ => True := by
  unfold Scope.withLink
  rw [h.link]
  exact trivial

theorem mild_say (s : Scope) (text : String) :
    (s.say text).Confined Request.IsMild fun _ => True :=
  confined_request (fun _ => ⟨rfl, rfl⟩) fun _ => trivial

theorem mild_cancel (s : Scope) (label : String) :
    (s.cancel label).Confined Request.IsMild fun _ => True := by
  refine confined_ask trivial fun m => ?_
  simp only
  split
  · exact confined_ask trivial fun found => mild_say s _
  · exact mild_say s _

theorem mild_detach (h : s.Aside) (target : Target) :
    (s.detach target).Confined Request.IsMild fun _ => True := by
  unfold Scope.detach
  rw [h.link]
  cases target with
  | handle handle =>
      refine confined_ask trivial fun m => ?_
      split
      · exact confined_request trivial fun _ => trivial
      · exact trivial
  | _ => exact trivial

/-- Code that may not do something does nothing. -/
theorem mild_permitted {may : Prop} [Decidable may] {deed : Deed Unit}
    (hdeed : may → deed.Confined Request.IsMild fun _ => True) :
    (if may then deed else return ()).Confined Request.IsMild fun _ => True := by
  split
  · exact hdeed ‹may›
  · exact trivial

/-- What code outside of all systems does is mild, unless it has a system attached. -/
theorem mild_action (h : s.Aside) {action : Action} (haction : action.IsOrdinary)
    (hattach : ∀ casting, action ≠ .attach casting) :
    (action.perform s).Confined Request.IsMild fun _ => True := by
  cases action with
  | log text => exact mild_say s text
  | fail f => exact trivial
  | panic p => exact trivial
  | info => exact mild_say s _
  | link => exact mild_say s _
  | config key | require key | register label signature run | clearQueries | queries =>
      exact mild_withLink h _
  | expose capabilities =>
      simp only [Action.perform, h.system]
      exact trivial
  | cancel label => exact mild_cancel s label
  | connect event label isOwned run => exact haction.elim
  | disconnect label => exact haction.elim
  | emit signal => exact confined_ask trivial fun _ => mild_say s _
  | connections event => exact confined_ask trivial fun _ => mild_say s _
  | attach casting => exact absurd rfl (hattach casting)
  | detach target => exact mild_permitted fun _ => mild_detach h target
  | commands => exact mild_permitted fun _ => confined_ask trivial fun _ => mild_say s _
  | add amount entity =>
      exact mild_permitted fun hfull => absurd (h.access.symm.trans hfull) Access.noConfusion
  | read entity => exact mild_permitted fun hsome => absurd h.access hsome
  | find signature => exact mild_permitted fun hsome => absurd h.access hsome
  | declare name value =>
      exact mild_permitted fun _ => ⟨trivial, fun _ => confined_ofExcept fun _ _ => trivial⟩
  | setParameter name value =>
      exact mild_permitted fun _ => ⟨trivial, fun _ => confined_ofExcept fun _ _ => trivial⟩
  | parameter name => exact mild_permitted fun _ => confined_ask trivial fun _ => mild_say s _

theorem Memory.members_acquaint (m : Memory) (handle : Handle) :
    (m.acquaint handle).members = m.members ∧ (m.acquaint handle).nextSystem = m.nextSystem := by
  unfold Memory.acquaint
  split <;> exact ⟨rfl, rfl⟩

/-- Scripted code that has a built-in system attached says what became of it. -/
theorem attach_eq_queueBuiltin (s : Scope) {casting : Casting Script} {builtin : Builtin}
    (hshared : casting.isShared = false) (horigin : casting.origin = .builtin builtin) :
    s.attach casting =
      (Cast.queueBuiltin builtin casting.config casting.entity (some .announced)).bind fun made =>
        match made with
        | .error failure => s.say ("attach failed: " ++ failure.describe)
        | .ok handle => (Program.revise fun m : Memory => m.acquaint handle).bind fun _ =>
            s.say ("attach " ++ handle.describe) := by
  refine congrArg (Program.ask (G := cast) .consult) (funext fun m => ?_)
  simp only [Memory.enlist, horigin]
  cases hrole : Role.ofBuiltin builtin casting.config casting.entity with
  | error failure => rfl
  | ok role => simp only [Memory.recruit, hshared]; rfl

/-- **Code outside of all systems has built-in systems attached, and is mild otherwise.** -/
theorem attachesBuiltins_action (h : s.Aside) {requests : Request cast → Prop}
    (hmild : ∀ r, Request.IsMild r → requests r) {action : Action} (haction : action.IsOrdinary) :
    (action.perform s).AttachesBuiltins requests := by
  have hconfined : ∀ {p : Deed Unit}, p.Confined Request.IsMild (fun _ => True) →
      p.AttachesBuiltins requests := fun hp => .confined (hp.mono hmild fun _ h => h)
  by_cases hattach : ∃ casting, action = .attach casting
  · obtain ⟨casting, rfl⟩ := hattach
    obtain ⟨hshared, builtin, horigin⟩ := haction
    simp only [Action.perform]
    split
    · rw [attach_eq_queueBuiltin s hshared horigin]
      refine .bind (.queue _ _ _ _) fun made => hconfined ?_
      cases made with
      | error failure => exact mild_say s _
      | ok handle => exact confined_ask (fun m => m.members_acquaint handle) fun _ => mild_say s _
    · exact .confined trivial
  · exact hconfined (mild_action h haction fun casting heq => hattach ⟨casting, heq⟩)

theorem attachesBuiltins_performAll {requests : Request cast → Prop} {actions : List Action}
    (hactions : ∀ action ∈ actions, (action.perform s).AttachesBuiltins requests) :
    (performAll s actions).AttachesBuiltins requests := by
  induction actions with
  | nil => exact .confined trivial
  | cons action rest ih =>
      exact .bind (hactions action List.mem_cons_self) fun _ =>
        ih fun other hother => hactions other (List.mem_cons_of_mem action hother)

theorem Request.IsMild.meek {r : Request cast} (h : r.IsMild) : r.Meek := by
  cases r with
  | connect key callback => exact h.elim
  | disconnect c => exact trivial
  | queueAttach a entity config => exact h.elim
  | _ => exact h

theorem meek_say (s : Scope) (text : String) :
    (s.say text).Confined Request.Meek fun _ => True :=
  (mild_say s text).mono (fun _ => Request.IsMild.meek) fun _ h => h

theorem meek_keep (label : String) (connection : Connection) :
    (Scope.keep label connection).Confined Request.Meek fun _ => True := by
  refine confined_ask trivial fun m => ?_
  refine confined_ask (fun _ => ⟨rfl, rfl⟩) fun _ => ?_
  split
  · exact confined_request trivial fun _ => trivial
  · exact trivial

/-- A callback that recruits nobody may be connected. -/
theorem meek_connect (h : s.Aside) {event : Event} {label : String} {isOwned : Bool}
    {run : List Beat} (hrun : ∀ beat ∈ run, ¬ beat.2.Recruits) :
    (s.connect event label isOwned run).Confined Request.Meek fun _ => True := by
  have hsubscribe : (Scope.subscribe (.event event) label run s.reach).Confined
      Request.Meek fun _ => True := by
    refine confined_ask trivial fun m => ?_
    refine confined_ask (fun _ => ⟨rfl, rfl⟩) fun _ => ?_
    exact confined_request ⟨h.link, hrun⟩ fun _ => trivial
  refine hsubscribe.bind fun connection _ => ?_
  rw [h.system]
  exact meek_keep label connection

theorem meek_unsubscribe (label : String) :
    (Scope.unsubscribe label).Confined Request.Meek fun _ => True := by
  refine confined_ask trivial fun m => ?_
  split
  · refine confined_ask (fun _ => ⟨rfl, rfl⟩) fun _ => ?_
    exact confined_ask trivial fun _ => trivial
  · exact trivial

/-- **Code that recruits nobody makes meek requests**, and has built-in systems attached. -/
theorem meek_performAll (h : s.Aside) {actions : List Action}
    (hactions : ∀ action ∈ actions, ¬ action.Recruits) :
    (performAll s actions).AttachesBuiltins Request.Meek := by
  refine attachesBuiltins_performAll fun action hmem => ?_
  have haction := hactions action hmem
  have hordinary : action.IsOrdinary → (action.perform s).AttachesBuiltins Request.Meek :=
    attachesBuiltins_action h fun _ => Request.IsMild.meek
  cases action with
  | connect event label isOwned run =>
      exact .confined (meek_connect h fun beat hbeat hrecruits =>
        haction (.connect hbeat hrecruits))
  | disconnect label =>
      exact .confined ((meek_unsubscribe label).bind fun _ _ => meek_say s _)
  | attach casting =>
      refine hordinary ?_
      by_contra hother
      exact haction (.attach hother)
  | _ => exact hordinary trivial

theorem mem_of_mem_actionsOf {run : List Beat} {call : Nat} {action : Action}
    (h : action ∈ actionsOf run call) : ∃ beat ∈ run, beat.2 = action := by
  obtain ⟨beat, hbeat, hperformed⟩ := List.mem_filterMap.1 h
  refine ⟨beat, hbeat, ?_⟩
  rcases beat with ⟨_ | calls, action'⟩
  · exact Option.some.inj hperformed
  · simp only at hperformed
    split at hperformed
    · exact Option.some.inj hperformed
    · cases hperformed

/-- A callback of the host that recruits nobody is tame. -/
theorem tame_notifyScripted (access : Access) {label : String} {number : Nat} {run : List Beat}
    {reach : Reach} (hlink : reach.link = none) (hrun : ∀ beat ∈ run, ¬ beat.2.Recruits)
    (signal : Signal) : (notifyScripted label number run reach signal).Tame access := by
  refine tame_ask access trivial fun m => ?_
  refine tame_ask access (fun _ => ⟨rfl, rfl⟩) fun _ => ?_
  refine (meek_performAll ⟨rfl, hlink, rfl⟩ fun action hmem => ?_).tame access
  obtain ⟨beat, hbeat, rfl⟩ := mem_of_mem_actionsOf hmem
  exact hrun beat hbeat

end Scripts

section Notifications

variable {emit : Signal → Environment cast → Nat × Environment cast}
variable {tidy : Environment cast → Environment cast}

theorem Request.Observes.meek {r : Request cast} (h : r.Observes) : r.Meek := by
  cases r with
  | revise f => exact h.elim
  | write e kind value => exact h.elim
  | register list signature callback => exact h.elim
  | connect key callback => exact h.elim
  | queueAttach a entity config => exact h.elim
  | _ => exact trivial

theorem Memory.aim?_revise_of_ne (m : Memory) {system other : SystemId} (hne : other ≠ system)
    (f : Role → Role) : (m.revise system f).aim? other = m.aim? other := by
  rw [aim?, aim?, role?_revise_of_ne m hne]

/-- A system that is remembered as something new was remembered before. -/
theorem Memory.of_role?_revise {m : Memory} {system : SystemId} {next role : Role}
    (h : (m.revise system fun _ => next).role? system = some role) :
    role = next ∧ ∃ before, m.role? system = some before := by
  cases hbefore : m.role? system with
  | none =>
      have hmember : m.members.find? system = none := Option.map_eq_none_iff.1 hbefore
      simp [role?, revise, OrderedMap.find?_modify_self, hmember] at h
  | some before =>
      rw [role?_revise_self hbefore] at h
      exact ⟨(Option.some.inj h).symm, before, rfl⟩

theorem Environment.Civil.revise (h : env.Civil) {system : SystemId} {next : Role}
    (hbuiltin : next.IsBuiltin) :
    ({ env with memory := env.memory.revise system fun _ => next } : Environment cast).Civil := by
  refine { h with builtin := fun other role hrole => ?_ }
  by_cases hother : other = system
  · subst hother
    obtain ⟨rfl, before, hbefore⟩ := Memory.of_role?_revise hrole
    exact ⟨hbuiltin, (h.builtin _ before hbefore).2⟩
  · exact h.builtin other role ((env.memory.role?_revise_of_ne hother _).symm.trans hrole)

/-- What is tame stays so when a system is remembered anew, aiming at what it aimed at. -/
theorem Tame.revise (h : Tame env left) {system : SystemId} {role next : Role}
    (hrole : env.memory.role? system = some role) (hbuiltin : next.IsBuiltin)
    (haim : next.aim = role.aim) :
    Tame env { left with memory := left.memory.revise system fun _ => next } where
  civil := h.civil.revise hbuiltin
  world := h.world
  kept other aim haimed := by
    have hleft := h.kept other aim haimed
    by_cases hother : other = system
    · subst hother
      obtain ⟨before, hbefore, -⟩ := Option.bind_eq_some_iff.1 hleft
      have hnow := Memory.aim?_of_role? (Memory.role?_revise_self hbefore fun _ => next)
      rw [Memory.aim?_of_role? hrole] at haimed
      exact hnow.trans (haim.trans haimed)
    · exact (left.memory.aim?_revise_of_ne hother _).trans hleft
  made other aim haimed := by
    by_cases hother : other = system
    · subst hother
      obtain ⟨role', hrole', haimed'⟩ := Option.bind_eq_some_iff.1 haimed
      obtain ⟨rfl, -⟩ := Memory.of_role?_revise hrole'
      left
      rw [Memory.aim?_of_role? hrole, ← haim]
      exact haimed'
    · exact h.made other aim ((left.memory.aim?_revise_of_ne hother _).symm.trans haimed)

/-- A system that asks meekly and goes on aiming at the same is tame. -/
theorem tame_tending (access : Access) {system : SystemId} {conduct : Role → Deed (Option Role)}
    (hconduct : ∀ role, role.IsBuiltin → (conduct role).Confined Request.Meek fun result =>
      ∀ next ∈ result, next.IsBuiltin ∧ next.aim = role.aim) :
    (Cast.tending system conduct).Tame access := by
  refine ⟨fun {emit tidy env} hgentle h => ?_⟩
  have hconducted := fun role hrole =>
    tame_run access hgentle (hconduct role (h.builtin system role hrole).1) h
  refine tending_leaves hgentle.tidy h.alive (.refl h)
    (fun role hrole => (hconducted role hrole).1) ?_
  intro role next left hrole hrun
  obtain ⟨htame, hresult⟩ := hconducted role hrole
  rw [hrun] at htame
  obtain ⟨hbuiltin, haim⟩ := hresult _ _ hrun next rfl
  exact ⟨htame.civil.alive, htame.revise hrole hbuiltin haim⟩

/-- Showing a clock is tame. -/
theorem tame_onSignal (access : Access) {callback : Callback} (h : callback.IsBystander)
    (signal : Signal) : (behavior.onSignal callback signal).Tame access := by
  cases callback with
  | scripted label number run reach => exact tame_notifyScripted access h.1 h.2 signal
  | clock system =>
      refine tame_tending access fun role hbuiltin => ?_
      cases role with
      | simClock c =>
          exact ((observing_simClock_display c).mono (fun _ => Request.Observes.meek)
            fun _ h => h).bind fun _ _ => confined_some ⟨trivial, rfl⟩
      | scripted s => exact hbuiltin.elim
      | _ => exact confined_none

theorem tame_tellLoop (h : env.Civil) (signal : Signal) : Tame env (env.tellLoop signal) := by
  cases signal <;> exact .of_memory { h with } rfl rfl

/-- The turns of bystanders are tame. -/
theorem tame_notifyAll {key : ChannelKey}
    {call : List (Snapshot cast) → Listener Callback → Environment cast →
      Except String Unit × Environment cast}
    {tidy : List (Snapshot cast) → Environment cast → Environment cast}
    (hcall : ∀ held listener env, Listener.IsBystander listener → env.Civil →
      Tame env (call held listener env).2)
    (htidy : ∀ held env, env.orphaned = false → tidy held env = env)
    (held : List (Snapshot cast)) {snapshot : Snapshot cast}
    (hsnapshot : ∀ s ∈ snapshot, s.callback.IsBystander) (h : env.Civil) :
    Tame env (notifyAll call tidy held key snapshot env).2 := by
  induction snapshot generalizing env with
  | nil => exact .refl h
  | cons s rest ih =>
      have hrest := fun s hs => hsnapshot s (List.mem_cons_of_mem _ hs)
      have hturned : Tame env (env.turnTo key (some s.id)) := .of_memory (h.turnTo _ _) rfl rfl
      simp only [notifyAll]
      split
      · rw [htidy _ _ h.alive]
        exact ih hrest h
      · have hcalled := hturned.trans
          (hcall ((s :: rest) :: held) _ _ (hsnapshot s List.mem_cons_self) hturned.civil)
        rcases hanswer : call ((s :: rest) :: held) s.callback (env.turnTo key (some s.id)) with
          ⟨reason | ⟨⟩, left⟩
        all_goals rw [hanswer] at hcalled
        · have hended : Tame env
              ((left.turnTo key none).report (.subscriberPanicked key.name s.id reason)) :=
            hcalled.trans (.of_memory { hcalled.civil.turnTo key none with } rfl rfl)
          simp only
          rw [htidy _ _ hended.civil.alive]
          exact hended.trans (ih hrest hended.civil)
        · have hended : Tame env (left.turnTo key none) :=
            hcalled.trans (.of_memory (hcalled.civil.turnTo key none) rfl rfl)
          simp only
          rw [htidy _ _ hended.civil.alive]
          exact hended.trans (ih hrest hended.civil)

/-- **Notifications are tame**, and so are those that they bring about. -/
theorem tame_notify (room : Nat) (busy : List ChannelKey) (held : List (Snapshot cast))
    (signal : Signal) (h : env.Civil) :
    Tame env (behavior.notify room busy held signal env).2 := by
  induction room generalizing busy held signal env with
  | zero => exact .refl h
  | succ room ih =>
      by_cases hbusy : signal.channel ∈ busy
      · rw [Behavior.notify, if_pos hbusy]
        exact .refl h
      · rw [notify_succ behavior room busy held signal env hbusy, Channels.get_ensure]
        have hensured : Tame env
            { env with channels := env.channels.ensure signal.channel } := by
          refine .of_memory (h.withChannels fun key s hs => ?_) rfl rfl
          rw [Channels.get_ensure] at hs
          exact h.bystanders key s hs
        refine hensured.trans (tame_notifyAll (fun held listener env hlistener h => ?_)
          (fun _ _ halive => behavior.tidyWith_of_not_orphaned halive) held
          (h.bystanders signal.channel) hensured.civil)
        cases listener with
        | loop => exact tame_tellLoop h signal
        | guest callback =>
            exact (tame_onSignal .none hlistener signal).run
              ⟨fun signal env h => ih _ held signal h,
                fun _ halive => behavior.tidyWith_of_not_orphaned halive⟩ h

theorem gentle_behavior : Gentle behavior.emit behavior.tidy :=
  ⟨fun signal _ h => tame_notify _ [] [] signal h,
    fun _ halive => behavior.tidyWith_of_not_orphaned halive⟩

end Notifications

end SimEngine
