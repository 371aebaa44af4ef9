import SimEngine.Proofs.BuiltinSetups
import SimEngine.Proofs.Bystanders

/-!
# Clocks and their subscriptions

A clock holds the subscription by which it hears of scene updates.  As long as
no system is configured, made or let go of, every subscriber to scene updates is
a clock by the subscription that it holds, and each clock that holds one is
subscribed once.  A scene update then shows those clocks and no others.

**Definitions.**
* `Subscriber.clock?`, `Environment.hearers`: whose connection a subscriber is,
  and the systems with a connection to scene updates.
* `Watch`, `Environment.standing`: what a clock goes by, and what is remembered
  of a system in this respect.
* `Environment.ClocksConnected`: subscribers and the subscriptions that clocks hold
  go together.
* `Placed`: each system that is remembered has one place, and those that wait for
  their attachment are as they were made.
* `Undisturbed`: what leaves all clocks as they are.
* `Request.IsOrdinary`: a request that leaves subscriptions and systems alone.

**Results.**
* `ClocksConnected.nodup_hearers`, `ClocksConnected.mem_hearers_iff`: who is connected.
* `undisturbed_emit`, `undisturbed_run`: notifications and ordinary programs.
* `role?_emit`: what a scene update makes of a clock.
-/

namespace SimEngine

open Cast (behavior)

/-- The clock whose connection a subscriber is, if it is a clock. -/
def Subscriber.clock? (s : Subscriber (Listener Callback)) : Option SystemId :=
  match s.callback with
  | .guest (.clock system) => some system
  | _ => none

/-- The clocks that are connected to scene updates, one entry for each connection. -/
def Environment.hearers (env : Environment cast) : List SystemId :=
  (env.listeners .sceneUpdate).filterMap Subscriber.clock?

/-- The clock that a system is, if it is one. -/
def Role.clock? : Role → Option SimClock
  | .simClock c => some c
  | _ => none

/-- The clock that a system is remembered as, if it is one. -/
def Environment.clock? (env : Environment cast) (system : SystemId) : Option SimClock :=
  (env.memory.role? system).bind Role.clock?

/-- What a clock goes by: the subscription that it holds, and the time that it shows next. -/
structure Watch where
  subscription : Option Connection
  simTime : Duration

/-- The watch of a clock that was not configured and has seen no step. -/
def Watch.fresh : Watch := ⟨none, .zero⟩

def SimClock.watch (c : SimClock) : Watch := ⟨c.subscription, c.simTime⟩

/-- What a system goes by, if it is a clock. -/
def Role.watch? (role : Role) : Option Watch :=
  role.clock?.map SimClock.watch

/-- Whether a system is remembered, and what it goes by if it is a clock. -/
def Environment.standing (env : Environment cast) (system : SystemId) : Option (Option Watch) :=
  (env.memory.role? system).map Role.watch?

/--
The environments of built-in systems between two calls.  The loop alone hears of other events than
scene updates.  Each subscriber to scene updates is a clock by the subscription that it holds, and
each clock that holds one is subscribed.
-/
structure Environment.ClocksConnected (env : Environment cast) : Prop where
  alive : env.orphaned = false
  quiet : ∀ list, (env.queryList list).queries = []
  resting : ∀ key, (env.channels.get key).current = none
  orderly : ∀ key, (env.channels.get key).Orderly
  factories : ∀ name factory, env.loader.factories.find? name = some factory →
    ∃ builtin, factory = .builtin builtin
  builtin : ∀ system role, env.memory.role? system = some role →
    role.IsBuiltin ∧ system.number < env.memory.nextSystem
  loops : ∀ key, key ≠ .event .sceneUpdate →
    ∀ s ∈ (env.channels.get key).subscribers, s.callback = .loop
  clocks : ∀ s ∈ env.listeners .sceneUpdate, ∃ system,
    s.callback = .guest (.clock system) ∧ env.tokenOf system = some ⟨.event .sceneUpdate, s.id⟩
  held : ∀ system connection, env.tokenOf system = some connection →
    ∃ s ∈ env.listeners .sceneUpdate, s.callback = .guest (.clock system)

/--
Each system that is remembered is attached or waits to be, in one place and as a plugin.  Those that
wait are as they were made.
-/
structure Placed (waiting attached : List (Attachment cast)) (env : Environment cast) :
    Prop where
  distinct : ((waiting ++ attached).map Attachment.system).Nodup
  plugins : ∀ a ∈ waiting ++ attached, a.IsPlugin
  known : ∀ system, (env.standing system).isSome = true ↔
    system ∈ (waiting ++ attached).map Attachment.system
  fresh : ∀ a ∈ waiting, ∀ watch, env.standing a.system = some (some watch) → watch = .fresh

/-- What leaves all clocks as they are; it may only have further systems queued. -/
structure Undisturbed (env left : Environment cast) : Prop where
  clocksConnected : left.ClocksConnected
  standing : ∀ system watch, env.standing system = some watch → left.standing system = some watch
  placed : ∀ underway attached, Placed (underway ++ queuedIn env.commands) attached env →
    Placed (underway ++ queuedIn left.commands) attached left

/-- A request that leaves subscriptions and systems alone. -/
def Request.IsOrdinary : Request cast → Prop
  | .revise f => ∀ m, (f m).members = m.members ∧ (f m).nextSystem = m.nextSystem
  | .connect _ _ | .disconnect _ | .register _ _ _ | .queueAttach _ _ _ => False
  | _ => True

variable {env between left : Environment cast} {system : SystemId}

section Standings

theorem Environment.standing_of_role {role : Role} (h : env.memory.role? system = some role) :
    env.standing system = some role.watch? := by
  rw [standing, h]
  rfl

theorem Environment.standing_of_none (h : env.memory.role? system = none) :
    env.standing system = none := by
  rw [standing, h]
  rfl

/-- A system with a watch is a clock. -/
theorem Environment.exists_clock {watch : Watch} (h : env.standing system = some (some watch)) :
    ∃ c, env.memory.role? system = some (.simClock c) ∧ c.watch = watch := by
  obtain ⟨role, hrole, hwatch⟩ := Option.map_eq_some_iff.1 h
  obtain ⟨c, hclock, rfl⟩ := Option.map_eq_some_iff.1 hwatch
  cases role with
  | simClock c' =>
      obtain rfl := Option.some.inj hclock
      exact ⟨c', hrole, rfl⟩
  | _ => cases hclock

theorem Role.token_eq_watch? (role : Role) : role.token = role.watch?.bind Watch.subscription := by
  cases role <;> rfl

/-- The subscription that a system holds is that of its watch. -/
theorem Environment.tokenOf_eq_standing (env : Environment cast) (system : SystemId) :
    env.tokenOf system = (env.standing system).join.bind Watch.subscription := by
  unfold tokenOf standing
  cases env.memory.role? system with
  | none => rfl
  | some role => exact role.token_eq_watch?

theorem Environment.tokenOf_of_standing (h : left.standing system = env.standing system) :
    left.tokenOf system = env.tokenOf system := by
  rw [tokenOf_eq_standing, tokenOf_eq_standing, h]

@[simp] theorem Role.watch?_unshown (role : Role) : role.unshown.watch? = role.watch? := by
  cases role <;> rfl

/-- What a system goes by does not depend on what clocks have shown. -/
theorem Environment.Beside.standing (h : env.Beside left) (system : SystemId) :
    left.standing system = env.standing system := by
  have hrole := congrArg (Option.map Role.watch?) (h.memory.role? system)
  simp only [Option.map_map, Function.comp_def, Role.watch?_unshown] at hrole
  exact hrole

end Standings

section Hearers

namespace Environment.ClocksConnected

theorem isClock (h : env.ClocksConnected) {s : Subscriber (Listener Callback)}
    (hs : s ∈ env.listeners .sceneUpdate) : env.IsClock s := by
  obtain ⟨system, hcallback, htoken⟩ := h.clocks s hs
  obtain ⟨role, hrole, hheld⟩ := Option.bind_eq_some_iff.1 htoken
  exact ⟨system, role, hcallback, hrole, hheld⟩

/-- The subscriber of a clock is the one that the clock holds. -/
theorem tokenOf_eq (h : env.ClocksConnected) {s : Subscriber (Listener Callback)}
    (hs : s ∈ env.listeners .sceneUpdate) (hown : s.callback = .guest (.clock system)) :
    env.tokenOf system = some ⟨.event .sceneUpdate, s.id⟩ := by
  obtain ⟨holder, hcallback, htoken⟩ := h.clocks s hs
  obtain rfl : system = holder := by
    rw [hown] at hcallback
    exact Callback.clock.inj (Listener.guest.inj hcallback)
  exact htoken

/-- What a clock holds is a subscription to scene updates, and its own one. -/
theorem exists_subscriber (h : env.ClocksConnected) {connection : Connection}
    (htoken : env.tokenOf system = some connection) :
    ∃ s ∈ env.listeners .sceneUpdate, s.callback = .guest (.clock system) ∧
      connection = ⟨.event .sceneUpdate, s.id⟩ := by
  obtain ⟨s, hs, hown⟩ := h.held system connection htoken
  exact ⟨s, hs, hown, Option.some.inj (htoken.symm.trans (h.tokenOf_eq hs hown))⟩

end Environment.ClocksConnected

theorem Subscriber.clock?_eq_some_iff {s : Subscriber (Listener Callback)} :
    s.clock? = some system ↔ s.callback = .guest (.clock system) := by
  unfold Subscriber.clock?
  split
  · rename_i other hcallback
    rw [hcallback, Option.some_inj, Listener.guest.injEq, Callback.clock.injEq]
  · rename_i hother
    exact iff_of_false (fun h => by cases h) (hother system)

/-- **A clock is connected if and only if it holds a subscription.** -/
theorem Environment.ClocksConnected.mem_hearers_iff (h : env.ClocksConnected) :
    system ∈ env.hearers ↔ (env.tokenOf system).isSome = true := by
  unfold hearers
  rw [List.mem_filterMap, Option.isSome_iff_exists]
  constructor
  · rintro ⟨s, hs, hclock⟩
    exact ⟨_, h.tokenOf_eq hs (Subscriber.clock?_eq_some_iff.1 hclock)⟩
  · rintro ⟨connection, htoken⟩
    obtain ⟨s, hs, hown⟩ := h.held system connection htoken
    exact ⟨s, hs, Subscriber.clock?_eq_some_iff.2 hown⟩

/-- **No clock is connected twice.** -/
theorem Environment.ClocksConnected.nodup_hearers (h : env.ClocksConnected) :
    env.hearers.Nodup := by
  have hids : (env.listeners .sceneUpdate).Pairwise fun s s' => s.id ≠ s'.id :=
    (List.pairwise_map.1 (h.orderly _).ascending).imp fun hlt => Nat.ne_of_lt hlt
  -- Two subscribers of one clock would both have the number that the clock holds.
  rw [hearers, List.Nodup, List.pairwise_filterMap]
  refine hids.imp_of_mem fun {s s'} hs hs' hne system hclock system' hclock' => ?_
  rintro rfl
  have hheld := h.tokenOf_eq hs (Subscriber.clock?_eq_some_iff.1 hclock)
  have hheld' := h.tokenOf_eq hs' (Subscriber.clock?_eq_some_iff.1 hclock')
  exact hne (congrArg Connection.id (Option.some.inj (hheld.symm.trans hheld')))

end Hearers

section Quiet

variable {waiting waiting' attached : List (Attachment cast)}

/-- Who is where depends on what is remembered of the systems only. -/
theorem Placed.congr (h : Placed waiting attached env)
    (hsame : ∀ system, left.standing system = env.standing system) :
    Placed waiting attached left where
  distinct := h.distinct
  plugins := h.plugins
  known system := by
    rw [hsame]
    exact h.known system
  fresh a ha watch hwatch := h.fresh a ha watch ((hsame _).symm.trans hwatch)

theorem Placed.perm (h : Placed waiting attached env) (hperm : waiting.Perm waiting') :
    Placed waiting' attached env where
  distinct := (((hperm.append_right attached).map _).nodup_iff).1 h.distinct
  plugins a ha := h.plugins a ((hperm.append_right attached).mem_iff.2 ha)
  known system :=
    (h.known system).trans ((hperm.append_right attached).map Attachment.system).mem_iff
  fresh a ha := h.fresh a (hperm.mem_iff.2 ha)

/-- What keeps channels and the subscriptions that clocks hold keeps the clocks connected. -/
theorem Environment.ClocksConnected.congr (h : env.ClocksConnected)
    (halive : left.orphaned = env.orphaned)
    (hquiet : ∀ list, (left.queryList list).queries = [])
    (hfactories : left.loader.factories = env.loader.factories)
    (hchannels : ∀ key, left.channels.get key = env.channels.get key)
    (hbuiltin : ∀ system role, left.memory.role? system = some role →
      role.IsBuiltin ∧ system.number < left.memory.nextSystem)
    (htokens : ∀ system, left.tokenOf system = env.tokenOf system) : left.ClocksConnected where
  alive := halive.trans h.alive
  quiet := hquiet
  resting key := by
    rw [hchannels]
    exact h.resting key
  orderly key := by
    rw [hchannels]
    exact h.orderly key
  factories := by
    rw [hfactories]
    exact h.factories
  builtin := hbuiltin
  loops key hkey := by
    rw [hchannels]
    exact h.loops key hkey
  clocks s hs := by
    rw [Environment.listeners, hchannels] at hs
    obtain ⟨system, hown, htoken⟩ := h.clocks s hs
    exact ⟨system, hown, (htokens system).trans htoken⟩
  held system connection htoken := by
    rw [Environment.listeners, hchannels]
    exact h.held system connection ((htokens system).symm.trans htoken)

namespace Undisturbed

theorem refl (h : env.ClocksConnected) : Undisturbed env env :=
  ⟨h, fun _ _ hwatch => hwatch, fun _ _ hplaced => hplaced⟩

theorem trans (h : Undisturbed env between) (h' : Undisturbed between left) :
    Undisturbed env left where
  clocksConnected := h'.clocksConnected
  standing system watch hwatch := h'.standing system watch (h.standing system watch hwatch)
  placed underway attached hplaced :=
    h'.placed underway attached (h.placed underway attached hplaced)

/-- What remembers the systems as they were, and queues none. -/
theorem of_standing (h : left.ClocksConnected)
    (hsame : ∀ system, left.standing system = env.standing system)
    (hqueued : queuedIn left.commands = queuedIn env.commands) : Undisturbed env left where
  clocksConnected := h
  standing system watch hwatch := (hsame system).trans hwatch
  placed underway attached hplaced := by
    rw [hqueued]
    exact hplaced.congr hsame

/-- What neither writes down anything about systems nor queues one. -/
theorem of_members (h : left.ClocksConnected) (hmembers : left.memory.members = env.memory.members)
    (hqueued : queuedIn left.commands = queuedIn env.commands) : Undisturbed env left :=
  of_standing h (fun system => by
    rw [Environment.standing, Environment.standing, Memory.role?_of_members hmembers]) hqueued

end Undisturbed

/-- A query list without queries takes the place of another. -/
theorem Environment.ClocksConnected.setQueryList (h : env.ClocksConnected) (handle : Handle)
    {list : QueryList Callback} (hlist : list.queries = []) :
    (env.setQueryList handle list).ClocksConnected :=
  { h with quiet := fun other => quiet_setQueryList handle hlist other (h.quiet other) }

/-- Whoever writes down anything but systems leaves clocks as they are. -/
theorem undisturbed_memory (h : env.ClocksConnected) {memory : Memory}
    (hmembers : memory.members = env.memory.members)
    (hnext : memory.nextSystem = env.memory.nextSystem) :
    Undisturbed env { env with memory := memory } := by
  have hroles := Memory.role?_of_members hmembers
  refine .of_members (h.congr rfl h.quiet rfl (fun _ => rfl) ?_ ?_) hmembers rfl
  · intro system role hrole
    rw [hnext]
    exact h.builtin system role ((hroles system).symm.trans hrole)
  · intro system
    exact congrArg (Option.bind · Role.token) (hroles system)

end Quiet

section Notifications

/-- What differs in what clocks have shown only leaves them as they are otherwise. -/
theorem Environment.ClocksConnected.beside (h : env.ClocksConnected) (hbeside : env.Beside left) :
    left.ClocksConnected := by
  refine h.congr hbeside.orphaned (fun list => ?_) (congrArg Loader.factories hbeside.loader)
    hbeside.channels (fun system role hrole => ?_)
    fun system => Environment.tokenOf_of_standing (hbeside.standing system)
  · rw [hbeside.queryList]
    exact h.quiet list
  · have hshown := hbeside.memory.role? system
    rw [hrole] at hshown
    obtain ⟨before, hbefore, hsame⟩ := Option.map_eq_some_iff.1 hshown.symm
    obtain ⟨hbuiltin, hused⟩ := h.builtin system before hbefore
    have hnext := congrArg Memory.nextSystem hbeside.memory.rest
    rw [show left.memory.nextSystem = env.memory.nextSystem from hnext]
    exact ⟨(Role.isBuiltin_unshown role).1 (hsame ▸ (Role.isBuiltin_unshown before).2 hbuiltin),
      hused⟩

theorem undisturbed_beside (h : env.ClocksConnected) (hbeside : env.Beside left) :
    Undisturbed env left :=
  .of_standing (h.beside hbeside) hbeside.standing (congrArg queuedIn hbeside.commands)

/-- An event that the loop alone hears of. -/
theorem undisturbed_loops {room : Nat} {busy : List ChannelKey} {held : List (Snapshot cast)}
    {signal : Signal} {snapshot : Snapshot cast} (hloop : ∀ s ∈ snapshot, s.callback = .loop)
    (h : env.ClocksConnected) :
    Undisturbed env (notifyAll (behavior.caller room busy signal)
      (fun held => behavior.tidyWith (behavior.notify room busy held) held) held
      signal.channel snapshot env).2 := by
  induction snapshot generalizing env with
  | nil => exact .refl h
  | cons s rest ih =>
      have hrest := fun s hs => hloop s (List.mem_cons_of_mem _ hs)
      let heard := ((env.turnTo signal.channel (some s.id)).tellLoop signal).turnTo
        signal.channel none
      have hcall : ∀ held (env : Environment cast),
          behavior.caller room busy signal held s.callback env =
            (.ok (), env.tellLoop signal) := by
        intro held env
        rw [hloop s List.mem_cons_self]
        rfl
      have hchannels : ∀ key, heard.channels.get key = env.channels.get key :=
        get_turnTo_turnTo (h.resting _) fun key => by cases signal <;> rfl
      have hsubscribed : heard.ClocksConnected := by
        refine h.congr ?_ ?_ ?_ hchannels ?_ ?_ <;> cases signal <;>
          first | rfl | exact h.quiet | exact h.builtin | exact fun _ => rfl
      have hheard : Undisturbed env heard := by
        refine .of_members hsubscribed ?_ ?_ <;> cases signal <;> rfl
      simp only [notifyAll, hcall]
      split
      · rw [behavior.tidyWith_of_not_orphaned h.alive]
        exact ih hrest h
      · rw [behavior.tidyWith_of_not_orphaned hsubscribed.alive]
        exact hheard.trans (ih hrest hsubscribed)

/-- A channel is taken into use. -/
theorem Environment.ClocksConnected.ensure (h : env.ClocksConnected) (key : ChannelKey) :
    ({ env with channels := env.channels.ensure key } : Environment cast).ClocksConnected :=
  h.congr rfl h.quiet rfl (fun other => Channels.get_ensure env.channels key other) h.builtin
    fun _ => rfl

/-- **A notification leaves clocks as they are**, but for what they show. -/
theorem undisturbed_emit (h : env.ClocksConnected) (signal : Signal) :
    Undisturbed env (behavior.emit signal env).2 := by
  have hnotify : behavior.emit signal env = _ :=
    notify_succ behavior 5 [] [] signal env List.not_mem_nil
  have hensured := h.ensure signal.channel
  rw [hnotify, Channels.get_ensure]
  refine Undisturbed.trans (.of_members hensured rfl rfl) ?_
  -- Clocks may hear of a scene update; of all else only the loop hears.
  by_cases hupdate : signal.channel = .event .sceneUpdate
  · obtain rfl : signal = .sceneUpdate := by
      cases signal <;> first | rfl | cases hupdate
    have hclocks : ∀ s ∈ env.listeners .sceneUpdate, env.IsClock s := fun _ hs => h.isClock hs
    exact undisturbed_beside hensured
      (beside_notifyAll hensured.alive (hensured.resting _) hclocks)
  · exact undisturbed_loops (h.loops _ hupdate) hensured

end Notifications

section Programs

variable {α : Type} {access : Access}

/-- **An ordinary request leaves clocks as they are.** -/
theorem undisturbed_perform (h : env.ClocksConnected) {r : Request cast} (hr : r.IsOrdinary) :
    Undisturbed env (r.perform behavior.emit access env).2 := by
  cases r with
  | revise f => exact undisturbed_memory h (hr env.memory).1 (hr env.memory).2
  | write e kind value =>
      simp only [Request.perform, Environment.write]
      split
      · split
        · exact .of_members { h with } rfl rfl
        · exact .refl h
      · exact .refl h
  | emit signal => exact undisturbed_emit h signal
  | connect key callback => exact hr.elim
  | disconnect c => exact hr.elim
  | register list signature callback => exact hr.elim
  | queueAttach a entity config => exact hr.elim
  | cancel list query =>
      refine .of_members (h.setQueryList list ?_) rfl rfl
      show ((env.queryList list).cancel query).2.queries = []
      unfold QueryList.cancel
      split
      · simp [h.quiet list]
      · split <;> exact h.quiet list
  | clearQueries list => exact .of_members (h.setQueryList list rfl) rfl rfl
  | queueDetach handle =>
      exact .of_members { h with } rfl
        ((queuedIn_append env.commands [.detach handle]).trans (List.append_nil _))
  | declare name value =>
      simp only [Request.perform]
      split
      · exact .of_members { h with } rfl rfl
      · exact .refl h
  | setParameter name value =>
      simp only [Request.perform]
      split
      · exact .of_members { h with } rfl rfl
      · exact .refl h
  | report notice => exact .of_members { h with } rfl rfl
  | _ => exact .refl h

/-- **So does a program that makes ordinary requests.** -/
theorem undisturbed_run {results : α → Prop} {p : Deed α}
    (hp : p.Confined Request.IsOrdinary results) (h : env.ClocksConnected) (access : Access) :
    Undisturbed env (behavior.run access p env).2 :=
  hp.keeps .refl .trans (fun _ hleft => hleft.clocksConnected)
    (fun _ h => behavior.tidyWith_of_not_orphaned h.alive)
    (fun h hr => undisturbed_perform h hr) h

end Programs

section SceneUpdates

/-- A role once a scene update was shown to it. -/
def Role.shown : Role → Role
  | .simClock c => .simClock c.refresh
  | role => role

/-- The clocks of a snapshot are shown, each of them once, and nobody else is. -/
theorem role?_notifyAll {room : Nat} {busy : List ChannelKey} {held : List (Snapshot cast)}
    {snapshot : Snapshot cast} (halive : env.orphaned = false)
    (hheard : ∀ s ∈ snapshot, env.channels.isSilenced ⟨.event .sceneUpdate, s.id⟩ = false)
    (hclocks : ∀ s ∈ snapshot, ∃ system c, s.callback = .guest (.clock system) ∧
      env.memory.role? system = some (.simClock c))
    (hdistinct : (snapshot.filterMap Subscriber.clock?).Nodup) (system : SystemId) :
    (notifyAll (behavior.caller room busy .sceneUpdate)
      (fun held => behavior.tidyWith (behavior.notify room busy held) held) held
      (.event .sceneUpdate) snapshot env).2.memory.role? system =
      if system ∈ snapshot.filterMap Subscriber.clock? then
        (env.memory.role? system).map Role.shown
      else env.memory.role? system := by
  induction snapshot generalizing env with
  | nil => rfl
  | cons s rest ih =>
      obtain ⟨shown, c, hown, hrole⟩ := hclocks s List.mem_cons_self
      obtain ⟨notices, -, hnotified⟩ := notifyAll_clock room busy held rest halive
        (hheard s List.mem_cons_self) hown hrole
      have hclock : s.clock? = some shown := Subscriber.clock?_eq_some_iff.2 hown
      rw [List.filterMap_cons_some hclock, List.nodup_cons] at hdistinct
      obtain ⟨hnew, hdistinct⟩ := hdistinct
      let after : Environment cast := { env with
        channels := (env.channels.turnTo (.event .sceneUpdate) (some s.id)).turnTo
          (.event .sceneUpdate) none
        journal := notices ++ env.journal
        memory := env.memory.revise shown fun _ => .simClock c.refresh }
      have hself : after.memory.role? shown = some (.simClock c.refresh) :=
        Memory.role?_revise_self hrole _
      have hother : ∀ other, other ≠ shown → after.memory.role? other = env.memory.role? other :=
        fun other hne => env.memory.role?_revise_of_ne hne _
      have hheard' : ∀ s' ∈ rest,
          after.channels.isSilenced ⟨.event .sceneUpdate, s'.id⟩ = false := by
        intro s' hs'
        have hmark := hheard s' (List.mem_cons_of_mem _ hs')
        simp only [after, Channels.isSilenced, Channels.get_turnTo, if_true] at hmark ⊢
        exact hmark
      have hclocks' : ∀ s' ∈ rest, ∃ system c, s'.callback = .guest (.clock system) ∧
          after.memory.role? system = some (.simClock c) := by
        intro s' hs'
        obtain ⟨other, c', hown', hrole'⟩ := hclocks s' (List.mem_cons_of_mem _ hs')
        refine ⟨other, c', hown', (hother other ?_).trans hrole'⟩
        rintro rfl
        exact hnew (List.mem_filterMap.2 ⟨s', hs', Subscriber.clock?_eq_some_iff.2 hown'⟩)
      -- The first clock is listed once, so the rest of the row leaves it as it is now.
      rw [hnotified, List.filterMap_cons_some hclock]
      refine (ih (show after.orphaned = false from halive) hheard' hclocks' hdistinct).trans ?_
      by_cases hsystem : system = shown
      · subst hsystem
        rw [if_neg hnew, if_pos List.mem_cons_self, hself, hrole]
        rfl
      · rw [hother system hsystem]
        simp only [List.mem_cons, hsystem, false_or]

/-- **A scene update is shown to the clocks that hold a subscription**, and to nobody else. -/
theorem role?_emit (h : env.ClocksConnected) (system : SystemId) :
    (behavior.emit .sceneUpdate env).2.memory.role? system =
      if (env.tokenOf system).isSome then (env.memory.role? system).map Role.shown
      else env.memory.role? system := by
  have hnotify : behavior.emit .sceneUpdate env = _ :=
    notify_succ behavior 5 [] [] .sceneUpdate env List.not_mem_nil
  rw [hnotify, Channels.get_ensure]
  have hsilenced : ∀ s ∈ env.listeners .sceneUpdate,
      Channels.isSilenced (env.channels.ensure (.event .sceneUpdate))
        ⟨.event .sceneUpdate, s.id⟩ = false := by
    intro s hs
    rw [Channels.isSilenced, Channels.get_ensure, ← Bool.not_eq_true, Channel.isSilenced_iff]
    exact (h.orderly _).listed_heard s hs
  have hclocks : ∀ s ∈ env.listeners .sceneUpdate, ∃ system c,
      s.callback = .guest (.clock system) ∧
        env.memory.role? system = some (.simClock c) := by
    intro s hs
    obtain ⟨system, role, hown, hrole, htoken⟩ := h.isClock hs
    cases role with
    | simClock c => exact ⟨system, c, hown, hrole⟩
    | _ => cases htoken
  refine (role?_notifyAll (h.ensure _).alive hsilenced hclocks h.nodup_hearers system).trans ?_
  exact if_congr h.mem_hearers_iff rfl rfl

end SceneUpdates

end SimEngine
