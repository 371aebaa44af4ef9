import SimEngine.Proofs.Clocks
import SimEngine.Proofs.Degradations
import SimEngine.Proofs.Pauses

/-!
# Adjusting clocks

A clock is subscribed when it is configured, the former subscription being
dropped once there is a new one, and it follows the steps when it is called
before updates.  Nobody else is touched by that, and other built-in systems
touch no clock at all.

**Definitions.**
* `Adjusted`: a system goes by something else, and all others go on as before.
* `Environment.otherListeners`: the subscribers to scene updates but for one clock.
* `Environment.Rewired`: only who hears of scene updates may have changed.
* `Watch.configured`: what a clock goes by after a configuration.

**Results.**
* `adjusted_callPhase`: the call of a phase.
* `listeners_resubscribed`, `listeners_without`: a subscription is replaced, and
  dropped.
* `adjusted_configure`, `listeners_configure`: a configuration, by guest code.
* `adjusted_instance_configure`, `adjusted_attachAs`: so it is by the engine, also
  for an attachment.
-/

namespace SimEngine

open Cast (behavior)

/--
A system goes by something else than before, if it is a clock.  All others go on as before, and the
system has its place already.
-/
structure Adjusted (system : SystemId) (f : Watch → Watch) (env left : Environment cast) :
    Prop where
  clocksConnected : left.ClocksConnected
  self : ∀ watch, env.standing system = some watch → left.standing system = some (watch.map f)
  others : ∀ other, other ≠ system → ∀ watch, env.standing other = some watch →
    left.standing other = some watch
  placed : ∀ underway attached,
    system ∉ (underway ++ queuedIn env.commands).map Attachment.system →
      Placed (underway ++ queuedIn env.commands) attached env →
        Placed (underway ++ queuedIn left.commands) attached left

/-- The subscribers to scene updates but for those of one clock. -/
def Environment.otherListeners (env : Environment cast) (system : SystemId) : Snapshot cast :=
  (env.listeners .sceneUpdate).filter fun s => s.clock? ≠ some system

/-- Nobody is being called, and only who hears of scene updates may have changed. -/
structure Environment.Rewired (env : Environment cast) (channels : Channels (Listener Callback)) :
    Prop where
  resting : ∀ key, (channels.get key).current = none
  orderly : ∀ key, (channels.get key).Orderly
  kept : ∀ key, key ≠ .event .sceneUpdate → channels.get key = env.channels.get key

/-- The subscription that a clock would get next. -/
def Environment.nextConnection (env : Environment cast) : Connection :=
  ⟨.event .sceneUpdate, (env.channels.get (.event .sceneUpdate)).nextId⟩

variable {env between left : Environment cast} {system : SystemId} {f : Watch → Watch}

section Adjusting

/-- What leaves clocks as they are adjusts a clock by what is no change to it. -/
theorem Undisturbed.adjusted (h : Undisturbed env left)
    (hsame : ∀ watch, env.standing system = some (some watch) → f watch = watch) :
    Adjusted system f env left where
  clocksConnected := h.clocksConnected
  self watch hwatch := by
    rw [h.standing system watch hwatch]
    cases watch with
    | none => rfl
    | some watch => rw [Option.map_some, hsame watch hwatch]
  others other _ := h.standing other
  placed underway attached _ := h.placed underway attached

namespace Adjusted

theorem later (h : Adjusted system f env between) (h' : Undisturbed between left) :
    Adjusted system f env left where
  clocksConnected := h'.clocksConnected
  self watch hwatch := h'.standing system _ (h.self watch hwatch)
  others other hother watch hwatch := h'.standing other watch (h.others other hother watch hwatch)
  placed underway attached hnew hplaced :=
    h'.placed underway attached (h.placed underway attached hnew hplaced)

theorem sooner (h' : Adjusted system f between left) (h : Undisturbed env between)
    (hqueued : queuedIn between.commands = queuedIn env.commands) :
    Adjusted system f env left where
  clocksConnected := h'.clocksConnected
  self watch hwatch := h'.self watch (h.standing system watch hwatch)
  others other hother watch hwatch := h'.others other hother watch (h.standing other watch hwatch)
  placed underway attached hnew hplaced := by
    rw [← hqueued] at hnew
    exact h'.placed underway attached hnew (h.placed underway attached hplaced)

/-- A system of its own is changed, and nothing is queued. -/
theorem of_standing (h : left.ClocksConnected)
    (hself : left.standing system = (env.standing system).map (Option.map f))
    (hothers : ∀ other, other ≠ system → left.standing other = env.standing other)
    (hqueued : queuedIn left.commands = queuedIn env.commands) : Adjusted system f env left where
  clocksConnected := h
  self watch hwatch := by
    rw [hself, hwatch]
    rfl
  others other hother watch hwatch := (hothers other hother).trans hwatch
  placed underway attached hnew hplaced := by
    rw [hqueued]
    refine { hplaced with known := fun other => ?_, fresh := fun a ha watch hwatch => ?_ }
    · rw [← hplaced.known other]
      by_cases hother : other = system
      · rw [hother, hself, Option.isSome_map]
      · rw [hothers other hother]
    · refine hplaced.fresh a ha watch ((hothers a.system ?_).symm.trans hwatch)
      rintro rfl
      exact hnew (List.mem_map_of_mem ha)

end Adjusted

/-- A system may be remembered anew, with the subscription that it had. -/
theorem Environment.ClocksConnected.revise (h : env.ClocksConnected) {role next : Role}
    (hrole : env.memory.role? system = some role) (hbuiltin : next.IsBuiltin)
    (htoken : next.token = role.token) :
    ({ env with
      memory := env.memory.revise system fun _ => next } : Environment cast).ClocksConnected := by
  have hothers := fun other (hother : other ≠ system) =>
    env.memory.role?_revise_of_ne hother fun _ => next
  refine h.congr rfl h.quiet rfl (fun _ => rfl) (fun other known hknown => ?_) fun other => ?_
  · by_cases hother : other = system
    · subst hother
      obtain ⟨rfl, before, hbefore⟩ := Memory.of_role?_revise hknown
      exact ⟨hbuiltin, (h.builtin other before hbefore).2⟩
    · exact h.builtin other known ((hothers other hother).symm.trans hknown)
  · by_cases hother : other = system
    · subst hother
      rw [Environment.tokenOf, Environment.tokenOf, hrole]
      exact (congrArg (Option.bind · Role.token)
        (Memory.role?_revise_self hrole fun _ => next)).trans htoken
    · exact congrArg (Option.bind · Role.token) (hothers other hother)

/-- A clock is remembered anew, with the subscription that it had. -/
theorem adjusted_follow (h : env.ClocksConnected) {c next : SimClock}
    (hrole : env.memory.role? system = some (.simClock c)) (hnext : next.watch = f c.watch)
    (htoken : next.subscription = c.subscription) :
    Adjusted system f env
      { env with memory := env.memory.revise system fun _ => .simClock next } := by
  refine .of_standing (h.revise hrole trivial htoken) ?_ (fun other hother => ?_) rfl
  · have hself := Memory.role?_revise_self hrole fun _ => .simClock next
    rw [Environment.standing_of_role hrole, Environment.standing_of_role hself]
    exact congrArg (some ∘ some) hnext
  · exact congrArg (Option.map Role.watch?) (env.memory.role?_revise_of_ne hother _)

/-- A system that is no clock is remembered anew. -/
theorem undisturbed_revise (h : env.ClocksConnected) {next : Role}
    (hbefore : env.standing system = some none) (hbuiltin : next.IsBuiltin)
    (hnext : next.watch? = none) :
    Undisturbed env { env with memory := env.memory.revise system fun _ => next } := by
  obtain ⟨role, hrole, hwatch⟩ := Option.map_eq_some_iff.1 hbefore
  have htoken : next.token = role.token := by
    rw [Role.token_eq_watch?, Role.token_eq_watch?, hnext, hwatch]
  refine .of_standing (h.revise hrole hbuiltin htoken) (fun other => ?_) rfl
  by_cases hother : other = system
  · subst hother
    rw [hbefore, Environment.standing_of_role (Memory.role?_revise_self hrole _), hnext]
  · exact congrArg (Option.map Role.watch?) (env.memory.role?_revise_of_ne hother _)

end Adjusting

section Calls

variable {access : Access}

theorem Request.Modest.isOrdinary {r : Request cast} (h : r.Modest) : r.IsOrdinary := by
  cases r with
  | revise f => exact h.elim
  | register list signature callback => exact h.elim
  | connect key callback => exact h.elim
  | disconnect c => exact h.elim
  | queueAttach a entity config => exact h.elim
  | _ => exact trivial

/-- A system that is no clock leaves clocks as they are, as long as it asks modestly. -/
theorem undisturbed_tending (h : env.ClocksConnected) {conduct : Role → Deed (Option Role)}
    (hconduct : ∀ role, env.memory.role? system = some role → role.watch? = none ∧
      (conduct role).Confined Request.Modest fun result =>
        ∀ next ∈ result, next.IsBuiltin ∧ next.watch? = none) (access : Access) :
    Undisturbed env (behavior.run access (Cast.tending system conduct) env).2 := by
  have hordinary := fun role hrole =>
    (hconduct role hrole).2.mono (fun _ => Request.Modest.isOrdinary) fun _ hresult => hresult
  refine tending_leaves (fun _ => behavior.tidyWith_of_not_orphaned) h.alive (.refl h)
    (fun role hrole => undisturbed_run (hordinary role hrole) h access) ?_
  intro role next left hrole hrun
  have hdone := undisturbed_run (hordinary role hrole) h access
  replace hrun : behavior.run access (conduct role) env = _ := hrun
  rw [hrun] at hdone
  obtain ⟨hbuiltin, hnext⟩ := (hordinary role hrole).result hrun next rfl
  have hstanding := Environment.standing_of_role hrole
  rw [(hconduct role hrole).1] at hstanding
  exact ⟨hdone.clocksConnected.alive, hdone.trans
    (undisturbed_revise hdone.clocksConnected (hdone.standing system _ hstanding) hbuiltin hnext)⟩

/-- **The call of a phase**: a clock follows the step before updates, and nobody else is touched. -/
theorem adjusted_callPhase (h : env.ClocksConnected) (phase : StepPhase) (system : SystemId)
    (info : StepInfo) (access : Access) :
    Adjusted system
      (fun watch => if phase = .preUpdate then { watch with simTime := info.simTime } else watch)
      env (behavior.run access (behavior.phase phase system info) env).2 := by
  by_cases hclock : ∃ c, env.memory.role? system = some (.simClock c)
  · obtain ⟨c, hrole⟩ := hclock
    cases phase with
    | preUpdate =>
        have hrun : behavior.run access (behavior.phase .preUpdate system info) env = _ :=
          run_tending_of_some h.alive hrole rfl h.alive
        rw [hrun]
        exact adjusted_follow h hrole rfl rfl
    | _ =>
        rw [show behavior.run access (behavior.phase _ system info) env = _ from
          run_tending_of_none h.alive hrole rfl]
        exact (Undisturbed.refl h).adjusted fun watch _ => if_neg (by decide)
  · refine Undisturbed.adjusted (undisturbed_tending h (fun role hrole => ?_) access) ?_
    · cases role with
      | simClock c => exact absurd ⟨c, hrole⟩ hclock
      | scripted s => exact (h.builtin system _ hrole).1.elim
      | accelerate s =>
          refine ⟨rfl, ?_⟩
          cases phase with
          | update => exact (modest_accelerate_update s info).bind fun _ _ => confined_none
          | _ => exact confined_none
      | velocityLog l =>
          refine ⟨rfl, ?_⟩
          cases phase with
          | postUpdate =>
              exact (modest_velocityLog_postUpdate l info).bind fun _ _ =>
                confined_some ⟨trivial, rfl⟩
          | _ => exact confined_none
      | pauseAfter p =>
          refine ⟨rfl, ?_⟩
          cases phase with
          | preUpdate =>
              exact (modest_pauseAfter_preUpdate p info).bind fun _ _ =>
                confined_some ⟨trivial, rfl⟩
          | _ => exact confined_none
    · intro watch hwatch
      obtain ⟨c, hrole, -⟩ := Environment.exists_clock hwatch
      exact absurd ⟨c, hrole⟩ hclock

/-- A declaration of parameters leaves clocks as they are. -/
theorem undisturbed_configureParameters (h : env.ClocksConnected) (system : SystemId)
    (access : Access) :
    Undisturbed env (behavior.run access (behavior.configureParameters system) env).2 := by
  by_cases hclock : ∃ c, env.memory.role? system = some (.simClock c)
  · obtain ⟨c, hrole⟩ := hclock
    rw [show behavior.run access (behavior.configureParameters system) env = _ from
      run_tending_of_none h.alive hrole rfl]
    exact .refl h
  · refine undisturbed_tending h (fun role hrole => ?_) access
    cases role with
    | simClock c => exact absurd ⟨c, hrole⟩ hclock
    | scripted s => exact (h.builtin system _ hrole).1.elim
    | accelerate s =>
        exact ⟨rfl, (modest_accelerate_configureParameters s).bind fun _ _ =>
          confined_some ⟨trivial, rfl⟩⟩
    | _ => exact ⟨rfl, confined_none⟩

end Calls

section Subscriptions

/-- The other subscribers are those with another number than the one that a clock holds. -/
theorem Environment.ClocksConnected.otherListeners_eq (h : env.ClocksConnected)
    {s : Subscriber (Listener Callback)} (hs : s ∈ env.listeners .sceneUpdate)
    (hown : s.callback = .guest (.clock system)) :
    (env.listeners .sceneUpdate).filter (fun other => other.id != s.id) =
      env.otherListeners system := by
  have hids : ((env.listeners .sceneUpdate).map Subscriber.id).Nodup :=
    (h.orderly _).ascending.imp Nat.ne_of_lt
  refine List.filter_congr fun other hother => ?_
  rw [Bool.eq_iff_iff, bne_iff_ne, decide_eq_true_iff, not_iff_not, Subscriber.clock?_eq_some_iff]
  constructor
  · intro hid
    rw [List.inj_on_of_nodup_map hids hother hs hid]
    exact hown
  · intro hsame
    have hheld := (h.tokenOf_eq hother hsame).symm.trans (h.tokenOf_eq hs hown)
    exact congrArg Connection.id (Option.some.inj hheld)

/-- A clock without a subscription is no subscriber. -/
theorem Environment.ClocksConnected.otherListeners_of_none (h : env.ClocksConnected)
    (hnone : env.tokenOf system = none) :
    env.otherListeners system = env.listeners .sceneUpdate := by
  refine List.filter_eq_self.2 fun s hs => decide_eq_true fun hclock => ?_
  rw [h.tokenOf_eq hs (Subscriber.clock?_eq_some_iff.1 hclock)] at hnone
  cases hnone

namespace Environment.Rewired

variable {channels : Channels (Listener Callback)}

theorem refl (h : env.ClocksConnected) : env.Rewired env.channels :=
  ⟨h.resting, h.orderly, fun _ _ => rfl⟩

/-- Somebody more hears of scene updates. -/
theorem connect (h : env.Rewired channels) (callback : Listener Callback) :
    env.Rewired (channels.connect (.event .sceneUpdate) callback).2 where
  resting key := by
    rw [Channels.current_get_connect]
    exact h.resting key
  orderly key := by
    rw [Channels.get_connect]
    split
    · exact (h.orderly _).connect callback
    · exact h.orderly key
  kept key hkey := by
    rw [Channels.get_connect, if_neg hkey]
    exact h.kept key hkey

/-- What a clock drops is a subscription to scene updates. -/
theorem disconnect (hrewired : env.Rewired channels) (h : env.ClocksConnected)
    {connection : Connection} (htoken : env.tokenOf system = some connection) :
    env.Rewired (channels.disconnect connection) where
  resting key := by
    rw [Channels.current_get_disconnect]
    exact hrewired.resting key
  orderly key := by
    rw [Channels.get_disconnect]
    split
    · exact (hrewired.orderly key).disconnect _
    · exact hrewired.orderly key
  kept key hkey := by
    obtain ⟨s, -, -, rfl⟩ := h.exists_subscriber htoken
    rw [Channels.get_disconnect, if_neg hkey]
    exact hrewired.kept key hkey

end Environment.Rewired

/-- Where the subscription of a system ends, only scene updates are concerned. -/
theorem rewired_without (h : env.ClocksConnected) (system : SystemId) :
    env.Rewired (env.channelsWithout system) := by
  unfold Environment.channelsWithout
  split
  · rename_i connection htoken
    exact (Environment.Rewired.refl h).disconnect h htoken
  · exact .refl h

/-- The same goes for a clock that subscribes anew. -/
theorem rewired_resubscribed (h : env.ClocksConnected) (system : SystemId) :
    env.Rewired (env.resubscribed system (env.tokenOf system)) := by
  have hconnected := (Environment.Rewired.refl h).connect (.guest (.clock system))
  unfold Environment.resubscribed
  split
  · exact hconnected
  · rename_i connection htoken
    exact hconnected.disconnect h htoken

theorem Channel.subscribers_disconnect {κ : Type} {c : Channel κ} {s : Subscriber κ}
    (hs : s ∈ c.subscribers) :
    (c.disconnect s.id).subscribers = c.subscribers.filter fun other => other.id != s.id := by
  rw [disconnect, if_pos ((c.isConnected_iff s.id).2 ⟨s, hs, rfl⟩)]

/-- **A subscription that ends with its clock is the only one that ends.** -/
theorem listeners_without (h : env.ClocksConnected) (system : SystemId) :
    ((env.channelsWithout system).get (.event .sceneUpdate)).subscribers =
      env.otherListeners system := by
  unfold Environment.channelsWithout
  split
  · rename_i connection htoken
    obtain ⟨s, hs, hown, rfl⟩ := h.exists_subscriber htoken
    rw [Channels.get_disconnect, if_pos rfl, Channel.subscribers_disconnect hs]
    exact h.otherListeners_eq hs hown
  · rename_i htoken
    exact (h.otherListeners_of_none htoken).symm

/-- **A clock that subscribes anew has one subscription**, its new one. -/
theorem listeners_resubscribed (h : env.ClocksConnected) (system : SystemId) :
    ((env.resubscribed system (env.tokenOf system)).get (.event .sceneUpdate)).subscribers =
      env.otherListeners system ++ [⟨env.nextConnection.id, .guest (.clock system)⟩] := by
  have hconnected : ((env.channels.connect (.event .sceneUpdate) (.guest (.clock system))).2.get
      (.event .sceneUpdate)) =
        (env.channels.get (.event .sceneUpdate)).connect (.guest (.clock system)) := by
    rw [Channels.get_connect, if_pos rfl]
  unfold Environment.resubscribed
  cases htoken : env.tokenOf system with
  | none =>
      rw [hconnected, h.otherListeners_of_none htoken]
      rfl
  | some connection =>
      obtain ⟨s, hs, hown, rfl⟩ := h.exists_subscriber htoken
      have hnew : (env.nextConnection.id != s.id) = true :=
        bne_iff_ne.2 (Nat.ne_of_gt ((h.orderly _).listed_lt s hs))
      -- The new subscriber is the last one, and has another number than the one that is dropped.
      simp only [Channels.get_disconnect, if_true, hconnected]
      rw [Channel.subscribers_disconnect (List.mem_append_left _ hs), ← h.otherListeners_eq hs hown]
      exact (List.filter_append _ _).trans (congrArg _ (List.filter_cons_of_pos hnew))

/--
One system may be changed together with its subscriber, as long as it holds that one if there is
one, and nothing else.
-/
theorem Environment.ClocksConnected.rearrange (h : env.ClocksConnected) (system : SystemId)
    {memory : Memory} {channels : Channels (Listener Callback)} (own : Snapshot cast)
    (hothers : ∀ other, other ≠ system → memory.role? other = env.memory.role? other)
    (hself : ∀ role, memory.role? system = some role →
      role.IsBuiltin ∧ (env.memory.role? system).isSome = true)
    (hused : memory.nextSystem = env.memory.nextSystem)
    (hrewired : env.Rewired channels)
    (hlisteners : (channels.get (.event .sceneUpdate)).subscribers =
      env.otherListeners system ++ own)
    (hown : ∀ s ∈ own, s.callback = .guest (.clock system) ∧
      (memory.role? system).bind Role.token = some ⟨.event .sceneUpdate, s.id⟩)
    (hheld : own = [] → (memory.role? system).bind Role.token = none) :
    ({ env with channels := channels, memory := memory } : Environment cast).ClocksConnected where
  alive := h.alive
  quiet := h.quiet
  resting := hrewired.resting
  orderly := hrewired.orderly
  factories := h.factories
  builtin other role hrole := by
    rw [hused]
    by_cases hother : other = system
    · subst hother
      obtain ⟨hbuiltin, hbefore⟩ := hself role hrole
      obtain ⟨before, hbefore⟩ := Option.isSome_iff_exists.1 hbefore
      exact ⟨hbuiltin, (h.builtin other before hbefore).2⟩
    · exact h.builtin other role ((hothers other hother).symm.trans hrole)
  loops key hkey := by
    rw [hrewired.kept key hkey]
    exact h.loops key hkey
  clocks s hs := by
    have hs : s ∈ (channels.get (.event .sceneUpdate)).subscribers := hs
    rw [hlisteners] at hs
    rcases List.mem_append.1 hs with hs | hs
    · obtain ⟨hs, hclock⟩ := List.mem_filter.1 hs
      obtain ⟨other, hcallback, htoken⟩ := h.clocks s hs
      have hother : other ≠ system := by
        rintro rfl
        exact of_decide_eq_true hclock (Subscriber.clock?_eq_some_iff.2 hcallback)
      exact ⟨other, hcallback, (congrArg (Option.bind · Role.token) (hothers other hother)).trans
        htoken⟩
    · exact ⟨system, hown s hs⟩
  held other connection htoken := by
    show ∃ s ∈ (channels.get (.event .sceneUpdate)).subscribers, _
    rw [hlisteners]
    by_cases hother : other = system
    · subst hother
      cases own with
      | nil =>
          rw [Environment.tokenOf, hheld rfl] at htoken
          cases htoken
      | cons s rest =>
          exact ⟨s, List.mem_append_right _ List.mem_cons_self, (hown s List.mem_cons_self).1⟩
    · have hbefore : env.tokenOf other = some connection :=
        (congrArg (Option.bind · Role.token) (hothers other hother)).symm.trans htoken
      obtain ⟨s, hs, hcallback⟩ := h.held other connection hbefore
      refine ⟨s, List.mem_append_left _ (List.mem_filter.2 ⟨hs, decide_eq_true fun hclock => ?_⟩),
        hcallback⟩
      rw [Subscriber.clock?_eq_some_iff, hcallback] at hclock
      exact hother (Callback.clock.inj (Listener.guest.inj hclock))

end Subscriptions

section Configurations

/-- A clock whose payload serves is subscribed anew. -/
theorem adjusted_resubscribe (h : env.ClocksConnected) {c : SimClock}
    (hrole : env.memory.role? system = some (.simClock c)) (logEvery : UInt64) :
    let next : SimClock :=
      { c with logEvery := logEvery, subscription := some env.nextConnection }
    Adjusted system (fun watch => { watch with subscription := some env.nextConnection }) env
      { env with
        channels := env.resubscribed system c.subscription
        memory := env.memory.revise system fun _ => .simClock next } := by
  intro next
  have htoken : env.tokenOf system = c.subscription := by
    rw [Environment.tokenOf, hrole]
    rfl
  have hself := Memory.role?_revise_self hrole fun _ => .simClock next
  have hothers := fun other (hother : other ≠ system) =>
    env.memory.role?_revise_of_ne hother fun _ => .simClock next
  rw [← htoken]
  refine .of_standing (h.rearrange system [⟨env.nextConnection.id, .guest (.clock system)⟩] hothers
    ?_ rfl (rewired_resubscribed h system) (listeners_resubscribed h system)
    ?_ fun hnone => by cases hnone) ?_ ?_ rfl
  · intro role hrole'
    obtain rfl := Option.some.inj (hself.symm.trans hrole')
    exact ⟨trivial, by rw [hrole]; rfl⟩
  · intro s hs
    obtain rfl := List.mem_singleton.1 hs
    exact ⟨rfl, by rw [hself]; rfl⟩
  · rw [Environment.standing_of_role hrole, Environment.standing_of_role hself]
    rfl
  · exact fun other hother => congrArg (Option.map Role.watch?) (hothers other hother)

/-- The configuration of a clock is refused, or the clock is subscribed anew. -/
theorem run_configure_clock (h : env.ClocksConnected) {c : SimClock}
    (hrole : env.memory.role? system = some (.simClock c)) (context : ConfigureContext) :
    (∃ failure, behavior.run .full (behavior.configure system context) env =
      (.failed failure, env)) ∨
    ∃ logEvery, behavior.run .full (behavior.configure system context) env =
      (.done (), { env with
        channels := env.resubscribed system c.subscription
        memory := env.memory.revise system fun _ => .simClock
          { c with logEvery := logEvery, subscription := some env.nextConnection } }) := by
  have htending : behavior.run .full (behavior.configure system context) env = _ :=
    run_tending (behavior.tidyWith_of_not_orphaned h.alive)
  -- The payload is read first of all, so a clock that is refused has done nothing yet.
  cases hlog : SimClock.logEveryOf context.config with
  | error cause =>
      left
      have hfailed : (c.configure system context.config).run behavior.emit behavior.tidy .full
          env = (.failed cause.toFailure, env) := by
        unfold SimClock.configure
        rw [hlog]
        rfl
      have hbind : Program.run behavior.emit behavior.tidy .full
          (do return some (Role.simClock (← c.configure system context.config))) env = _ :=
        run_bind behavior.emit behavior.tidy .full (c.configure system context.config)
          (fun c => .done (some (Role.simClock c))) env
      refine ⟨cause.toFailure, ?_⟩
      rw [htending, hrole]
      simp only [hbind, hfailed]
  | ok logEvery =>
      right
      let next : SimClock :=
        { c with logEvery := logEvery, subscription := some env.nextConnection }
      let left : Environment cast :=
        { env with channels := env.resubscribed system c.subscription }
      have hdone : behavior.run .full
          (do return some (Role.simClock (← c.configure system context.config))) env =
          (.done (some (.simClock next)), left) :=
        run_bind_of_done (run_simClock_configure h.alive c system hlog .full) _
      have halive : left.orphaned = false := h.alive
      exact ⟨logEvery, run_tending_of_some h.alive hrole hdone halive⟩

/-- What a system goes by once it was configured, or was not. -/
def Watch.configured (connection : Connection) (succeeded : Bool) (watch : Watch) : Watch :=
  if succeeded then { watch with subscription := some connection } else watch

/-- **A configuration**: a clock is subscribed anew if it succeeds, and nobody else is touched. -/
theorem adjusted_configure (h : env.ClocksConnected) (system : SystemId)
    (context : ConfigureContext) :
    let ran := behavior.run .full (behavior.configure system context) env
    Adjusted system (Watch.configured env.nextConnection ran.1.isDone) env ran.2 := by
  intro ran
  by_cases hclock : ∃ c, env.memory.role? system = some (.simClock c)
  · obtain ⟨c, hrole⟩ := hclock
    rcases run_configure_clock h hrole context with ⟨failure, hran⟩ | ⟨logEvery, hran⟩
    · rw [show ran = _ from hran]
      exact (Undisturbed.refl h).adjusted fun _ _ => rfl
    · rw [show ran = _ from hran]
      exact adjusted_resubscribe h hrole logEvery
  · refine Undisturbed.adjusted (undisturbed_tending h (fun role hrole => ?_) .full) ?_
    · cases role with
      | simClock c => exact absurd ⟨c, hrole⟩ hclock
      | scripted s => exact (h.builtin system _ hrole).1.elim
      | accelerate s =>
          exact ⟨rfl, (modest_accelerate_configure s context).bind fun _ _ =>
            confined_some ⟨trivial, rfl⟩⟩
      | _ => exact ⟨rfl, confined_none⟩
    · intro watch hwatch
      obtain ⟨c, hrole, -⟩ := Environment.exists_clock hwatch
      exact absurd ⟨c, hrole⟩ hclock

/-- **The subscribers after a clock was configured.** -/
theorem listeners_configure (h : env.ClocksConnected) {watch : Watch}
    (hclock : env.standing system = some (some watch)) (context : ConfigureContext) :
    let ran := behavior.run .full (behavior.configure system context) env
    ran.2.listeners .sceneUpdate =
      if ran.1.isDone then
        env.otherListeners system ++ [⟨env.nextConnection.id, .guest (.clock system)⟩]
      else env.listeners .sceneUpdate := by
  intro ran
  obtain ⟨c, hrole, rfl⟩ := Environment.exists_clock hclock
  rcases run_configure_clock h hrole context with ⟨failure, hran⟩ | ⟨logEvery, hran⟩
  · rw [show ran = _ from hran]
    rfl
  · have htoken : c.subscription = env.tokenOf system := by
      rw [Environment.tokenOf, hrole]
      rfl
    rw [show ran = _ from hran, htoken]
    exact listeners_resubscribed h system

end Configurations

section Instances

/-- A configuration makes its one call and reports how it went, or it makes none. -/
theorem configure_cases {G : Guest} (b : Behavior G) (i : Instance G) (config : Option Payload)
    (env : Environment G) :
    (i.configuring b config env = [] ∧
      ∃ journal, (i.configure b config env).2 = { env with journal := journal }) ∨
    (i.configuring b config env = [⟨.configure (i.prepare config), env⟩] ∧
      ∃ journal, (i.configure b config env).2 = { (b.run .full (b.configure i.attachment.system
        ⟨i.handle, i.entity, config.getD i.config⟩) env).2 with journal := journal }) := by
  unfold Instance.configuring Instance.configure
  simp only [show (i.prepare config).capabilities = i.capabilities from rfl]
  split
  · unfold Behavior.calling Instance.call
    simp only [show (i.prepare config).attachment = i.attachment from rfl]
    split
    · right
      refine ⟨rfl, ?_⟩
      rcases hran : b.run .full (b.configure i.attachment.system
        ⟨i.handle, i.entity, config.getD i.config⟩) env with ⟨outcome, left⟩
      have hran' : b.run .full (b.configure i.attachment.system ⟨(i.prepare config).handle,
        (i.prepare config).entity, (i.prepare config).config⟩) env = (outcome, left) := hran
      simp only [hran']
      cases outcome.toExcept <;> exact ⟨_, rfl⟩
    · exact .inl ⟨rfl, _, rfl⟩
  · exact .inl ⟨rfl, _, rfl⟩

/-- Whether one of some runs of guest code is a call that succeeds. -/
def anySucceeds {G : Guest} (b : Behavior G) (guestRuns : List (GuestRun G)) : Bool :=
  guestRuns.any fun s => !s.fails b

/-- **The engine configures a built-in system.** -/
theorem adjusted_instance_configure (h : env.ClocksConnected) (i : Instance cast)
    (config : Option Payload) :
    Adjusted i.attachment.system
      (Watch.configured env.nextConnection
        (anySucceeds behavior (i.configuring behavior config env)))
      env (i.configure behavior config env).2 := by
  rcases configure_cases behavior i config env with
    ⟨hcalls, journal, hleft⟩ | ⟨hcalls, journal, hleft⟩
  · rw [hcalls, hleft]
    have hreported : Undisturbed env { env with journal := journal } :=
      .of_members { h with } rfl rfl
    exact hreported.adjusted fun _ _ => rfl
  · have hadjusted := adjusted_configure h i.attachment.system
      ⟨i.handle, i.entity, config.getD i.config⟩
    rw [hcalls, hleft]
    simp only [anySucceeds, List.any_cons, List.any_nil, Bool.or_false, GuestRun.fails,
      Bool.not_not]
    exact hadjusted.later (.of_members { hadjusted.clocksConnected with } rfl rfl)

/-- **The subscribers after the engine has configured a clock.** -/
theorem listeners_instance_configure (h : env.ClocksConnected) (i : Instance cast) {watch : Watch}
    (hclock : env.standing i.attachment.system = some (some watch)) (config : Option Payload) :
    (i.configure behavior config env).2.listeners .sceneUpdate =
      if anySucceeds behavior (i.configuring behavior config env) then
        env.otherListeners i.attachment.system ++
          [⟨env.nextConnection.id, .guest (.clock i.attachment.system)⟩]
      else env.listeners .sceneUpdate := by
  rcases configure_cases behavior i config env with
    ⟨hcalls, journal, hleft⟩ | ⟨hcalls, journal, hleft⟩
  · rw [hcalls, hleft]
    rfl
  · rw [hcalls, hleft]
    simp only [anySucceeds, List.any_cons, List.any_nil, Bool.or_false, GuestRun.fails,
      Bool.not_not]
    exact listeners_configure h hclock ⟨i.handle, i.entity, config.getD i.config⟩

/-- The engine has a built-in system declare its parameters. -/
theorem undisturbed_instance_configureParameters (h : env.ClocksConnected) (i : Instance cast) :
    Undisturbed env (i.configureParameters behavior env).2 := by
  obtain ⟨left, journal, hleft, hdeclare⟩ := exists_configureParameters_env behavior i env
  rw [hdeclare]
  rcases hleft with rfl | rfl
  · exact .of_members { h with } rfl rfl
  · have hdeclared := undisturbed_configureParameters h i.attachment.system .full
    exact hdeclared.trans (.of_members { hdeclared.clocksConnected with } rfl rfl)

/-- **The engine attaches a built-in system**, and configures it first of all. -/
theorem adjusted_attachAs {e : Engine cast} (h : e.env.ClocksConnected) (handle : Handle)
    (a : Attachment cast) (entity : Entity) (config : Payload) :
    let made := e.newcomer behavior handle a entity config
    Adjusted a.system
      (Watch.configured e.env.nextConnection
        (anySucceeds behavior (made.1.configuring behavior none made.2)))
      e.env (e.attachAs behavior handle a entity config).env := by
  intro made
  have hcreated : made.2.ClocksConnected := h.setQueryList handle rfl
  have hconfigured := adjusted_instance_configure hcreated made.1 none
  have hdeclared := undisturbed_instance_configureParameters hconfigured.clocksConnected
    (made.1.configure behavior none made.2).1
  have hreported : Undisturbed _ (e.attachAs behavior handle a entity config).env :=
    hdeclared.trans (.of_members { hdeclared.clocksConnected with } rfl rfl)
  exact (hconfigured.later hreported).sooner (.of_members hcreated rfl rfl) rfl

end Instances

end SimEngine
