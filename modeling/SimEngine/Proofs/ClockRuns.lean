import SimEngine.Proofs.ClockActs
import SimEngine.Proofs.StepFrames

/-!
# Clocks in runs

A host attaches clocks by name or by the queue, configures them anew with any
payload, detaches them, clears the engine, runs steps and has scene updates
emitted.  At each moment, as many clocks are connected to scene updates as are
attached and were once configured with success, each of them once.  A scene
update then shows these clocks the time of the step that called them last, and
changes nothing else that is remembered.

**Definitions.**
* `Operation.IsOrdinary`: what such a host does.
* `Engine.Vacant`: an engine to begin with.
* `Engine.listening`: the attached clocks that were once configured with success.
* `KeepsTicking`: clocks go by their past before and after the acts of a row.

**Results.**
* `keepsTicking_operation`, `ticking_history`: clocks tick throughout a run.
* `Ticking.hearers_perm`, `Ticking.role?_shown`: who is connected, and what a
  scene update comes to.
* `clocks_hear_scene_updates`: so it is at each moment of a run.
-/

namespace SimEngine

open Cast (behavior)

/--
What a host does that attaches built-in systems by name or by the queue, and leaves subscriptions
alone.
-/
def Operation.IsOrdinary : Operation cast → Prop
  | .attach _ _ _ | .arrange _ => False
  | .run _ program => program.AttachesBuiltins Request.IsOrdinary
  | _ => True

/-- Built-in systems can be loaded, and none is attached, queued or remembered yet. -/
structure Engine.Vacant (e : Engine cast) : Prop where
  clocksConnected : e.env.ClocksConnected
  unattached : e.scheduler.all = []
  unqueued : queuedIn e.env.commands = []
  unknown : ∀ system, e.env.memory.role? system = none

/-- The attached clocks that were configured with success since the past began. -/
def Engine.listening (e : Engine cast) (past : List (Moment cast)) : List (Instance cast) :=
  e.scheduler.all.filter fun i =>
    (e.env.clock? i.attachment.system).isSome && configuredIn behavior past i.handle

/-- Clocks go by their past before each act of a row, and after the last one. -/
def KeepsTicking (past : List (Moment cast)) (e : Engine cast) (acts : List (Act cast)) : Prop :=
  ∀ done todo, e.moments behavior acts = done ++ todo →
    ∃ next, Ticking (past ++ done) next (lastOf (Moment.after behavior) e done) ∧
      (todo = [] → next = [])

variable {past : List (Moment cast)} {acts : List (Act cast)} {e final : Engine cast}
  {later : List (Moment cast)}

section Rows

/-- **Ordinary acts keep clocks ticking**, up to each of them. -/
theorem ticking_moments (hacts : ∀ act ∈ acts, act.IsOrdinary) (h : Ticking past acts e)
    (hchronicle : Chronicle behavior (past ++ (e.moments behavior acts ++ later)) final)
    {done todo : List (Moment cast)} (hsplit : e.moments behavior acts = done ++ todo) :
    Ticking (past ++ done) (todo.map Moment.act) (lastOf (Moment.after behavior) e done) := by
  induction acts generalizing past e done with
  | nil =>
      obtain ⟨rfl, rfl⟩ := List.append_eq_nil_iff.1 hsplit.symm
      rw [List.append_nil]
      exact h
  | cons act rest ih =>
      cases done with
      | nil =>
          rw [List.nil_append] at hsplit
          rw [← hsplit, map_act_moments, List.append_nil]
          exact h
      | cons m done =>
          obtain ⟨rfl, hrest⟩ := List.cons.inj hsplit
          obtain ⟨hpast, hproper, -⟩ := hchronicle.split
          have hdone := h.perform (hacts act List.mem_cons_self) hpast hproper
          rw [List.append_cons]
          refine ih (fun other hother => hacts other (List.mem_cons_of_mem act hother)) hdone ?_
            hrest
          rw [List.append_assoc]
          exact hchronicle

theorem keepsTicking_of_ordinary (hacts : ∀ act ∈ acts, act.IsOrdinary)
    (h : Ticking past acts e)
    (hchronicle : Chronicle behavior (past ++ (e.moments behavior acts ++ later)) final) :
    KeepsTicking past e acts := by
  intro done todo hsplit
  refine ⟨_, ticking_moments hacts h hchronicle hsplit, ?_⟩
  rintro rfl
  rfl

/-- A row may begin with an act that is not ordinary. -/
theorem keepsTicking_cons {act : Act cast} (hacts : ∀ act ∈ acts, act.IsOrdinary)
    (hbefore : Ticking past [] e)
    (h : Ticking (past ++ [⟨e, act⟩]) acts (e.perform behavior act))
    (hchronicle : Chronicle behavior (past ++ (e.moments behavior (act :: acts) ++ later)) final) :
    KeepsTicking past e (act :: acts) := by
  intro done todo hsplit
  cases done with
  | nil =>
      rw [List.append_nil]
      exact ⟨[], hbefore, fun _ => rfl⟩
  | cons m done =>
      obtain ⟨rfl, hrest⟩ := List.cons.inj hsplit
      have hrow : Chronicle behavior (past ++ [⟨e, act⟩] ++
          ((e.perform behavior act).moments behavior acts ++ later)) final := by
        rw [List.append_assoc]
        exact hchronicle
      obtain ⟨next, hnext, hend⟩ := keepsTicking_of_ordinary hacts h hrow done todo hrest
      rw [List.append_assoc] at hnext
      exact ⟨next, hnext, hend⟩

end Rows

section Operations

/-- A system that is loaded waits to be attached. -/
theorem keepsTicking_loadAndAttach (h : Ticking past [] e) (spec : PluginSpec)
    (hchronicle : Chronicle behavior
      (past ++ (e.momentsOf behavior (.loadAndAttach spec) ++ later)) final) :
    KeepsTicking past e (e.actsOf behavior (.loadAndAttach spec)) := by
  have hidle : ∀ handle (watch : Watch), watch.Told past handle →
      watch.Told (past ++ [⟨e, .load spec⟩]) handle :=
    fun handle watch htold => htold.unaddressed (by simp [Act.addressee?])
  rcases load_cases h.clocksConnected spec with ⟨cause, hload⟩ | ⟨a, left, hload, hmade, hcommands⟩
  · have hsame : (e.perform behavior (.load spec)).env = e.env := congrArg Prod.snd hload
    simp only [Engine.momentsOf, Engine.actsOf, hload] at hchronicle ⊢
    refine keepsTicking_cons (List.forall_mem_nil _) h ?_ hchronicle
    have hnext : Ticking past [.load spec] e := h.congr rfl
    exact hnext.keep rfl (by rw [hsame]; exact .refl h.clocksConnected) rfl hidle
  · have hafter : e.perform behavior (.load spec) = { e with env := left } := by
      simp only [Engine.perform, hload]
    simp only [Engine.momentsOf, Engine.actsOf, hload] at hchronicle ⊢
    refine keepsTicking_cons (fun act hact => ?_) h ?_ hchronicle
    · rcases List.mem_pair.1 hact with rfl | rfl <;> trivial
    · rw [hafter]
      refine ⟨hmade.clocksConnected, ?_, fun i hi watch hwatch => ?_⟩
      · show Placed (a :: queuedIn left.commands) e.attachments left
        rw [hcommands]
        exact h.placed.join hmade
      · have hother : i.attachment.system ≠ a.system := by
          intro heq
          obtain ⟨before, hbefore⟩ := h.exists_standing hi
          rw [heq, hmade.new] at hbefore
          cases hbefore
        rw [hmade.others _ hother] at hwatch
        exact hidle i.handle watch (h.told i hi watch hwatch)

/-- What waits in the queue is attached by the acts of a step. -/
theorem keepsTicking_step (h : Ticking past [] e) (info : StepInfo)
    (hchronicle : Chronicle behavior (past ++ (e.momentsOf behavior (.step info) ++ later)) final) :
    KeepsTicking past e (e.actsOf behavior (.step info)) := by
  obtain ⟨turns, hacts, hturns⟩ := stepActs_eq (b := behavior) e info
  have hunderway : underway turns = [] := by
    refine List.filterMap_eq_nil_iff.2 fun act hact => ?_
    obtain ⟨failed, slot, rfl⟩ := hturns act hact
    rfl
  simp only [Engine.momentsOf, Engine.actsOf, hacts] at hchronicle ⊢
  refine keepsTicking_cons (fun act hact => ?_) h ⟨?_, ?_, fun i hi watch hwatch => ?_⟩ hchronicle
  · rcases List.mem_append.1 hact with hact | hact
    · obtain ⟨command, -, rfl⟩ := List.mem_map.1 hact
      trivial
    · rcases List.mem_cons.1 hact with rfl | hact
      · trivial
      · obtain ⟨failed, slot, rfl⟩ := hturns act hact
        trivial
  · exact { h.clocksConnected with }
  · have hqueued : underway (e.env.commands.map (.carryOut .queue) ++ .admitAll :: turns) =
        queuedIn e.env.commands := by
      rw [underway_append, underway_carryOut]
      exact (congrArg _ hunderway).trans (List.append_nil _)
    rw [hqueued]
    show Placed (queuedIn e.env.commands ++ []) e.attachments _
    rw [List.append_nil]
    exact h.placed.congr fun _ => rfl
  · exact (h.told i hi watch hwatch).unaddressed (by simp [Act.addressee?])

/-- **Operations keep clocks ticking**, also in between their acts. -/
theorem keepsTicking_operation (h : Ticking past [] e) {operation : Operation cast}
    (hordinary : operation.IsOrdinary)
    (hchronicle : Chronicle behavior (past ++ (e.momentsOf behavior operation ++ later)) final) :
    KeepsTicking past e (e.actsOf behavior operation) := by
  cases operation with
  | loadAndAttach spec => exact keepsTicking_loadAndAttach h spec hchronicle
  | step info => exact keepsTicking_step h info hchronicle
  | clear =>
      have hexpel : ∀ act ∈ e.actsOf behavior .clear, act = .expel :=
        fun act hact => List.eq_of_mem_replicate hact
      refine keepsTicking_of_ordinary (fun act hact => hexpel act hact ▸ trivial) (h.congr ?_)
        hchronicle
      exact List.filterMap_eq_nil_iff.2 fun act hact => hexpel act hact ▸ rfl
  | detach handle =>
      exact keepsTicking_of_ordinary (List.forall_mem_singleton.2 trivial) (h.congr rfl) hchronicle
  | reconfigure handle config =>
      exact keepsTicking_of_ordinary (List.forall_mem_singleton.2 trivial) (h.congr rfl) hchronicle
  | run access program =>
      exact keepsTicking_of_ordinary (List.forall_mem_singleton.2 hordinary) (h.congr rfl)
        hchronicle
  | attach a entity config => exact hordinary.elim
  | arrange a => exact hordinary.elim

/-- **Clocks tick throughout a run.** -/
theorem ticking_history {operations : List (Operation cast)}
    (hordinary : ∀ operation ∈ operations, operation.IsOrdinary) (h : Ticking past [] e)
    (hchronicle : Chronicle behavior (past ++ e.history behavior operations) final)
    {done : List (Moment cast)} (hdone : done <+: e.history behavior operations) :
    ∃ next, Ticking (past ++ done) next (lastOf (Moment.after behavior) e done) := by
  induction operations generalizing past e done with
  | nil =>
      rw [List.prefix_nil.1 hdone, List.append_nil]
      exact ⟨[], h⟩
  | cons operation rest ih =>
      have hrow := keepsTicking_operation h (hordinary operation List.mem_cons_self) hchronicle
      obtain ⟨todo, hsplit⟩ := hdone
      -- The past ends within the first operation, or it goes beyond.
      rcases List.append_eq_append_iff.1 hsplit with ⟨mid, hnow, -⟩ | ⟨mid, rfl, hrest⟩
      · obtain ⟨next, hnext, -⟩ := hrow done mid hnow
        exact ⟨next, hnext⟩
      · obtain ⟨next, hnext, hend⟩ := hrow (e.momentsOf behavior operation) []
          (List.append_nil _).symm
        obtain rfl := hend rfl
        have hreached : lastOf (Moment.after behavior) e (e.momentsOf behavior operation) =
            e.operate behavior operation :=
          (accounts_operation (b := behavior) e h.clocksConnected.alive
            operation).1.linked.lastOf_eq
        rw [hreached] at hnext
        rw [lastOf_append, hreached, ← List.append_assoc]
        refine ih (fun other hother => hordinary other (List.mem_cons_of_mem operation hother))
          hnext ?_ ⟨todo, hrest.symm⟩
        rw [List.append_assoc]
        exact hchronicle

end Operations

section SceneUpdates

/-- In a vacant engine no clock is late. -/
theorem Engine.Vacant.ticking (h : e.Vacant) (past : List (Moment cast)) : Ticking past [] e where
  clocksConnected := h.clocksConnected
  placed := by
    have hnobody : e.attachments = [] := by
      rw [Engine.attachments, h.unattached]
      rfl
    rw [h.unqueued, hnobody]
    refine ⟨List.nodup_nil, List.forall_mem_nil _, fun system => ?_, List.forall_mem_nil _⟩
    rw [Environment.standing_of_none (h.unknown system)]
    exact iff_of_false (fun hnone => by cases hnone) List.not_mem_nil
  told i hi := by
    rw [h.unattached] at hi
    cases hi

/-- What a clock goes by is its watch. -/
theorem Environment.exists_standing {env : Environment cast} {system : SystemId}
    (h : (env.clock? system).isSome = true) :
    ∃ c, env.memory.role? system = some (.simClock c) ∧
      env.standing system = some (some c.watch) := by
  obtain ⟨c, hclock⟩ := Option.isSome_iff_exists.1 h
  obtain ⟨role, hrole, hc⟩ := Option.bind_eq_some_iff.1 hclock
  cases role with
  | simClock c' => exact ⟨c', hrole, env.standing_of_role hrole⟩
  | _ => cases hc

namespace Ticking

/-- A clock that is attached holds a subscription if it was once configured with success. -/
theorem isSome_tokenOf_iff (h : Ticking past acts e) (system : SystemId) :
    (e.env.tokenOf system).isSome = true ↔
      system ∈ (e.listening past).map fun i => i.attachment.system := by
  rw [Environment.tokenOf_eq_standing, List.mem_map]
  constructor
  · intro hsome
    obtain ⟨connection, hheld⟩ := Option.isSome_iff_exists.1 hsome
    obtain ⟨watch, hwatch, hsubscription⟩ := Option.bind_eq_some_iff.1 hheld
    have hstanding := Option.join_eq_some_iff.1 hwatch
    have hplace := (h.placed.known system).1 (by rw [hstanding]; rfl)
    rw [List.map_append, List.mem_append] at hplace
    -- Whoever waits is as it was made, and holds no subscription yet.
    rcases hplace with hwaiting | hattached
    · obtain ⟨a, ha, rfl⟩ := List.mem_map.1 hwaiting
      rw [h.placed.fresh a ha watch hstanding] at hsubscription
      cases hsubscription
    · obtain ⟨a, ha, rfl⟩ := List.mem_map.1 hattached
      obtain ⟨i, hi, rfl⟩ := List.mem_map.1 ha
      obtain ⟨c, hrole, -⟩ := e.env.exists_clock hstanding
      refine ⟨i, List.mem_filter.2 ⟨hi, ?_⟩, rfl⟩
      rw [← (h.told i hi watch hstanding).subscription, hsubscription, Environment.clock?, hrole]
      rfl
  · rintro ⟨i, hi, rfl⟩
    obtain ⟨hi, hlistening⟩ := List.mem_filter.1 hi
    rw [Bool.and_eq_true] at hlistening
    obtain ⟨c, -, hstanding⟩ := e.env.exists_standing hlistening.1
    rw [hstanding]
    exact (h.told i hi c.watch hstanding).subscription.trans hlistening.2

/-- **The clocks that are connected** are those that were once configured with success. -/
theorem hearers_perm (h : Ticking past acts e) :
    e.env.hearers.Perm ((e.listening past).map fun i => i.attachment.system) := by
  have hdistinct := h.placed.distinct
  rw [List.map_append, List.nodup_append', Engine.attachments, List.map_map] at hdistinct
  refine (List.perm_ext_iff_of_nodup h.clocksConnected.nodup_hearers
    (hdistinct.2.1.sublist (List.filter_sublist.map _))).2 fun system => ?_
  exact h.clocksConnected.mem_hearers_iff.trans (h.isSome_tokenOf_iff system)

/-- **A scene update shows a clock the time of the step that called it last.** -/
theorem role?_shown (h : Ticking past acts e) {i : Instance cast} (hi : i ∈ e.listening past) :
    ∃ c, e.env.memory.role? i.attachment.system = some (.simClock c) ∧
      (behavior.emit .sceneUpdate e.env).2.memory.role? i.attachment.system =
        some (.simClock { c with
          frames := c.frames + 1
          rendered := some (lastTickIn behavior past i.handle) }) := by
  obtain ⟨hthere, hlistening⟩ := List.mem_filter.1 hi
  rw [Bool.and_eq_true] at hlistening
  obtain ⟨c, hrole, hstanding⟩ := e.env.exists_standing hlistening.1
  refine ⟨c, hrole, ?_⟩
  rw [role?_emit h.clocksConnected, if_pos ((h.isSome_tokenOf_iff _).2 (List.mem_map_of_mem hi)),
    hrole, ← (h.told i hthere c.watch hstanding).simTime]
  rfl

/-- **A clock that is configured anew has its new subscription, or the old one.** -/
theorem listeners_reconfigure (h : Ticking past acts e) (hdistinct : e.scheduler.handles.Nodup)
    {i : Instance cast} (hi : i ∈ e.scheduler.all)
    (hclock : (e.env.clock? i.attachment.system).isSome = true) (config : Option Payload) :
    (Moment.after behavior ⟨e, .reconfigure i.handle config⟩).env.listeners .sceneUpdate =
      if anySucceeds behavior (Moment.guestRunsFor behavior ⟨e, .reconfigure i.handle config⟩
          i.handle (.capability .configure)) then
        e.env.otherListeners i.attachment.system ++
          [⟨e.env.nextConnection.id, .guest (.clock i.attachment.system)⟩]
      else e.env.listeners .sceneUpdate := by
  obtain ⟨c, -, hstanding⟩ := e.env.exists_standing hclock
  have hfind := (instance?_eq_some_iff hdistinct i.handle i).2 ⟨hi, rfl⟩
  have hafter : (Moment.after behavior ⟨e, .reconfigure i.handle config⟩).env =
      (i.configure behavior config e.env).2 := by
    simp only [Moment.after, Engine.perform, Engine.reconfigure, hfind]
  rw [hafter, guestRunsFor_reconfigure hfind, if_pos rfl]
  exact listeners_instance_configure h.clocksConnected i hstanding config

end Ticking

/--
What becomes of the subscribers to scene updates when a clock is configured anew, and when an
instance leaves.  The former keeps its subscription if it fails, and replaces it otherwise.
-/
structure Moment.Rewires (m : Moment cast) : Prop where
  reconfigured : ∀ i ∈ m.before.scheduler.all,
    (m.before.env.clock? i.attachment.system).isSome = true → ∀ config,
      m.act = .reconfigure i.handle config →
        (m.after behavior).env.listeners .sceneUpdate =
          if anySucceeds behavior
              (m.guestRunsFor behavior i.handle (.capability .configure)) then
            m.before.env.otherListeners i.attachment.system ++
              [⟨m.before.env.nextConnection.id, .guest (.clock i.attachment.system)⟩]
          else m.before.env.listeners .sceneUpdate
  departed : ∀ i env, m.departure? = some (i, env) →
    (m.after behavior).env.listeners .sceneUpdate =
      m.before.env.otherListeners i.attachment.system

/--
**Scene updates reach the clocks that were once configured with success.**  Take an engine to begin
with, and a host that attaches built-in systems by name or by the queue, configures them anew with
any payload, detaches them, clears the engine, runs steps, and has code run by which scene updates
may be emitted.  Look at any moment of this run; code that is cut short is another such run.

The attached systems are different ones.  The connections that clocks have to scene updates are one
for each attached clock that was configured with success at least once, and no other.  A scene
update counts one frame more for each of these clocks, shows it the time of the step that called it
last before updates, or zero if none did, and leaves all else that is remembered of systems as it
is.  When a clock is configured anew, its subscription stays as it was if that fails, and is
replaced by one new subscription if it succeeds; one that leaves takes its subscription along.
-/
theorem clocks_hear_scene_updates (c : Course cast) (hvacant : (c.engine behavior).Vacant)
    {operations : List (Operation cast)}
    (hordinary : ∀ operation ∈ operations, operation.IsOrdinary) {done : List (Moment cast)}
    (hdone : done <+: (c.engine behavior).history behavior operations) :
    let past := c.past behavior ++ done
    let e := lastOf (Moment.after behavior) (c.engine behavior) done
    let listening := (e.listening past).map fun i => i.attachment.system
    let shown := (behavior.emit .sceneUpdate e.env).2
    (e.attachments.map Attachment.system).Nodup ∧
    e.env.hearers.Perm listening ∧
    (∀ i ∈ e.listening past, ∃ clock,
      e.env.memory.role? i.attachment.system = some (.simClock clock) ∧
      shown.memory.role? i.attachment.system = some (.simClock { clock with
        frames := clock.frames + 1
        rendered := some (lastTickIn behavior past i.handle) })) ∧
    (∀ system, system ∉ listening →
      shown.memory.role? system = e.env.memory.role? system) ∧
    ∀ m, done ++ [m] <+: (c.engine behavior).history behavior operations →
      m.before = e ∧ m.Rewires := by
  intro past e listening shown
  have hchronicle := (c.go operations).chronicle behavior
  rw [c.past_go, c.engine_go] at hchronicle
  obtain ⟨next, hticking⟩ :=
    ticking_history hordinary (hvacant.ticking (c.past behavior)) hchronicle hdone
  replace hticking : Ticking past next e := hticking
  have hdistinct := hticking.placed.distinct
  rw [List.map_append, List.nodup_append'] at hdistinct
  refine ⟨hdistinct.2.1, hticking.hearers_perm, fun i hi => hticking.role?_shown hi,
    fun system hsystem => ?_, fun m hm => ?_⟩
  · have hnone := mt (hticking.isSome_tokenOf_iff system).1 hsystem
    exact (role?_emit hticking.clocksConnected system).trans (if_neg hnone)
  · obtain ⟨future, hsplit⟩ := hm
    rw [List.append_assoc] at hsplit
    have hlinked := (accounts_history (b := behavior) (c.engine behavior)
      hvacant.clocksConnected.alive operations).1.linked
    rw [← hsplit] at hlinked
    have hbefore : m.before = e := (hlinked.split).1.lastOf_eq.symm
    rw [← hsplit, ← List.append_assoc] at hchronicle
    obtain ⟨hpast, -, -⟩ := hchronicle.split
    refine ⟨hbefore, ?_, fun i env hdeparture => ?_⟩
    · obtain ⟨before, act⟩ := m
      obtain rfl : before = e := hbefore
      rintro i hi hclock config rfl
      exact hticking.listeners_reconfigure hpast.nodup_handles hi hclock config
    · rw [← hbefore] at hticking
      exact (hticking.ended_departure hdeparture).listeners

end SceneUpdates

namespace Cast

/-- A clock for no entity, with a payload. -/
def timepiece (config : Payload) : PluginSpec :=
  ⟨"sim_clock", .null, config⟩

/-- A payload that no clock takes. -/
def fussy : Payload :=
  ⟨.ofMembers [("log_every_frames", .str "often")]⟩

/-- A step at the end of a sixtieth of a second. -/
def sixtiethStep : StepInfo :=
  { StepInfo.first .sixtieth with simTime := .sixtieth }

/-- The plugins that come with the engine are known. -/
def opening : Course cast :=
  ⟨Memory.empty, [.arrange bare]⟩

/--
Of two clocks that are loaded the first one is refused, and a third one is queued.  After a step the
first clock is configured anew with success, and the second one without.
-/
def rehearsal : List (Operation cast) :=
  [.loadAndAttach (timepiece fussy), .loadAndAttach (timepiece .empty),
    .run .none (performAll hostScope [.attach ⟨.builtin .simClock, false, .null, .empty⟩]),
    .step sixtiethStep, .reconfigure ⟨1⟩ (some .empty), .reconfigure ⟨2⟩ (some fussy)]

theorem vacant_opening : (opening.engine behavior).Vacant where
  clocksConnected :=
    { alive := rfl
      quiet := fun _ => rfl
      resting := fun _ => rfl
      orderly := fun _ => Channel.Orderly.empty
      factories := fun name factory hfactory => by
        obtain ⟨builtin, -, rfl⟩ :=
          Option.map_eq_some_iff.1 ((find?_loader name).symm.trans hfactory)
        exact ⟨builtin, rfl⟩
      builtin := fun _ _ hrole => by cases hrole
      loops := fun _ _ _ hs => by cases hs
      clocks := fun _ hs => by cases hs
      held := fun _ _ htoken => by cases htoken }
  unattached := rfl
  unqueued := rfl
  unknown := fun _ => rfl

theorem ordinary_rehearsal : ∀ operation ∈ rehearsal, operation.IsOrdinary := by
  have hqueued : (performAll hostScope
      [.attach ⟨.builtin .simClock, false, .null, .empty⟩]).AttachesBuiltins Request.IsOrdinary :=
    ordinary_performAll ⟨rfl, rfl, rfl⟩ (List.forall_mem_singleton.2 ⟨rfl, .simClock, rfl⟩)
  simp [rehearsal, Operation.IsOrdinary, hqueued]

end Cast

theorem clocks_hear_scene_updates_rehearsal :
    (Cast.opening.engine behavior).Vacant ∧
    (∀ operation ∈ Cast.rehearsal ++ [.detach ⟨2⟩], operation.IsOrdinary) ∧
    let done := (Cast.opening.engine behavior).history behavior Cast.rehearsal
    let past := Cast.opening.past behavior ++ done
    let e := lastOf (Moment.after behavior) (Cast.opening.engine behavior) done
    done <+: (Cast.opening.engine behavior).history behavior
      (Cast.rehearsal ++ [.detach ⟨2⟩]) ∧
    (e.listening past).map (fun i =>
        (i.handle, i.attachment.system, lastTickIn behavior past i.handle)) =
      [(⟨1⟩, ⟨0⟩, .sixtieth), (⟨2⟩, ⟨1⟩, .sixtieth), (⟨3⟩, ⟨2⟩, .sixtieth)] ∧
    e.env.hearers.Perm [⟨0⟩, ⟨1⟩, ⟨2⟩] ∧
    ∃ m : Moment cast, m.act = .carryOut .host (.detach ⟨2⟩) ∧
      (m.after behavior).env.listeners .sceneUpdate = e.env.otherListeners ⟨1⟩ := by
  have hordinary : ∀ operation ∈ Cast.rehearsal ++ [.detach ⟨2⟩], operation.IsOrdinary :=
    List.forall_mem_append.2 ⟨Cast.ordinary_rehearsal, List.forall_mem_singleton.2 trivial⟩
  have hhistory := history_append behavior (Cast.opening.engine behavior) Cast.rehearsal
    [.detach ⟨2⟩]
  have hdone : (Cast.opening.engine behavior).history behavior Cast.rehearsal <+:
      (Cast.opening.engine behavior).history behavior (Cast.rehearsal ++ [.detach ⟨2⟩]) := by
    rw [hhistory]
    exact List.prefix_append _ _
  obtain ⟨-, hhearers, -, -, hnext⟩ :=
    clocks_hear_scene_updates Cast.opening Cast.vacant_opening hordinary hdone
  refine ⟨Cast.vacant_opening, hordinary, ?_⟩
  intro done past e
  have hlistening : (e.listening past).map (fun i =>
        (i.handle, i.attachment.system, lastTickIn behavior past i.handle)) =
      [(⟨1⟩, ⟨0⟩, .sixtieth), (⟨2⟩, ⟨1⟩, .sixtieth), (⟨3⟩, ⟨2⟩, .sixtieth)] := by
    decide +kernel
  let m : Moment cast := ⟨(Cast.opening.engine behavior).operateAll behavior Cast.rehearsal,
    .carryOut .host (.detach ⟨2⟩)⟩
  have hm : done ++ [m] <+: (Cast.opening.engine behavior).history behavior
      (Cast.rehearsal ++ [.detach ⟨2⟩]) := by
    rw [hhistory]
    exact List.prefix_refl _
  refine ⟨hdone, hlistening, ?_, m, rfl, ?_⟩
  · have hsystems : (e.listening past).map (fun i => i.attachment.system) = [⟨0⟩, ⟨1⟩, ⟨2⟩] := by
      have hsecond := congrArg (List.map fun entry => entry.2.1) hlistening
      rw [List.map_map] at hsecond
      exact hsecond
    rw [← hsystems]
    exact hhearers
  · obtain ⟨hbefore, hrewires⟩ := hnext m hm
    have hsystem : m.departure?.map (fun departure => departure.1.attachment.system) =
        some ⟨1⟩ := by decide +kernel
    obtain ⟨⟨i, env⟩, hdeparture, hi⟩ := Option.map_eq_some_iff.1 hsystem
    have hlisteners := hrewires.departed i env hdeparture
    rw [hbefore] at hlisteners
    exact hi ▸ hlisteners

end SimEngine
