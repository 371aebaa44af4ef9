import SimEngine.Proofs.Arrivals
import SimEngine.Proofs.Custody

/-!
# Clocks and the acts of an engine

The past of an engine tells how often a clock was configured with success, and
which step called it last before updates.  A clock goes by that: it holds a
subscription once a configuration has succeeded, and shows the time of the step
that called it last.  Each act keeps this so, be it an attachment, a departure,
a turn in a step, or a configuration that may fail.

**Definitions.**
* `Act.addressee?`: the instance that an act may call.
* `configuredIn`, `lastTickIn`: what the past tells of an instance.
* `Watch.Told`: a watch is what the past tells.
* `Ticking`: all clocks of an engine go by their past.

**Results.**
* `guestRunsFor_of_ne`, `guestRunsFor_turn_of_ne`, `guestRunsFor_attach`,
  `guestRunsFor_reconfigure`: which calls an act makes.
* `Ticking.keep`, `Ticking.adjust`, `Ticking.depart`, `Ticking.attach`: what acts
  of one kind and another come to.
* `Ticking.perform`: an act keeps clocks ticking.
-/

namespace SimEngine

open Cast (behavior)

section Calls

variable {G : Guest} {b : Behavior G}

/-- The instance that an act may call. -/
def Act.addressee? : Act G → Option Handle
  | .carryOut _ (.attach handle _ _ _) => some handle
  | .reconfigure handle _ => some handle
  | .turn _ _ slot => some slot.2.handle
  | _ => none

/-- The time that is told in a call of a phase. -/
def GuestRun.time? (s : GuestRun G) : Option Duration :=
  match s.purpose with
  | .phase _ info _ => some info.simTime
  | _ => none

/-- Whether a configuration of an instance has succeeded. -/
def configuredIn (b : Behavior G) (past : List (Moment G)) (handle : Handle) : Bool :=
  anySucceeds b (guestRunsFor b past handle (.capability .configure))

/-- The time of the step that called an instance last before updates; zero if none did. -/
def lastTickIn (b : Behavior G) (past : List (Moment G)) (handle : Handle) : Duration :=
  ((guestRunsFor b past handle StepPhase.preUpdate.stage).getLast?.bind GuestRun.time?).getD .zero

theorem GuestRun.callFor?_isSome_iff {s : GuestRun G} {handle : Handle} {stage : Stage} :
    (s.callFor? handle stage).isSome = true ↔
      ∃ i, s.purpose.call? = some (i, stage) ∧ i.handle = handle := by
  unfold callFor?
  split
  · rename_i i other hcall
    rw [hcall]
    split
    · rename_i hsame
      obtain ⟨rfl, rfl⟩ := hsame
      exact iff_of_true rfl ⟨i, rfl, rfl⟩
    · rename_i hother
      refine iff_of_false (fun h => by cases h) ?_
      rintro ⟨j, heq, rfl⟩
      obtain ⟨rfl, rfl⟩ := Prod.mk.inj (Option.some.inj heq)
      exact hother ⟨rfl, rfl⟩
  · rename_i hnone
    rw [hnone]
    exact iff_of_false (fun h => by cases h) fun ⟨_, heq, _⟩ => by cases heq

/-- An act calls its addressee only. -/
theorem guestRunsFor_of_ne {m : Moment G} {handle : Handle} (h : m.act.addressee? ≠ some handle)
    (stage : Stage) : m.guestRunsFor b handle stage = [] := by
  refine List.filter_eq_nil_iff.2 fun s hs hcalled => h ?_
  obtain ⟨i, hcall, rfl⟩ := GuestRun.callFor?_isSome_iff.1 hcalled
  rcases call_cases hs hcall with
    ⟨_, _, _, _, hact⟩ | ⟨_, _, hact, _⟩ | ⟨_, _, _, hact, _⟩ <;> rw [hact] <;> rfl

/-- A turn makes calls of its stage only. -/
theorem guestRunsFor_turn_of_ne {e : Engine G} {info : StepInfo} {failed : List Handle}
    {slot : Pass × Instance G} {stage : Stage} (h : slot.1.stage ≠ stage) (handle : Handle) :
    Moment.guestRunsFor b ⟨e, .turn info failed slot⟩ handle stage = [] := by
  refine List.filter_eq_nil_iff.2 fun s hs hcalled => h ?_
  obtain ⟨i, hcall, -⟩ := GuestRun.callFor?_isSome_iff.1 hcalled
  rw [call?_of_mem_turn hs] at hcall
  rw [← (slot_turn b info failed slot e.env).1]
  exact (Prod.mk.inj (Option.some.inj hcall)).2

/-- What a configuration calls is called for the instance, and to configure it. -/
theorem filter_configuring (i : Instance G) (config : Option Payload) (env : Environment G)
    (stage : Stage) :
    (i.configuring b config env).filter (fun s => (s.callFor? i.handle stage).isSome) =
      if stage = .capability .configure then i.configuring b config env else [] := by
  split
  · rename_i hstage
    subst hstage
    refine List.filter_eq_self.2 fun s hs => GuestRun.callFor?_isSome_iff.2 ?_
    rw [eq_of_mem_configuring hs]
    exact ⟨_, rfl, rfl⟩
  · rename_i hstage
    refine List.filter_eq_nil_iff.2 fun s hs hcalled => hstage ?_
    obtain ⟨j, hcall, -⟩ := GuestRun.callFor?_isSome_iff.1 hcalled
    rw [eq_of_mem_configuring hs] at hcall
    exact (Prod.mk.inj (Option.some.inj hcall)).2.symm

/-- A new instance is configured and declares its parameters, and is not called otherwise. -/
theorem guestRunsFor_attach (e : Engine G) (mandate : Mandate) (handle : Handle)
    (a : Attachment G) (entity : Entity) (config : Payload) {stage : Stage}
    (hstage : stage ≠ .capability .configureParameters) :
    Moment.guestRunsFor b ⟨e, .carryOut mandate (.attach handle a entity config)⟩ handle stage =
      if stage = .capability .configure then
        let made := e.newcomer b handle a entity config
        made.1.configuring b none made.2
      else [] := by
  have hdeclaring : ∀ (i : Instance G) env,
      (i.declaring b env).filter (fun s => (s.callFor? handle stage).isSome) = [] := by
    intro i env
    refine List.filter_eq_nil_iff.2 fun s hs hcalled => hstage ?_
    obtain ⟨j, hcall, -⟩ := GuestRun.callFor?_isSome_iff.1 hcalled
    rw [eq_of_mem_declaring hs] at hcall
    exact (Prod.mk.inj (Option.some.inj hcall)).2.symm
  rw [Moment.guestRunsFor]
  show List.filter _ (_ ++ _) = _
  rw [List.filter_append, hdeclaring, List.append_nil]
  exact filter_configuring (e.newcomer b handle a entity config).1 none _ stage

/-- An instance that is configured anew is not called otherwise. -/
theorem guestRunsFor_reconfigure {e : Engine G} {i : Instance G}
    (hfind : e.scheduler.instance? i.handle = some i) (config : Option Payload) (stage : Stage) :
    Moment.guestRunsFor b ⟨e, .reconfigure i.handle config⟩ i.handle stage =
      if stage = .capability .configure then i.configuring b config e.env else [] := by
  simp only [Moment.guestRunsFor, Moment.guestRuns, hfind]
  exact filter_configuring i config e.env stage

end Calls

section Watches

variable {past : List (Moment cast)} {handle : Handle} {watch : Watch} {m : Moment cast}

/-- A watch is what the past tells of an instance. -/
structure Watch.Told (past : List (Moment cast)) (handle : Handle) (watch : Watch) : Prop where
  subscription : watch.subscription.isSome = configuredIn behavior past handle
  simTime : watch.simTime = lastTickIn behavior past handle

/-- Whoever was not called yet has a fresh watch. -/
theorem Watch.told_fresh (h : ∀ stage, guestRunsFor behavior past handle stage = []) :
    Watch.fresh.Told past handle where
  subscription := by
    rw [configuredIn, h]
    rfl
  simTime := by
    rw [lastTickIn, h]
    rfl

namespace Watch.Told

/-- A clock that an act configures gets a subscription if that succeeds. -/
theorem configured (h : watch.Told past handle)
    (hticks : m.guestRunsFor behavior handle StepPhase.preUpdate.stage = [])
    (connection : Connection) :
    (watch.configured connection
      (anySucceeds behavior (m.guestRunsFor behavior handle (.capability .configure)))).Told
        (past ++ [m]) handle := by
  have hsome : configuredIn behavior (past ++ [m]) handle = (configuredIn behavior past handle ||
      anySucceeds behavior (m.guestRunsFor behavior handle (.capability .configure))) := by
    rw [configuredIn, guestRunsFor_append, guestRunsFor_singleton, anySucceeds, List.any_append]
    rfl
  have htime : lastTickIn behavior (past ++ [m]) handle = lastTickIn behavior past handle := by
    rw [lastTickIn, guestRunsFor_append, guestRunsFor_singleton, hticks, List.append_nil]
    rfl
  unfold Watch.configured
  split
  · rename_i hsucceeded
    rw [hsucceeded, Bool.or_true] at hsome
    exact ⟨hsome.symm, h.simTime.trans htime.symm⟩
  · rename_i hfailed
    rw [Bool.eq_false_iff.2 hfailed, Bool.or_false] at hsome
    exact ⟨h.subscription.trans hsome.symm, h.simTime.trans htime.symm⟩

/-- A clock that an act does not call goes by what it went by. -/
theorem idle (h : watch.Told past handle)
    (hticks : m.guestRunsFor behavior handle StepPhase.preUpdate.stage = [])
    (hconfigured : m.guestRunsFor behavior handle (.capability .configure) = []) :
    watch.Told (past ++ [m]) handle := by
  have hsame := h.configured hticks ⟨.event .sceneUpdate, 0⟩
  rw [hconfigured] at hsame
  exact hsame

/-- A clock that is not the addressee of an act goes by what it went by. -/
theorem unaddressed (h : watch.Told past handle) (hother : m.act.addressee? ≠ some handle) :
    watch.Told (past ++ [m]) handle :=
  h.idle (guestRunsFor_of_ne hother _) (guestRunsFor_of_ne hother _)

/-- A clock that an act calls before updates goes by the step of that act. -/
theorem ticked (h : watch.Told past handle) {i : Instance cast} {info : StepInfo}
    {phase : StepPhase} {env : Environment cast}
    (htick : m.guestRunsFor behavior handle StepPhase.preUpdate.stage =
      [⟨.phase i info phase, env⟩])
    (hconfigured : m.guestRunsFor behavior handle (.capability .configure) = []) :
    Watch.Told (past ++ [m]) handle { watch with simTime := info.simTime } where
  subscription := by
    rw [configuredIn, guestRunsFor_append, guestRunsFor_singleton, hconfigured, List.append_nil]
    exact h.subscription
  simTime := by
    rw [lastTickIn, guestRunsFor_append, guestRunsFor_singleton, htick, List.getLast?_concat]
    rfl

end Watch.Told

end Watches

/--
All clocks of an engine go by their past, and each system has its place: it is attached, waits in
the queue, or is attached by one of the next acts.
-/
structure Ticking (past : List (Moment cast)) (acts : List (Act cast)) (e : Engine cast) :
    Prop where
  clocksConnected : e.env.ClocksConnected
  placed : Placed (underway acts ++ queuedIn e.env.commands) e.attachments e.env
  told : ∀ i ∈ e.scheduler.all, ∀ watch,
    e.env.standing i.attachment.system = some (some watch) → watch.Told past i.handle

/--
An act that neither loads, collects nor arranges anything.  The host's code leaves subscriptions
alone, and has built-in systems attached at most.
-/
def Act.IsOrdinary : Act cast → Prop
  | .load _ | .collect | .arrange _ => False
  | .run _ program => program.AttachesBuiltins Request.IsOrdinary
  | _ => True

namespace Ticking

variable {past : List (Moment cast)} {acts acts' : List (Act cast)} {act : Act cast}
  {e : Engine cast} {f : Watch → Watch}

/-- Which acts are next does not matter, but for what they attach. -/
theorem congr (h : Ticking past acts e) (hsame : underway acts' = underway acts) :
    Ticking past acts' e where
  clocksConnected := h.clocksConnected
  placed := by
    rw [hsame]
    exact h.placed
  told := h.told

/-- What is attached is remembered. -/
theorem exists_standing (h : Ticking past acts e) {i : Instance cast} (hi : i ∈ e.scheduler.all) :
    ∃ watch, e.env.standing i.attachment.system = some watch :=
  Option.isSome_iff_exists.1 ((h.placed.known i.attachment.system).2
    (List.mem_map_of_mem (List.mem_append_right _ (List.mem_map_of_mem hi))))

/-- Attached instances are told apart by their systems. -/
theorem eq_of_system (h : Ticking past acts e) {i j : Instance cast} (hi : i ∈ e.scheduler.all)
    (hj : j ∈ e.scheduler.all) (hsame : i.attachment.system = j.attachment.system) : i = j := by
  have hdistinct := h.placed.distinct
  rw [List.map_append, List.nodup_append'] at hdistinct
  have hsystems : (e.scheduler.all.map fun i => i.attachment.system).Nodup := by
    have hattached := hdistinct.2.1
    rwa [Engine.attachments, List.map_map] at hattached
  exact List.inj_on_of_nodup_map hsystems hi hj hsame

/-- An act that attaches nobody changes the watches of those who were there, if any. -/
theorem of_watches (hact : act.attachment? = none)
    (hsubscribed : (e.perform behavior act).env.ClocksConnected)
    (hplaced : Placed (underway acts ++ queuedIn (e.perform behavior act).env.commands)
      (e.perform behavior act).attachments (e.perform behavior act).env)
    (htold : ∀ j ∈ e.scheduler.all, ∀ watch,
      (e.perform behavior act).env.standing j.attachment.system = some (some watch) →
        watch.Told (past ++ [⟨e, act⟩]) j.handle) :
    Ticking (past ++ [⟨e, act⟩]) acts (e.perform behavior act) where
  clocksConnected := hsubscribed
  placed := hplaced
  told i hi watch hwatch := by
    -- Nobody is attached, so whoever is there now was there before.
    rcases mem_all_perform hi with
      ⟨j, hj, hhandle, -, hattachment, -⟩ | ⟨_, _, _, _, _, hattach, -⟩
    · rw [hattachment] at hwatch
      rw [hhandle]
      exact htold j hj watch hwatch
    · rw [hattach] at hact
      cases hact

/-- An act that calls no clock leaves all of them as they are. -/
theorem keep (h : Ticking past (act :: acts) e) (hact : act.attachment? = none)
    (hundisturbed : Undisturbed e.env (e.perform behavior act).env)
    (hplaces : (e.perform behavior act).attachments = e.attachments)
    (hidle : ∀ handle (watch : Watch), watch.Told past handle →
      watch.Told (past ++ [⟨e, act⟩]) handle) :
    Ticking (past ++ [⟨e, act⟩]) acts (e.perform behavior act) := by
  have hunderway : underway (act :: acts) = underway acts := List.filterMap_cons_none hact
  refine of_watches hact hundisturbed.clocksConnected ?_ fun j hj watch hwatch => ?_
  · rw [hplaces]
    exact hundisturbed.placed _ _ (hunderway ▸ h.placed)
  · obtain ⟨before, hbefore⟩ := h.exists_standing hj
    obtain rfl : before = some watch :=
      Option.some.inj ((hundisturbed.standing _ before hbefore).symm.trans hwatch)
    exact hidle j.handle watch (h.told j hj watch hbefore)

/-- An act that calls one instance changes the watch of that one, if it is a clock. -/
theorem adjust (h : Ticking past (act :: acts) e) (hact : act.attachment? = none)
    {i : Instance cast} (hi : i ∈ e.scheduler.all)
    (hadjusted : Adjusted i.attachment.system f e.env (e.perform behavior act).env)
    (hplaces : (e.perform behavior act).attachments = e.attachments)
    (haddressee : act.addressee? = some i.handle)
    (hself : ∀ watch : Watch, watch.Told past i.handle →
      (f watch).Told (past ++ [⟨e, act⟩]) i.handle) (hdistinct : e.scheduler.handles.Nodup) :
    Ticking (past ++ [⟨e, act⟩]) acts (e.perform behavior act) := by
  have hunderway : underway (act :: acts) = underway acts := List.filterMap_cons_none hact
  have hplaced : Placed (underway acts ++ queuedIn e.env.commands) e.attachments e.env :=
    hunderway ▸ h.placed
  refine of_watches hact hadjusted.clocksConnected ?_ fun j hj watch hwatch => ?_
  · rw [hplaces]
    exact hadjusted.placed _ _ (hplaced.not_mem (List.mem_map_of_mem hi)) hplaced
  · obtain ⟨before, hbefore⟩ := h.exists_standing hj
    -- The instance that is called has its watch changed; another one has another handle too.
    by_cases hsystem : j.attachment.system = i.attachment.system
    · obtain rfl := h.eq_of_system hj hi hsystem
      rw [hadjusted.self before hbefore] at hwatch
      obtain ⟨known, rfl, rfl⟩ := Option.map_eq_some_iff.1 (Option.some.inj hwatch)
      exact hself known (h.told j hj known hbefore)
    · obtain rfl : before = some watch :=
        Option.some.inj ((hadjusted.others _ hsystem before hbefore).symm.trans hwatch)
      have hother : act.addressee? ≠ some j.handle := by
        rw [haddressee]
        rintro hsame
        exact hsystem (congrArg (fun k : Instance cast => k.attachment.system)
          (List.inj_on_of_nodup_map hdistinct hj hi (Option.some.inj hsame).symm))
      exact (h.told j hj watch hbefore).unaddressed hother

/-- The queries of whoever leaves are dropped before the system is let go of. -/
theorem clocksConnected_departure {m : Moment cast} {i : Instance cast} {env : Environment cast}
    (h : m.departure? = some (i, env)) (hbefore : m.before.env.ClocksConnected) :
    env.ClocksConnected := by
  obtain ⟨journal, rfl⟩ := env_of_departure h
  have hdropped : (m.before.env.dropQueries i.handle).ClocksConnected :=
    Environment.ClocksConnected.setQueryList hbefore i.handle rfl
  exact { hdropped with }

/-- **Whoever leaves takes along the subscription**, and nobody else's. -/
theorem ended_departure {m : Moment cast} (h : Ticking past acts m.before) {i : Instance cast}
    {env : Environment cast} (hdeparture : m.departure? = some (i, env)) :
    Ended i.attachment.system m.before.env (m.after behavior).env := by
  obtain ⟨hafter, hstill, -⟩ := env_after_departure (b := behavior) hdeparture
  have hplace : i.attachment ∈ m.before.attachments :=
    (perm_departure (b := behavior) hdeparture).mem_iff.2 List.mem_cons_self
  have hended := ended_release (clocksConnected_departure hdeparture h.clocksConnected)
    (h.placed.plugins _ (List.mem_append_right _ hplace))
  have hstanding : ∀ system, env.standing system = m.before.env.standing system := by
    intro system
    rw [Environment.standing, Environment.standing, hstill.memory]
  have hlisteners : env.otherListeners i.attachment.system =
      m.before.env.otherListeners i.attachment.system := by
    rw [Environment.otherListeners, Environment.otherListeners, Environment.listeners,
      Environment.listeners, hstill.channels]
  rw [hafter]
  exact
    { clocksConnected := hended.clocksConnected
      self := hended.self
      others := fun other hother => (hended.others other hother).trans (hstanding other)
      commands := hended.commands.trans hstill.commands
      listeners := hended.listeners.trans hlisteners }

/-- **Who stays goes on after a departure.** -/
theorem depart (h : Ticking past (act :: acts) e)
    (hact : (∃ mandate handle, act = .carryOut mandate (.detach handle)) ∨ act = .expel) :
    Ticking (past ++ [⟨e, act⟩]) acts (e.perform behavior act) := by
  have hnone : act.attachment? = none ∧ act.addressee? = none := by
    rcases hact with ⟨mandate, handle, rfl⟩ | rfl <;> exact ⟨rfl, rfl⟩
  have hidle : ∀ handle (watch : Watch), watch.Told past handle →
      watch.Told (past ++ [⟨e, act⟩]) handle :=
    fun handle watch htold => htold.unaddressed (by simp [hnone.2])
  cases hdeparture : (⟨e, act⟩ : Moment cast).departure? with
  | none =>
      have hsame : e.perform behavior act = e :=
        (after_of_no_departure (b := behavior) hdeparture hact).1
      refine h.keep hnone.1 ?_ (by rw [hsame]) hidle
      rw [hsame]
      exact .refl h.clocksConnected
  | some departure =>
      obtain ⟨i, env⟩ := departure
      have hended : Ended i.attachment.system e.env (e.perform behavior act).env :=
        h.ended_departure hdeparture
      have hunderway : underway (act :: acts) = underway acts := List.filterMap_cons_none hnone.1
      refine of_watches hnone.1 hended.clocksConnected ?_ fun j hj watch hwatch => ?_
      · rw [hended.commands, ← hunderway]
        exact h.placed.leave (perm_departure (b := behavior) hdeparture) hended
      · -- Nothing is remembered of the one who left, so whoever has a watch stays.
        have hstay : j.attachment.system ≠ i.attachment.system := by
          intro heq
          rw [heq, hended.self] at hwatch
          cases hwatch
        rw [hended.others _ hstay] at hwatch
        exact hidle j.handle watch (h.told j hj watch hwatch)

section Attachments

variable {mandate : Mandate} {handle : Handle} {a : Attachment cast} {entity : Entity}
  {config : Payload}

/-- A clock that is attached has the watch that its first configuration leaves it. -/
theorem told_newcomer
    (h : Ticking past (.carryOut mandate (.attach handle a entity config) :: acts) e)
    (hsilent : ∀ stage, guestRunsFor behavior past handle stage = []) {watch : Watch}
    (hwatch : (e.attachAs behavior handle a entity config).env.standing a.system =
      some (some watch)) :
    watch.Told (past ++ [⟨e, .carryOut mandate (.attach handle a entity config)⟩]) handle := by
  have hwaiting : Placed (a :: (underway acts ++ queuedIn e.env.commands)) e.attachments e.env :=
    h.placed
  have hadjusted := adjusted_attachAs h.clocksConnected handle a entity config
  obtain ⟨before, hbefore⟩ := Option.isSome_iff_exists.1
    ((hwaiting.known a.system).2 List.mem_cons_self)
  rw [hadjusted.self before hbefore] at hwatch
  obtain ⟨known, rfl, rfl⟩ := Option.map_eq_some_iff.1 (Option.some.inj hwatch)
  obtain rfl := hwaiting.fresh a List.mem_cons_self known hbefore
  have hcalls : Moment.guestRunsFor behavior
      ⟨e, .carryOut mandate (.attach handle a entity config)⟩ handle
        (.capability .configure) = _ :=
    guestRunsFor_attach e mandate handle a entity config (by decide)
  have hticks : Moment.guestRunsFor behavior
      ⟨e, .carryOut mandate (.attach handle a entity config)⟩ handle
        StepPhase.preUpdate.stage = [] :=
    guestRunsFor_attach e mandate handle a entity config (by decide)
  have htold := (Watch.told_fresh hsilent).configured hticks e.env.nextConnection
  rw [hcalls] at htold
  exact htold

/-- **A clock that is attached goes by its first configuration**, and all others go on. -/
theorem attach (h : Ticking past (.carryOut mandate (.attach handle a entity config) :: acts) e)
    (hunused : handle ∉ e.scheduler.handles)
    (hsilent : ∀ stage, guestRunsFor behavior past handle stage = []) :
    Ticking (past ++ [⟨e, .carryOut mandate (.attach handle a entity config)⟩]) acts
      (e.perform behavior (.carryOut mandate (.attach handle a entity config))) := by
  have hwaiting : Placed (a :: (underway acts ++ queuedIn e.env.commands)) e.attachments e.env :=
    h.placed
  have hplaced := hwaiting.enter
  have hadjusted := adjusted_attachAs h.clocksConnected handle a entity config
  refine
    { clocksConnected := hadjusted.clocksConnected
      placed := ?_
      told := fun i hi watch hwatch => ?_ }
  · show Placed _ (e.attachAs behavior handle a entity config).attachments _
    rw [attachments_attachAs]
    exact hadjusted.placed _ _
      (hplaced.not_mem (List.mem_append_right _ (List.mem_singleton_self a))) hplaced
  · rcases mem_all_perform hi with
      ⟨j, hj, hhandle, -, hattachment, -⟩ | ⟨_, _, _, _, _, hattach, hrecruit⟩
    · have hsystem : j.attachment.system ≠ a.system := by
        intro heq
        have hnew := (List.nodup_cons.1 hwaiting.distinct).1
        rw [← heq] at hnew
        exact hnew (List.mem_map_of_mem (List.mem_append_right _ (List.mem_map_of_mem hj)))
      have hother : handle ≠ j.handle := by
        rintro rfl
        exact hunused (List.mem_map_of_mem hj)
      obtain ⟨before, hbefore⟩ := h.exists_standing hj
      rw [hattachment] at hwatch
      obtain rfl : before = some watch :=
        Option.some.inj ((hadjusted.others _ hsystem before hbefore).symm.trans hwatch)
      rw [hhandle]
      exact (h.told j hj watch hbefore).unaddressed fun heq => hother (Option.some.inj heq)
    · cases hattach
      obtain ⟨degraded, hmade⟩ := exists_recruit_eq behavior e handle a entity config
      rw [hrecruit, hmade] at hwatch ⊢
      exact h.told_newcomer hsilent hwatch

end Attachments

section Turns

variable {info : StepInfo} {failed : List Handle} {i : Instance cast}

/-- The report of a failure leaves clocks as they are. -/
theorem undisturbed_faultReported {env : Environment cast} (h : env.ClocksConnected)
    (info : StepInfo) (pass : Pass) (i : Instance cast) (result : Except String Unit) :
    Undisturbed env (faultReported info pass i result env) := by
  cases result with
  | ok => exact .refl h
  | error message => exact .of_members { h with } rfl rfl

/-- A turn configures nobody. -/
theorem guestRunsFor_turn_configure (pass : Pass) (handle : Handle) :
    Moment.guestRunsFor behavior ⟨e, .turn info failed (pass, i)⟩ handle
      (.capability .configure) = [] :=
  guestRunsFor_turn_of_ne (by cases pass <;> simp [Pass.stage, StepPhase.stage]) handle

/-- A turn that calls nobody before updates changes no watch. -/
theorem turn_aside {pass : Pass} (h : Ticking past (.turn info failed (pass, i) :: acts) e)
    (hundisturbed : Undisturbed e.env (behavior.turn info failed (pass, i) e.env).after)
    (hticks : ∀ handle, Moment.guestRunsFor behavior ⟨e, .turn info failed (pass, i)⟩ handle
      StepPhase.preUpdate.stage = []) :
    Ticking (past ++ [⟨e, .turn info failed (pass, i)⟩]) acts
      (e.perform behavior (.turn info failed (pass, i))) :=
  h.keep rfl hundisturbed rfl fun handle _ htold =>
    htold.idle (hticks handle) (guestRunsFor_turn_configure pass handle)

/-- A turn before updates tells a clock the time, and one in another phase does not. -/
theorem turn_called {phase : StepPhase}
    (h : Ticking past (.turn info failed (.phase phase, i) :: acts) e)
    (hi : i ∈ e.scheduler.all) (hdistinct : e.scheduler.handles.Nodup)
    {outcome : Outcome Unit} {left : Environment cast}
    (hanswer : behavior.run (Instance.accessOf phase)
      (behavior.phase phase i.attachment.system info) e.env = (outcome, left))
    (hturn : behavior.turn info failed (.phase phase, i) e.env =
      ⟨.phase phase, i, e.env, some outcome.toExcept, 0,
        faultReported info (.phase phase) i outcome.toExcept left⟩) :
    Ticking (past ++ [⟨e, .turn info failed (.phase phase, i)⟩]) acts
      (e.perform behavior (.turn info failed (.phase phase, i))) := by
  have hcalled := adjusted_callPhase h.clocksConnected phase i.attachment.system info
    (Instance.accessOf phase)
  rw [hanswer] at hcalled
  have hafter : (e.perform behavior (.turn info failed (.phase phase, i))).env =
      faultReported info (.phase phase) i outcome.toExcept left :=
    congrArg Turn.after hturn
  have hadjusted := hcalled.later
    (undisturbed_faultReported hcalled.clocksConnected info (.phase phase) i outcome.toExcept)
  rw [← hafter] at hadjusted
  refine h.adjust rfl hi hadjusted rfl rfl (fun watch htold => ?_) hdistinct
  by_cases hphase : phase = .preUpdate
  · subst hphase
    have htick : Moment.guestRunsFor behavior ⟨e, .turn info failed (.phase .preUpdate, i)⟩
        i.handle StepPhase.preUpdate.stage = [⟨.phase i info .preUpdate, e.env⟩] := by
      simp [Moment.guestRunsFor, Moment.guestRuns, hturn, Turn.guestRuns, Turn.called,
        GuestRun.callFor?_isSome_iff, Purpose.call?]
    exact htold.ticked htick (guestRunsFor_turn_configure _ i.handle)
  · rw [if_neg hphase]
    refine htold.idle (guestRunsFor_turn_of_ne ?_ _) (guestRunsFor_turn_configure _ i.handle)
    simpa [Pass.stage, StepPhase.stage] using hphase

/-- **A turn before updates tells a clock the time**, and no other turn touches one. -/
theorem turn {slot : Pass × Instance cast} (h : Ticking past (.turn info failed slot :: acts) e)
    (hslot : slot.2 ∈ e.scheduler.all) (hdistinct : e.scheduler.handles.Nodup) :
    Ticking (past ++ [⟨e, .turn info failed slot⟩]) acts
      (e.perform behavior (.turn info failed slot)) := by
  obtain ⟨pass, i⟩ := slot
  cases pass with
  | queries =>
      refine h.turn_aside ?_ (guestRunsFor_turn_of_ne (by simp [Pass.stage, StepPhase.stage]))
      obtain ⟨delivery, left, n, hanswer, hturn⟩ := turn_queries behavior info failed i e.env
      rw [deliver_of_quiet (h.clocksConnected.quiet i.handle)] at hanswer
      obtain ⟨rfl, rfl⟩ := Prod.mk.inj hanswer
      let departed := (e.env.queryList i.handle).depart
      have hdelivered : ((e.env.setQueryList i.handle departed).setQueryList i.handle
          (departed.settle [])).ClocksConnected :=
        (h.clocksConnected.setQueryList i.handle rfl).setQueryList i.handle rfl
      rw [hturn]
      exact Undisturbed.of_members hdelivered rfl rfl
  | phase phase =>
      rcases turn_phase_cases behavior info failed phase i e.env with
        ⟨-, hturn⟩ | ⟨-, hturn⟩ | ⟨outcome, left, -, -, -, hanswer, hturn⟩
      · refine h.turn_aside (by rw [hturn]; exact .refl h.clocksConnected) fun handle => ?_
        simp [Moment.guestRunsFor, Moment.guestRuns, hturn, Turn.guestRuns, Turn.called]
      · refine h.turn_aside (by rw [hturn]; exact .of_members { h.clocksConnected with } rfl rfl)
          fun handle => ?_
        simp [Moment.guestRunsFor, Moment.guestRuns, hturn, Turn.guestRuns, Turn.called]
      · exact h.turn_called hslot hdistinct hanswer hturn

end Turns

/-- **A clock that is configured anew goes by that configuration.** -/
theorem reconfigure {handle : Handle} {config : Option Payload}
    (h : Ticking past (.reconfigure handle config :: acts) e)
    (hdistinct : e.scheduler.handles.Nodup) :
    Ticking (past ++ [⟨e, .reconfigure handle config⟩]) acts
      (e.perform behavior (.reconfigure handle config)) := by
  cases hfind : e.scheduler.instance? handle with
  | none =>
      have hsame : e.perform behavior (.reconfigure handle config) = e := by
        simp only [Engine.perform, Engine.reconfigure, hfind]
      have hnone : Moment.guestRuns behavior ⟨e, .reconfigure handle config⟩ = [] := by
        simp only [Moment.guestRuns, hfind]
      refine h.keep rfl (by rw [hsame]; exact .refl h.clocksConnected) (by rw [hsame])
        fun handle watch htold => htold.idle ?_ ?_ <;> rw [Moment.guestRunsFor, hnone] <;> rfl
  | some i =>
      obtain ⟨hi, rfl⟩ := Scheduler.mem_of_instance? hfind
      have hperform : e.perform behavior (.reconfigure i.handle config) =
          { scheduler := e.scheduler.replace i.handle (i.configure behavior config e.env).1
            env := (i.configure behavior config e.env).2 } := by
        simp only [Engine.perform, Engine.reconfigure, hfind]
      have hadjusted := adjusted_instance_configure h.clocksConnected i config
      refine h.adjust (f := Watch.configured e.env.nextConnection
        (anySucceeds behavior (i.configuring behavior config e.env))) rfl hi ?_ ?_ rfl
        (fun watch htold => ?_) hdistinct
      · rw [hperform]
        exact hadjusted
      · rw [hperform]
        exact attachments_replace hdistinct hi config
      · have htold := htold.configured (m := ⟨e, .reconfigure i.handle config⟩)
          (guestRunsFor_reconfigure hfind config _) e.env.nextConnection
        rw [guestRunsFor_reconfigure hfind config] at htold
        exact htold

/-- **An act keeps clocks ticking**, be it an attachment or another ordinary act. -/
theorem perform (h : Ticking past (act :: acts) e) (hact : act.IsOrdinary)
    (hpast : Chronicle behavior past e) (hproper : act.Proper (attachedIn past) e) :
    Ticking (past ++ [⟨e, act⟩]) acts (e.perform behavior act) := by
  have hidle : act.addressee? = none → ∀ handle (watch : Watch), watch.Told past handle →
      watch.Told (past ++ [⟨e, act⟩]) handle :=
    fun hnone handle watch htold => htold.unaddressed (by simp [hnone])
  cases act with
  | reserve => exact h.keep rfl (.of_members { h.clocksConnected with } rfl rfl) rfl (hidle rfl)
  | carryOut mandate command =>
      cases command with
      | attach handle a entity config =>
          have hnew := hpast.next (.carryOut mandate (.attach handle a entity config)) hproper
          refine h.attach (fun hused => hproper (hpast.handles_sublist.subset hused))
            fun stage => List.flatMap_eq_nil_iff.2 fun m hm => ?_
          refine List.filter_eq_nil_iff.2 fun s hs hcalled => ?_
          obtain ⟨i, hcall, hhandle⟩ := GuestRun.callFor?_isSome_iff.1 hcalled
          exact hnew.silent_before rfl m hm s hs ⟨i, stage, hcall, hhandle⟩
      | detach handle => exact h.depart (.inl ⟨mandate, handle, rfl⟩)
  | admitAll =>
      exact h.keep rfl (.refl h.clocksConnected) (attachments_admitAll behavior e) (hidle rfl)
  | turn info failed slot =>
      exact h.turn (List.mem_append_left _ hproper) hpast.nodup_handles
  | reconfigure handle config => exact h.reconfigure hpast.nodup_handles
  | expel => exact h.depart (.inr rfl)
  | run access program =>
      exact h.keep rfl (hact.undisturbed h.clocksConnected access) rfl (hidle rfl)
  | _ => exact hact.elim

end Ticking

end SimEngine
