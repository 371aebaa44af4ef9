import SimEngine.Proofs.Configurations
import SimEngine.Proofs.LoopCourses
import SimEngine.Proofs.Membership
import SimEngine.Proofs.Puppets

/-!
# Plugins on request

Guest code asks a loop for plugins while it is called, and code that is run for
such a request may ask for more.  A tick begins with what was asked for until
then: it tries one plugin after the other, and what it attaches takes part in
the step that follows, unless the queue of that step detaches it.

**Definitions.**
* `askedIn`: the plugins that a course asks for.
* `Attempt`: the loading of one of them, with the engine that it meets.
* `Attempt.recruit?`: the instance that an attempt attaches, if it succeeds.
* `TickLoop.attempts`, `TickLoop.attempted`: the attempts of a tick, and the
  plugins that a course has tried.
* `Engine.Numbered`: the handles of an engine are its own.
* `GoneBeforeTurns`: an instance is detached before a step has its turns.

**Results.**
* `asked_eq`: what was asked for was tried, or it waits for the next tick.
* `scheduler_attempts`: the attempts of a tick attach behind the others.
* `gone_of_queued`: whom the queue detaches has no turn in its step.
* `requested_loads`: what becomes of the plugins that are asked for.
-/

namespace SimEngine

variable {G : Guest}

/-- The plugins that marks ask for, each for the entity that its event names. -/
def askedIn (marks : List Mark) : List PluginSpec :=
  marks.flatMap fun mark =>
    match mark with
    | .signal told => told.requested
    | _ => []

/-- A plugin that is to be loaded on request, and the engine that is to load it. -/
structure Attempt (G : Guest) where
  spec : PluginSpec
  before : Engine G

namespace Attempt

variable (b : Behavior G)

/-- The engine after an attempt. -/
def after (a : Attempt G) : Engine G :=
  TickLoop.loadOne b a.before a.spec

/-- The moments of an attempt. -/
def moments (a : Attempt G) : List (Moment G) :=
  a.before.momentsOf b (.loadAndAttach a.spec)

/-- The instance that an attempt attaches, if the plugin can be loaded. -/
def recruit? (a : Attempt G) : Option (Instance G) :=
  match b.load a.spec a.before.env with
  | (.ok attachment, env) =>
    some ({ a.before with env := env.freshHandle.2 }.recruit b ⟨env.nextHandle⟩ attachment
      a.spec.entity a.spec.config)
  | (.error _, _) => none

/--
An attempt attaches what it has loaded behind the others, for the entity of its event; one that
fails attaches nothing.
-/
def Settled (a : Attempt G) : Prop :=
  match a.recruit? b with
  | some i =>
    (a.before.loadAndAttach b a.spec).1 = .ok i.handle ∧
    i.attachment.ownership = .plugin a.spec.name (some .counted) ∧
    i.entity = a.spec.entity ∧ i.config = a.spec.config ∧
    (a.after b).scheduler = { a.before.scheduler with pending := a.before.scheduler.pending ++ [i] }
  | none =>
    (∃ cause, (a.before.loadAndAttach b a.spec).1 = .error cause) ∧
    (a.after b).scheduler = a.before.scheduler

end Attempt

/--
The queue of a step detaches the instance of a handle: the instance is there until then, and it is
gone before anybody has a turn.
-/
def GoneBeforeTurns (moments : List (Moment G)) (handle : Handle) : Prop :=
  ∃ earlier m later, moments = earlier ++ m :: later ∧
    (∀ x ∈ earlier, ∀ info failed slot, x.act ≠ .turn info failed slot) ∧
    m.act = .carryOut .queue (.detach handle) ∧ m.Departs handle ∧
    ∀ x ∈ later, ∀ info failed slot, x.act = .turn info failed slot → slot.2.handle ≠ handle

/-- The handles of an engine are its own numbers: it uses none twice, and none before its turn. -/
def Engine.Numbered (e : Engine G) : Prop :=
  ∃ log, e.Sound log []

namespace TickLoop

variable (b : Behavior G)

/-- The attempts to load plugins, one after the other. -/
def attemptsFrom : Engine G → List PluginSpec → List (Attempt G)
  | _, [] => []
  | e, spec :: rest => ⟨spec, e⟩ :: attemptsFrom (loadOne b e spec) rest

/-- The attempts of the next tick. -/
def attempts (t : TickLoop G) : List (Attempt G) :=
  attemptsFrom b (takeRequests t.engine) t.env.loop.loadRequests

/-- The plugins that an operation tries to load on request. -/
def attemptedBy (t : TickLoop G) : LoopOperation G → List PluginSpec
  | .tick =>
    match t.nextInfo with
    | .ok _ => (t.attempts b).map Attempt.spec
    | .error _ => []
  | _ => []

/-- The plugins that operations try to load on request. -/
def attempted (t : TickLoop G) : List (LoopOperation G) → List PluginSpec
  | [] => []
  | operation :: rest => t.attemptedBy b operation ++ (t.operate b operation).attempted rest

end TickLoop

section Asking

theorem askedIn_append (first second : List Mark) :
    askedIn (first ++ second) = askedIn first ++ askedIn second :=
  List.flatMap_append

/-- Over marks that are no ticks the plugins that wait become more. -/
theorem loadRequests_foldl_mark
    {marks : List Mark} (hticks : Mark.tick ∉ marks) (flags : LoopFlags) :
    (marks.foldl LoopFlags.mark flags).loadRequests = flags.loadRequests ++ askedIn marks := by
  induction marks generalizing flags with
  | nil =>
      exact (List.append_nil _).symm
  | cons mark rest ih =>
      have hrest : Mark.tick ∉ rest := mt (List.mem_cons_of_mem mark) hticks
      rw [List.foldl_cons, ih hrest]
      cases mark with
      | tick =>
          exact absurd List.mem_cons_self hticks
      | setPaused paused =>
          rfl
      | signal told =>
          have htold : (flags.tell told).loadRequests = flags.loadRequests ++ told.requested := by
            have h := flags.loadRequests_tellAll [told]
            rwa [List.flatMap_singleton] at h
          show (flags.tell told).loadRequests ++ askedIn rest = _
          rw [htold, List.append_assoc]
          rfl

/-- What waits was asked for since the last tick began. -/
theorem loadRequests_foldl_since
    (earlier : List Mark) {recent : List Mark} (hticks : Mark.tick ∉ recent) (flags : LoopFlags) :
    ((earlier ++ .tick :: recent).foldl LoopFlags.mark flags).loadRequests = askedIn recent := by
  rw [List.foldl_append, List.foldl_cons, loadRequests_foldl_mark hticks]
  rfl

end Asking

namespace TickLoop

variable {b : Behavior G}

theorem map_spec_attemptsFrom (e : Engine G) (specs : List PluginSpec) :
    (attemptsFrom b e specs).map Attempt.spec = specs := by
  induction specs generalizing e with
  | nil =>
      rfl
  | cons spec rest ih =>
      rw [attemptsFrom, List.map_cons, ih]

theorem linked_attemptsFrom (e : Engine G) (specs : List PluginSpec) :
    Linked Attempt.before (Attempt.after b) e (attemptsFrom b e specs)
      (specs.foldl (loadOne b) e) := by
  induction specs generalizing e with
  | nil =>
      rfl
  | cons spec rest ih =>
      exact ⟨rfl, ih _⟩

theorem flatMap_moments_attemptsFrom (e : Engine G) (specs : List PluginSpec) :
    (attemptsFrom b e specs).flatMap (Attempt.moments b) = loadMoments b e specs := by
  induction specs generalizing e with
  | nil =>
      rfl
  | cons spec rest ih =>
      rw [attemptsFrom, List.flatMap_cons, ih]
      rfl

/-- **What was asked for was tried, or it waits for the next tick**, each in its turn. -/
theorem asked_eq
    {t : TickLoop G} (h : t.Listens) (operations : List (LoopOperation G))
    (hlog : Unhindered b t.subscriptions (t.log b operations)) :
    t.env.loop.loadRequests ++ askedIn (t.marks b operations) =
      t.attempted b operations ++ (t.operateAll b operations).env.loop.loadRequests := by
  induction operations generalizing t with
  | nil =>
      exact List.append_nil _
  | cons operation rest ih =>
      rw [log, history, List.flatMap_append] at hlog
      obtain ⟨hlog₁, hlog₂⟩ := unhindered_append.1 hlog
      obtain ⟨h', hloop⟩ := listens_operate h operation hlog₁
      rw [← (frame_operate (b := b) t operation).2] at hlog₂
      have hfirst : t.env.loop.loadRequests ++ askedIn (t.marksOf b operation) =
          t.attemptedBy b operation ++ (t.operate b operation).env.loop.loadRequests := by
        rw [hloop]
        have hsignals : ∀ moments, Mark.tick ∉ signalMarks b moments := by
          intro moments hmem
          obtain ⟨signal, _, heq⟩ := List.mem_map.1 hmem
          cases heq
        cases operation with
        | tick =>
            cases hinfo : t.nextInfo with
            | ok info =>
                have hmarks : t.marksOf b .tick =
                    [] ++ .tick :: signalMarks b (t.momentsOf b .tick) := by
                  rw [marksOf, hinfo]
                  rfl
                have hattempted : t.attemptedBy b .tick = t.env.loop.loadRequests := by
                  rw [attemptedBy, hinfo]
                  exact map_spec_attemptsFrom _ _
                rw [hmarks, loadRequests_foldl_since [] (hsignals _), hattempted, askedIn_append]
                rfl
            | error cause =>
                rw [marksOf, attemptedBy, hinfo]
                exact List.append_nil _
        | setPaused paused =>
            exact List.append_nil _
        | host operation =>
            exact (loadRequests_foldl_mark (hsignals _) _).symm
      rw [marks, askedIn_append, ← List.append_assoc, hfirst, List.append_assoc, ih h' hlog₂,
        attempted, List.append_assoc]
      rfl

end TickLoop

section Attempts

variable {b : Behavior G}

/-- Whoever is loaded by the name of a plugin is counted as its instance. -/
theorem ownership_load
    {spec : PluginSpec} {env env' : Environment G} {attachment : Attachment G}
    (h : b.load spec env = (.ok attachment, env')) :
    attachment.ownership = .plugin spec.name (some .counted) := by
  unfold Behavior.load at h
  split at h
  · cases h
  · simp only at h
    split at h
    · obtain rfl := Except.ok.inj (Prod.mk.inj h).1
      rfl
    · cases h

theorem settled_attempt (a : Attempt G) : a.Settled b := by
  obtain ⟨spec, e⟩ := a
  unfold Attempt.Settled Attempt.recruit? Attempt.after TickLoop.loadOne Engine.loadAndAttach
  simp only
  rcases hload : b.load spec e.env with ⟨cause | attachment, env⟩
  · exact ⟨⟨cause, rfl⟩, rfl⟩
  · obtain ⟨degraded, hrecruit⟩ := exists_recruit_eq b { e with env := env.freshHandle.2 }
      ⟨env.nextHandle⟩ attachment spec.entity spec.config
    have howner := ownership_load hload
    refine ⟨?_, ?_, ?_, ?_, rfl⟩
    · rw [hrecruit]
      rfl
    · rw [hrecruit]
      exact howner
    · rw [hrecruit]
    · rw [hrecruit]

/-- An attempt leaves the scheduler alone but for the instance that it attaches. -/
theorem scheduler_attempt (a : Attempt G) :
    (a.after b).scheduler =
      { a.before.scheduler with
        pending := a.before.scheduler.pending ++ (a.recruit? b).toList } := by
  have h := settled_attempt (b := b) a
  unfold Attempt.Settled at h
  cases hrecruit : a.recruit? b with
  | some i =>
      rw [hrecruit] at h
      exact h.2.2.2.2
  | none =>
      rw [hrecruit] at h
      rw [h.2, Option.toList_none, List.append_nil]

/-- **The attempts of a tick attach what they load behind the others**, in their order. -/
theorem scheduler_attempts {e e' : Engine G} {attempts : List (Attempt G)}
    (h : Linked Attempt.before (Attempt.after b) e attempts e') :
    e'.scheduler =
      { e.scheduler with
        pending := e.scheduler.pending ++ attempts.filterMap (Attempt.recruit? b) } := by
  induction attempts generalizing e with
  | nil =>
      have heq : e = e' := h
      rw [heq, List.filterMap_nil, List.append_nil]
  | cons a rest ih =>
      obtain ⟨rfl, hrest⟩ := h
      rw [ih hrest, scheduler_attempt, List.append_assoc, List.filterMap_cons]
      cases a.recruit? b <;> rfl

/-- All guest code of an attempt is the factory's, or it is called for the event's entity. -/
theorem purposes_attempt (a : Attempt G) {s : GuestRun G}
    (hs : s ∈ (a.moments b).flatMap (Moment.guestRuns b)) :
    (∃ factory, s.purpose = .construct factory a.spec) ∨
      ∃ i stage, s.purpose.call? = some (i, stage) ∧
        i.entity = a.spec.entity ∧ i.config = a.spec.config := by
  obtain ⟨m, hm, hs⟩ := List.mem_flatMap.1 hs
  have hact := mem_acts_of_mem_moments hm
  rcases List.mem_cons.1 hact with hload | hact
  · left
    obtain ⟨e, act⟩ := m
    obtain rfl : act = _ := hload
    have hs' : s ∈ e.env.loading a.spec := hs
    unfold Environment.loading at hs'
    split at hs'
    · cases hs'
    · rename_i factory _
      rw [List.mem_singleton.1 hs']
      exact ⟨factory, rfl⟩
  · right
    split at hact
    · rcases List.mem_pair.1 hact with hreserve | hattach
      · obtain ⟨e, act⟩ := m
        obtain rfl : act = _ := hreserve
        cases hs
      · obtain ⟨i, j, env, env', hguestRuns, hi, hj, _⟩ := guestRuns_attach (b := b) hattach rfl
        rw [hguestRuns] at hs
        have hcontext : ∀ k : Instance G, k.context = i.context ∨ k.context = j.context →
            k.entity = a.spec.entity ∧ k.config = a.spec.config := by
          intro k hk
          have hspec := hk.elim (fun h => h.trans hi) (fun h => h.trans hj)
          have hsecond := congrArg Prod.snd hspec
          exact ⟨congrArg ConfigureContext.entity hsecond, congrArg ConfigureContext.config hsecond⟩
        rcases List.mem_append.1 hs with hs | hs
        · split at hs
          · rw [List.mem_singleton.1 hs]
            exact ⟨i, _, rfl, hcontext i (Or.inl rfl)⟩
          · cases hs
        · rw [eq_of_mem_declaring hs]
          exact ⟨j, _, rfl, hcontext j (Or.inr rfl)⟩
    · cases hact

/-- The queue leaves a waiting instance as it is, unless it detaches it. -/
theorem mem_pending_foldl
    {commands : List (Command G)} {i : Instance G} (hkept : .detach i.handle ∉ commands)
    {e : Engine G} (hi : i ∈ e.scheduler.pending) :
    i ∈ (commands.foldl (Engine.apply b) e).scheduler.pending := by
  induction commands generalizing e with
  | nil =>
      exact hi
  | cons command rest ih =>
      refine ih (mt (List.mem_cons_of_mem command) hkept) ?_
      cases command with
      | attach handle attachment entity config =>
          exact List.mem_append_left _ hi
      | detach handle =>
          have hother : ¬ (i.handle == handle) = true := by
            rw [beq_iff_eq]
            rintro rfl
            exact hkept List.mem_cons_self
          rw [scheduler_detach]
          unfold Scheduler.erase
          split
          · exact hi
          · exact (List.mem_eraseP_of_neg (p := fun j => j.handle == handle) hother).2 hi

/-- The turns of a step are those of its slots. -/
theorem exists_turn_of_mem_slots
    (info : StepInfo) {slots : List (Pass × Instance G)} {slot : Pass × Instance G}
    (hslot : slot ∈ slots) (failed : List Handle) (env : Environment G) :
    ∃ failed', .turn info failed' slot ∈ Engine.turnActs b info failed slots env := by
  induction slots generalizing failed env with
  | nil =>
      cases hslot
  | cons first rest ih =>
      rcases List.mem_cons.1 hslot with rfl | hslot
      · exact ⟨failed, List.mem_cons_self⟩
      · obtain ⟨failed', hmem⟩ := ih hslot _ _
        exact ⟨failed', List.mem_cons_of_mem _ hmem⟩

/-- **Whoever waits when a step begins has its turns in it**, unless the queue detaches it. -/
theorem turns_of_pending
    {e : Engine G} {i : Instance G} (hi : i ∈ e.scheduler.pending)
    (hkept : .detach i.handle ∉ e.env.commands) (info : StepInfo) {pass : Pass}
    (hpass : pass ∈ Pass.all) :
    ∃ m ∈ e.momentsOf b (.step info), ∃ failed, m.act = .turn info failed (pass, i.admitted) := by
  have hbegun : i.admitted ∈ (e.beginStep b).scheduler.instances :=
    List.mem_append_right _ (List.mem_map_of_mem (mem_pending_foldl hkept hi))
  have hslot : (pass, i.admitted) ∈ slots (e.beginStep b).scheduler.instances :=
    List.mem_flatMap.2 ⟨pass, hpass, List.mem_map_of_mem hbegun⟩
  obtain ⟨failed, hturn⟩ := exists_turn_of_mem_slots (b := b) info hslot [] (e.beginStep b).env
  have hact : .turn info failed (pass, i.admitted) ∈ e.stepActs b info :=
    List.mem_cons_of_mem _ (List.mem_append_right _ (List.mem_cons_of_mem _ hturn))
  rw [← map_act_moments b e (e.stepActs b info)] at hact
  obtain ⟨m, hm, heq⟩ := List.mem_map.1 hact
  exact ⟨m, hm, failed, heq⟩

/-- Commands of the queue bring nobody back whom they do not attach. -/
theorem absent_foldl
    {commands : List (Command G)} {handle : Handle} (hnew : handle ∉ attachHandles commands)
    {e : Engine G} (h : handle ∉ e.scheduler.handles) :
    handle ∉ (commands.foldl (Engine.apply b) e).scheduler.handles := by
  induction commands generalizing e with
  | nil =>
      exact h
  | cons command rest ih =>
      cases command with
      | attach other attachment entity config =>
          obtain ⟨hother, hrest⟩ := not_or.1 (mt List.mem_cons.2 hnew)
          refine ih hrest ?_
          have hhandles := handles_perform b e
            (.carryOut .queue (.attach other attachment entity config))
          show handle ∉ (e.perform b (.carryOut .queue
            (.attach other attachment entity config))).scheduler.handles
          rw [hhandles]
          intro hmem
          rcases List.mem_append.1 hmem with hmem | hmem
          · exact h hmem
          · exact hother (List.mem_singleton.1 hmem)
      | detach other =>
          refine ih hnew ?_
          rw [scheduler_detach, Scheduler.handles_erase]
          exact mt List.mem_of_mem_erase h

/-- **Whom the queue detaches is gone when all of it is carried out.** -/
theorem gone_foldl
    {commands : List (Command G)} {handle : Handle} (hdetach : .detach handle ∈ commands)
    (hnew : handle ∉ attachHandles commands) {e : Engine G}
    (hnodup : (e.scheduler.handles ++ attachHandles commands).Nodup) :
    handle ∉ (commands.foldl (Engine.apply b) e).scheduler.handles := by
  induction commands generalizing e with
  | nil =>
      cases hdetach
  | cons command rest ih =>
      cases command with
      | attach other attachment entity config =>
          have hrest : .detach handle ∈ rest := by
            rcases List.mem_cons.1 hdetach with heq | hrest
            · cases heq
            · exact hrest
          refine ih hrest (mt (List.mem_cons_of_mem other) hnew) ?_
          show ((e.perform b (.carryOut .queue
            (.attach other attachment entity config))).scheduler.handles ++ _).Nodup
          rw [handles_perform]
          show ((e.scheduler.handles ++ [other]) ++ attachHandles rest).Nodup
          rwa [List.append_assoc]
      | detach other =>
          have hhandles : (e.apply b (.detach other)).scheduler.handles =
              e.scheduler.handles.erase other := by
            rw [scheduler_detach, Scheduler.handles_erase]
          by_cases hsame : handle = other
          · subst hsame
            have hgone : handle ∉ (e.apply b (.detach handle)).scheduler.handles := by
              rw [hhandles]
              exact (List.nodup_append.1 hnodup).1.not_mem_erase
            have hrest : handle ∉ attachHandles rest := hnew
            exact absent_foldl hrest hgone
          · have hrest : .detach handle ∈ rest := by
              rcases List.mem_cons.1 hdetach with heq | hrest
              · exact absurd (Command.detach.inj heq) hsame
              · exact hrest
            refine ih hrest hnew ?_
            rw [hhandles]
            exact hnodup.sublist (List.erase_sublist.append (List.Sublist.refl _))

/-- A turn of a step is one of its slots. -/
theorem mem_slots_of_mem_turnActs
    {info info' : StepInfo} {failed failed' : List Handle} {slots : List (Pass × Instance G)}
    {slot : Pass × Instance G} {env : Environment G}
    (h : .turn info' failed' slot ∈ Engine.turnActs b info failed slots env) : slot ∈ slots := by
  induction slots generalizing failed env with
  | nil =>
      cases h
  | cons first rest ih =>
      rcases List.mem_cons.1 h with heq | h
      · obtain ⟨-, -, rfl⟩ := Act.turn.inj heq
        exact List.mem_cons_self
      · exact List.mem_cons_of_mem _ (ih h)

/-- Loading a plugin is no turn of a step. -/
theorem ne_turn_of_loading
    {e : Engine G} {spec : PluginSpec} {m : Moment G} (hm : m ∈ e.momentsOf b (.loadAndAttach spec))
    (info : StepInfo) (failed : List Handle) (slot : Pass × Instance G) :
    m.act ≠ .turn info failed slot := by
  intro hturn
  have hact := mem_acts_of_mem_moments hm
  rw [hturn] at hact
  rcases List.mem_cons.1 hact with heq | hact
  · cases heq
  · split at hact
    · rcases List.mem_pair.1 hact with heq | heq <;> cases heq
    · cases hact

/-- **Whom the queue of a step detaches is gone before the step has its turns.** -/
theorem gone_of_queued
    {log : List Wrapping} {e : Engine G} (h : e.Sound log []) {handle : Handle}
    (hthere : handle ∈ e.scheduler.handles) (hqueued : .detach handle ∈ e.env.commands)
    (info : StepInfo) :
    handle ∉ (e.beginStep b).scheduler.handles ∧
      GoneBeforeTurns (e.momentsOf b (.step info)) handle := by
  have hlog : e.scheduler.handles.Sublist (log.map Wrapping.handle) := by
    have hsub := h.wrapped.map Wrapping.handle
    rwa [List.map_map] at hsub
  have hnodup : (e.scheduler.handles ++ attachHandles e.env.commands).Nodup :=
    h.distinct.sublist (hlog.append (List.Sublist.refl _))
  have hnew : handle ∉ attachHandles e.env.commands :=
    fun hmem => (List.nodup_append.1 hnodup).2.2 handle hthere handle hmem rfl
  have hgone : handle ∉ (e.beginStep b).scheduler.handles := by
    show handle ∉ (e.applyCommands b).scheduler.admitPending.handles
    rw [Scheduler.handles_admitPending]
    exact gone_foldl hqueued hnew hnodup
  refine ⟨hgone, ?_⟩
  -- The detachment that counts is the first one in the queue.
  obtain ⟨first, behind, hcommands, hfirst⟩ := List.eq_append_cons_of_mem hqueued
  let turns := Engine.turnActs b info [] (slots (e.beginStep b).scheduler.instances)
    (e.beginStep b).env
  have hacts : e.actsOf b (.step info) = (.collect :: first.map (.carryOut .queue)) ++
      .carryOut .queue (.detach handle) ::
        (behind.map (.carryOut .queue) ++ .admitAll :: turns) := by
    show .collect :: (e.env.commands.map (.carryOut .queue) ++ .admitAll :: turns) = _
    rw [hcommands]
    simp
  have hmoments : e.momentsOf b (.step info) = e.moments b (e.actsOf b (.step info)) := rfl
  rw [hacts, moments_append_cons] at hmoments
  refine ⟨_, _, _, hmoments, ?_, rfl, departs_of_detach rfl ?_, ?_⟩
  · intro x hx info' failed slot hturn
    have hact := mem_acts_of_mem_moments hx
    rw [hturn] at hact
    rcases List.mem_cons.1 hact with heq | hact
    · cases heq
    · obtain ⟨command, -, heq⟩ := List.mem_map.1 hact
      cases heq
  · exact mem_handles_foldl hfirst hthere
  · intro x hx info' failed slot hturn hsame
    have hact := mem_acts_of_mem_moments hx
    rw [hturn] at hact
    rcases List.mem_append.1 hact with hact | hact
    · obtain ⟨command, -, heq⟩ := List.mem_map.1 hact
      cases heq
    rcases List.mem_cons.1 hact with heq | hact
    · cases heq
    have hinstance := mem_instances_of_mem_slots (mem_slots_of_mem_turnActs hact)
    exact hgone (hsame ▸ List.mem_map_of_mem (List.mem_append_left _ hinstance))

theorem GoneBeforeTurns.after_loads
    {loads moments : List (Moment G)} {handle : Handle} (h : GoneBeforeTurns moments handle)
    (hloads : ∀ x ∈ loads, ∀ info failed slot, x.act ≠ .turn info failed slot) :
    GoneBeforeTurns (loads ++ moments) handle := by
  obtain ⟨earlier, m, later, rfl, hearlier, hleaves⟩ := h
  refine ⟨loads ++ earlier, m, later, by rw [List.append_assoc], ?_, hleaves⟩
  intro x hx
  rcases List.mem_append.1 hx with hx | hx
  · exact hloads x hx
  · exact hearlier x hx

/-- A step takes instances away, and puts those of its queue behind the others. -/
theorem handles_step (e : Engine G) (info : StepInfo) :
    (e.runStep b info).2.scheduler.handles.Sublist
      (e.scheduler.handles ++ attachHandles e.env.commands) := by
  have h := handles_moments b e (e.actsOf b (.step info))
  rw [operate_eq_foldl, attachedIn_moments] at h
  exact filterMap_attached?_stepActs b e info ▸ h

end Attempts

section Numbers

variable {b : Behavior G}

theorem Engine.Numbered.operate
    {e : Engine G} (h : e.Numbered) (operation : Operation G) : (e.operate b operation).Numbered :=
  let ⟨_, hsound⟩ := h
  ⟨_, hsound.operate operation⟩

theorem Engine.Numbered.grow
    {e : Engine G} (h : e.Numbered) {env : Environment G} (hgrows : e.env.Grows env) :
    Engine.Numbered { e with env := env } :=
  let ⟨log, hsound⟩ := h
  ⟨log, hsound.grow hgrows⟩

theorem numbered_loadOne {e : Engine G} (h : e.Numbered) (spec : PluginSpec) :
    (TickLoop.loadOne b e spec).Numbered := by
  obtain ⟨notice, hload⟩ := TickLoop.exists_loadOne_eq (b := b) e spec
  rw [hload]
  exact (h.operate (.loadAndAttach spec)).grow (Environment.Grows.report _ notice)

theorem numbered_loadRequested {e : Engine G} (h : e.Numbered) :
    (TickLoop.loadRequested b e).Numbered := by
  have hloads : ∀ (specs : List PluginSpec) {e : Engine G}, e.Numbered →
      (specs.foldl (TickLoop.loadOne b) e).Numbered := by
    intro specs
    induction specs with
    | nil => exact id
    | cons spec rest ih => exact fun h => ih (numbered_loadOne h spec)
  exact hloads _ (h.grow (Environment.Grows.of_eq rfl rfl rfl))

/-- What a host does with a loop keeps the handles of its engine apart. -/
theorem numbered_operateAll
    (config : TickConfig) {start : Engine G} (h : start.Numbered)
    (operations : List (LoopOperation G)) :
    ((TickLoop.create config start).operateAll b operations).engine.Numbered := by
  have hoperate : ∀ (t : TickLoop G) (operation : LoopOperation G), t.engine.Numbered →
      (t.operate b operation).engine.Numbered := by
    intro t operation ht
    cases operation with
    | tick =>
        cases hinfo : t.nextInfo with
        | ok info =>
            rw [(TickLoop.tick_of_nextInfo hinfo).2]
            exact (numbered_loadRequested ht).operate (.step info)
        | error cause =>
            rw [(TickLoop.tick_of_error hinfo).2]
            exact ht
    | setPaused paused =>
        exact ht.grow (Environment.Grows.of_eq rfl rfl rfl)
    | host operation =>
        exact ht.operate (operation.beside t.env)
  have hall : ∀ (operations : List (LoopOperation G)) (t : TickLoop G), t.engine.Numbered →
      (t.operateAll b operations).engine.Numbered := by
    intro operations
    induction operations with
    | nil => exact fun _ => id
    | cons operation rest ih => exact fun t ht => ih _ (hoperate t operation ht)
  exact hall operations _ (h.grow (Environment.Grows.of_eq rfl rfl rfl))

end Numbers

/--
**What becomes of plugins that are asked for.**  Whatever the host and guest code have done with a
loop since it was made, each plugin that was asked for was tried by one tick, once and in its turn,
or it waits; and what waits is what was asked for since the last tick began.  The next tick, if it
can be made, begins with an attempt for each plugin that waits, in their order.  All guest code of
an attempt is told the entity of the event.  One that fails leaves the instances alone; one that
succeeds attaches a new one behind all others.  After the tick they stand behind those attached
before and before those that the queue of its step has attached.  Each that the queue does not
detach has its turns in all passes of that step; one that the queue detaches is gone before the
first turn of that step and has none.

A callback that notifies the event that it is told of is outside the contract of events: the tick
in which it did so would never come to its end.
-/
theorem requested_loads (b : Behavior G) (config : TickConfig) {start : Engine G}
    (hstart : start.Unattended) {past : List (LoopOperation G)} {channels : List ChannelKey}
    (hdepth : channels.length ≤ b.depth)
    (hchannels : emitted ((TickLoop.create config start).log b past) ⊆ channels)
    (hkept : ∀ o ∈ (TickLoop.create config start).log b past,
      ∀ c ∈ (TickLoop.create config start).subscriptions, o.request ≠ .disconnect c)
    {t : TickLoop G} (ht : (TickLoop.create config start).operateAll b past = t)
    {marks : List Mark} (hmarks : (TickLoop.create config start).marks b past = marks) :
    askedIn marks = (TickLoop.create config start).attempted b past ++ t.env.loop.loadRequests ∧
    (∀ earlier recent, marks = earlier ++ .tick :: recent → Mark.tick ∉ recent →
      t.env.loop.loadRequests = askedIn recent) ∧
    ∀ info, t.nextInfo = .ok info →
      (t.attempts b).map Attempt.spec = t.env.loop.loadRequests ∧
      t.momentsOf b .tick = (t.attempts b).flatMap (Attempt.moments b) ++
        (TickLoop.loadRequested b t.engine).momentsOf b (.step info) ∧
      (∀ a ∈ t.attempts b, a.Settled b ∧
        ∀ s ∈ (a.moments b).flatMap (Moment.guestRuns b),
          (∃ factory, s.purpose = .construct factory a.spec) ∨
            ∃ i stage, s.purpose.call? = some (i, stage) ∧
              i.entity = a.spec.entity ∧ i.config = a.spec.config) ∧
      (t.operate b .tick).engine.scheduler.handles.Sublist
        (t.engine.scheduler.handles ++
          ((t.attempts b).filterMap (Attempt.recruit? b)).map Instance.handle ++
          attachHandles (TickLoop.loadRequested b t.engine).env.commands) ∧
      ∀ i ∈ (t.attempts b).filterMap (Attempt.recruit? b),
        (.detach i.handle ∉ (TickLoop.loadRequested b t.engine).env.commands →
          ∀ pass ∈ Pass.all, ∃ m ∈ t.momentsOf b .tick, ∃ failed,
            m.act = .turn info failed (pass, i.admitted)) ∧
        (start.Numbered → .detach i.handle ∈ (TickLoop.loadRequested b t.engine).env.commands →
          i.handle ∉ (t.operate b .tick).engine.scheduler.handles ∧
            GoneBeforeTurns (t.momentsOf b .tick) i.handle) := by
  subst ht hmarks
  have hlog := unhindered_of_emitted hdepth hchannels hkept
  have hlistens := TickLoop.listens_create config hstart
  have hloop := (TickLoop.listens_operateAll hlistens past hlog).2
  have hnumbered : start.Numbered →
      ((TickLoop.create config start).operateAll b past).engine.Numbered :=
    fun h => numbered_operateAll config h past
  refine ⟨TickLoop.asked_eq hlistens past hlog, ?_, ?_⟩
  · intro earlier recent hsplit hrecent
    rw [hloop, hsplit, loadRequests_foldl_since earlier hrecent]
  · intro info hinfo
    generalize (TickLoop.create config start).operateAll b past = t at hinfo hnumbered ⊢
    have hlinked : Linked Attempt.before (Attempt.after b) (TickLoop.takeRequests t.engine)
        (t.attempts b) (TickLoop.loadRequested b t.engine) :=
      TickLoop.linked_attemptsFrom _ _
    have hscheduler := scheduler_attempts hlinked
    have hmoments : t.momentsOf b .tick = (t.attempts b).flatMap (Attempt.moments b) ++
        (TickLoop.loadRequested b t.engine).momentsOf b (.step info) := by
      rw [TickLoop.momentsOf, hinfo, TickLoop.attempts, TickLoop.flatMap_moments_attemptsFrom]
    refine ⟨TickLoop.map_spec_attemptsFrom _ _, hmoments, ?_, ?_, ?_⟩
    · intro a _
      exact ⟨settled_attempt a, fun s => purposes_attempt a⟩
    · have hhandles : (TickLoop.loadRequested b t.engine).scheduler.handles =
          t.engine.scheduler.handles ++
            ((t.attempts b).filterMap (Attempt.recruit? b)).map Instance.handle := by
        rw [hscheduler, Scheduler.handles, Scheduler.all, ← List.append_assoc, List.map_append]
        rfl
      rw [(TickLoop.tick_of_nextInfo hinfo).2, ← hhandles]
      exact handles_step _ info
    · intro i hi
      have hpending : i ∈ (TickLoop.loadRequested b t.engine).scheduler.pending := by
        rw [hscheduler]
        exact List.mem_append_right _ hi
      refine ⟨fun hqueue pass hpass => ?_, fun hstart hqueue => ?_⟩
      · obtain ⟨m, hm, hturn⟩ := turns_of_pending hpending hqueue info hpass
        refine ⟨m, ?_, hturn⟩
        rw [hmoments]
        exact List.mem_append_right _ hm
      · obtain ⟨log, hsound⟩ := numbered_loadRequested (b := b) (hnumbered hstart)
        have hthere : i.handle ∈ (TickLoop.loadRequested b t.engine).scheduler.handles :=
          List.mem_map_of_mem (List.mem_append_right _ hpending)
        obtain ⟨hgone, hbefore⟩ := gone_of_queued hsound hthere hqueue info
        refine ⟨?_, ?_⟩
        · rw [(TickLoop.tick_of_nextInfo hinfo).2]
          exact hgone
        · rw [hmoments]
          exact hbefore.after_loads fun x hx => by
            obtain ⟨a, -, hx⟩ := List.mem_flatMap.1 hx
            exact ne_turn_of_loading hx

namespace Puppets

/-- The second system has itself detached as soon as it is configured. -/
def quitters : Behavior puppets :=
  { idle with
    offers := fun _ _ _ => true
    configure := fun system ctx =>
      match system with
      | 2 => (Program.queueDetach ctx.handle).bind fun _ => .done ()
      | _ => .done () }

/-- An engine that can load two plugins. -/
def hiring : Engine puppets :=
  ⟨.empty,
    { Environment.initial (0 : Nat) with
      loader := ((Loader.empty : Loader puppets).register "long" (1 : Nat)).register "short"
        (2 : Nat) }⟩

/-- The host asks for plugins. -/
def ask (specs : List PluginSpec) : LoopOperation puppets :=
  .host (.run .none ((Program.emit (.loadPlugins ⟨5⟩ specs)).bind fun _ => .done ()))

theorem unattended_hiring : hiring.Unattended where
  alive := rfl
  orderly := fun _ => Channel.Orderly.empty
  unheard := fun _ => rfl

theorem numbered_hiring : hiring.Numbered :=
  ⟨[], rfl, List.Sublist.refl _, List.nodup_nil, fun _ hmem => nomatch hmem⟩

/-- A plugin that there is none of, one that is bound to another entity, and one that quits. -/
def wishes : List PluginSpec := [.ofName "none", ⟨"long", ⟨3⟩, .empty⟩, .ofName "short"]

end Puppets

theorem requested_loads_hiring :
    Puppets.hiring.Unattended ∧ Puppets.hiring.Numbered ∧
    ∃ (t : TickLoop puppets) (info : StepInfo) (i j : Instance puppets),
      t = (TickLoop.create .default Puppets.hiring).operateAll Puppets.quitters
        [Puppets.ask Puppets.wishes] ∧
      t.nextInfo = .ok info ∧
      (t.attempts Puppets.quitters).map Attempt.spec =
        [⟨"none", ⟨5⟩, .empty⟩, ⟨"long", ⟨5⟩, .empty⟩, ⟨"short", ⟨5⟩, .empty⟩] ∧
      (t.attempts Puppets.quitters).filterMap (Attempt.recruit? Puppets.quitters) = [i, j] ∧
      i.entity = ⟨5⟩ ∧
      (∃ m ∈ t.momentsOf Puppets.quitters .tick, ∃ failed,
        m.act = .turn info failed (.phase .update, i.admitted)) ∧
      j.handle ∉ (t.operate Puppets.quitters .tick).engine.scheduler.handles ∧
      GoneBeforeTurns (t.momentsOf Puppets.quitters .tick) j.handle := by
  obtain ⟨_, _, htick⟩ := requested_loads Puppets.quitters .default Puppets.unattended_hiring
    (show [ChannelKey.event .loadPlugins].length ≤ 4 by decide)
    (show emitted ((TickLoop.create .default Puppets.hiring).log Puppets.quitters
      [Puppets.ask Puppets.wishes]) ⊆ [.event .loadPlugins] from fun _ hkey => hkey)
    (by
      intro o ho c _
      obtain rfl := List.mem_singleton.1 ho
      exact nofun) rfl rfl
  obtain ⟨hspecs, _, _, _, hrecruits⟩ :=
    htick _ (TickLoop.nextInfo_first rfl TickConfig.stepDuration?_default)
  have hattached : ∃ i j, (((TickLoop.create .default Puppets.hiring).operateAll Puppets.quitters
      [Puppets.ask Puppets.wishes]).attempts Puppets.quitters).filterMap
        (Attempt.recruit? Puppets.quitters) = [i, j] ∧ i.entity = ⟨5⟩ ∧
        i.handle = ⟨1⟩ ∧ j.handle = ⟨2⟩ := ⟨_, _, rfl, rfl, rfl, rfl⟩
  obtain ⟨i, j, hattached, hentity, hi, hj⟩ := hattached
  have hqueue : (TickLoop.loadRequested Puppets.quitters
      ((TickLoop.create .default Puppets.hiring).operateAll Puppets.quitters
        [Puppets.ask Puppets.wishes]).engine).env.commands = [.detach ⟨2⟩] := rfl
  have hstays := (hrecruits i (hattached ▸ List.mem_cons_self)).1 (by
    rw [hqueue, hi]
    intro hmem
    cases List.mem_singleton.1 hmem)
  have hquits := (hrecruits j (hattached ▸ List.mem_cons_of_mem _ List.mem_cons_self)).2
    Puppets.numbered_hiring (by rw [hqueue, hj]; exact List.mem_cons_self)
  exact ⟨Puppets.unattended_hiring, Puppets.numbered_hiring, _, _, i, j, rfl,
    TickLoop.nextInfo_first rfl TickConfig.stepDuration?_default, hspecs, hattached, hentity,
    hstays _ (by decide), hquits⟩

/-- A system that is loaded on request may be gone when the step of the same tick has its turns. -/
theorem no_turn_quitting :
    ∃ (t : TickLoop puppets) (info : StepInfo) (i : Instance puppets),
      t = (TickLoop.create .default Puppets.hiring).operateAll Puppets.quitters
        [Puppets.ask [.ofName "short"]] ∧
      t.nextInfo = .ok info ∧
      (t.attempts Puppets.quitters).filterMap (Attempt.recruit? Puppets.quitters) = [i] ∧
      (t.operate Puppets.quitters .tick).engine.scheduler.handles = [] ∧
      ∀ pass ∈ Pass.all, ¬ ∃ m ∈ t.momentsOf Puppets.quitters .tick, ∃ failed,
        m.act = .turn info failed (pass, i.admitted) := by
  have hinfo := TickLoop.nextInfo_first (show ((TickLoop.create .default
    Puppets.hiring).operateAll Puppets.quitters [Puppets.ask [.ofName "short"]]).last = none
      from rfl) TickConfig.stepDuration?_default
  have hidle : ∀ moments : List (Moment puppets),
      (moments.all fun m => match m.act with | .turn _ _ _ => false | _ => true) = true →
        ∀ m ∈ moments, ∀ info failed slot, m.act ≠ .turn info failed slot := by
    intro moments hall m hm info failed slot hact
    have hturn := List.all_eq_true.1 hall m hm
    rw [hact] at hturn
    cases hturn
  refine ⟨_, _, _, rfl, hinfo, rfl, ?_, ?_⟩
  · rw [(TickLoop.tick_of_nextInfo hinfo).2]
    rfl
  · rintro pass - ⟨m, hm, failed, hact⟩
    rw [TickLoop.momentsOf, hinfo] at hm
    exact hidle _ rfl m hm _ _ _ hact

end SimEngine
