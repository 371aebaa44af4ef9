import SimEngine.Proofs.Onlookers
import SimEngine.Proofs.StepFrames
import SimEngine.Proofs.VelocityLogs

/-!
# Steps in which systems pause and stop a simulation

A system that pauses the simulation is called before each update.  It waits for
its step, then it pauses the simulation, and some steps later it stops it.  All
it does is to notify the loop, which heeds it at once.  So a step of
built-in systems makes of the flags of the loop what the systems decide, and the
order in which they are called does not matter.

**Definitions.**
* `PauseAfter.advance`, `LoopFlags.heed`: what becomes of a system in a step, and
  of the flags by what systems decide.
* `Poised`: nothing waits to be carried out, and the loop hears.
* `Apt`: an instance that is called as its system needs it.
* `Acted`: what calls leave of an environment.
* `Primed`: the engines all this applies to.

**Results.**
* `run_preUpdate`: a system decides, and the loop heeds it.
* `acted_callPhase`: what the call of a built-in system leaves.
* `acted_turn`, `acted_turns`: what one turn leaves, and what the turns of a step
  leave.
* `primed_runStep`: what a step leaves.
-/

namespace SimEngine

open Cast (behavior)

/-- The system after a step. -/
def PauseAfter.advance (p : PauseAfter) (info : StepInfo) : PauseAfter :=
  match p.decide info with
  | .pause => { p with pausedAt := some info.iterations }
  | _ => p

/-- What becomes of the flags of a loop by what systems decide. -/
def LoopFlags.heed (flags : LoopFlags) (actions : List PauseAction) : LoopFlags :=
  { flags with
    paused := flags.paused || decide (.pause ∈ actions)
    stopRequested := flags.stopRequested || decide (.stop ∈ actions) }

/-- What systems decide in a step. -/
def Environment.actions (env : Environment cast) (info : StepInfo) (systems : List SystemId) :
    List PauseAction :=
  (systems.filterMap env.pauseOf).map (·.decide info)

/-- Nothing waits to be carried out, and the loop hears of pauses and stops. -/
structure Poised (env : Environment cast) : Prop where
  alive : env.orphaned = false
  idle : env.commands = []
  unasked : env.loop.loadRequests = []
  quiet : ∀ list, (env.queryList list).queries = []
  heard : env.channels.TellLoop

/-- A built-in system is remembered. -/
def Environment.Hosts (env : Environment cast) (system : SystemId) : Prop :=
  ∃ role, env.memory.role? system = some role ∧ role.IsBuiltin

/-- An instance of a built-in system; one that pauses is called before updates. -/
structure Apt (env : Environment cast) (i : Instance cast) : Prop where
  hosted : env.Hosts i.attachment.system
  able : (env.pauseOf i.attachment.system).isSome = true →
    i.capabilities.has (.phase .preUpdate) = true

/-- What calls in a step leave of an environment, if those who may pause are the ones called. -/
structure Acted (info : StepInfo) (called : List SystemId) (env left : Environment cast) :
    Prop where
  poised : Poised left
  loop : left.loop = env.loop.heed (env.actions info called)
  hosted : ∀ system, env.Hosts system → left.Hosts system
  pauses : ∀ system, left.pauseOf system =
    if system ∈ called then (env.pauseOf system).map (·.advance info) else env.pauseOf system

/-- The system that may pause in a turn. -/
def pausingIn : Pass × Instance cast → List SystemId
  | (.phase .preUpdate, i) => [i.attachment.system]
  | _ => []

/-- What the attached systems pause the simulation by. -/
def Engine.pauses (e : Engine cast) : List PauseAfter :=
  e.scheduler.all.filterMap fun i => e.env.pauseOf i.attachment.system

/-- An engine of built-in systems, each attached once, in which nothing waits but for a step. -/
structure Primed (e : Engine cast) : Prop where
  poised : Poised e.env
  apt : ∀ i ∈ e.scheduler.all, Apt e.env i
  distinct : (e.scheduler.all.map fun i => i.attachment.system).Nodup

variable {env left : Environment cast} {info : StepInfo} {system : SystemId}

/-- A system that a payload describes has not paused, and waits for some step. -/
theorem PauseAfter.of_ofPayload {config : Payload} {p : PauseAfter}
    (h : ofPayload config = .ok p) : p.pausedAt = none ∧ 1 ≤ p.after.toNat := by
  unfold ofPayload at h
  split at h
  · cases h
  · rename_i after _
    split at h
    · cases h
    · rename_i hpositive
      split at h <;> cases h
      refine ⟨rfl, Nat.pos_of_ne_zero fun hzero => hpositive ?_⟩
      exact UInt64.toNat_inj.1 hzero

section Flags

namespace LoopFlags

@[simp] theorem heed_nil (flags : LoopFlags) : flags.heed [] = flags := by
  simp [heed]

@[simp] theorem heed_wait (flags : LoopFlags) : flags.heed [.wait] = flags := by
  simp [heed]

/-- It does not matter in how many goes the decisions are heeded. -/
theorem heed_append (flags : LoopFlags) (first second : List PauseAction) :
    flags.heed (first ++ second) = (flags.heed first).heed second := by
  simp [heed, Bool.or_assoc, Bool.decide_or]

theorem heed_pause (flags : LoopFlags) : flags.heed [.pause] = flags.tell (.pause true) := by
  simp [heed, tell]

theorem heed_stop (flags : LoopFlags) : flags.heed [.stop] = flags.tell .stop := by
  simp [heed, tell]

end LoopFlags

theorem Environment.actions_append (env : Environment cast) (info : StepInfo)
    (first second : List SystemId) :
    env.actions info (first ++ second) = env.actions info first ++ env.actions info second := by
  simp [actions]

/-- What is decided depends on what the systems pause by. -/
theorem Environment.actions_congr {systems : List SystemId}
    (h : ∀ system ∈ systems, left.pauseOf system = env.pauseOf system) :
    left.actions info systems = env.actions info systems := by
  rw [actions, actions, List.filterMap_congr h]

end Flags

section Orders

/-- What onlookers leave is poised if it was before. -/
theorem Poised.noted (h : Poised env) (hnoted : Noted env left)
    (hunasked : left.loop.loadRequests = env.loop.loadRequests) : Poised left where
  alive := hnoted.orphaned.trans h.alive
  idle := hnoted.commands.trans h.idle
  unasked := hunasked.trans h.unasked
  quiet list := by
    rw [hnoted.queryList]
    exact h.quiet list
  heard := hnoted.tellLoop h.heard

/-- A system that pauses the simulation decides, and the loop heeds it. -/
theorem run_preUpdate (h : Poised env) (p : PauseAfter) (hfits : p.decide info ≠ .overflow) :
    ∃ left, behavior.run .full (p.preUpdate info) env = (.done (p.advance info), left) ∧
      Noted env left ∧ left.loop = env.loop.heed [p.decide info] := by
  have hordered : ∀ (notice : Notice) (signal : Signal) (next : PauseAfter), signal.IsOrder →
      ∃ left, behavior.run .full (do
          Program.report notice
          let _ ← Program.emit signal
          return next) env = (.done next, left) ∧
        Noted env left ∧ left.loop = env.loop.tell signal := by
    intro notice signal next hsignal
    have hreported : Noted env (env.report notice) := { Noted.refl env with }
    have halive : (env.report notice).orphaned = false := h.alive
    obtain ⟨hnoted, hloop⟩ := emit_order halive (hreported.tellLoop h.heard) hsignal
    refine ⟨_, ?_, hreported.trans hnoted, hloop⟩
    refine (run_ask behavior .full (.report notice) _ h.alive).trans ?_
    exact run_ask behavior .full (.emit signal) _ (hnoted.orphaned.trans halive)
  unfold PauseAfter.preUpdate PauseAfter.advance
  cases hdecide : p.decide info with
  | wait => exact ⟨env, rfl, .refl env, env.loop.heed_wait.symm⟩
  | overflow => exact absurd hdecide hfits
  | pause =>
      rw [LoopFlags.heed_pause]
      exact hordered _ (.pause true) _ trivial
  | stop =>
      rw [LoopFlags.heed_stop]
      exact hordered _ .stop _ trivial

end Orders

section Calls

theorem Environment.Hosts.of_memory (h : env.Hosts system) (hmemory : left.memory = env.memory) :
    left.Hosts system := by
  obtain ⟨role, hrole, hbuiltin⟩ := h
  exact ⟨role, by rw [hmemory, hrole], hbuiltin⟩

namespace Acted

/-- What is within the reach of a system that does not pause, and its reports, do not matter. -/
theorem of_memory (h : Poised env) (world : Scene) (journal : List Notice) :
    Acted info [] env { env with world := world, journal := journal } where
  poised := { h with }
  loop := by rw [Environment.actions, List.filterMap_nil, List.map_nil, LoopFlags.heed_nil]
  hosted _ hhosted := hhosted.of_memory rfl
  pauses _ := rfl

theorem refl (h : Poised env) : Acted info [] env env :=
  .of_memory h env.world env.journal

theorem trans {between : Environment cast} {called called' : List SystemId}
    (h : Acted info called env between) (h' : Acted info called' between left)
    (hdisjoint : ∀ system ∈ called, system ∉ called') :
    Acted info (called ++ called') env left where
  poised := h'.poised
  loop := by
    have hlater : between.actions info called' = env.actions info called' := by
      refine Environment.actions_congr fun system hsystem => ?_
      rw [h.pauses, if_neg fun hcalled => hdisjoint system hcalled hsystem]
    rw [h'.loop, h.loop, hlater, Environment.actions_append, LoopFlags.heed_append]
  hosted system hhosted := h'.hosted system (h.hosted system hhosted)
  pauses system := by
    rw [h'.pauses, h.pauses]
    by_cases hcalled : system ∈ called
    · simp [hcalled, hdisjoint system hcalled]
    · simp [hcalled]

/-- What comes after the calls, and is none, makes no difference. -/
theorem later {between : Environment cast} {called : List SystemId}
    (h : Acted info called env between) (h' : Acted info [] between left) :
    Acted info called env left := by
  have hboth := h.trans h' fun _ _ => List.not_mem_nil
  rwa [List.append_nil] at hboth

/-- Who does not pause may as well not be called. -/
theorem of_none (h : Acted info [] env left) (hnone : env.pauseOf system = none) :
    Acted info [system] env left :=
  { h with
    loop := by
      rw [h.loop]
      simp [Environment.actions, hnone]
    pauses := fun other => by
      rw [h.pauses, if_neg List.not_mem_nil]
      split
      · rename_i hother
        rw [List.mem_singleton.1 hother, hnone]
        rfl
      · rfl }

/-- A role that does not pause is continued. -/
theorem revise {role next : Role} (h : Acted info [] env left)
    (hrole : left.memory.role? system = some role) (hnext : next.IsBuiltin)
    (hpause : next.pause? = role.pause?) :
    Acted info [] env { left with memory := left.memory.revise system fun _ => next } := by
  have hself := Memory.role?_revise_self hrole fun _ => next
  have hrevised : Acted info [] left
      { left with memory := left.memory.revise system fun _ => next } :=
    { Acted.refl h.poised with
      poised := { h.poised with }
      hosted := fun other ⟨role', hrole', hbuiltin⟩ => by
        by_cases hother : other = system
        · exact ⟨next, hother ▸ hself, hnext⟩
        · exact ⟨role', (Memory.role?_revise_of_ne _ hother _).trans hrole', hbuiltin⟩
      pauses := fun other => by
        rw [if_neg List.not_mem_nil, Environment.pauseOf, Environment.pauseOf]
        by_cases hother : other = system
        · subst hother
          rw [hself, hrole]
          exact hpause
        · rw [Memory.role?_revise_of_ne _ hother] }
  exact h.later hrevised

end Acted

section Tending

variable {conduct : Role → Deed (Option Role)} {access : Access} {role : Role}

/-- A system whose role says nothing of what becomes of it. -/
theorem run_tending_of_none (halive : env.orphaned = false)
    (hrole : env.memory.role? system = some role)
    (hdone : behavior.run access (conduct role) env = (.done none, left)) :
    behavior.run access (Cast.tending system conduct) env = (.done (), left) := by
  have hrun : behavior.run access (Cast.tending system conduct) env = _ :=
    run_tending (behavior.tidyWith_of_not_orphaned halive)
  replace hdone : (conduct role).run behavior.emit behavior.tidy access env = _ := hdone
  rw [hrun, hrole]
  simp only [hdone]

/-- A system is remembered as what its role comes to. -/
theorem run_tending_of_some (halive : env.orphaned = false)
    (hrole : env.memory.role? system = some role) {next : Role}
    (hdone : behavior.run access (conduct role) env = (.done (some next), left))
    (halive' : left.orphaned = false) :
    behavior.run access (Cast.tending system conduct) env =
      (.done (), { left with memory := left.memory.revise system fun _ => next }) := by
  have hrun : behavior.run access (Cast.tending system conduct) env = _ :=
    run_tending (behavior.tidyWith_of_not_orphaned halive)
  replace hdone : (conduct role).run behavior.emit behavior.tidy access env = _ := hdone
  rw [hrun, hrole]
  simp only [hdone]
  rw [Behavior.tidy, behavior.tidyWith_of_not_orphaned]
  exact halive'

/-- A program that goes on once another is done. -/
theorem run_bind_of_done {α β : Type} {p : Deed α} {a : α}
    (hdone : behavior.run access p env = (.done a, left)) (next : α → Deed β) :
    behavior.run access (p.bind next) env = behavior.run access (next a) left := by
  have hthen := run_bind behavior.emit behavior.tidy access p next env
  replace hdone : p.run behavior.emit behavior.tidy access env = _ := hdone
  simp only [hdone] at hthen
  exact hthen

end Tending

/-- A system that was asked has decided, and is remembered as it is after the step. -/
theorem acted_pauseAfter (h : Poised env) {p : PauseAfter}
    (hrole : env.memory.role? system = some (.pauseAfter p)) (hnoted : Noted env left)
    (hloop : left.loop = env.loop.heed [p.decide info]) :
    Acted info [system] env
      { left with memory := left.memory.revise system fun _ => .pauseAfter (p.advance info) } := by
  have hself := Memory.role?_revise_self ((hnoted.role? system).trans hrole) fun _ =>
    .pauseAfter (p.advance info)
  have hothers : ∀ {other : SystemId}, other ≠ system →
      (left.memory.revise system fun _ => .pauseAfter (p.advance info)).role? other =
        env.memory.role? other := fun hne =>
    (Memory.role?_revise_of_ne _ hne _).trans (hnoted.role? _)
  have hpauses : env.pauseOf system = some p := by
    rw [Environment.pauseOf, hrole]
    rfl
  constructor
  case poised =>
    have hunasked : left.loop.loadRequests = env.loop.loadRequests := by
      rw [hloop]
      rfl
    exact { h.noted hnoted hunasked with }
  case loop => simpa [Environment.actions, hpauses] using hloop
  case hosted =>
    rintro other ⟨role, hother, hbuiltin⟩
    by_cases heq : other = system
    · subst heq
      exact ⟨.pauseAfter (p.advance info), hself, trivial⟩
    · exact ⟨role, (hothers heq).trans hother, hbuiltin⟩
  case pauses =>
    intro other
    by_cases heq : other = system
    · subst heq
      rw [if_pos (List.mem_singleton_self _), hpauses, Environment.pauseOf, hself]
      rfl
    · rw [if_neg (by simpa using heq), Environment.pauseOf, Environment.pauseOf, hothers heq]

/-- In a turn that is not about pausing, nobody need be asked. -/
theorem Acted.asked {i : Instance cast} {pass : Pass} (h : Acted info [] env left)
    (hnone : pass = .phase .preUpdate → env.pauseOf i.attachment.system = none) :
    Acted info (pausingIn (pass, i)) env left := by
  unfold pausingIn
  split
  · rename_i heq
    obtain ⟨rfl, rfl⟩ := Prod.mk.inj heq
    exact h.of_none (hnone rfl)
  · exact h

/-- **A built-in system that is called in a phase** returns, and may pause if it is asked to. -/
theorem acted_callPhase (h : Poised env) {i : Instance cast} (hi : Apt env i) (phase : StepPhase)
    (hfits : ∀ system ∈ pausingIn (.phase phase, i), ∀ p, env.pauseOf system = some p →
      p.decide info ≠ .overflow) :
    ∃ left, behavior.run (Instance.accessOf phase)
        (behavior.phase phase i.attachment.system info) env = (.done (), left) ∧
      Acted info (pausingIn (.phase phase, i)) env left := by
  obtain ⟨role, hrole, hbuiltin⟩ := hi.hosted
  have hpauses : env.pauseOf i.attachment.system = role.pause? := by
    rw [Environment.pauseOf, hrole, Option.bind_some]
  -- A role that does not pause makes no difference, whether it is asked or not.
  have hplain : ∀ {left : Environment cast}, role.pause? = none → Acted info [] env left →
      Acted info (pausingIn (.phase phase, i)) env left :=
    fun hpause hleft => hleft.asked fun _ => hpauses.trans hpause
  cases role with
  | scripted s => exact hbuiltin.elim
  | accelerate s =>
      cases phase with
      | update =>
          obtain ⟨left, hdone, hcases⟩ := run_accelerate_update h.alive s info
          refine ⟨left, run_tending_of_none h.alive hrole (run_bind_of_done hdone _), hplain rfl ?_⟩
          rcases hcases with rfl | ⟨velocity, world, -, -, -, rfl⟩
          · exact .refl h
          · exact .of_memory h world env.journal
      | _ => exact ⟨env, run_tending_of_none h.alive hrole rfl, hplain rfl (.refl h)⟩
  | velocityLog l =>
      cases phase with
      | postUpdate =>
          obtain ⟨journal, hdone⟩ := run_postUpdate h.alive l info
          refine ⟨_, run_tending_of_some h.alive hrole (run_bind_of_done hdone _) h.alive,
            hplain rfl ?_⟩
          exact (Acted.of_memory h env.world journal).revise hrole trivial rfl
      | _ => exact ⟨env, run_tending_of_none h.alive hrole rfl, hplain rfl (.refl h)⟩
  | simClock c =>
      cases phase with
      | preUpdate =>
          exact ⟨_, run_tending_of_some h.alive hrole rfl h.alive,
            hplain rfl ((Acted.refl h).revise hrole trivial rfl)⟩
      | _ => exact ⟨env, run_tending_of_none h.alive hrole rfl, hplain rfl (.refl h)⟩
  | pauseAfter p =>
      cases phase with
      | preUpdate =>
          obtain ⟨left, hdone, hnoted, hloop⟩ :=
            run_preUpdate h p (hfits _ (List.mem_singleton_self _) p hpauses)
          exact ⟨_, run_tending_of_some h.alive hrole (run_bind_of_done hdone _)
            (hnoted.orphaned.trans h.alive), acted_pauseAfter h hrole hnoted hloop⟩
      | _ => exact ⟨env, run_tending_of_none h.alive hrole rfl, .refl h⟩

end Calls

section Turns

theorem Apt.acted {i : Instance cast} {called : List SystemId} (hi : Apt env i)
    (h : Acted info called env left) : Apt left i where
  hosted := h.hosted _ hi.hosted
  able hpauses := by
    refine hi.able ?_
    rw [h.pauses] at hpauses
    split at hpauses
    · rwa [Option.isSome_map] at hpauses
    · exact hpauses

/-- An instance that does not offer to be called before updates does not pause. -/
theorem Apt.pauseOf_eq_none {i : Instance cast} (hi : Apt env i)
    (h : i.capabilities.has (.phase .preUpdate) = false ∨
      behavior.offers i.attachment.system env.memory (.phase .preUpdate) = false) :
    env.pauseOf i.attachment.system = none := by
  obtain ⟨role, hrole, hbuiltin⟩ := hi.hosted
  cases hpauses : env.pauseOf i.attachment.system with
  | none => rfl
  | some p =>
      have hoffers : behavior.offers i.attachment.system env.memory (.phase .preUpdate) = true := by
        rw [Environment.pauseOf, hrole, Option.bind_some] at hpauses
        obtain rfl : role = .pauseAfter p := by
          cases role with
          | pauseAfter q => exact congrArg Role.pauseAfter (Option.some.inj hpauses)
          | _ => cases hpauses
        simp only [behavior, hrole]
        rfl
      have hable := hi.able (hpauses ▸ rfl)
      rw [hable, hoffers] at h
      simp at h

/-- **One turn of a step** goes well, and leaves what the calls in it leave. -/
theorem acted_turn (h : Poised env) {i : Instance cast} (hi : Apt env i) (pass : Pass)
    (hfits : ∀ system ∈ pausingIn (pass, i), ∀ p, env.pauseOf system = some p →
      p.decide info ≠ .overflow) :
    (behavior.turn info [] (pass, i) env).fault? = none ∧
      Acted info (pausingIn (pass, i)) env (behavior.turn info [] (pass, i) env).after := by
  cases pass with
  | queries =>
      obtain ⟨delivery, left, n, hanswer, hturn⟩ := turn_queries behavior info [] i env
      rw [deliver_of_quiet (h.quiet i.handle)] at hanswer
      obtain ⟨rfl, rfl⟩ := Prod.mk.inj hanswer
      rw [hturn]
      refine ⟨rfl, { Acted.refl h with poised := { h with quiet := fun list => ?_ } }⟩
      exact quiet_setQueryList _ rfl list (quiet_setQueryList _ rfl list (h.quiet list))
  | phase phase =>
      rcases turn_phase_cases behavior info [] phase i env with
        ⟨hskipped, hturn⟩ | ⟨hwithdrawn, hturn⟩ | ⟨outcome, left, -, -, -, hanswer, hturn⟩
      · rw [hturn]
        refine ⟨rfl, (Acted.refl h).asked fun hphase => hi.pauseOf_eq_none (.inl ?_)⟩
        obtain rfl := Pass.phase.inj hphase
        exact hskipped.resolve_left List.not_mem_nil
      · rw [hturn]
        refine ⟨rfl, (Acted.of_memory h env.world _).asked fun hphase =>
          hi.pauseOf_eq_none (.inr ?_)⟩
        obtain rfl := Pass.phase.inj hphase
        exact hwithdrawn
      · obtain ⟨left', hcalled, hacted⟩ := acted_callPhase h hi phase hfits
        obtain ⟨rfl, rfl⟩ := Prod.mk.inj (hanswer.symm.trans hcalled)
        rw [hturn]
        exact ⟨rfl, hacted⟩

/-- **So do the turns of a step**, if nobody who may pause is asked twice. -/
theorem acted_turns (h : Poised env) {slots : List (Pass × Instance cast)}
    (hapt : ∀ slot ∈ slots, Apt env slot.2) (hdistinct : (slots.flatMap pausingIn).Nodup)
    (hfits : ∀ system ∈ slots.flatMap pausingIn, ∀ p, env.pauseOf system = some p →
      p.decide info ≠ .overflow) :
    (behavior.turns info [] slots env).filterMap Turn.fault? = [] ∧
      Acted info (slots.flatMap pausingIn) env
        (lastOf Turn.after env (behavior.turns info [] slots env)) := by
  induction slots generalizing env with
  | nil => exact ⟨rfl, .refl h⟩
  | cons slot rest ih =>
      rw [List.flatMap_cons] at hdistinct hfits ⊢
      obtain ⟨-, hrest, hdisjoint⟩ := List.nodup_append.1 hdistinct
      have hmine := fun system (hsystem : system ∈ pausingIn slot) =>
        hfits system (List.mem_append_left _ hsystem)
      obtain ⟨hfault, hacted⟩ := acted_turn h (hapt slot List.mem_cons_self) slot.1 hmine
      have hmark : markFault [] (behavior.turn info [] slot env) = [] := by
        simp [markFault, Turn.failed, hfault]
      obtain ⟨hfaults, hlater⟩ := ih hacted.poised
        (fun other hother => (hapt other (List.mem_cons_of_mem _ hother)).acted hacted) hrest
        fun system hsystem p hpauses => by
          rw [hacted.pauses, if_neg fun hasked => hdisjoint system hasked system hsystem rfl]
            at hpauses
          exact hfits system (List.mem_append_right _ hsystem) p hpauses
      rw [Behavior.turns, hmark]
      constructor
      · rw [List.filterMap_cons, hfault]
        exact hfaults
      · exact hacted.trans hlater fun system hasked hsystem =>
          hdisjoint system hasked system hsystem rfl

end Turns

section Steps

/-- In a step each instance is asked once. -/
theorem flatMap_pausingIn_slots (instances : List (Instance cast)) :
    (slots instances).flatMap pausingIn = instances.map fun i => i.attachment.system := by
  have hnobody : ∀ pass : Pass, (∀ i, pausingIn (pass, i) = []) →
      (instances.map fun i => (pass, i)).flatMap pausingIn = [] := by
    intro pass hpass
    rw [List.flatMap_map]
    exact List.flatMap_eq_nil_iff.2 fun i _ => hpass i
  have heverybody : (instances.map fun i => (Pass.phase .preUpdate, i)).flatMap pausingIn =
      instances.map fun i => i.attachment.system := by
    rw [List.flatMap_map, List.map_eq_flatMap]
    rfl
  rw [slots, List.flatMap_assoc]
  simp only [Pass.all, StepPhase.all, List.map_cons, List.map_nil, List.flatMap_cons,
    List.flatMap_nil, heverybody, hnobody .queries fun _ => rfl,
    hnobody (.phase .update) fun _ => rfl, hnobody (.phase .postUpdate) fun _ => rfl]
  simp

/-- Whoever waits is admitted as they are. -/
theorem map_admitPending {β : Type} (s : Scheduler cast) {f : Instance cast → β}
    (hf : ∀ i, f i.admitted = f i) : s.admitPending.all.map f = s.all.map f := by
  simp [Scheduler.admitPending, Scheduler.all, Function.comp_def, hf]

/-- A step before which nobody asked for anything begins with admissions only. -/
theorem beginStep_of_idle {e : Engine cast} (h : e.env.commands = []) :
    e.beginStep behavior = ⟨e.scheduler.admitPending, e.env⟩ := by
  obtain ⟨scheduler, env⟩ := e
  replace h : env.commands = [] := h
  have hcommands : { env with commands := [] } = env := by rw [← h]
  simp only [Engine.beginStep, Engine.applyCommands, hcommands, h, List.foldl_nil]

/-- **A step of built-in systems** goes well; the loop heeds what they decide. -/
theorem primed_runStep {e : Engine cast} (h : Primed e)
    (hfits : ∀ p ∈ e.pauses, p.decide info ≠ .overflow) :
    (e.runStep behavior info).1.faults = [] ∧
      Primed (e.runStep behavior info).2 ∧
      (e.runStep behavior info).2.pauses = e.pauses.map (·.advance info) ∧
      (e.runStep behavior info).2.env.loop = e.env.loop.heed (e.pauses.map (·.decide info)) := by
  let instances := e.scheduler.admitPending.instances
  let systems := instances.map fun i => i.attachment.system
  let turns := behavior.turns info [] (slots instances) e.env
  let left := lastOf Turn.after e.env turns
  have hall : e.scheduler.admitPending.all = instances := List.append_nil _
  have hsystems : systems = e.scheduler.all.map fun i => i.attachment.system :=
    (congrArg _ hall.symm).trans (map_admitPending e.scheduler fun _ => rfl)
  have hasked : (slots instances).flatMap pausingIn = systems := flatMap_pausingIn_slots instances
  have hpauses : systems.filterMap e.env.pauseOf = e.pauses := by
    rw [hsystems, List.filterMap_map]
    rfl
  have hapt : ∀ i ∈ instances, Apt e.env i := by
    intro i hi
    rcases List.mem_append.1 hi with hi | hi
    · exact h.apt i (List.mem_append_left _ hi)
    · obtain ⟨j, hj, rfl⟩ := List.mem_map.1 hi
      exact { h.apt j (List.mem_append_right _ hj) with }
  obtain ⟨hfaults, hacted⟩ : turns.filterMap Turn.fault? = [] ∧ Acted info systems e.env left := by
    rw [← hasked]
    refine acted_turns h.poised (fun slot hslot => ?_) ?_ fun system hsystem p hp => hfits p ?_
    · obtain ⟨pass, -, hmem⟩ := List.mem_flatMap.1 hslot
      obtain ⟨i, hi, rfl⟩ := List.mem_map.1 hmem
      exact hapt i hi
    · rw [hasked, hsystems]
      exact h.distinct
    · rw [hasked] at hsystem
      rw [← hpauses]
      exact List.mem_filterMap.2 ⟨system, hsystem, hp⟩
  have hleft : (e.runStep behavior info).2 = ⟨e.scheduler.admitPending, left⟩ := by
    rw [Engine.runStep, beginStep_of_idle h.poised.idle, passThrough_eq]
  have hadvanced : systems.filterMap left.pauseOf = e.pauses.map (·.advance info) := by
    rw [← hpauses, List.map_filterMap]
    refine List.filterMap_congr fun system hsystem => ?_
    rw [hacted.pauses, if_pos hsystem]
  rw [hleft]
  refine ⟨?_, ⟨hacted.poised, fun i hi => ?_, ?_⟩, ?_, ?_⟩
  · rw [Engine.runStep, beginStep_of_idle h.poised.idle, passThrough_eq]
    exact hfaults
  · rw [hall] at hi
    exact (hapt i hi).acted hacted
  · rw [map_admitPending e.scheduler fun _ => rfl]
    exact h.distinct
  · rw [Engine.pauses, hall, ← hadvanced, List.filterMap_map]
    rfl
  · rw [hacted.loop, Environment.actions, hpauses]

end Steps

end SimEngine
