import SimEngine.Proofs.Custody
import SimEngine.Proofs.ModestRuns

/-!
# Ticks of built-in systems beside a renderer

A loop of built-in systems is ticked twice, once alone and once beside a
renderer.  The two loops stay beside one another: what a built-in system does in
a phase depends on nothing that a clock has shown, and a clock follows the steps
whatever it has shown.

**Definitions.**
* `SameResult`: the same result in environments beside one another, at rest.
* `TickLoop.Beside`: loops that differ in their environments only, and there in
  what was shown.

**Results.**
* `sameResult_callPhase`: the call of a phase.
* `sameResult_advance`: one turn of a step.
* `sameResult_runTicks`: whole runs.
-/

namespace SimEngine

open Cast (behavior)

/-- Two results, the same in environments beside one another, at rest. -/
structure SameResult (attachments : List (Attachment cast)) {α : Type}
    (x x' : α × Environment cast) : Prop where
  result : x'.1 = x.1
  beside : x.2.Beside x'.2
  settled : Settled attachments x.2

/-- Two loops differ in what clocks have shown only. -/
structure TickLoop.Beside (t t' : TickLoop cast) : Prop where
  rest : t' = { t with engine := { t.engine with env := t'.env } }
  env : t.env.Beside t'.env

variable {attachments : List (Attachment cast)} {env env' : Environment cast}

section Calls

variable {system : SystemId} {conduct : Role → Deed (Option Role)}

theorem tidy_of_settled (h : Settled attachments env) : behavior.tidy env = env :=
  behavior.tidyWith_of_not_orphaned h.alive

/-- What a system does whose role is known. -/
theorem run_tending_of_role (hsettled : Settled attachments env) {role : Role}
    (hrole : env.memory.role? system = some role) (access : Access) :
    behavior.run access (Cast.tending system conduct) env =
      match behavior.run access (conduct role) env with
      | (.done none, left) => (.done (), left)
      | (.done (some next), left) =>
        (.done (), behavior.tidy
          { left with memory := left.memory.revise system fun _ => next })
      | (.failed f, left) => (.failed f, left)
      | (.panicked m, left) => (.panicked m, left) := by
  have hrun : behavior.run access (Cast.tending system conduct) env = _ :=
    run_tending (tidy_of_settled hsettled)
  rw [hrole] at hrun
  exact hrun

/-- A system is remembered as what continues it, in environments beside one another. -/
theorem sameResult_revise (hsettled : Settled attachments env) (hbeside : env.Beside env')
    {role next next' : Role} (hrole : env.memory.role? system = some role)
    (hnext : role.Continues next) (hshown : next'.unshown = next.unshown) :
    SameResult attachments
      (Outcome.done (), behavior.tidy
        { env with memory := env.memory.revise system fun _ => next })
      (Outcome.done (), behavior.tidy
        { env' with memory := env'.memory.revise system fun _ => next' }) := by
  have hrevised : Environment.Beside
      { env with memory := env.memory.revise system fun _ => next }
      { env' with memory := env'.memory.revise system fun _ => next' } :=
    { hbeside with memory := hbeside.memory.revise system hshown }
  have hsettled' := hsettled.revise hrole hnext
  rw [tidy_of_settled hsettled', tidy_of_settled (hsettled'.beside hrevised)]
  exact ⟨rfl, hrevised, hsettled'⟩

/-- A system whose role asks modestly does the same in environments beside one another. -/
theorem sameResult_tending_modest (hsettled : Settled attachments env) (hbeside : env.Beside env')
    {role : Role} (hrole : env.memory.role? system = some role)
    (hrole' : env'.memory.role? system = some role)
    (hconduct : (conduct role).Confined Request.Modest fun result =>
      ∀ next ∈ result, role.Continues next) (access : Access) :
    SameResult attachments (behavior.run access (Cast.tending system conduct) env)
      (behavior.run access (Cast.tending system conduct) env') := by
  have hdone := unison_run hconduct hsettled hbeside access
  rw [run_tending_of_role hsettled hrole,
    run_tending_of_role (hsettled.beside hbeside) hrole']
  rcases hrun : behavior.run access (conduct role) env with ⟨outcome, left⟩
  rcases hrun' : behavior.run access (conduct role) env' with ⟨outcome', left'⟩
  rw [hrun, hrun'] at hdone
  obtain ⟨rfl, hended, hcalm⟩ : outcome' = outcome ∧ left.Beside left' ∧ Calm env left :=
    ⟨hdone.result, hdone.beside, hdone.calm⟩
  have hsettled' := hsettled.of_calm hcalm
  cases outcome' with
  | done result =>
      cases result with
      | none => exact ⟨rfl, hended, hsettled'⟩
      | some next =>
          have hleft : left.memory.role? system = some role := by rw [hcalm.memory, hrole]
          exact sameResult_revise hsettled' hended hleft (hconduct.result hrun next rfl) rfl
  | failed f => exact ⟨rfl, hended, hsettled'⟩
  | panicked m => exact ⟨rfl, hended, hsettled'⟩

/-- So does a system, provided that clocks depend on nothing that they have shown. -/
theorem sameResult_tending (hsettled : Settled attachments env) (hbeside : env.Beside env')
    (hconduct : ∀ role : Role, role.IsBuiltin →
      (conduct role).Confined Request.Modest fun result => ∀ next ∈ result, role.Continues next)
    (course : SimClock → Option SimClock)
    (hclock : ∀ c, conduct (.simClock c) = .done ((course c).map .simClock))
    (hcourse : ∀ c c', Role.unshown (.simClock c') = Role.unshown (.simClock c) →
      (course c').map (fun c => Role.unshown (.simClock c)) =
        (course c).map fun c => Role.unshown (.simClock c))
    (access : Access) :
    SameResult attachments (behavior.run access (Cast.tending system conduct) env)
      (behavior.run access (Cast.tending system conduct) env') := by
  cases hrole : env.memory.role? system with
  | none =>
      have hrun : behavior.run access (Cast.tending system conduct) env = _ :=
        run_tending (tidy_of_settled hsettled)
      have hrun' : behavior.run access (Cast.tending system conduct) env' = _ :=
        run_tending (tidy_of_settled (hsettled.beside hbeside))
      rw [hrun, hrun', hrole, hbeside.memory.role?_eq_none hrole]
      exact ⟨rfl, hbeside, hsettled⟩
  | some role =>
      obtain ⟨role', hrole', hshown⟩ := hbeside.memory.exists_role hrole
      have hbuiltin := (hsettled.builtin system role hrole).1
      rcases Role.eq_or_clock hshown with rfl | ⟨c, c', rfl, rfl, -⟩
      · exact sameResult_tending_modest hsettled hbeside hrole hrole' (hconduct _ hbuiltin) access
      · rw [run_tending_of_role hsettled hrole,
          run_tending_of_role (hsettled.beside hbeside) hrole', hclock, hclock]
        have hsame := hcourse c c' hshown
        have hcontinues := hconduct _ hbuiltin
        rw [hclock] at hcontinues
        cases hnext : course c with
        | none =>
            rw [hnext] at hsame
            rw [Option.map_eq_none_iff.1 hsame]
            exact ⟨rfl, hbeside, hsettled⟩
        | some next =>
            rw [hnext] at hsame hcontinues
            obtain ⟨next', hnext', heq⟩ := Option.map_eq_some_iff.1 hsame
            rw [hnext']
            exact sameResult_revise hsettled hbeside hrole (hcontinues _ rfl) heq

/-- A role that says nothing of what becomes of it. -/
theorem confined_none {requests : Request cast → Prop} {results : Role → Prop} :
    Program.Confined requests (fun result => ∀ next ∈ result, results next)
      (Program.done none : Deed (Option Role)) :=
  fun next hnext => (Option.not_mem_none next hnext).elim

/-- A role that is continued. -/
theorem confined_some
    {requests : Request cast → Prop} {results : Role → Prop} {next : Role} (hnext : results next) :
    Program.Confined requests (fun result => ∀ next ∈ result, results next)
      (Program.done (some next) : Deed (Option Role)) := by
  intro other hother
  rwa [← Option.mem_some.1 hother]

/-- The course of a clock in a phase. -/
def SimClock.course (info : StepInfo) : StepPhase → SimClock → Option SimClock
  | .preUpdate, c => some (c.follow info)
  | _, _ => none

/-- **A system does the same in a phase, whatever clocks have shown.** -/
theorem sameResult_callPhase (hsettled : Settled attachments env) (hbeside : env.Beside env')
    (phase : StepPhase) (system : SystemId) (info : StepInfo) (access : Access) :
    SameResult attachments (behavior.run access (behavior.phase phase system info) env)
      (behavior.run access (behavior.phase phase system info) env') := by
  refine sameResult_tending hsettled hbeside ?_ (SimClock.course info phase) ?_ ?_ access
  · intro role hrole
    cases role with
    | accelerate s =>
        cases phase with
        | update => exact (modest_accelerate_update s info).bind fun _ _ => confined_none
        | _ => exact confined_none
    | velocityLog l =>
        cases phase with
        | postUpdate =>
            exact (modest_velocityLog_postUpdate l info).bind fun _ _ =>
              confined_some ⟨trivial, rfl⟩
        | _ => exact confined_none
    | simClock c =>
        cases phase with
        | preUpdate => exact confined_some ⟨trivial, rfl⟩
        | _ => exact confined_none
    | pauseAfter p =>
        cases phase with
        | preUpdate =>
            exact (modest_pauseAfter_preUpdate p info).bind fun _ _ =>
              confined_some ⟨trivial, rfl⟩
        | _ => exact confined_none
    | scripted s => exact hrole.elim
  · intro c
    cases phase <;> rfl
  · intro c c' hshown
    cases phase with
    | preUpdate =>
        have hsame := Role.simClock.inj hshown
        exact congrArg (fun c => some (Role.simClock (SimClock.follow c info))) hsame
    | _ => rfl

end Calls

section Turns

theorem Environment.Beside.offers (h : env.Beside env') (system : SystemId)
    (capability : Capability) :
    behavior.offers system env'.memory capability =
      behavior.offers system env.memory capability := by
  have hsame := congrArg (Option.map fun role : Role => role.capabilities.has capability)
    (h.memory.role? system)
  rw [Option.map_map, Option.map_map] at hsame
  have hshown : (fun role : Role => role.capabilities.has capability) ∘ Role.unshown =
      fun role => role.capabilities.has capability :=
    funext fun role => congrArg (·.has capability) role.capabilities_unshown
  rw [hshown] at hsame
  have hoffers : ∀ m : Memory, behavior.offers system m capability =
      ((m.role? system).map fun role => role.capabilities.has capability).getD false := by
    intro m
    simp only [behavior]
    cases m.role? system <;> rfl
  rw [hoffers, hoffers, hsame]

/-- An instance is called in a phase alike. -/
theorem sameResult_runPhase (hsettled : Settled attachments env) (hbeside : env.Beside env')
    (i : Instance cast) (phase : StepPhase) (info : StepInfo) :
    SameResult attachments (i.runPhase behavior phase info env)
      (i.runPhase behavior phase info env') := by
  unfold Instance.runPhase
  split
  · unfold Instance.call
    rw [hbeside.offers]
    split
    · have hcalled := sameResult_callPhase hsettled hbeside phase i.attachment.system info
        (Instance.accessOf phase)
      rcases hrun : behavior.run (Instance.accessOf phase)
        (behavior.phase phase i.attachment.system info) env with ⟨outcome, left⟩
      rcases hrun' : behavior.run (Instance.accessOf phase)
        (behavior.phase phase i.attachment.system info) env' with ⟨outcome', left'⟩
      rw [hrun, hrun'] at hcalled
      obtain ⟨rfl, hended, hsettled'⟩ := hcalled
      simp only
      cases outcome'.toExcept with
      | ok => exact ⟨rfl, hended, hsettled'⟩
      | error message => exact ⟨rfl, hended, hsettled'⟩
    · exact ⟨rfl, hbeside.report _, hsettled.of_calm (.report env _)⟩
  · exact ⟨rfl, hbeside, hsettled⟩

/-- A delivery to a system at rest has nothing to deliver. -/
theorem deliver_of_quiet {handle : Handle} (hquiet : (env.queryList handle).queries = [])
    (info : StepInfo) :
    QueryList.deliver behavior handle info env =
      (⟨0, none⟩, (env.setQueryList handle (env.queryList handle).depart).setQueryList handle
        ((env.queryList handle).depart.settle [])) := by
  have hlist : (env.setQueryList handle (env.queryList handle).depart).queryList handle =
      (env.queryList handle).depart := by
    simp [Environment.setQueryList, Environment.queryList]
  simp only [QueryList.deliver, hquiet, QueryList.deliverAll, hlist]

/-- Parts of a step that two loops beside one another have passed through. -/
abbrev StepProgress.SameResult (attachments : List (Attachment cast))
    (p p' : StepProgress cast) : Prop :=
  SimEngine.SameResult attachments ((p.faulted, p.report), p.env) ((p'.faulted, p'.report), p'.env)

/-- **One turn of a step keeps two loops beside one another.** -/
theorem sameResult_advance (info : StepInfo) (slot : Pass × Instance cast)
    {p p' : StepProgress cast} (h : p.SameResult attachments p') :
    (p.advance behavior info slot).SameResult attachments (p'.advance behavior info slot) := by
  obtain ⟨pass, i⟩ := slot
  obtain ⟨faulted, report, env⟩ := p
  obtain ⟨faulted', report', env'⟩ := p'
  obtain ⟨hresult, hbeside, hsettled⟩ := h
  obtain ⟨rfl, rfl⟩ : faulted' = faulted ∧ report' = report := Prod.mk.inj hresult
  cases pass with
  | queries =>
      have hquiet := hsettled.quiet i.handle
      have hquiet' := (hsettled.beside hbeside).quiet i.handle
      simp only [StepProgress.advance, StepProgress.deliverOne, deliver_of_quiet hquiet,
        deliver_of_quiet hquiet', hbeside.queryList]
      refine ⟨rfl, (hbeside.setQueryList _ _).setQueryList _ _, ?_⟩
      refine (hsettled.setQueryList _ rfl).setQueryList _ ?_
      rfl
  | phase phase =>
      simp only [StepProgress.advance, StepProgress.callOne]
      split
      · exact ⟨rfl, hbeside, hsettled⟩
      · have hcalled := sameResult_runPhase hsettled hbeside i phase info
        rcases hrun : i.runPhase behavior phase info env with ⟨result, left⟩
        rcases hrun' : i.runPhase behavior phase info env' with ⟨result', left'⟩
        rw [hrun, hrun'] at hcalled
        obtain ⟨rfl, hended, hsettled'⟩ := hcalled
        cases result' with
        | completed => exact ⟨rfl, hended, hsettled'⟩
        | skipped => exact ⟨rfl, hended, hsettled'⟩
        | failed message =>
            exact ⟨rfl, hended.report _, hsettled'.of_calm (.report left _)⟩

end Turns

section Ticks

/-- A loop at rest has nothing to load. -/
theorem loadBeside_of_settled {e : Engine cast} (h : Settled attachments e.env) (frames : Frames) :
    TickLoop.loadBeside behavior frames e = e := by
  obtain ⟨scheduler, env⟩ := e
  have hunasked : env.loop.loadRequests = [] := h.unasked
  have hflags : { env.loop with loadRequests := [] } = env.loop := by rw [← hunasked]
  simp only [TickLoop.loadBeside, hflags, hunasked]
  rfl

/-- A step of a loop at rest has no requests to carry out. -/
theorem runStepBeside_of_settled {e : Engine cast} (h : Settled attachments e.env) (frames : Frames)
    (info : StepInfo) :
    e.runStepBeside behavior frames info =
      let scheduler := e.scheduler.admitPending
      let p := amid (StepProgress.redraw behavior) (StepProgress.advance behavior info)
        frames.amidTurns ⟨[], ⟨info.iterations, [], 0, 0⟩, e.env⟩ (slots scheduler.instances)
      (p.report, ⟨scheduler, behavior.redraw frames.after p.env⟩) := by
  obtain ⟨scheduler, env⟩ := e
  have hidle : env.commands = [] := h.idle
  have hcommands : { env with commands := [] } = env := by rw [← hidle]
  simp only [Engine.runStepBeside, hcommands, hidle]
  rfl

theorem attachments_runStepBeside {e : Engine cast} (h : Settled attachments e.env)
    (frames : Frames) (info : StepInfo) :
    (e.runStepBeside behavior frames info).2.attachments = e.attachments := by
  rw [runStepBeside_of_settled h]
  simp [Engine.attachments, Scheduler.admitPending, Scheduler.all, Function.comp_def,
    Instance.admitted]

/-- **A step is made alike beside a renderer.** -/
theorem sameResult_runStepBeside {e e' : Engine cast} (hscheduler : e'.scheduler = e.scheduler)
    (hsettled : Settled attachments e.env) (hbeside : e.env.Beside e'.env) (frames : Frames)
    (info : StepInfo) :
    let x := e.runStepBeside behavior .none info
    let x' := e'.runStepBeside behavior frames info
    SameResult attachments ((x.1, x.2.scheduler), x.2.env) ((x'.1, x'.2.scheduler), x'.2.env) := by
  have hredraw : ∀ n {p p' : StepProgress cast}, p.SameResult attachments p' →
      p.SameResult attachments (p'.redraw behavior n) := fun n _ _ h =>
    ⟨h.result, h.beside.trans (beside_redraw n (h.settled.beside h.beside)), h.settled⟩
  let start (env : Environment cast) : StepProgress cast :=
    ⟨[], ⟨info.iterations, [], 0, 0⟩, env⟩
  have hstart : (start e.env).SameResult attachments (start e'.env) := ⟨rfl, hbeside, hsettled⟩
  obtain ⟨hresult, hended, hsettled'⟩ := foldl_amid hredraw
    (fun slot _ _ h => sameResult_advance info slot h) frames.amidTurns hstart
    (slots e.scheduler.admitPending.instances)
  rw [← amid_none (StepProgress.redraw behavior) fun _ => rfl] at hresult hended hsettled'
  simp only [runStepBeside_of_settled hsettled, hscheduler,
    runStepBeside_of_settled (hsettled.beside hbeside)]
  refine ⟨?_, hended.trans (beside_redraw _ (hsettled'.beside hended)), hsettled'⟩
  exact congrArg (fun x => (x.2, e.scheduler.admitPending)) hresult

/-- **A tick is made alike beside a renderer.** -/
theorem sameResult_tickBeside {t t' : TickLoop cast} (h : t.Beside t')
    (hsettled : Settled t.engine.attachments t.env) (frames : Frames) :
    (∃ cause, t.tickBeside behavior .none = .error cause ∧
      t'.tickBeside behavior frames = .error cause) ∨
    ∃ made left left', t.tickBeside behavior .none = .ok (made, left) ∧
      t'.tickBeside behavior frames = .ok (made, left') ∧
        left.Beside left' ∧ Settled left.engine.attachments left.env := by
  have hbeside := h.env
  obtain ⟨env', rfl⟩ : ∃ env', t' = { t with engine := { t.engine with env := env' } } :=
    ⟨_, h.rest⟩
  have hload : TickLoop.loadBeside behavior .none t.engine = t.engine :=
    loadBeside_of_settled hsettled _
  have hload' : TickLoop.loadBeside behavior frames { t.engine with env := env' } =
      { t.engine with env := env' } := loadBeside_of_settled (hsettled.beside hbeside) _
  have hinfo : TickLoop.nextInfo { t with engine := { t.engine with env := env' } } =
      t.nextInfo := by
    have hpaused : TickLoop.isPaused { t with engine := { t.engine with env := env' } } =
        t.isPaused := congrArg LoopFlags.paused hbeside.loop
    simp only [TickLoop.nextInfo, hpaused]
  unfold TickLoop.tickBeside
  rw [hinfo, hload, hload']
  cases t.nextInfo with
  | error cause => exact .inl ⟨cause, rfl, rfl⟩
  | ok info =>
      right
      have hstep := sameResult_runStepBeside
        (show Engine.scheduler { t.engine with env := env' } = t.engine.scheduler from rfl)
        hsettled hbeside frames info
      rcases hrun : t.engine.runStepBeside behavior .none info with ⟨report, scheduler, left⟩
      rcases hrun' : Engine.runStepBeside behavior frames { t.engine with env := env' } info
        with ⟨report', scheduler', left'⟩
      have hattached := attachments_runStepBeside hsettled .none info
      rw [hrun] at hattached
      rw [hrun, hrun'] at hstep
      obtain ⟨hresult, hended, hsettled'⟩ := hstep
      obtain ⟨rfl, rfl⟩ : report' = report ∧ scheduler' = scheduler := Prod.mk.inj hresult
      simp only [hrun, hrun']
      refine ⟨_, _, _, rfl, rfl, ⟨rfl, hended⟩, ?_⟩
      exact hattached ▸ hsettled'

/-- Loops beside one another are finished at the same time. -/
theorem isFinished_of_beside {t t' : TickLoop cast} (h : t.Beside t') :
    t'.isFinished = t.isFinished := by
  have hstop := congrArg LoopFlags.stopRequested h.env.loop
  obtain ⟨env', rfl⟩ : ∃ env', t' = { t with engine := { t.engine with env := env' } } :=
    ⟨_, h.rest⟩
  exact congrArg (· || _) hstop

theorem beside_redraw_loop {t t' : TickLoop cast} (h : t.Beside t')
    (hsettled : Settled t.engine.attachments t.env) (n : Nat) :
    t.Beside (t'.redraw behavior n) where
  rest := by
    obtain ⟨env', rfl⟩ : ∃ env', t' = { t with engine := { t.engine with env := env' } } :=
      ⟨_, h.rest⟩
    rfl
  env := h.env.trans (beside_redraw n (hsettled.beside h.env))

/-- **Runs beside a renderer make the same ticks, and end in loops beside one another.** -/
theorem sameResult_runTicks {t t' : TickLoop cast} (h : t.Beside t')
    (hsettled : Settled t.engine.attachments t.env) (schedule : Nat → Frames) (bound : Nat) :
    let plain := t.runTicks behavior (fun _ => .none) bound
    let left := t'.runTicks behavior schedule bound
    left.1 = plain.1 ∧ left.2.1 = plain.2.1 ∧
      plain.2.2.Beside left.2.2 ∧ Settled plain.2.2.engine.attachments plain.2.2.env := by
  induction bound generalizing t t' schedule with
  | zero => exact ⟨rfl, rfl, h, hsettled⟩
  | succ bound ih =>
      have hbegun := beside_redraw_loop h hsettled (schedule 0).before
      have hbefore : t.redraw behavior Frames.none.before = t := rfl
      simp only [TickLoop.runTicks, hbefore]
      rcases sameResult_tickBeside hbegun hsettled (schedule 0) with
        ⟨cause, htick, htick'⟩ | ⟨made, left, left', htick, htick', hended, hsettled'⟩
      · rw [htick, htick']
        exact ⟨rfl, rfl, hbegun, hsettled⟩
      · rw [htick, htick']
        simp only [isFinished_of_beside hended]
        split
        · exact ⟨rfl, rfl, hended, hsettled'⟩
        · obtain ⟨hticks, hend, hrest⟩ := ih hended hsettled' fun k => schedule (k + 1)
          exact ⟨congrArg (made :: ·) hticks, hend, hrest⟩

end Ticks
end SimEngine
