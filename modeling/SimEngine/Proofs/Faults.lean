import Mathlib.Data.List.Flatten
import SimEngine.Proofs.CallbackCounts
import SimEngine.Proofs.Configurations
import SimEngine.Proofs.LoopCourses

/-!
# The faults of a step

The report of a step lists the calls that failed.  An instance that fails is
not called again in the step, and nobody is called for its queries after a
panic, so at most one call of each instance fails; the report lists the calls
that failed one by one, in the order in which they were made.

**Definitions.**
* `StepCall.fault?`: the entry of a call that failed.
* `StepCall.Ran`: a call is a run of the code that it calls.
* `StepCall.guestRun`: a call as a run of guest code.
* `TickLoop.reports`: the reports of the ticks of a course.

**Results.**
* `faults_runStep`: the faults of a report are the calls that failed.
* `nodup_faults`: no instance fails twice in a step.
* `sublist_faults`: the faults stand in the order of passes and attachments.
* `Chronicle.exists_attachment`: whence an instance has its name.
* `faults_operateAll`: a loop counts the faults of its reports.
* `step_reports`: what a report says of the calls of a step.
-/

namespace SimEngine

variable {G : Guest}

namespace StepCall

/-- The entry in a report about a call that failed. -/
def fault? (c : StepCall G) : Option PhaseFault :=
  match c.kind, c.result with
  | _, .ok () => none
  | .query _ entity, .error reason =>
    some ⟨c.inst.handle, c.inst.name, .queries, QueryList.panicMessage entity reason⟩
  | .phase p, .error message => some ⟨c.inst.handle, c.inst.name, p.stage, message⟩

/-- A call is a run of the code that it calls, and comes to what the run comes to. -/
def Ran (b : Behavior G) (info : StepInfo) (c : StepCall G) : Prop :=
  match c.kind with
  | .query _ _ => ∃ outcome,
      b.run .full (c.program b info) c.before = (outcome, c.after) ∧
        outcome.ofCallback = c.result
  | .phase p => ∃ outcome left,
      b.run (Instance.accessOf p) (c.program b info) c.before = (outcome, left) ∧
        outcome.toExcept = c.result

/-- A call as a run of guest code. -/
def guestRun (info : StepInfo) (c : StepCall G) : GuestRun G :=
  match c.kind with
  | .query q entity => ⟨.query c.inst info q entity, c.before⟩
  | .phase p => ⟨.phase c.inst info p, c.before⟩

theorem isSome_fault? (c : StepCall G) : c.fault?.isSome = c.failed := by
  unfold fault? failed
  rcases c.kind with _ | _ <;> rcases c.result with _ | _ <;> rfl

theorem handle_of_fault? {c : StepCall G} {f : PhaseFault} (h : c.fault? = some f) :
    f.handle = c.inst.handle ∧ f.system = c.inst.name := by
  unfold fault? at h
  split at h
  · cases h
  · obtain rfl := Option.some.inj h
    exact ⟨rfl, rfl⟩
  · obtain rfl := Option.some.inj h
    exact ⟨rfl, rfl⟩

end StepCall

theorem Turn.of_fault? {t : Turn G} {f : PhaseFault} (h : t.fault? = some f) :
    f.handle = t.inst.handle ∧ f.stage = t.pass.stage ∧ t.failed = true := by
  have hfailed : t.failed = true := by
    rw [Turn.failed, h]
    rfl
  unfold Turn.fault? at h
  split at h
  · obtain rfl := Option.some.inj h
    exact ⟨rfl, rfl, hfailed⟩
  · cases h

section Turns

variable (b : Behavior G) (info : StepInfo)

/-- A delivery ends with its first panic, so there is one at most. -/
theorem filterMap_fault?_visits
    (list : Handle) (targets : List (PendingQuery G.Callback × Entity)) (env : Environment G) :
    (b.visits list info targets env).filterMap Visit.fault? =
      ((b.visits list info targets env).findSome? Visit.fault?).toList := by
  induction targets generalizing env with
  | nil =>
      rfl
  | cons target rest ih =>
      rw [Behavior.visits]
      cases hfault : (b.visit list info target env).fault? with
      | none =>
          simp [hfault, ih]
      | some message =>
          simp [hfault]

theorem filterMap_fault?_callsOf (i : Instance G) (visits : List (Visit G)) :
    (callsOf i visits).filterMap StepCall.fault? =
      (visits.filterMap Visit.fault?).map fun message => ⟨i.handle, i.name, .queries, message⟩ := by
  rw [callsOf, List.filterMap_filterMap, List.map_filterMap]
  refine List.filterMap_congr fun v _ => ?_
  unfold Visit.call? Visit.fault?
  rcases v.result with _ | (_ | _) <;> rfl

/-- What a delivery that fails is reported as. -/
theorem fault?_delivery (failed : List Handle) (i : Instance G) {env : Environment G}
    (halive : env.orphaned = false) :
    (b.turn info failed (.queries, i) env).fault? =
      ((b.visitsOf i.handle info env).findSome? Visit.fault?).map fun message =>
        ⟨i.handle, i.name, .queries, message⟩ := by
  have hdelivery : QueryList.deliver b i.handle info env = _ := deliver_eq halive
  rw [Behavior.turn, Behavior.deliveryTurn, hdelivery, deliveryOf]
  cases (b.visitsOf i.handle info env).findSome? Visit.fault? <;> rfl

/-- **A turn is reported if a call in it failed**, and as that call. -/
theorem filterMap_fault?_turn (failed : List Handle) (slot : Pass × Instance G)
    {env : Environment G} (halive : env.orphaned = false) :
    ((b.turn info failed slot env).calls b info).filterMap StepCall.fault? =
      (b.turn info failed slot env).fault?.toList := by
  obtain ⟨pass, i⟩ := slot
  cases pass with
  | queries =>
      rw [calls_queries, filterMap_fault?_callsOf, fault?_delivery b info failed i halive,
        Behavior.visitsOf, filterMap_fault?_visits]
      cases List.findSome? Visit.fault? _ <;> rfl
  | phase p =>
      cases hcalled : (b.turn info failed (.phase p, i) env).called with
      | false =>
          rw [calls_of_not_called hcalled, turn_of_not_called hcalled]
          rfl
      | true =>
          obtain ⟨result, after, hcalls, hturn⟩ := calls_of_called hcalled
          rw [hcalls, hturn]
          cases result <;> rfl

/-- The calls of a turn are its runs of guest code. -/
theorem map_guestRun_calls (t : Turn G) :
    (t.calls b info).map (StepCall.guestRun info) = t.guestRuns b info := by
  unfold Turn.calls Turn.guestRuns
  cases t.pass with
  | queries =>
      simp only [callsOf, List.filterMap_eq_flatMap_toList, List.map_flatMap]
      refine List.flatMap_congr fun v _ => ?_
      unfold Visit.call? Visit.guestRuns Visit.called
      cases v.result <;> rfl
  | phase p =>
      unfold Turn.called
      cases t.result <;> rfl

end Turns

section Steps

variable {b : Behavior G} {info : StepInfo} {e : Engine G} {log : List Wrapping}

theorem faults_eq_turns (b : Behavior G) (info : StepInfo) (e : Engine G) :
    (e.runStep b info).1.faults = (e.stepTurns b info).filterMap Turn.fault? := by
  rw [runStep_eq]

/-- **The faults of a report are the calls that failed.** -/
theorem faults_runStep (hreached : Engine.Reached b log e) :
    (e.runStep b info).1.faults = (e.calls b info).filterMap StepCall.fault? := by
  have hturn : ∀ t ∈ e.stepTurns b info,
      (t.calls b info).filterMap StepCall.fault? = t.fault?.toList := by
    intro t ht
    obtain ⟨failed, heq, halive⟩ := exists_turn_eq hreached ht
    rw [heq]
    exact filterMap_fault?_turn b info failed t.slot halive
  rw [faults_eq_turns, Engine.calls, List.filterMap_flatMap, List.filterMap_eq_flatMap_toList]
  exact List.flatMap_congr fun t ht => (hturn t ht).symm

/-- **Of whom a fault is reported**: of the instances that a call fails of. -/
theorem reported_iff_call (hreached : Engine.Reached b log e) (h : Handle) :
    h ∈ (e.runStep b info).1.faults.map PhaseFault.handle ↔
      ∃ c ∈ e.calls b info, c.inst.handle = h ∧ c.failed = true := by
  rw [faults_runStep hreached, List.mem_map]
  constructor
  · rintro ⟨f, hf, rfl⟩
    obtain ⟨c, hc, hfault⟩ := List.mem_filterMap.1 hf
    refine ⟨c, hc, (StepCall.handle_of_fault? hfault).1.symm, ?_⟩
    rw [← StepCall.isSome_fault?, hfault]
    rfl
  · rintro ⟨c, hc, rfl, hfailed⟩
    rw [← StepCall.isSome_fault?] at hfailed
    obtain ⟨f, hf⟩ := Option.isSome_iff_exists.1 hfailed
    exact ⟨f, List.mem_filterMap.2 ⟨c, hc, hf⟩, (StepCall.handle_of_fault? hf).1⟩

/-- The report is clean if and only if no call fails. -/
theorem isClean_iff_call (hreached : Engine.Reached b log e) :
    (e.runStep b info).1.isClean = true ↔ ∀ c ∈ e.calls b info, c.failed = false := by
  rw [StepReport.isClean, List.isEmpty_iff, faults_runStep hreached, List.filterMap_eq_nil_iff]
  refine forall₂_congr fun c _ => ?_
  rw [← StepCall.isSome_fault?, Option.isSome_eq_false_iff, Option.isNone_iff_eq_none]

/-- No instance has failed in a step before a turn of it fails. -/
theorem unfailed_before (hreached : Engine.Reached b log e) {past rest : List (Turn G)}
    {t : Turn G} (hsplit : e.stepTurns b info = past ++ t :: rest) (hfailed : t.failed = true) :
    ∀ u ∈ past, u.inst.handle = t.inst.handle → u.failed = false := by
  have hcalled : t.called = true := by
    unfold Turn.failed Turn.fault? at hfailed
    unfold Turn.called
    cases hresult : t.result with
    | none => rw [hresult] at hfailed; cases hfailed
    | some _ => rfl
  have hdue := (called_iff_due b info hsplit).1 hcalled
  unfold Turn.Due at hdue
  split at hdue
  · rename_i hpass
    -- A delivery is the first turn of its instance.
    intro u hu hsame
    have hslots := map_slot_turns b info [] (slots (e.beginStep b).scheduler.instances)
      (e.beginStep b).env
    have hpairwise := pairwise_slots (nodup_instances hreached) t.inst.handle
    rw [← hslots, List.pairwise_map] at hpairwise
    change (e.stepTurns b info).Pairwise _ at hpairwise
    rw [hsplit] at hpairwise
    exact absurd hpass ((List.pairwise_append.1 hpairwise).2.2 u hu t List.mem_cons_self hsame rfl)
  · exact hdue.2.2

/-- **No instance fails twice in a step.** -/
theorem nodup_faults (hreached : Engine.Reached b log e) :
    ((e.runStep b info).1.faults.map PhaseFault.handle).Nodup := by
  rw [faults_eq_turns, List.Nodup, List.pairwise_map, List.pairwise_filterMap]
  refine pairwise_of_split fun past t rest hsplit u hu f hf g hg hsame => ?_
  obtain ⟨hhandle, -, hbefore⟩ := Turn.of_fault? hf
  obtain ⟨hhandle', -, hnow⟩ := Turn.of_fault? hg
  have hnone := unfailed_before hreached hsplit hnow u hu
    (hhandle.symm.trans (hsame.trans hhandle'))
  rw [hbefore] at hnone
  cases hnone

/-- Of the calls to an instance that fails in a step, all but one return. -/
theorem unfailed_beside (hreached : Engine.Reached b log e) {past rest : List (StepCall G)}
    {c : StepCall G} (hsplit : e.calls b info = past ++ c :: rest) (hfailed : c.failed = true) :
    ∀ d ∈ past ++ rest, d.inst.handle = c.inst.handle → d.failed = false := by
  intro d hd hsame
  rw [Bool.eq_false_iff]
  intro hfailed'
  rw [← StepCall.isSome_fault?] at hfailed hfailed'
  obtain ⟨f, hf⟩ := Option.isSome_iff_exists.1 hfailed
  obtain ⟨g, hg⟩ := Option.isSome_iff_exists.1 hfailed'
  have hnodup : ((e.runStep b info).1.faults.map PhaseFault.handle).Nodup := nodup_faults hreached
  rw [faults_runStep hreached, hsplit, List.filterMap_append, List.filterMap_cons_some hf,
    List.map_append, List.map_cons, List.nodup_middle, ← List.map_append,
    ← List.filterMap_append] at hnodup
  refine (List.nodup_cons.1 hnodup).1 (List.mem_map.2 ⟨g, List.mem_filterMap.2 ⟨d, hd, hg⟩, ?_⟩)
  rw [(StepCall.handle_of_fault? hg).1, (StepCall.handle_of_fault? hf).1, hsame]

/-- What a list is searched for stands in the order of the list. -/
theorem map_filterMap_sublist
    {ι ω κ : Type} {find? : ι → Option ω} {key : ω → κ} {key' : ι → κ}
    (h : ∀ x y, find? x = some y → key y = key' x) (items : List ι) :
    ((items.filterMap find?).map key).Sublist (items.map key') := by
  induction items with
  | nil =>
      exact List.Sublist.refl _
  | cons x rest ih =>
      cases hfind : find? x with
      | none =>
          rw [List.filterMap_cons_none hfind]
          exact ih.cons _
      | some y =>
          rw [List.filterMap_cons_some hfind, List.map_cons, List.map_cons, h x y hfind]
          exact ih.cons_cons _

/-- **The faults stand in the order of the passes**, and in each pass in that of the instances. -/
theorem sublist_faults (b : Behavior G) (info : StepInfo) (e : Engine G) :
    ((e.runStep b info).1.faults.map fun f => (f.stage, f.handle)).Sublist
      ((Pass.all.product ((e.beginStep b).scheduler.instances.map Instance.handle)).map
        (Prod.map Pass.stage id)) := by
  rw [faults_eq_turns, ← map_key_stepTurns b info, List.map_map]
  refine map_filterMap_sublist (fun t f hf => ?_) _
  obtain ⟨hhandle, hstage, -⟩ := Turn.of_fault? hf
  rw [hhandle, hstage]
  rfl

/-- Each call of a step is a run of the code that it calls. -/
theorem ran_of_mem_calls {c : StepCall G} (hc : c ∈ e.calls b info) : c.Ran b info := by
  cases hasks : c.asks with
  | true =>
      obtain ⟨i, kind, before, result, after⟩ := c
      cases kind with
      | query q entity => exact run_of_asks hc hasks
      | phase p => cases hasks
  | false =>
      obtain ⟨t, ht, hct⟩ := List.mem_flatMap.1 hc
      obtain ⟨past, rest, hsplit⟩ := List.append_of_mem ht
      have hfaithful := faithful_turn b info (past.foldl markFault []) t.slot t.before
      rw [← eq_turn_of_split b info hsplit] at hfaithful
      unfold Turn.calls at hct
      cases hpass : t.pass with
      | queries =>
          rw [hpass] at hct
          obtain ⟨v, -, hv⟩ := List.mem_filterMap.1 hct
          obtain ⟨result, -, rfl⟩ := Option.map_eq_some_iff.1 hv
          cases hasks
      | phase p =>
          rw [hpass] at hct
          obtain ⟨result, hresult, rfl⟩ := Option.map_eq_some_iff.1 (Option.mem_toList.1 hct)
          simp only [Turn.Faithful, hresult, Turn.Call, hpass] at hfaithful
          obtain ⟨left, ⟨outcome, hrun, heq⟩, -⟩ := hfaithful
          exact ⟨outcome, left, hrun, heq.symm⟩

/-- **The calls of a step account for what becomes of the environment.** -/
theorem accounted_calls (hreached : Engine.Reached b log e) :
    Engine.Accounted b (e.beginStep b).env ((e.calls b info).map (StepCall.guestRun info))
      (e.runStep b info).2.env := by
  have hguestRuns : (e.calls b info).map (StepCall.guestRun info) =
      (e.stepTurns b info).flatMap (Turn.guestRuns b info) := by
    rw [Engine.calls, List.map_flatMap]
    exact List.flatMap_congr fun t _ => map_guestRun_calls b info t
  rw [hguestRuns, runStep_eq]
  refine Linked.relate Environment.Still.refl Threaded.append
    (linked_turns b info [] (slots (e.beginStep b).scheduler.instances) (e.beginStep b).env)
    fun t ht => ?_
  obtain ⟨failed, heq, halive⟩ := exists_turn_eq hreached ht
  rw [heq, (slot_turn b info failed t.slot t.before).2]
  exact threaded_turn info failed t.slot halive

end Steps

/-- **Whence an instance has its name**: its system was asked for it when it was attached. -/
theorem Chronicle.exists_attachment
    {b : Behavior G} {past : List (Moment G)} {e : Engine G} (h : Chronicle b past e)
    {i : Instance G} (hi : i ∈ e.scheduler.all) :
    ∃ m ∈ past, ∃ mandate attachment entity config,
      m.act = .carryOut mandate (.attach i.handle attachment entity config) ∧
        i.name = b.name attachment.system m.before.env.memory := by
  have hattached : i.handle ∈ attachedIn past := h.handles_sublist.subset (List.mem_map_of_mem hi)
  obtain ⟨m, hm, hact⟩ := List.mem_filterMap.1 hattached
  obtain ⟨first, second, rfl⟩ := List.append_of_mem hm
  obtain ⟨mandate, attachment, entity, config, hact⟩ := Act.exists_attach hact
  exact ⟨m, hm, mandate, attachment, entity, config, hact, (h.charter hact hi rfl).2.2.2.2⟩

namespace TickLoop

variable (b : Behavior G)

/-- The report of an operation, if it is a tick and can be made. -/
def reportsOf (t : TickLoop G) : LoopOperation G → List StepReport
  | .tick =>
    match t.tick b with
    | .ok (report, _) => [report]
    | .error _ => []
  | _ => []

/-- The reports of operations. -/
def reports (t : TickLoop G) : List (LoopOperation G) → List StepReport
  | [] => []
  | operation :: rest => t.reportsOf b operation ++ (t.operate b operation).reports rest

variable {b}

theorem faults_operate (t : TickLoop G) (operation : LoopOperation G) :
    (t.operate b operation).faults =
      t.faults + ((t.reportsOf b operation).map fun r => r.faults.length).sum := by
  cases operation with
  | tick =>
      cases hinfo : t.nextInfo with
      | ok info =>
          obtain ⟨htick, hafter⟩ := tick_of_nextInfo (b := b) hinfo
          rw [reportsOf, htick, hafter]
          rfl
      | error cause =>
          obtain ⟨htick, hafter⟩ := tick_of_error (b := b) hinfo
          rw [reportsOf, htick, hafter]
          rfl
  | setPaused paused =>
      rfl
  | host operation =>
      rfl

/-- **A loop counts the faults of its reports.** -/
theorem faults_operateAll (t : TickLoop G) (operations : List (LoopOperation G)) :
    (t.operateAll b operations).faults =
      t.faults + ((t.reports b operations).map fun r => r.faults.length).sum := by
  induction operations generalizing t with
  | nil =>
      rfl
  | cons operation rest ih =>
      have hrest : (t.operateAll b (operation :: rest)).faults = _ := ih (t.operate b operation)
      rw [hrest, faults_operate, reports, List.map_append, List.sum_append, Nat.add_assoc]

/-- A run of a loop is a number of ticks. -/
theorem exists_run_eq (t : TickLoop G) (bound : Nat) :
    ∃ n, (t.run b bound).2 = t.operateAll b (.replicate n .tick) := by
  have hticks : ∀ (bound : Nat) (t : TickLoop G),
      ∃ n, (t.tickUntilFinished b bound).2 = t.operateAll b (.replicate n .tick) := by
    intro bound
    induction bound with
    | zero =>
        exact fun t => ⟨0, rfl⟩
    | succ bound ih =>
        intro t
        cases hinfo : t.nextInfo with
        | ok info =>
            obtain ⟨n, hn⟩ := ih (t.operate b .tick)
            rw [tickUntilFinished, (tick_of_nextInfo hinfo).1]
            simp only
            split
            · exact ⟨1, rfl⟩
            · exact ⟨n + 1, hn⟩
        | error cause =>
            rw [tickUntilFinished, (tick_of_error hinfo).1]
            exact ⟨0, rfl⟩
  unfold run
  split
  · exact ⟨0, rfl⟩
  · exact hticks bound t

end TickLoop

/--
**What a report says of the calls of a step.**  Each call is a run of the code that it is for, and
the calls account for what the step makes of the environment.  The report counts the calls of phases
that return, and its faults are the calls that fail, one by one as they are made, with the message
of each.  So a fault is reported of an instance if and only if a call to it fails, be it in a phase
or in the delivery of its queries; all its other calls return, and no handle is reported twice.
The faults stand in the order of the passes, and within a pass in the order in which the
instances were attached; each has the name that its system gave when it was attached.  The
report is clean if and only if all calls return.  What a loop has counted after any course is what
the reports of its ticks come to, and whoever has it run has it tick so many times.
-/
theorem step_reports (b : Behavior G) (c : Course G) (info : StepInfo) :
    (∀ call ∈ (c.engine b).calls b info, call.Ran b info) ∧
    Engine.Accounted b ((c.engine b).beginStep b).env
      (((c.engine b).calls b info).map (StepCall.guestRun info))
      ((c.engine b).runStep b info).2.env ∧
    ((c.engine b).runStep b info).1.phaseCalls =
      ((c.engine b).calls b info).countP StepCall.counts ∧
    ((c.engine b).runStep b info).1.faults =
      ((c.engine b).calls b info).filterMap StepCall.fault? ∧
    (∀ h, h ∈ ((c.engine b).runStep b info).1.faults.map PhaseFault.handle ↔
      ∃ call ∈ (c.engine b).calls b info, call.inst.handle = h ∧ call.failed = true) ∧
    (∀ past call rest, (c.engine b).calls b info = past ++ call :: rest → call.failed = true →
      ∀ other ∈ past ++ rest, other.inst.handle = call.inst.handle → other.failed = false) ∧
    (((c.engine b).runStep b info).1.faults.map PhaseFault.handle).Nodup ∧
    (attachedIn ((c.go [.step info]).past b)).Nodup ∧
    (((c.engine b).runStep b info).1.faults.map fun f => (f.stage, f.handle)).Sublist
      ((Pass.all.product (attachedIn ((c.go [.step info]).past b))).map
        (Prod.map Pass.stage id)) ∧
    (∀ f ∈ ((c.engine b).runStep b info).1.faults, ∃ m ∈ (c.go [.step info]).past b,
      ∃ mandate attachment entity config,
        m.act = .carryOut mandate (.attach f.handle attachment entity config) ∧
          f.system = b.name attachment.system m.before.env.memory) ∧
    (((c.engine b).runStep b info).1.isClean = true ↔
      ∀ call ∈ (c.engine b).calls b info, call.failed = false) ∧
    ∀ config start operations,
      ((TickLoop.create config start).operateAll b operations).faults =
        (((TickLoop.create config start).reports b operations).map fun r =>
          r.faults.length).sum ∧
      ∀ bound, ∃ n, (((TickLoop.create config start).operateAll b operations).run b bound).2 =
        (TickLoop.create config start).operateAll b (operations ++ .replicate n .tick) := by
  obtain ⟨log, hreached⟩ := c.exists_reached b
  have hchronicle := (c.go [.step info]).chronicle b
  have hengine : ((c.go [.step info]).engine b).scheduler =
      ((c.engine b).beginStep b).scheduler := by
    rw [Course.engine_go]
    exact congrArg (fun answer => answer.2.scheduler) (runStep_eq b info (c.engine b))
  refine ⟨fun call => ran_of_mem_calls, accounted_calls hreached, phaseCalls_runStep b info _,
    faults_runStep hreached, reported_iff_call hreached,
    fun past call rest => unfailed_beside hreached, nodup_faults hreached, hchronicle.nodup,
    ?order, ?names, isClean_iff_call hreached, ?loops⟩
  case order =>
    have hinstances : (((c.engine b).beginStep b).scheduler.instances.map
        Instance.handle).Sublist (attachedIn ((c.go [.step info]).past b)) := by
      have hall := hchronicle.handles_sublist
      rw [hengine, Scheduler.handles, Scheduler.all, List.map_append] at hall
      exact (List.sublist_append_left _ _).trans hall
    refine (sublist_faults b info (c.engine b)).trans (List.Sublist.map _ ?_)
    exact List.Sublist.flatMap_right _ fun pass _ => hinstances.map _
  case names =>
    rw [faults_runStep hreached]
    intro f hf
    obtain ⟨call, hcall, hfault⟩ := List.mem_filterMap.1 hf
    obtain ⟨hhandle, hname⟩ := StepCall.handle_of_fault? hfault
    rw [hhandle, hname]
    refine hchronicle.exists_attachment ?_
    rw [hengine]
    exact List.mem_append_left _ (inst_mem_of_mem_calls b info _ hcall)
  case loops =>
    intro config start operations
    refine ⟨?_, fun bound => ?_⟩
    · rw [TickLoop.faults_operateAll]
      exact Nat.zero_add _
    · obtain ⟨n, hn⟩ :=
        ((TickLoop.create config start).operateAll b operations).exists_run_eq (b := b) bound
      exact ⟨n, hn.trans (TickLoop.operateAll_append _ _ _).symm⟩

namespace Puppets

/-- Of the systems that ask for all entities, the first two fail in phases. -/
def clumsy : Behavior puppets :=
  { askers with
    phase := fun phase system _ =>
      if phase = .postUpdate ∧ system = (1 : Nat) ∨ phase = .update ∧ system = (2 : Nat) then
        .fail (.ofMessage "dropped it")
      else .done ()
    onQuery := fun callback _ entity =>
      if callback = 3 ∧ entity.id = 2 then .panic (.text "bad query") else .done () }

/-- The faults stand in the order of the passes, and the report counts the other phases. -/
example :
    let e := (Course.mk (0 : Nat) [crowd, enlist 1, enlist 2, enlist 3]).engine clumsy
    let report := (e.runStep clumsy (.first .zero)).1
    report.faults.map (fun f => (f.stage, f.handle.number)) =
        [(.queries, 3), (.capability (.phase .update), 2),
          (.capability (.phase .postUpdate), 1)] ∧
      report.phaseCalls = 3 :=
  ⟨rfl, rfl⟩

end Puppets
end SimEngine
