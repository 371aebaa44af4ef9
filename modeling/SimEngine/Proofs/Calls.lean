import SimEngine.Proofs.Turns

/-!
# The calls of a step

A step calls guest code once for each entity that a delivery of queries visits
and once for each instance in each phase.  The calls are those within the turns
of the step, in the order of the turns.

**Definitions.**
* `StepCall`: one of them, with what it came to.
* `Engine.stepTurns`, `Engine.calls`: the turns and the calls of a step.
* `Engine.callsTo`, `Engine.callsBeside`: the calls to one instance, and the others.

**Results.**
* `runStep_eq`: what the turns say about the step.
* `phaseCalls_runStep`: what the calls say about its report.
* `turn_congr`: a turn does not change with code that its calls do not run.
-/

namespace SimEngine

variable {G : Guest}

/-- What a call is for. -/
inductive CallKind (G : Guest) where
  | query (query : PendingQuery G.Callback) (entity : Entity)
  | phase (phase : StepPhase)

/-- A call that a step makes, on behalf of an instance. -/
structure StepCall (G : Guest) where
  inst : Instance G
  kind : CallKind G
  before : Environment G
  result : Except String Unit
  /-- What the call leaves, with the report of its failure if it failed. -/
  after : Environment G

namespace StepCall

/-- The code that is called. -/
def program (b : Behavior G) (info : StepInfo) (c : StepCall G) : Program G Unit :=
  match c.kind with
  | .query q e => b.onQuery q.callback info e
  | .phase p => b.phase p c.inst.attachment.system info

/-- Whether the call failed. -/
def failed (c : StepCall G) : Bool :=
  match c.result with
  | .ok () => false
  | .error _ => true

/-- Whether it is a call of a phase that returned normally. -/
def counts (c : StepCall G) : Bool :=
  match c.kind, c.result with
  | .phase _, .ok () => true
  | _, _ => false

end StepCall

/-- The call that is made in a visit on behalf of an instance, if it is called. -/
def Visit.call? (i : Instance G) (v : Visit G) : Option (StepCall G) :=
  v.result.map fun result => ⟨i, .query v.query v.entity, v.before, result, v.after⟩

/-- The calls that are made in visits on behalf of an instance. -/
def callsOf (i : Instance G) (visits : List (Visit G)) : List (StepCall G) :=
  visits.filterMap (Visit.call? i)

/-- The calls that are made in a turn. -/
def Turn.calls (b : Behavior G) (info : StepInfo) (t : Turn G) : List (StepCall G) :=
  match t.pass with
  | .queries => callsOf t.inst (b.visitsOf t.inst.handle info t.before)
  | .phase p => (t.result.map fun result => ⟨t.inst, .phase p, t.before, result, t.after⟩).toList

namespace Engine

variable (b : Behavior G) (info : StepInfo) (e : Engine G)

/-- The turns of a step. -/
def stepTurns : List (Turn G) :=
  b.turns info [] (slots (e.beginStep b).scheduler.instances) (e.beginStep b).env

/-- The calls of a step. -/
def calls : List (StepCall G) :=
  (e.stepTurns b info).flatMap (Turn.calls b info)

/-- The calls of a step to one instance. -/
def callsTo (h : Handle) : List (StepCall G) :=
  (e.calls b info).filter fun c => c.inst.handle = h

/-- The calls of a step to all other instances. -/
def callsBeside (h : Handle) : List (StepCall G) :=
  (e.calls b info).filter fun c => c.inst.handle ≠ h

end Engine

theorem callsOf_cons (i : Instance G) (v : Visit G) (rest : List (Visit G)) :
    callsOf i (v :: rest) = (v.call? i).toList ++ callsOf i rest := by
  cases h : v.call? i <;> simp [callsOf, h]

theorem callsOf_called
    (i : Instance G) (q : PendingQuery G.Callback) (e : Entity) (before after : Environment G)
    (result : Except String Unit) (rest : List (Visit G)) :
    callsOf i (⟨q, e, before, some result, after⟩ :: rest) =
      ⟨i, .query q e, before, result, after⟩ :: callsOf i rest :=
  rfl

theorem visits_of_not_cancelled
    {b : Behavior G} {list : Handle} {info : StepInfo}
    {target : PendingQuery G.Callback × Entity} {env left : Environment G}
    {outcome : Outcome Unit} (hmark : target.1.id ∉ (env.queryList list).cancelled)
    (hanswer : b.run .full (b.onQuery target.1.callback info target.2) env = (outcome, left))
    (rest : List (PendingQuery G.Callback × Entity)) :
    ∃ more, b.visits list info (target :: rest) env =
        ⟨target.1, target.2, env, some outcome.ofCallback, left⟩ :: more ∧
      match outcome.ofCallback with
      | .ok () => more = b.visits list info rest left
      | .error _ => more = [] := by
  have hvisit := visit_of_not_cancelled b list info hmark hanswer
  cases hresult : outcome.ofCallback with
  | ok _ =>
      rw [hresult] at hvisit
      refine ⟨b.visits list info rest left, ?_, rfl⟩
      rw [visits_cons_of_none b list info (hvisit ▸ rfl), hvisit]
  | error reason =>
      rw [hresult] at hvisit
      refine ⟨[], ?_, rfl⟩
      rw [Behavior.visits, hvisit]
      rfl

theorem inst_of_mem_calls
    {b : Behavior G} {info : StepInfo} {t : Turn G} {c : StepCall G} (hc : c ∈ t.calls b info) :
    c.inst = t.inst := by
  unfold Turn.calls at hc
  split at hc
  · obtain ⟨v, _, hv⟩ := List.mem_filterMap.1 hc
    obtain ⟨result, _, rfl⟩ := Option.map_eq_some_iff.1 hv
    rfl
  · obtain ⟨result, _, rfl⟩ := Option.map_eq_some_iff.1 (Option.mem_toList.1 hc)
    rfl

theorem inst_turn
    (b : Behavior G) (info : StepInfo) (failed : List Handle) (slot : Pass × Instance G)
    (env : Environment G) : (b.turn info failed slot env).inst = slot.2 :=
  congrArg Prod.snd (slot_turn b info failed slot env).1

theorem inst_of_mem_turn
    {b : Behavior G} {info : StepInfo} {failed : List Handle} {slot : Pass × Instance G}
    {env : Environment G} {c : StepCall G}
    (hc : c ∈ (b.turn info failed slot env).calls b info) : c.inst = slot.2 := by
  rw [inst_of_mem_calls hc, inst_turn]

/-- The calls of a turn all go to one instance. -/
theorem filter_calls
    (b : Behavior G) (info : StepInfo) (t : Turn G) (chosen : Instance G → Bool) :
    (t.calls b info).filter (fun c => chosen c.inst) =
      if chosen t.inst then t.calls b info else [] := by
  split
  · rename_i hchosen
    refine List.filter_eq_self.2 fun c hc => ?_
    rw [inst_of_mem_calls hc]
    exact hchosen
  · rename_i hchosen
    refine List.filter_eq_nil_iff.2 fun c hc => ?_
    rw [inst_of_mem_calls hc]
    exact hchosen

section Steps

variable (b : Behavior G) (info : StepInfo) (e : Engine G)

theorem runStep_eq :
    e.runStep b info =
      (⟨info.iterations, (e.stepTurns b info).filterMap Turn.fault?,
          (e.stepTurns b info).countP Turn.counts, ((e.stepTurns b info).map Turn.callbacks).sum⟩,
        ⟨(e.beginStep b).scheduler,
          lastOf Turn.after (e.beginStep b).env (e.stepTurns b info)⟩) := by
  simp only [Engine.runStep, passThrough_eq, Engine.stepTurns]

theorem countP_counts_calls (t : Turn G) :
    (t.calls b info).countP StepCall.counts = if t.counts then 1 else 0 := by
  unfold Turn.calls
  cases hpass : t.pass with
  | queries =>
      have hquery : ∀ c ∈ callsOf t.inst (b.visitsOf t.inst.handle info t.before),
          ¬ c.counts = true := by
        intro c hc
        obtain ⟨v, _, hv⟩ := List.mem_filterMap.1 hc
        obtain ⟨result, _, rfl⟩ := Option.map_eq_some_iff.1 hv
        simp [StepCall.counts]
      simp [Turn.counts, hpass, List.countP_eq_zero.2 hquery]
  | phase p =>
      rcases hresult : t.result with _ | (_ | _) <;>
        simp [Turn.counts, hpass, hresult, StepCall.counts]

/-- The report counts the calls of phases that returned normally. -/
theorem phaseCalls_runStep :
    (e.runStep b info).1.phaseCalls = (e.calls b info).countP StepCall.counts := by
  have hcount : ∀ turns : List (Turn G),
      turns.countP Turn.counts = (turns.flatMap (Turn.calls b info)).countP StepCall.counts := by
    intro turns
    induction turns with
    | nil =>
        rfl
    | cons t rest ih =>
        rw [List.countP_cons, ih, List.flatMap_cons, List.countP_append, countP_counts_calls,
          Nat.add_comm]
  rw [runStep_eq]
  exact hcount _

theorem inst_mem_of_mem_calls {c : StepCall G} (hc : c ∈ e.calls b info) :
    c.inst ∈ (e.beginStep b).scheduler.instances := by
  obtain ⟨t, ht, hct⟩ := List.mem_flatMap.1 hc
  have hslot : t.slot ∈ slots (e.beginStep b).scheduler.instances := by
    rw [← map_slot_turns b info [] (slots (e.beginStep b).scheduler.instances)
      (e.beginStep b).env]
    exact List.mem_map_of_mem ht
  obtain ⟨pass, _, hpass⟩ := List.mem_flatMap.1 hslot
  obtain ⟨i, hi, heq⟩ := List.mem_map.1 hpass
  have hinst : i = t.inst := congrArg Prod.snd heq
  rw [inst_of_mem_calls hct, ← hinst]
  exact hi

theorem phaseCalls_split (h : Handle) :
    (e.runStep b info).1.phaseCalls =
      (e.callsBeside b info h).countP StepCall.counts +
        (e.callsTo b info h).countP StepCall.counts := by
  rw [phaseCalls_runStep, Nat.add_comm,
    List.countP_eq_countP_filter_add _ _ fun c : StepCall G => decide (c.inst.handle = h)]
  simp [Engine.callsTo, Engine.callsBeside]

end Steps

section Code

variable {b b' : Behavior G} {info : StepInfo}

/-- What is left of the environment when an instance is passed over in a phase. -/
def passedOver (failed : List Handle) (p : StepPhase) (i : Instance G) (env : Environment G) :
    Environment G :=
  if i.handle ∈ failed ∨ i.capabilities.has p.capability = false then env
  else env.report (.withdrawn i.handle i.name (.capability p.capability))

theorem turn_of_not_called
    {failed : List Handle} {p : StepPhase} {i : Instance G} {env : Environment G}
    (hcalled : (b.turn info failed (.phase p, i) env).called = false) :
    b.turn info failed (.phase p, i) env =
      ⟨.phase p, i, env, none, 0, passedOver failed p i env⟩ := by
  by_cases hidle : i.handle ∈ failed ∨ i.capabilities.has p.capability = false
  · rw [passedOver, if_pos hidle]
    rcases turn_phase_cases b info failed p i env with
      ⟨_, hturn⟩ | ⟨_, hturn⟩ | ⟨outcome, left, hfailed, hhas, _, _, _⟩
    · exact hturn
    · simp only [Behavior.turn, Behavior.phaseTurn, Instance.runPhase]
      rcases hidle with hfailed | hhas
      · rw [if_pos hfailed]
      · simp [hhas]
    · rw [hhas] at hidle
      simp [hfailed] at hidle
  · rw [passedOver, if_neg hidle]
    rcases turn_phase_cases b info failed p i env with
      ⟨hidle', _⟩ | ⟨_, hturn⟩ | ⟨outcome, left, _, _, _, _, hturn⟩
    · exact absurd hidle' hidle
    · exact hturn
    · simp [hturn, Turn.called] at hcalled

theorem turn_of_called
    {failed : List Handle} {p : StepPhase} {i : Instance G} {env : Environment G}
    (hcalled : (b.turn info failed (.phase p, i) env).called = true)
    {outcome : Outcome Unit} {left : Environment G}
    (hanswer : b.run (Instance.accessOf p) (b.phase p i.attachment.system info) env =
      (outcome, left)) :
    b.turn info failed (.phase p, i) env =
      ⟨.phase p, i, env, some outcome.toExcept, 0,
        faultReported info (.phase p) i outcome.toExcept left⟩ := by
  rcases turn_phase_cases b info failed p i env with
    ⟨_, hturn⟩ | ⟨_, hturn⟩ | ⟨outcome', left', _, _, _, hanswer', hturn⟩
  · simp [hturn, Turn.called] at hcalled
  · simp [hturn, Turn.called] at hcalled
  · obtain ⟨rfl, rfl⟩ := Prod.mk.inj (hanswer.symm.trans hanswer')
    exact hturn

theorem calls_of_called
    {failed : List Handle} {p : StepPhase} {i : Instance G} {env : Environment G}
    (hcalled : (b.turn info failed (.phase p, i) env).called = true) :
    ∃ result after, (b.turn info failed (.phase p, i) env).calls b info =
        [⟨i, .phase p, env, result, after⟩] ∧
      b.turn info failed (.phase p, i) env = ⟨.phase p, i, env, some result, 0, after⟩ := by
  have hturn := turn_of_called hcalled rfl
  refine ⟨_, _, ?_, hturn⟩
  rw [hturn]
  rfl

theorem calls_of_not_called
    {failed : List Handle} {p : StepPhase} {i : Instance G} {env : Environment G}
    (hcalled : (b.turn info failed (.phase p, i) env).called = false) :
    (b.turn info failed (.phase p, i) env).calls b info = [] := by
  rw [turn_of_not_called hcalled]
  rfl

theorem calls_queries (failed : List Handle) (i : Instance G) (env : Environment G) :
    (b.turn info failed (.queries, i) env).calls b info =
      callsOf i (b.visitsOf i.handle info env) := by
  obtain ⟨delivery, left, n, _, hturn⟩ := turn_queries b info failed i env
  rw [hturn]
  rfl

/-- Whether an instance is called in a phase does not depend on what the call runs. -/
theorem called_congr
    (info : StepInfo) (hoffers : b'.offers = b.offers) (failed : List Handle) (p : StepPhase)
    (i : Instance G) (env : Environment G) :
    (b'.turn info failed (.phase p, i) env).called =
      (b.turn info failed (.phase p, i) env).called := by
  rw [Bool.eq_iff_iff, called_turn, called_turn, hoffers]

variable (hrun : ∀ access (p : Program G Unit) env, b'.run access p env = b.run access p env)

include hrun

theorem visits_congr
    {list : Handle} {targets : List (PendingQuery G.Callback × Entity)} {env : Environment G}
    (hcode : ∀ v ∈ b.visits list info targets env, v.called = true →
      b'.onQuery v.query.callback info v.entity = b.onQuery v.query.callback info v.entity) :
    b'.visits list info targets env = b.visits list info targets env := by
  induction targets generalizing env with
  | nil =>
      rfl
  | cons target rest ih =>
      have hvisit : b'.visit list info target env = b.visit list info target env := by
        have hcode' := hcode _ (mem_visits_cons b list info target rest env)
        by_cases hmark : target.1.id ∈ (env.queryList list).cancelled
        · rw [visit_of_cancelled b list info hmark, visit_of_cancelled b' list info hmark]
        · rcases hanswer : b.run .full (b.onQuery target.1.callback info target.2) env
            with ⟨outcome, left⟩
          rw [visit_of_not_cancelled b list info hmark hanswer] at hcode' ⊢
          refine visit_of_not_cancelled b' list info hmark ?_
          rw [hrun, hcode' rfl, hanswer]
      rw [Behavior.visits, Behavior.visits, hvisit]
      split
      · rfl
      · rename_i hnone
        rw [ih]
        intro v hv
        refine hcode v ?_
        rw [Behavior.visits, if_neg hnone]
        exact List.mem_cons_of_mem _ hv

/-- A turn does not change with code that its calls do not run. -/
theorem turn_congr
    (hoffers : b'.offers = b.offers) {env : Environment G} (halive : env.orphaned = false)
    (failed : List Handle) (slot : Pass × Instance G)
    (hcode : ∀ c ∈ (b.turn info failed slot env).calls b info,
      c.program b' info = c.program b info) :
    b'.turn info failed slot env = b.turn info failed slot env ∧
      (b'.turn info failed slot env).calls b' info =
        (b.turn info failed slot env).calls b info := by
  obtain ⟨pass, i⟩ := slot
  cases pass with
  | queries =>
      rw [calls_queries] at hcode
      have hvisits : b'.visitsOf i.handle info env = b.visitsOf i.handle info env := by
        refine visits_congr hrun fun v hv hcalled => ?_
        obtain ⟨result, hresult⟩ := Option.isSome_iff_exists.1 hcalled
        refine hcode ⟨i, .query v.query v.entity, v.before, result, v.after⟩ ?_
        exact List.mem_filterMap.2 ⟨v, hv, by rw [Visit.call?, hresult]; rfl⟩
      have hdeliver : QueryList.deliver b' i.handle info env =
          QueryList.deliver b i.handle info env := by
        rw [deliver_eq halive, deliver_eq halive, Behavior.afterVisits, Behavior.afterVisits,
          hvisits]
      constructor
      · simp only [Behavior.turn, Behavior.deliveryTurn, hdeliver]
      · rw [calls_queries, calls_queries, hvisits]
  | phase p =>
      have hsame := called_congr info hoffers failed p i env
      cases hcalled : (b.turn info failed (.phase p, i) env).called with
      | false =>
          rw [hcalled] at hsame
          rw [turn_of_not_called hsame, turn_of_not_called hcalled]
          exact ⟨rfl, rfl⟩
      | true =>
          rw [hcalled] at hsame
          rcases hanswer : b.run (Instance.accessOf p) (b.phase p i.attachment.system info) env
            with ⟨outcome, left⟩
          rw [turn_of_called hcalled hanswer] at hcode ⊢
          have hprogram : b'.phase p i.attachment.system info =
              b.phase p i.attachment.system info := hcode _ (List.mem_singleton_self _)
          have hanswer' : b'.run (Instance.accessOf p) (b'.phase p i.attachment.system info) env =
              (outcome, left) := by
            rw [hrun, hprogram, hanswer]
          rw [turn_of_called hsame hanswer']
          exact ⟨rfl, rfl⟩

end Code

end SimEngine
