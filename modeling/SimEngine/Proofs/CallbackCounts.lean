import Mathlib.Data.List.Induction
import Mathlib.Data.List.ProdSigma
import SimEngine.Proofs.Calls
import SimEngine.Proofs.Steps

/-!
# Callbacks in the report of a step

The report of a step counts callbacks of queries.  A delivery that a panic cuts
short is told by its failure, and with it goes the number of the callbacks that
had returned before: the report counts those of the other deliveries only.

**Definitions.**
* `StepCall.asks`, `StepCall.answered`: a call is that of a query, and returns.
* `StepReport.blames`: a delivery failed by a report.

**Results.**
* `counted_turn`: what a turn adds to the report.
* `blames_iff_turn`, `blames_iff_call`: whose deliveries failed by the report.
* `query_callbacks_counted`: the callbacks of a step, and those in its report.
* `query_callbacks_lost`: a step whose report leaves out a callback.
-/

namespace SimEngine

variable {G : Guest}

namespace StepCall

/-- Whether it is the call of a query. -/
def asks (c : StepCall G) : Bool :=
  match c.kind with
  | .query _ _ => true
  | .phase _ => false

/-- Whether it is the call of a query that returned normally. -/
def answered (c : StepCall G) : Bool :=
  c.asks && !c.failed

end StepCall

/-- Whether the delivery of its queries to the instance of a handle failed, by the report. -/
def StepReport.blames (r : StepReport) (h : Handle) : Bool :=
  r.faults.any fun f => f.handle = h && f.stage = .queries

section Turns

variable (b : Behavior G) (info : StepInfo)

/-- What becomes of an instance when its queries are delivered. -/
theorem turn_delivery (failed : List Handle) (i : Instance G) {env : Environment G}
    (halive : env.orphaned = false) :
    (b.turn info failed (.queries, i) env).failed =
        ((b.visitsOf i.handle info env).findSome? Visit.fault?).isSome ∧
      (b.turn info failed (.queries, i) env).callbacks =
        if (b.turn info failed (.queries, i) env).failed then 0
        else (b.visitsOf i.handle info env).countP Visit.returned := by
  have hdelivery : QueryList.deliver b i.handle info env = _ := deliver_eq halive
  rw [Behavior.turn, Behavior.deliveryTurn, hdelivery, deliveryOf]
  cases (b.visitsOf i.handle info env).findSome? Visit.fault? <;> exact ⟨rfl, rfl⟩

/-- The calls of queries that return are the visits in which somebody returns. -/
theorem countP_answered_callsOf (i : Instance G) (visits : List (Visit G)) :
    (callsOf i visits).countP StepCall.answered = visits.countP Visit.returned := by
  rw [callsOf, List.countP_filterMap]
  refine List.countP_congr fun v _ => ?_
  unfold Visit.call? Visit.returned
  rcases v.result with _ | (_ | _) <;> exact Iff.rfl

/-- A call of a query failed if and only if somebody who was visited panicked. -/
theorem exists_failed_callsOf (i : Instance G) (visits : List (Visit G)) :
    (∃ c ∈ callsOf i visits, c.asks = true ∧ c.failed = true) ↔
      (visits.findSome? Visit.fault?).isSome = true := by
  rw [List.findSome?_isSome_iff]
  constructor
  · rintro ⟨c, hc, -, hfailed⟩
    obtain ⟨v, hv, hcall⟩ := List.mem_filterMap.1 hc
    obtain ⟨result, hresult, rfl⟩ := Option.map_eq_some_iff.1 hcall
    refine ⟨v, hv, ?_⟩
    cases result with
    | ok _ => cases hfailed
    | error reason => rw [Visit.fault?, hresult]; rfl
  · rintro ⟨v, hv, hfault⟩
    unfold Visit.fault? at hfault
    split at hfault
    · rename_i reason hresult
      refine ⟨⟨i, .query v.query v.entity, v.before, .error reason, v.after⟩, ?_, rfl, rfl⟩
      refine List.mem_filterMap.2 ⟨v, hv, ?_⟩
      rw [Visit.call?, hresult]
      rfl
    · cases hfault

/-- The calls of a phase are no calls of queries. -/
theorem not_asks_phase {failed : List Handle} {p : StepPhase} {i : Instance G}
    {env : Environment G} {c : StepCall G}
    (hc : c ∈ (b.turn info failed (.phase p, i) env).calls b info) : c.asks = false := by
  cases hcalled : (b.turn info failed (.phase p, i) env).called with
  | false =>
      rw [calls_of_not_called hcalled] at hc
      cases hc
  | true =>
      obtain ⟨result, after, hcalls, -⟩ := calls_of_called hcalled
      rw [hcalls] at hc
      rw [List.mem_singleton.1 hc]
      rfl

/-- A turn fails in the pass for queries if and only if a call of a query failed in it. -/
theorem failed_turn_iff (failed : List Handle) (slot : Pass × Instance G) {env : Environment G}
    (halive : env.orphaned = false) :
    (slot.1 = .queries ∧ (b.turn info failed slot env).failed = true) ↔
      ∃ c ∈ (b.turn info failed slot env).calls b info, c.asks = true ∧ c.failed = true := by
  obtain ⟨pass, i⟩ := slot
  cases pass with
  | queries =>
      rw [calls_queries, exists_failed_callsOf, (turn_delivery b info failed i halive).1]
      exact and_iff_right rfl
  | phase p =>
      refine iff_of_false (fun h => nomatch h.1) ?_
      rintro ⟨c, hc, hasks, -⟩
      rw [not_asks_phase b info hc] at hasks
      cases hasks

/-- **What a turn adds to the report**: nothing if it fails, else the callbacks that return. -/
theorem counted_turn (failed : List Handle) (slot : Pass × Instance G) {env : Environment G}
    (halive : env.orphaned = false) :
    (b.turn info failed slot env).callbacks =
      if (b.turn info failed slot env).failed then 0
      else ((b.turn info failed slot env).calls b info).countP StepCall.answered := by
  obtain ⟨pass, i⟩ := slot
  cases pass with
  | queries =>
      rw [calls_queries, countP_answered_callsOf]
      exact (turn_delivery b info failed i halive).2
  | phase p =>
      have hcallbacks : (b.turn info failed (.phase p, i) env).callbacks = 0 := by
        rcases turn_phase_cases b info failed p i env with
          ⟨-, hturn⟩ | ⟨-, hturn⟩ | ⟨outcome, left, -, -, -, -, hturn⟩ <;> rw [hturn]
      have hnone : ∀ c ∈ (b.turn info failed (.phase p, i) env).calls b info,
          ¬ c.answered = true := by
        intro c hc
        rw [StepCall.answered, not_asks_phase b info hc]
        exact Bool.false_ne_true
      rw [hcallbacks, List.countP_eq_zero.2 hnone, ite_self]

end Turns

section Steps

variable {b : Behavior G} {info : StepInfo} {e : Engine G} {log : List Wrapping}

/-- A turn of a step is the turn for its slot, and meets an engine that is alive. -/
theorem exists_turn_eq (hreached : Engine.Reached b log e) {t : Turn G}
    (ht : t ∈ e.stepTurns b info) :
    ∃ failed, t = b.turn info failed t.slot t.before ∧ t.before.orphaned = false := by
  have halive := (hreached.sound.beginStep (b := b)).alive
  obtain ⟨past, rest, hsplit⟩ := List.append_of_mem ht
  exact ⟨_, eq_turn_of_split b info hsplit, alive_before_turn b info halive hsplit⟩

/-- The instances that take part in a step have handles of their own. -/
theorem nodup_instances (hreached : Engine.Reached b log e) :
    ((e.beginStep b).scheduler.instances.map Instance.handle).Nodup := by
  have hall := (hreached.sound.beginStep (b := b)).nodup_handles
  rw [Scheduler.handles, Scheduler.all, List.map_append] at hall
  exact (List.nodup_append.1 hall).1

/-- The turns of a step go pass by pass, and in each pass over the instances. -/
theorem map_key_stepTurns (b : Behavior G) (info : StepInfo) (e : Engine G) :
    ((e.stepTurns b info).map fun t => (t.pass, t.inst.handle)) =
      Pass.all.product ((e.beginStep b).scheduler.instances.map Instance.handle) := by
  have hslots : (slots (e.beginStep b).scheduler.instances).map (fun s => (s.1, s.2.handle)) =
      Pass.all.product ((e.beginStep b).scheduler.instances.map Instance.handle) := by
    simp only [slots, List.product, List.map_flatMap, List.map_map, Function.comp_def]
  have hturns : ((e.stepTurns b info).map fun t => (t.pass, t.inst.handle)) =
      ((e.stepTurns b info).map Turn.slot).map fun s => (s.1, s.2.handle) := by
    rw [List.map_map]
    rfl
  rw [hturns, Engine.stepTurns, map_slot_turns, hslots]

/-- Each instance has one turn in each pass. -/
theorem nodup_stepTurns (hreached : Engine.Reached b log e) :
    ((e.stepTurns b info).map fun t => (t.pass, t.inst.handle)).Nodup := by
  rw [map_key_stepTurns]
  exact List.Nodup.product (by decide) (nodup_instances hreached)

/-- A delivery failed by the report if its turn did. -/
theorem blames_iff_turn {h : Handle} :
    (e.runStep b info).1.blames h = true ↔
      ∃ t ∈ e.stepTurns b info, t.pass = .queries ∧ t.inst.handle = h ∧ t.failed = true := by
  have hfault : ∀ t : Turn G,
      (∃ f, t.fault? = some f ∧ f.handle = h ∧ f.stage = .queries) ↔
        t.pass = .queries ∧ t.inst.handle = h ∧ t.failed = true := by
    intro t
    have hstage : t.pass.stage = .queries ↔ t.pass = .queries := by
      rcases t.pass with _ | (_ | _ | _) <;> decide
    unfold Turn.failed Turn.fault?
    split
    · simp only [Option.some.injEq, exists_eq_left', hstage, Option.isSome_some, and_true]
      exact and_comm
    · simp
  rw [runStep_eq, StepReport.blames, List.any_eq_true]
  simp only [List.mem_filterMap, Bool.and_eq_true, decide_eq_true_eq]
  constructor
  · rintro ⟨f, ⟨t, ht, hf⟩, hh, hstage⟩
    exact ⟨t, ht, (hfault t).1 ⟨f, hf, hh, hstage⟩⟩
  · rintro ⟨t, ht, hfailed⟩
    obtain ⟨f, hf, hh, hstage⟩ := (hfault t).2 hfailed
    exact ⟨f, ⟨t, ht, hf⟩, hh, hstage⟩

/-- **Whose deliveries failed by the report**: those of instances of which a callback panicked. -/
theorem blames_iff_call (hreached : Engine.Reached b log e) {h : Handle} :
    (e.runStep b info).1.blames h = true ↔
      ∃ c ∈ e.calls b info, c.inst.handle = h ∧ c.asks = true ∧ c.failed = true := by
  rw [blames_iff_turn]
  constructor
  · rintro ⟨t, ht, hpass, rfl, hfailed⟩
    obtain ⟨failed, hturn, halive⟩ := exists_turn_eq hreached ht
    have hcalls := failed_turn_iff b info failed t.slot halive
    rw [← hturn] at hcalls
    obtain ⟨c, hc, hasks, hpanicked⟩ := hcalls.1 ⟨hpass, hfailed⟩
    exact ⟨c, List.mem_flatMap.2 ⟨t, ht, hc⟩, by rw [inst_of_mem_calls hc], hasks, hpanicked⟩
  · rintro ⟨c, hmem, rfl, hasks, hpanicked⟩
    obtain ⟨t, ht, hc⟩ := List.mem_flatMap.1 hmem
    obtain ⟨failed, hturn, halive⟩ := exists_turn_eq hreached ht
    have hcalls := failed_turn_iff b info failed t.slot halive
    rw [← hturn] at hcalls
    obtain ⟨hpass, hfailed⟩ := hcalls.2 ⟨c, hc, hasks, hpanicked⟩
    exact ⟨t, ht, hpass, by rw [inst_of_mem_calls hc], hfailed⟩

/-- A turn for queries failed if and only if the report says so of its instance. -/
theorem blames_eq_failed (hreached : Engine.Reached b log e) {t : Turn G}
    (ht : t ∈ e.stepTurns b info) (hpass : t.pass = .queries) :
    (e.runStep b info).1.blames t.inst.handle = t.failed := by
  rw [Bool.eq_iff_iff, blames_iff_turn]
  constructor
  · rintro ⟨u, hu, hpass', hhandle, hfailed⟩
    -- The instance has no other turn for queries.
    have hsame : u = t := List.inj_on_of_nodup_map (nodup_stepTurns hreached) hu ht
      (Prod.ext (hpass'.trans hpass.symm) hhandle)
    exact hsame ▸ hfailed
  · exact fun hfailed => ⟨t, ht, hpass, rfl, hfailed⟩

/-- The report counts the calls of queries that returned, but for the deliveries that failed. -/
theorem queryCallbacks_runStep (hreached : Engine.Reached b log e) :
    (e.runStep b info).1.queryCallbacks =
      (e.calls b info).countP fun c =>
        c.answered && !(e.runStep b info).1.blames c.inst.handle := by
  have hturn : ∀ t ∈ e.stepTurns b info, t.callbacks =
      (t.calls b info).countP fun c =>
        c.answered && !(e.runStep b info).1.blames c.inst.handle := by
    intro t ht
    obtain ⟨failed, heq, halive⟩ := exists_turn_eq hreached ht
    have hcounted := counted_turn b info failed t.slot halive
    rw [← heq] at hcounted
    have hcalls : ∀ c ∈ t.calls b info,
        ((c.answered && !(e.runStep b info).1.blames c.inst.handle) = true ↔
          (c.answered && !t.failed) = true) := by
      intro c hc
      cases hpass : t.pass with
      | queries => rw [inst_of_mem_calls hc, blames_eq_failed hreached ht hpass]
      | phase p =>
          have hslot : t.slot = (.phase p, t.inst) := by rw [Turn.slot, hpass]
          rw [heq, hslot] at hc
          rw [StepCall.answered, not_asks_phase b info hc]
          exact Iff.rfl
    rw [hcounted, List.countP_congr hcalls]
    cases t.failed <;> simp
  have hreport : (e.runStep b info).1.queryCallbacks =
      ((e.stepTurns b info).map Turn.callbacks).sum := by rw [runStep_eq]
  rw [hreport, Engine.calls, List.countP_flatMap, List.map_congr_left hturn]
  rfl

/-- The call of a query is what it says it is. -/
theorem run_of_asks {c : StepCall G} (hc : c ∈ e.calls b info) (hasks : c.asks = true) :
    ∃ outcome, b.run .full (c.program b info) c.before = (outcome, c.after) ∧
      outcome.ofCallback = c.result := by
  obtain ⟨t, -, hct⟩ := List.mem_flatMap.1 hc
  unfold Turn.calls at hct
  split at hct
  · obtain ⟨v, hv, hcall⟩ := List.mem_filterMap.1 hct
    obtain ⟨result, hresult, rfl⟩ := Option.map_eq_some_iff.1 hcall
    have hfaithful := faithful_visit b t.inst.handle info v.target v.before
    rw [← eq_visit_of_mem b t.inst.handle info hv, Visit.Faithful, hresult] at hfaithful
    exact hfaithful
  · obtain ⟨result, -, rfl⟩ := Option.map_eq_some_iff.1 (Option.mem_toList.1 hct)
    cases hasks

/--
**The callbacks of a step, and those in its report.**  The report tells the deliveries that failed:
those to instances of which a callback panicked.  It counts the callbacks that return, except in
those deliveries: what returned there before the panic is left out.  So it counts all callbacks that
return in the step if and only if none of them belongs to an instance whose delivery failed.
-/
theorem query_callbacks_counted (b : Behavior G) (hreached : Engine.Reached b log e)
    (info : StepInfo) :
    (∀ c ∈ e.calls b info, c.asks = true →
      ∃ outcome, b.run .full (c.program b info) c.before = (outcome, c.after) ∧
        outcome.ofCallback = c.result) ∧
    (∀ h, (e.runStep b info).1.blames h = true ↔
      ∃ c ∈ e.calls b info, c.inst.handle = h ∧ c.asks = true ∧ c.failed = true) ∧
    (e.runStep b info).1.queryCallbacks =
      ((e.calls b info).countP fun c =>
        c.answered && !(e.runStep b info).1.blames c.inst.handle) ∧
    (e.calls b info).countP StepCall.answered = (e.runStep b info).1.queryCallbacks +
      ((e.calls b info).countP fun c =>
        c.answered && (e.runStep b info).1.blames c.inst.handle) ∧
    ((e.runStep b info).1.queryCallbacks = (e.calls b info).countP StepCall.answered ↔
      ∀ c ∈ e.calls b info, c.answered = true →
        (e.runStep b info).1.blames c.inst.handle = false) := by
  have hcounted : (e.runStep b info).1.queryCallbacks = _ := queryCallbacks_runStep hreached
  have htotal : (e.calls b info).countP StepCall.answered = (e.runStep b info).1.queryCallbacks +
      (e.calls b info).countP fun c =>
        c.answered && (e.runStep b info).1.blames c.inst.handle := by
    rw [hcounted, Nat.add_comm, List.countP_eq_countP_filter_add _ _ fun c : StepCall G =>
      (e.runStep b info).1.blames c.inst.handle, List.countP_filter, List.countP_filter]
  refine ⟨fun c => run_of_asks, fun h => blames_iff_call hreached, hcounted, htotal, ?_⟩
  rw [htotal, Nat.left_eq_add, List.countP_eq_zero]
  refine forall₂_congr fun c _ => ?_
  cases c.answered <;> simp

namespace Puppets

/-- Each system asks for all entities; the callback of the second one panics on entity 2. -/
def askers : Behavior puppets :=
  { idle with
    offers := fun _ _ capability => capability ≠ .configureParameters
    configure := fun system context => do
      let _ ← Program.register context.handle .any system
      return ()
    onQuery := fun callback _ entity =>
      if callback = 2 ∧ entity.id = 2 then .panic (.text "bad query") else .done () }

/-- A world with two entities is set up. -/
def crowd : Operation puppets :=
  .arrange ⟨World.empty.spawn.2.spawn.2, .empty, ∅, .empty, ⟨false, false, []⟩, [], (0 : Nat)⟩

/-- A system is attached. -/
def enlist (system : Nat) : Operation puppets :=
  .attach ⟨system, .shared⟩ .null ⟨.null⟩

/-- An engine with systems in that world. -/
def asked (systems : List Nat) : Engine puppets :=
  let e : Engine puppets := ⟨.empty, .initial (0 : Nat)⟩
  systems.foldl (fun e system => e.operate askers (enlist system)) (e.operate askers crowd)

theorem reached_asked (systems : List Nat) : ∃ log, Engine.Reached askers log (asked systems) := by
  induction systems using List.reverseRecOn with
  | nil =>
      have hfresh := Engine.Reached.fresh (b := askers) (0 : Nat)
      exact ⟨_, hfresh.next crowd⟩
  | append_singleton past system ih =>
      obtain ⟨log, hreached⟩ := ih
      rw [asked, List.foldl_append]
      exact ⟨_, hreached.next (enlist system)⟩

end Puppets

/-- Two callbacks of the first system are counted; that of the second system is left out. -/
theorem query_callbacks_counted_asked :
    (∃ log, Engine.Reached Puppets.askers log (Puppets.asked [1, 2])) ∧
    ((Puppets.asked [1, 2]).runStep Puppets.askers (.first .zero)).1.queryCallbacks = 2 ∧
    ((Puppets.asked [1, 2]).runStep Puppets.askers (.first .zero)).1.blames ⟨2⟩ = true ∧
    ((Puppets.asked [1, 2]).calls Puppets.askers (.first .zero)).countP StepCall.answered = 3 := by
  obtain ⟨log, hreached⟩ := Puppets.reached_asked [1, 2]
  obtain ⟨-, -, -, htotal, -⟩ := query_callbacks_counted Puppets.askers hreached (.first .zero)
  exact ⟨⟨log, hreached⟩, rfl, rfl, htotal⟩

/-- One callback returns in a step before another one panics, and the report counts none. -/
theorem query_callbacks_lost :
    (∃ log, Engine.Reached Puppets.askers log (Puppets.asked [2])) ∧
    ((Puppets.asked [2]).calls Puppets.askers (.first .zero)).map
      (fun c => (c.asks, c.answered)) =
        [(true, true), (true, false)] ∧
    ((Puppets.asked [2]).runStep Puppets.askers (.first .zero)).1.queryCallbacks = 0 ∧
    ((Puppets.asked [2]).runStep Puppets.askers (.first .zero)).1.faults.map PhaseFault.message =
      ["query callback panicked on Entity(2): bad query"] :=
  ⟨Puppets.reached_asked [2], rfl, rfl, rfl⟩

end Steps

end SimEngine
