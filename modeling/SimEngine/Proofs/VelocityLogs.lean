import Mathlib.Algebra.Order.Floor.Div
import SimEngine.Cast.Behavior
import SimEngine.Proofs.Queries
import SimEngine.Proofs.Runs

/-!
# Lines of velocity logs

A log writes a line for each entity that it selects and that has a velocity, in
the steps whose number its period divides.  So it writes in the first of each
row of steps as long as its period, and in every such step as many lines as
there are entities for it, as long as the same entities have velocities.

**Definitions.**
* `Scene.movers`: the entities that have a velocity.
* `VelocityLog.selectedIn`: how many entities a log is about.
* `VelocityLog.after`: what becomes of a log in a step.
* `VelocityLog.called?`, `VelocityLog.calledInTurn?`: a log after a call that
  succeeds, and after a row of them.
* `FirstSteps`: calls in the first steps of a simulation.

**Results.**
* `run_logEach`, `run_postUpdate`: a log reports only, and counts its lines.
* `VelocityLog.countP_writes`: for how many entities it writes a line.
* `VelocityLog.calledInTurn?_eq`: what becomes of a log in the first steps.
* `lines_of_log`: how many lines it has then written.
-/

namespace SimEngine

open Cast (behavior)

/-- The living entities that have a velocity. -/
def Scene.movers (scene : Scene) : List Entity :=
  scene.living.filter fun e => (scene.get? e DataKind.velocity).isSome

namespace VelocityLog

/-- How many entities a log of an entity is about: all that move, or its own if it does. -/
def selectedIn (scene : Scene) (entity : Entity) : Nat :=
  if entity.isNull then scene.movers.length
  else if entity ∈ scene.movers then 1
  else 0

/-- Whether a log writes a line for an entity. -/
def writes (l : VelocityLog) (scene : Scene) (e : Entity) : Bool :=
  l.selects e && (scene.get? e DataKind.velocity).isSome

/-- What becomes of a log in a step. -/
def after (l : VelocityLog) (info : StepInfo) (scene : Scene) : VelocityLog :=
  if l.isDue info then
    { l with lines := l.lines + (scene.query signature).countP (l.writes scene) }
  else l

/-- The log after a call, if the call succeeds. -/
def called? (l : VelocityLog) (info : StepInfo) (env : Environment cast) : Option VelocityLog :=
  match (behavior.run .readOnly (l.postUpdate info) env).1 with
  | .done next => some next
  | _ => none

/-- The log after a row of calls, if all of them succeed. -/
def calledInTurn? (l : VelocityLog) (calls : List (StepInfo × Environment cast)) :
    Option VelocityLog :=
  calls.foldlM (fun l call => l.called? call.1 call.2) l

end VelocityLog

/--
Calls in the first steps of a simulation, by engines that are not gone, while the same entities are
alive and the same ones have velocities.  All else may change from call to call.
-/
structure FirstSteps (scene : Scene) (calls : List (StepInfo × Environment cast)) : Prop where
  numbered : calls.map (fun call => call.1.iterations.toNat) = List.range calls.length
  alive : ∀ call ∈ calls, call.2.orphaned = false
  living : ∀ call ∈ calls, call.2.world.living = scene.living
  moving : ∀ call ∈ calls, ∀ e,
    (call.2.world.get? e DataKind.velocity).isSome = (scene.get? e DataKind.velocity).isSome

section Calls

variable {env : Environment cast}

/-- A program that goes on with the velocity of an entity. -/
theorem run_velocity? {α : Type} (halive : env.orphaned = false) (e : Entity)
    (next : Option Vector3 → Deed α) :
    behavior.run .readOnly ((Deed.velocity? e).bind next) env =
      behavior.run .readOnly (next (env.world.get? e DataKind.velocity)) env :=
  run_ask behavior .readOnly (.read e DataKind.velocity) next halive

/-- **A log that goes through entities** reports, and counts those for which it writes a line. -/
theorem run_logEach (halive : env.orphaned = false) (l : VelocityLog) (info : StepInfo)
    (entities : List Entity) :
    ∃ journal, behavior.run .readOnly (l.logEach info entities) env =
      (.done { l with lines := l.lines + entities.countP (l.writes env.world) },
        { env with journal := journal }) := by
  induction entities generalizing l env with
  | nil => exact ⟨env.journal, rfl⟩
  | cons e rest ih =>
      unfold VelocityLog.logEach
      split
      case isTrue hselected =>
        cases hfound : env.world.get? e DataKind.velocity with
        | none =>
            have hsilent : ¬ l.writes env.world e = true := by
              simp [VelocityLog.writes, hfound]
            obtain ⟨journal, hrest⟩ := ih halive l
            rw [List.countP_cons_of_neg hsilent]
            refine ⟨journal, (run_velocity? halive e _).trans ?_⟩
            rw [hfound]
            exact hrest
        | some velocity =>
            have hwritten : l.writes env.world e = true := by
              simp [VelocityLog.writes, hfound, hselected]
            have hname := run_ask behavior .readOnly (.read e DataKind.name)
              (fun name => do
                Program.report (.velocity info.iterations info.simTime e (name.getD "-")
                  velocity.length.toFloat)
                { l with lines := l.lines + 1 }.logEach info rest) halive
            obtain ⟨journal, hrest⟩ := @ih (env.report _) halive { l with lines := l.lines + 1 }
            rw [List.countP_cons_of_pos hwritten, Nat.add_comm (rest.countP _), ← Nat.add_assoc]
            refine ⟨journal, (run_velocity? halive e _).trans ?_⟩
            rw [hfound]
            refine hname.trans ?_
            exact (run_ask behavior .readOnly (.report _) _ halive).trans hrest
      case isFalse hpassed =>
        have hsilent : ¬ l.writes env.world e = true := by
          simp [VelocityLog.writes, hpassed]
        rw [List.countP_cons_of_neg hsilent]
        exact ih halive l

/-- **A log in a phase** becomes what it becomes in a step, and does nothing but report. -/
theorem run_postUpdate (halive : env.orphaned = false) (l : VelocityLog) (info : StepInfo) :
    ∃ journal, behavior.run .readOnly (l.postUpdate info) env =
      (.done (l.after info env.world), { env with journal := journal }) := by
  unfold VelocityLog.postUpdate VelocityLog.after
  split
  · obtain ⟨journal, hlogged⟩ := run_logEach halive l info
      (env.world.query VelocityLog.signature)
    exact ⟨journal, (run_ask behavior .readOnly (.find _) _ halive).trans hlogged⟩
  · exact ⟨env.journal, rfl⟩

/-- A call succeeds. -/
theorem VelocityLog.called?_eq (halive : env.orphaned = false) (l : VelocityLog)
    (info : StepInfo) : l.called? info env = some (l.after info env.world) := by
  obtain ⟨journal, hdone⟩ := run_postUpdate halive l info
  rw [VelocityLog.called?, hdone]

end Calls

section Lines

variable {scene : Scene} {l : VelocityLog}

/-- Whoever has a velocity carries the type of velocities. -/
theorem VelocityLog.satisfies_signature {e : Entity}
    (h : (scene.get? e DataKind.velocity).isSome = true) :
    scene.satisfies VelocityLog.signature e = true := by
  refine (Signature.satisfiedBy_iff _ _).2 ⟨fun type htype => ?_, fun type htype => nomatch htype⟩
  obtain rfl := List.mem_singleton.1 htype
  obtain ⟨velocity, hvelocity⟩ := Option.isSome_iff_exists.1 h
  obtain ⟨held, hheld, -⟩ := Option.bind_eq_some_iff.1 hvelocity
  rw [World.hasType, hheld]
  rfl

/-- **For how many entities a log writes a line**: for those that it is about. -/
theorem VelocityLog.countP_writes :
    (scene.query VelocityLog.signature).countP (l.writes scene) =
      VelocityLog.selectedIn scene l.entity := by
  -- The signature asks for the type only; data of another kind under it makes no line.
  have hmovers : (scene.query VelocityLog.signature).countP (l.writes scene) =
      scene.movers.countP l.selects := by
    rw [World.query_eq_filter, Scene.movers, List.countP_filter, List.countP_filter]
    refine List.countP_congr fun e _ => ?_
    rw [VelocityLog.writes]
    cases hmoves : (scene.get? e DataKind.velocity).isSome with
    | false => simp
    | true => simp [VelocityLog.satisfies_signature hmoves]
  have hdistinct : scene.movers.Nodup := scene.nodup_living.filter _
  rw [hmovers, VelocityLog.selectedIn]
  split
  case isTrue hnull =>
    refine List.countP_eq_length.2 fun e _ => ?_
    rw [VelocityLog.selects, hnull, Bool.true_or]
  case isFalse hbound =>
    rw [← hdistinct.count]
    refine List.countP_congr fun e _ => ?_
    simp [VelocityLog.selects, hbound]

end Lines

section Rows

variable {scene : Scene} {calls : List (StepInfo × Environment cast)}

/-- One more step begins a new row of steps if the length of a row divides its number. -/
theorem succ_ceilDiv (n : Nat) {m : Nat} (hm : 0 < m) :
    (n + 1) ⌈/⌉ m = n ⌈/⌉ m + if n % m = 0 then 1 else 0 := by
  obtain ⟨k, rfl⟩ := Nat.exists_eq_succ_of_ne_zero (Nat.ne_of_gt hm)
  have hafter : n + 1 + (k + 1) - 1 = n + k + 1 := by omega
  have hdivides : k + 1 ∣ n + k + 1 ↔ n % (k + 1) = 0 := by
    rw [← Nat.dvd_iff_mod_eq_zero, Nat.add_assoc]
    exact Nat.dvd_add_left (Nat.dvd_refl _)
  calc (n + 1) ⌈/⌉ (k + 1) = (n + k + 1) / (k + 1) := by
        rw [Nat.ceilDiv_eq_add_pred_div, hafter]
    _ = (n + k) / (k + 1) + if n % (k + 1) = 0 then 1 else 0 := by
        rw [Nat.succ_div]
        simp only [hdivides]
    _ = n ⌈/⌉ (k + 1) + if n % (k + 1) = 0 then 1 else 0 := by
        rw [Nat.ceilDiv_eq_add_pred_div]
        rfl

theorem VelocityLog.isDue_iff {l : VelocityLog} (info : StepInfo) :
    l.isDue info = true ↔ info.iterations.toNat % l.every.toNat = 0 := by
  rw [VelocityLog.isDue, beq_iff_eq, ← UInt64.toNat_inj, UInt64.toNat_mod]
  rfl

theorem FirstSteps.last {info : StepInfo} {env : Environment cast}
    (h : FirstSteps scene (calls ++ [(info, env)])) :
    FirstSteps scene calls ∧ info.iterations.toNat = calls.length ∧ env.orphaned = false ∧
      Scene.movers env.world = scene.movers := by
  have hnumbered := h.numbered
  rw [List.map_append, List.length_append, List.length_singleton, List.range_succ] at hnumbered
  obtain ⟨hbefore, hlast⟩ := List.append_inj' hnumbered rfl
  have hmem : (info, env) ∈ calls ++ [(info, env)] := by simp
  have hearlier : ∀ {call}, call ∈ calls → call ∈ calls ++ [(info, env)] :=
    fun hcall => List.mem_append_left _ hcall
  refine ⟨⟨hbefore, fun call hcall => h.alive call (hearlier hcall),
    fun call hcall => h.living call (hearlier hcall),
    fun call hcall => h.moving call (hearlier hcall)⟩,
    List.singleton_inj.1 hlast, h.alive _ hmem, ?_⟩
  rw [Scene.movers, Scene.movers, h.living _ hmem]
  exact List.filter_congr fun e _ => h.moving _ hmem e

theorem VelocityLog.calledInTurn?_concat (l : VelocityLog) (call : StepInfo × Environment cast) :
    l.calledInTurn? (calls ++ [call]) =
      (l.calledInTurn? calls).bind fun next => next.called? call.1 call.2 := by
  rw [VelocityLog.calledInTurn?, List.foldlM_append]
  refine congrArg (Option.bind _) (funext fun next => ?_)
  exact bind_pure (next.called? call.1 call.2)

/-- **What becomes of a log in the first steps.** -/
theorem VelocityLog.calledInTurn?_eq (l : VelocityLog) (h : FirstSteps scene calls) :
    l.calledInTurn? calls = some { l with
      lines := l.lines +
        (calls.length ⌈/⌉ l.every.toNat) * VelocityLog.selectedIn scene l.entity } := by
  -- By the last call, since its step is numbered by the calls before it.
  induction calls using List.reverseRecOn with
  | nil =>
      rw [List.length_nil, zero_ceilDiv, Nat.zero_mul]
      rfl
  | append_singleton past call ih =>
      obtain ⟨info, env⟩ := call
      obtain ⟨hpast, hnumber, halive, hmovers⟩ := h.last
      have hpositive : 0 < l.every.toNat := Nat.pos_of_ne_zero fun hzero =>
        l.every_ne_zero (UInt64.toNat_inj.1 hzero)
      have hselected : VelocityLog.selectedIn env.world l.entity =
          VelocityLog.selectedIn scene l.entity := by
        rw [VelocityLog.selectedIn, VelocityLog.selectedIn, hmovers]
      rw [VelocityLog.calledInTurn?_concat, ih hpast, Option.bind_some,
        VelocityLog.called?_eq halive, VelocityLog.after,
        VelocityLog.countP_writes, List.length_append, List.length_singleton,
        succ_ceilDiv _ hpositive, ← hnumber]
      split
      case isTrue hdue =>
        rw [if_pos ((VelocityLog.isDue_iff info).1 hdue), hselected, Nat.add_mul, Nat.one_mul,
          Nat.add_assoc]
      case isFalse hidle =>
        rw [if_neg (mt (VelocityLog.isDue_iff info).2 hidle), Nat.add_zero]

end Rows

/-- A log that a payload describes has a period of at least one step, and has written nothing. -/
theorem VelocityLog.of_ofPayload {config : Payload} {entity : Entity} {l : VelocityLog}
    (h : VelocityLog.ofPayload config entity = .ok l) :
    ∃ every, config.readD Reader.word "every" VelocityLog.defaultEvery = .ok every ∧
      l.entity = entity ∧ l.every.toNat = max every.toNat 1 ∧ l.lines = 0 := by
  unfold VelocityLog.ofPayload at h
  split at h
  case h_1 every hread =>
    obtain rfl := Except.ok.inj h
    refine ⟨every, hread, rfl, ?_, rfl⟩
    show (if every ≤ 1 then (1 : UInt64) else every).toNat = _
    split
    case isTrue hle =>
      exact (Nat.max_eq_right (UInt64.le_iff_toNat_le.1 hle)).symm
    case isFalse hlt =>
      exact (Nat.max_eq_left (Nat.le_of_not_le (mt UInt64.le_iff_toNat_le.2 hlt))).symm
  case h_2 => cases h

/--
**How many lines a log has written.**  A log that any payload describes is called in each of the
first steps of a simulation.  All calls succeed, whatever the period in the payload, zero included;
and the log writes in every step whose number the period divides, a line for each entity that it is
about: for all that have a velocity if it is bound to none, else for its own if that one has.
-/
theorem lines_of_log {config : Payload} {entity : Entity} {l : VelocityLog}
    (hmade : VelocityLog.ofPayload config entity = .ok l)
    {scene : Scene} {calls : List (StepInfo × Environment cast)} (hcalls : FirstSteps scene calls) :
    ∃ every, config.readD Reader.word "every" 60 = .ok every ∧
    ∃ left, l.calledInTurn? calls = some left ∧
      left.lines = (calls.length ⌈/⌉ max every.toNat 1) *
        if entity.isNull then scene.movers.length
        else if entity ∈ scene.movers then 1 else 0 := by
  obtain ⟨every, hread, hentity, hperiod, hlines⟩ := VelocityLog.of_ofPayload hmade
  refine ⟨every, hread, _, l.calledInTurn?_eq hcalls, ?_⟩
  show l.lines + _ = _
  rw [hlines, Nat.zero_add, hperiod, hentity]
  rfl

namespace Sparse

/-- Two entities that move, and one that does not. -/
def scene : Scene :=
  .after [.spawn, .spawn, .spawn, .insert ⟨1⟩ DataKind.velocity .zero,
    .insert ⟨1⟩ DataKind.name "first", .insert ⟨2⟩ DataKind.velocity .zero]

/-- Calls in the first steps, in that scene. -/
def calls (steps : Nat) : List (StepInfo × Environment cast) :=
  (List.range steps).map fun step =>
    ({ StepInfo.first .zero with iterations := UInt64.ofNat step },
      { Environment.initial Memory.empty with world := scene })

/-- A payload that asks for a period. -/
def config (every : Nat) : Payload :=
  ⟨.ofMembers [("every", .ofNat every)]⟩

end Sparse

/--
In three steps two entities are logged twice if every other step is logged, and one of them three
times if the period is zero.
-/
theorem lines_of_log_sparse :
    FirstSteps Sparse.scene (Sparse.calls 3) ∧
    (∃ l, VelocityLog.ofPayload (Sparse.config 2) .null = .ok l ∧
      ∃ left, l.calledInTurn? (Sparse.calls 3) = some left ∧ left.lines = 4) ∧
    ∃ l, VelocityLog.ofPayload (Sparse.config 0) ⟨2⟩ = .ok l ∧
      ∃ left, l.calledInTurn? (Sparse.calls 3) = some left ∧ left.lines = 3 := by
  have hcalls : FirstSteps Sparse.scene (Sparse.calls 3) := by
    constructor
    case numbered => rfl
    all_goals
      intro call hcall
      obtain ⟨step, -, rfl⟩ := List.mem_map.1 hcall
    case alive => rfl
    case living => rfl
    case moving => exact fun _ => rfl
  have hmovers : Sparse.scene.movers = [⟨1⟩, ⟨2⟩] := by decide +kernel
  have hother : VelocityLog.ofPayload (Sparse.config 2) .null = .ok ⟨.null, 2, 0, by decide⟩ :=
    rfl
  have hzero : VelocityLog.ofPayload (Sparse.config 0) ⟨2⟩ = .ok ⟨⟨2⟩, 1, 0, by decide⟩ :=
    rfl
  refine ⟨hcalls, ⟨_, hother, ?_⟩, _, hzero, ?_⟩
  · obtain ⟨every, hread, left, hleft, hlines⟩ := lines_of_log hother hcalls
    obtain rfl : 2 = every := Except.ok.inj hread
    rw [hmovers] at hlines
    exact ⟨left, hleft, hlines⟩
  · obtain ⟨every, hread, left, hleft, hlines⟩ := lines_of_log hzero hcalls
    obtain rfl : 0 = every := Except.ok.inj hread
    rw [hmovers] at hlines
    exact ⟨left, hleft, hlines⟩

end SimEngine
