import Mathlib.Algebra.GroupWithZero.Nat
import SimEngine.Proofs.Queues

/-!
# The turns of a step

A step passes over its instances four times: it delivers their queries, and it
calls them in each phase.  What becomes of one instance in one pass is a turn;
the turns of a step tell its report and what it leaves.

**Definitions.**
* `slots`: the turns to come, pass by pass.
* `Turn`: what became of one of them.
* `Turn.Due`: whether an instance is to be called, given the turns so far.
* `Turn.Faithful`: a turn is the one call it is for, or no call.

**Results.**
* `passThrough_eq`: the passes of a step are the sequence of its turns.
* `called_iff_due`: an instance is called if and only if it is due.
-/

namespace SimEngine

variable {G : Guest}

/-- The passes of a step. -/
inductive Pass where
  | queries
  | phase (phase : StepPhase)
  deriving DecidableEq, Repr

namespace Pass

/-- The passes in their order. -/
def all : List Pass :=
  .queries :: StepPhase.all.map .phase

/-- The stage at which an instance fails in a pass. -/
def stage : Pass → Stage
  | .queries => .queries
  | .phase p => p.stage

end Pass

/-- The turns to come in a step: pass by pass, each over all instances in their order. -/
def slots (instances : List (Instance G)) : List (Pass × Instance G) :=
  Pass.all.flatMap fun pass => instances.map fun i => (pass, i)

/-- What became of one instance in one pass. -/
structure Turn (G : Guest) where
  pass : Pass
  inst : Instance G
  before : Environment G
  /-- How the call ended; an instance that is passed over is not called. -/
  result : Option (Except String Unit)
  /-- How many callbacks returned, if the turn is a delivery that came to its end. -/
  callbacks : Nat
  after : Environment G

/-- What a call leaves, with the report of its failure if it failed. -/
def faultReported (info : StepInfo) (pass : Pass) (i : Instance G) (result : Except String Unit)
    (left : Environment G) : Environment G :=
  match result with
  | .ok () => left
  | .error message =>
    left.report (.faulted i.handle i.name pass.stage info.iterations message)

/-- A delivery as a result. -/
def resultOf (delivery : Delivery) : Except String Unit :=
  match delivery.fault with
  | none => .ok ()
  | some message => .error message

namespace Turn

/-- The pass and the instance. -/
def slot (t : Turn G) : Pass × Instance G :=
  (t.pass, t.inst)

/-- Whether the instance was called. -/
def called (t : Turn G) : Bool :=
  t.result.isSome

/-- The failure of the call, if it failed. -/
def fault? (t : Turn G) : Option PhaseFault :=
  match t.result with
  | some (.error message) => some ⟨t.inst.handle, t.inst.name, t.pass.stage, message⟩
  | _ => none

/-- Whether the call failed. -/
def failed (t : Turn G) : Bool :=
  t.fault?.isSome

/-- Whether the turn is a call of a phase that returned normally. -/
def counts (t : Turn G) : Bool :=
  match t.pass, t.result with
  | .phase _, some (.ok ()) => true
  | _, _ => false

/-- The one call that a turn is for, with its result and what it leaves. -/
def Call (b : Behavior G) (info : StepInfo) (t : Turn G) (result : Except String Unit)
    (left : Environment G) : Prop :=
  match t.pass with
  | .queries => ∃ delivery,
      QueryList.deliver b t.inst.handle info t.before = (delivery, left) ∧
        result = resultOf delivery
  | .phase p => ∃ outcome,
      b.run (Instance.accessOf p) (b.phase p t.inst.attachment.system info) t.before =
          (outcome, left) ∧
        result = outcome.toExcept

/-- A turn is the one call it is for, or it is no call and leaves all but the journal as it is. -/
def Faithful (b : Behavior G) (info : StepInfo) (t : Turn G) : Prop :=
  match t.result with
  | none => { t.after with journal := t.before.journal } = t.before
  | some result => ∃ left, t.Call b info result left ∧
      t.after = faultReported info t.pass t.inst result left

/--
Whether an instance is to be called: always for its queries; in a phase if it offered the phase
when it was made, still offers it, and has not failed in the turns so far.
-/
def Due (b : Behavior G) (past : List (Turn G)) (t : Turn G) : Prop :=
  match t.pass with
  | .queries => True
  | .phase p =>
    t.inst.capabilities.has p.capability = true ∧
      b.offers t.inst.attachment.system t.before.memory p.capability = true ∧
      ∀ u ∈ past, u.inst.handle = t.inst.handle → u.failed = false

end Turn

/-- The handles of the instances that have failed, after one more turn. -/
def markFault (failed : List Handle) (t : Turn G) : List Handle :=
  if t.failed then t.inst.handle :: failed else failed

namespace Behavior

variable (b : Behavior G) (info : StepInfo)

/-- The delivery of the queries of an instance. -/
def deliveryTurn (i : Instance G) (env : Environment G) : Turn G :=
  match QueryList.deliver b i.handle info env with
  | (⟨n, none⟩, left) => ⟨.queries, i, env, some (.ok ()), n, left⟩
  | (⟨_, some message⟩, left) =>
    ⟨.queries, i, env, some (.error message), 0,
      left.report (.faulted i.handle i.name .queries info.iterations message)⟩

/-- The call of an instance in a phase, unless it has failed. -/
def phaseTurn (failed : List Handle) (p : StepPhase) (i : Instance G) (env : Environment G) :
    Turn G :=
  if i.handle ∈ failed then
    ⟨.phase p, i, env, none, 0, env⟩
  else
    match i.runPhase b p info env with
    | (.completed, left) => ⟨.phase p, i, env, some (.ok ()), 0, left⟩
    | (.skipped, left) => ⟨.phase p, i, env, none, 0, left⟩
    | (.failed message, left) =>
      ⟨.phase p, i, env, some (.error message), 0,
        left.report (.faulted i.handle i.name p.stage info.iterations message)⟩

/-- The turn for a slot, given the handles of the instances that have failed. -/
def turn (failed : List Handle) (slot : Pass × Instance G) (env : Environment G) : Turn G :=
  match slot.1 with
  | .queries => b.deliveryTurn info slot.2 env
  | .phase p => b.phaseTurn info failed p slot.2 env

/-- The turns for slots. -/
def turns : List Handle → List (Pass × Instance G) → Environment G → List (Turn G)
  | _, [], _ => []
  | failed, slot :: rest, env =>
    let t := b.turn info failed slot env
    t :: turns (markFault failed t) rest t.after

end Behavior

/-- The progress of a step after one more turn. -/
def StepProgress.take (p : StepProgress G) (t : Turn G) : StepProgress G where
  faulted := markFault p.faulted t
  report :=
    { p.report with
      faults := p.report.faults ++ t.fault?.toList
      phaseCalls := p.report.phaseCalls + if t.counts then 1 else 0
      queryCallbacks := p.report.queryCallbacks + t.callbacks }
  env := t.after

/-- The share of one slot in the progress of a step. -/
def StepProgress.advance (b : Behavior G) (info : StepInfo) (p : StepProgress G)
    (slot : Pass × Instance G) : StepProgress G :=
  match slot.1 with
  | .queries => p.deliverOne b info slot.2
  | .phase phase => p.callOne b info phase slot.2

/-- An instance has one delivery in a step, and its phases come after it. -/
theorem pairwise_slots
    {instances : List (Instance G)} (hnodup : (instances.map Instance.handle).Nodup)
    (h : Handle) :
    (slots instances).Pairwise fun s s' =>
      s.2.handle = h → s'.2.handle = h → s'.1 ≠ .queries := by
  have hphase : ∀ s ∈ (StepPhase.all.map Pass.phase).flatMap
      (fun pass => instances.map fun i => (pass, i)), s.1 ≠ .queries := by
    intro s hs
    obtain ⟨pass, hpass, hmem⟩ := List.mem_flatMap.1 hs
    obtain ⟨p, _, rfl⟩ := List.mem_map.1 hpass
    obtain ⟨i, _, rfl⟩ := List.mem_map.1 hmem
    simp
  rw [slots, Pass.all, List.flatMap_cons, List.pairwise_append]
  refine ⟨?_, ?_, fun _ _ s' hs' _ _ => hphase s' hs'⟩
  · rw [List.pairwise_map]
    refine (List.pairwise_map.1 hnodup).imp ?_
    intro i j hne hi hj
    exact absurd (hi.trans hj.symm) hne
  · exact List.pairwise_of_forall_mem_list fun s _ s' hs' _ _ => hphase s' hs'

section Turns

variable (b : Behavior G) (info : StepInfo)

theorem advance_eq_take
    {p : StepProgress G} (hiter : p.report.iterations = info.iterations)
    (slot : Pass × Instance G) :
    p.advance b info slot = p.take (b.turn info p.faulted slot p.env) := by
  obtain ⟨pass, i⟩ := slot
  cases pass with
  | queries =>
      show p.deliverOne b info i = p.take (b.deliveryTurn info i p.env)
      unfold StepProgress.deliverOne Behavior.deliveryTurn
      rcases QueryList.deliver b i.handle info p.env with ⟨⟨n, _ | message⟩, left⟩
      · simp [StepProgress.take, markFault, Turn.failed, Turn.fault?, Turn.counts]
      · simp [StepProgress.take, StepProgress.fault, markFault, Turn.failed, Turn.fault?,
          Turn.counts, Pass.stage, hiter]
  | phase phase =>
      show p.callOne b info phase i = p.take (b.phaseTurn info p.faulted phase i p.env)
      unfold StepProgress.callOne Behavior.phaseTurn
      by_cases hfaulted : i.handle ∈ p.faulted
      · simp [hfaulted, StepProgress.take, markFault, Turn.failed, Turn.fault?, Turn.counts]
      · simp only [hfaulted, if_false]
        rcases i.runPhase b phase info p.env with ⟨_ | _ | message, left⟩
        · simp [StepProgress.take, markFault, Turn.failed, Turn.fault?, Turn.counts]
        · simp [StepProgress.take, markFault, Turn.failed, Turn.fault?, Turn.counts]
        · simp [StepProgress.take, StepProgress.fault, markFault, Turn.failed, Turn.fault?,
            Turn.counts, Pass.stage, hiter]

theorem foldl_advance
    (slots : List (Pass × Instance G)) {p : StepProgress G}
    (hiter : p.report.iterations = info.iterations) :
    slots.foldl (StepProgress.advance b info) p =
      (b.turns info p.faulted slots p.env).foldl StepProgress.take p := by
  induction slots generalizing p with
  | nil =>
      rfl
  | cons slot rest ih =>
      have hiter' : (p.take (b.turn info p.faulted slot p.env)).report.iterations =
          info.iterations := hiter
      rw [List.foldl_cons, advance_eq_take b info hiter, ih hiter']
      rfl

theorem passThrough_eq_foldl
    (instances : List (Instance G)) (info : StepInfo) (env : Environment G) :
    Engine.passThrough b instances info env =
      (slots instances).foldl (StepProgress.advance b info)
        ⟨[], ⟨info.iterations, [], 0, 0⟩, env⟩ := by
  simp only [slots, Pass.all, StepPhase.all, List.map_cons, List.map_nil, List.flatMap_cons,
    List.flatMap_nil, List.append_nil, List.foldl_append, List.foldl_map]
  rfl

theorem foldl_take
    (turns : List (Turn G)) (p : StepProgress G) :
    turns.foldl StepProgress.take p =
      ⟨turns.foldl markFault p.faulted,
        { p.report with
          faults := p.report.faults ++ turns.filterMap Turn.fault?
          phaseCalls := p.report.phaseCalls + turns.countP Turn.counts
          queryCallbacks := p.report.queryCallbacks + (turns.map Turn.callbacks).sum },
        lastOf Turn.after p.env turns⟩ := by
  induction turns generalizing p with
  | nil =>
      simp [lastOf]
  | cons t rest ih =>
      rw [List.foldl_cons, ih]
      have hfaults : t.fault?.toList ++ rest.filterMap Turn.fault? =
          (t :: rest).filterMap Turn.fault? := by
        cases h : t.fault? <;> simp [h]
      simp only [StepProgress.take, List.foldl_cons, lastOf, List.append_assoc, hfaults,
        List.countP_cons, List.map_cons, List.sum_cons]
      congr 2
      · omega
      · omega

/-- **The passes of a step are the sequence of its turns.** -/
theorem passThrough_eq
    (instances : List (Instance G)) (info : StepInfo) (env : Environment G) :
    Engine.passThrough b instances info env =
      ⟨(b.turns info [] (slots instances) env).foldl markFault [],
        ⟨info.iterations, (b.turns info [] (slots instances) env).filterMap Turn.fault?,
          (b.turns info [] (slots instances) env).countP Turn.counts,
          ((b.turns info [] (slots instances) env).map Turn.callbacks).sum⟩,
        lastOf Turn.after env (b.turns info [] (slots instances) env)⟩ := by
  rw [passThrough_eq_foldl, foldl_advance b info _ rfl, foldl_take]
  simp

theorem slot_turn
    (failed : List Handle) (slot : Pass × Instance G) (env : Environment G) :
    (b.turn info failed slot env).slot = slot ∧ (b.turn info failed slot env).before = env := by
  obtain ⟨pass, i⟩ := slot
  cases pass with
  | queries =>
      simp only [Behavior.turn, Behavior.deliveryTurn]
      split <;> exact ⟨rfl, rfl⟩
  | phase p =>
      simp only [Behavior.turn, Behavior.phaseTurn]
      split
      · exact ⟨rfl, rfl⟩
      · split <;> exact ⟨rfl, rfl⟩

theorem map_slot_turns
    (failed : List Handle) (slots : List (Pass × Instance G)) (env : Environment G) :
    (b.turns info failed slots env).map Turn.slot = slots := by
  induction slots generalizing failed env with
  | nil =>
      rfl
  | cons slot rest ih =>
      rw [Behavior.turns, List.map_cons, (slot_turn b info failed slot env).1, ih]

theorem linked_turns
    (failed : List Handle) (slots : List (Pass × Instance G)) (env : Environment G) :
    Linked Turn.before Turn.after env (b.turns info failed slots env)
      (lastOf Turn.after env (b.turns info failed slots env)) := by
  induction slots generalizing failed env with
  | nil =>
      rfl
  | cons slot rest ih =>
      exact ⟨(slot_turn b info failed slot env).2, ih _ _⟩

/-- Each turn is the turn for its slot after those before it. -/
theorem eq_turn_of_split
    {failed : List Handle} {slots : List (Pass × Instance G)} {env : Environment G}
    {past rest : List (Turn G)} {t : Turn G}
    (hsplit : b.turns info failed slots env = past ++ t :: rest) :
    t = b.turn info (past.foldl markFault failed) t.slot t.before := by
  induction slots generalizing failed env past with
  | nil =>
      simp [Behavior.turns] at hsplit
  | cons slot others ih =>
      rw [Behavior.turns] at hsplit
      cases past with
      | nil =>
          obtain ⟨rfl, _⟩ := List.cons.inj hsplit
          obtain ⟨hslot, hbefore⟩ := slot_turn b info failed slot env
          rw [hslot, hbefore]
          rfl
      | cons u past =>
          obtain ⟨hu, hrest⟩ := List.cons.inj hsplit
          have := ih hrest
          rw [hu] at this
          exact this

theorem mem_foldl_markFault_iff
    (turns : List (Turn G)) (failed : List Handle) (h : Handle) :
    h ∈ turns.foldl markFault failed ↔
      h ∈ failed ∨ ∃ u ∈ turns, u.inst.handle = h ∧ u.failed = true := by
  induction turns generalizing failed with
  | nil =>
      simp
  | cons t rest ih =>
      have hmark : h ∈ markFault failed t ↔
          h ∈ failed ∨ (t.inst.handle = h ∧ t.failed = true) := by
        unfold markFault
        split
        · rename_i hfailed
          rw [List.mem_cons]
          constructor
          · rintro (rfl | hmem)
            · exact Or.inr ⟨rfl, hfailed⟩
            · exact Or.inl hmem
          · rintro (hmem | ⟨rfl, _⟩)
            · exact Or.inr hmem
            · exact Or.inl rfl
        · rename_i hfailed
          simp [hfailed]
      rw [List.foldl_cons, ih, hmark, or_assoc, List.exists_mem_cons_iff]

theorem turn_phase_cases
    (failed : List Handle) (p : StepPhase) (i : Instance G) (env : Environment G) :
    ((i.handle ∈ failed ∨ i.capabilities.has p.capability = false) ∧
        b.turn info failed (.phase p, i) env = ⟨.phase p, i, env, none, 0, env⟩) ∨
      (b.offers i.attachment.system env.memory p.capability = false ∧
        b.turn info failed (.phase p, i) env =
          ⟨.phase p, i, env, none, 0,
            env.report (.withdrawn i.handle i.name (.capability p.capability))⟩) ∨
      ∃ outcome left,
        i.handle ∉ failed ∧ i.capabilities.has p.capability = true ∧
        b.offers i.attachment.system env.memory p.capability = true ∧
        b.run (Instance.accessOf p) (b.phase p i.attachment.system info) env = (outcome, left) ∧
        b.turn info failed (.phase p, i) env =
          ⟨.phase p, i, env, some outcome.toExcept, 0,
            faultReported info (.phase p) i outcome.toExcept left⟩ := by
  by_cases hfailed : i.handle ∈ failed
  · exact Or.inl ⟨Or.inl hfailed, by simp [Behavior.turn, Behavior.phaseTurn, hfailed]⟩
  · by_cases hhas : i.capabilities.has p.capability = true
    · right
      by_cases hoffers : b.offers i.attachment.system env.memory p.capability = true
      · right
        rcases hanswer : b.run (Instance.accessOf p) (b.phase p i.attachment.system info) env
          with ⟨outcome, left⟩
        refine ⟨outcome, left, hfailed, hhas, hoffers, rfl, ?_⟩
        simp only [Behavior.turn, Behavior.phaseTurn, hfailed, if_false, Instance.runPhase, hhas,
          if_true, Instance.call, hoffers, hanswer]
        cases outcome.toExcept <;> rfl
      · left
        refine ⟨Bool.eq_false_iff.2 hoffers, ?_⟩
        simp [Behavior.turn, Behavior.phaseTurn, hfailed, Instance.runPhase, hhas, Instance.call,
          hoffers]
    · left
      refine ⟨Or.inr (Bool.eq_false_iff.2 hhas), ?_⟩
      simp [Behavior.turn, Behavior.phaseTurn, hfailed, Instance.runPhase, hhas]

theorem turn_queries (failed : List Handle) (i : Instance G) (env : Environment G) :
    ∃ delivery left n, QueryList.deliver b i.handle info env = (delivery, left) ∧
      b.turn info failed (.queries, i) env =
        ⟨.queries, i, env, some (resultOf delivery), n,
          faultReported info .queries i (resultOf delivery) left⟩ := by
  simp only [Behavior.turn, Behavior.deliveryTurn]
  rcases QueryList.deliver b i.handle info env with ⟨⟨n, _ | message⟩, left⟩
  · exact ⟨_, left, n, rfl, rfl⟩
  · exact ⟨_, left, 0, rfl, rfl⟩

theorem faithful_turn
    (failed : List Handle) (slot : Pass × Instance G) (env : Environment G) :
    (b.turn info failed slot env).Faithful b info := by
  obtain ⟨pass, i⟩ := slot
  cases pass with
  | queries =>
      obtain ⟨delivery, left, n, hanswer, hturn⟩ := turn_queries b info failed i env
      rw [hturn]
      exact ⟨left, ⟨delivery, hanswer, rfl⟩, rfl⟩
  | phase p =>
      rcases turn_phase_cases b info failed p i env with
        ⟨_, hturn⟩ | ⟨_, hturn⟩ | ⟨outcome, left, _, _, _, hanswer, hturn⟩
      · rw [hturn]
        exact rfl
      · rw [hturn]
        exact rfl
      · rw [hturn]
        exact ⟨left, ⟨outcome, hanswer, rfl⟩, rfl⟩

theorem called_turn
    (failed : List Handle) (slot : Pass × Instance G) (env : Environment G) :
    (b.turn info failed slot env).called = true ↔
      match slot.1 with
      | .queries => True
      | .phase p => slot.2.capabilities.has p.capability = true ∧
          b.offers slot.2.attachment.system env.memory p.capability = true ∧
          slot.2.handle ∉ failed := by
  obtain ⟨pass, i⟩ := slot
  cases pass with
  | queries =>
      obtain ⟨delivery, left, n, _, hturn⟩ := turn_queries b info failed i env
      rw [hturn]
      simp [Turn.called]
  | phase p =>
      rcases turn_phase_cases b info failed p i env with
        ⟨hidle, hturn⟩ | ⟨hoffers, hturn⟩ | ⟨outcome, left, hfailed, hhas, hoffers, _, hturn⟩
      · rw [hturn]
        rcases hidle with hfailed | hhas
        · simp [Turn.called, hfailed]
        · simp [Turn.called, hhas]
      · rw [hturn]
        simp [Turn.called, hoffers]
      · rw [hturn]
        simp [Turn.called, hfailed, hhas, hoffers]

/-- **An instance is called if and only if it is due.** -/
theorem called_iff_due
    {slots : List (Pass × Instance G)} {env : Environment G} {past rest : List (Turn G)}
    {t : Turn G} (hsplit : b.turns info [] slots env = past ++ t :: rest) :
    t.called = true ↔ t.Due b past := by
  have hcalled := called_turn b info (past.foldl markFault []) t.slot t.before
  rw [← eq_turn_of_split b info hsplit] at hcalled
  rw [hcalled, Turn.Due]
  cases hpass : t.pass with
  | queries =>
      simp [Turn.slot, hpass]
  | phase p =>
      simp [Turn.slot, hpass, mem_foldl_markFault_iff]

theorem grows_faultReported
    (info : StepInfo) (pass : Pass) (i : Instance G) (result : Except String Unit)
    (left : Environment G) : left.Grows (faultReported info pass i result left) := by
  cases result with
  | ok _ => exact Environment.Grows.refl left
  | error message => exact Environment.Grows.report left _

theorem grows_turn
    {env : Environment G} (halive : env.orphaned = false)
    (failed : List Handle) (slot : Pass × Instance G) :
    env.Grows (b.turn info failed slot env).after := by
  obtain ⟨pass, i⟩ := slot
  cases pass with
  | queries =>
      obtain ⟨delivery, left, n, hanswer, hturn⟩ := turn_queries b info failed i env
      have hdeliver := grows_deliver (b := b) halive i.handle info
      rw [hanswer] at hdeliver
      rw [hturn]
      exact hdeliver.trans (grows_faultReported info _ i _ left)
  | phase p =>
      rcases turn_phase_cases b info failed p i env with
        ⟨_, hturn⟩ | ⟨_, hturn⟩ | ⟨outcome, left, _, _, _, hanswer, hturn⟩
      · rw [hturn]
        exact Environment.Grows.refl env
      · rw [hturn]
        exact Environment.Grows.report env _
      · have hrun := grows_run (b := b) halive (Instance.accessOf p)
          (b.phase p i.attachment.system info)
        rw [hanswer] at hrun
        rw [hturn]
        exact hrun.trans (grows_faultReported info _ i _ left)

theorem grows_turns
    {env : Environment G} (halive : env.orphaned = false)
    (failed : List Handle) (slots : List (Pass × Instance G)) :
    env.Grows (lastOf Turn.after env (b.turns info failed slots env)) := by
  induction slots generalizing failed env with
  | nil =>
      exact Environment.Grows.refl env
  | cons slot rest ih =>
      have hturn := grows_turn b info halive failed slot
      exact hturn.trans (ih (hturn.alive halive) _)

theorem alive_before_turn
    {failed : List Handle} {slots : List (Pass × Instance G)} {env : Environment G}
    (halive : env.orphaned = false) {past rest : List (Turn G)} {t : Turn G}
    (hsplit : b.turns info failed slots env = past ++ t :: rest) :
    t.before.orphaned = false := by
  have hlinked := linked_turns b info failed slots env
  rw [hsplit] at hlinked
  refine hlinked.split.1.keep (I := fun e => e.orphaned = false) ?_ halive
  intro u hu hbefore
  obtain ⟨past', rest', hpast⟩ := List.append_of_mem hu
  have hsplit' : b.turns info failed slots env = past' ++ u :: (rest' ++ t :: rest) := by
    rw [hsplit, hpast, List.append_assoc, List.cons_append]
  rw [eq_turn_of_split b info hsplit']
  exact (grows_turn b info hbefore _ u.slot).alive hbefore

end Turns

section Worlds

variable (b : Behavior G)

/-- Without full use of the world nothing is written to it. -/
theorem worldLaw :
    RunLaw b fun spot env _ env' => spot.access ≠ .full → env'.world = env.world where
  refl := fun _ _ _ => rfl
  trans := fun h₁ h₂ haccess => (h₂ haccess).trans (h₁ haccess)
  request := by
    intro spot r env hr haccess
    obtain ⟨_, _, hafter⟩ := performAt_eq b spot r env hr
    rw [hafter]
    cases r with
    | write e kind value => exact if_neg haccess
    | _ => rfl
  emit := fun h => h
  ensure := fun _ _ _ _ => rfl
  tell := by
    intro spot signal env _
    cases signal <;> rfl
  report := fun _ _ _ _ => rfl
  turn := by
    intro spot key remaining id env L env' _ hturn _
    exact hturn (by simp [Spot.inside])

/-- **The last phase leaves the world as it is.** -/
theorem world_postUpdate
    (info : StepInfo) {env : Environment G} (halive : env.orphaned = false)
    (failed : List Handle) (i : Instance G) :
    (b.turn info failed (.phase .postUpdate, i) env).after.world = env.world := by
  have hrun := (worldLaw b).run (.top .readOnly)
    (b.phase .postUpdate i.attachment.system info) halive (by simp [Spot.top])
  rcases turn_phase_cases b info failed .postUpdate i env with
    ⟨_, hturn⟩ | ⟨_, hturn⟩ | ⟨outcome, left, _, _, _, hanswer, hturn⟩
  · rw [hturn]
  · rw [hturn]
    rfl
  · rw [← Behavior.run_eq_runAt, show b.run .readOnly _ env = _ from hanswer] at hrun
    rw [hturn]
    show (faultReported info _ i outcome.toExcept left).world = env.world
    cases outcome.toExcept <;> exact hrun

end Worlds

/-- The passes of a step do not look at which instances are degraded. -/
theorem passThrough_degraded
    (b : Behavior G) (degraded : Instance G → Bool) (instances : List (Instance G))
    (info : StepInfo) (env : Environment G) :
    Engine.passThrough b (instances.map fun i => { i with degraded := degraded i }) info env =
      Engine.passThrough b instances info env := by
  unfold Engine.passThrough
  simp only [List.foldl_map]
  rfl

end SimEngine
