import SimEngine.Proofs.HiddenSelections
import SimEngine.Proofs.Fleets
import SimEngine.Proofs.Pauses

/-!
# The order of launches

Plugins that accelerate different entities may be launched in any order.  The
systems of one order stand at other places than those of another, under other
handles and other numbers; but nobody else names those, in a step each of them
moves its own entity, and no two such moves get in each other's way.  So nothing
that a host or any other system sees depends on the order.

**Definitions.**
* `Accelerate.push`, `Accelerate.pushAll`: what accelerating systems do to a world.
* `Engine.Grounded`: an engine in which nothing is named that is still to come.
* `Engine.newcomers`: the handles and systems of the plugins that are launched next.
* `HiddenSelection.Accelerates`: an instance of an accelerating system that is inside.
* `Operation.IsMove`: a step, the setting of a parameter, or other code of a host.

**Results.**
* `Accelerate.pushAll_perm`: pushes of different entities commute.
* `blocksAlike_fleets`: two fleets come to the same in a step.
* `launches_in_any_order`: nothing else depends on the order of launches.
-/

namespace SimEngine

open Cast (behavior)

/-- What is kept under different names may be changed in either order. -/
theorem OrderedMap.modify_comm {κ β : Type} [OrderedKey κ] (m : OrderedMap κ β) {key key' : κ}
    (hne : key ≠ key') (f f' : β → β) :
    (m.modify key f).modify key' f' = (m.modify key' f').modify key f := by
  refine eq_of_find? fun other => ?_
  by_cases hother : other = key
  · rw [hother, find?_modify_of_ne _ hne, find?_modify_self, find?_modify_self,
      find?_modify_of_ne _ hne]
  · by_cases hother' : other = key'
    · rw [hother', find?_modify_self, find?_modify_of_ne _ hne.symm,
        find?_modify_of_ne _ hne.symm, find?_modify_self]
    · simp only [find?_modify_of_ne _ hother, find?_modify_of_ne _ hother']

/-- Different entities may be changed in either order. -/
theorem World.modifyEntity_comm {F : ComponentFamily} (w : World F) {e e' : Entity} (hne : e ≠ e')
    (f f' : ComponentMap F → ComponentMap F) :
    (w.modifyEntity e f).modifyEntity e' f' = (w.modifyEntity e' f').modifyEntity e f :=
  congrArg (World.mk w.allocator) (w.entities.modify_comm hne f f')

/-- A change of one entity leaves the data of all others. -/
theorem World.get?_modifyEntity_of_ne {F : ComponentFamily} (w : World F) {e other : Entity}
    (hne : other ≠ e) (f : ComponentMap F → ComponentMap F) (kind : F.Kind) :
    (w.modifyEntity e f).get? other kind = w.get? other kind := by
  rw [World.get?, World.get?, World.component?_modifyEntity, if_neg hne]

namespace Accelerate

/-- The gain of a system beside parameters. -/
def gainIn (s : Accelerate) (parameters : Parameters) : Float32 :=
  match s.gain with
  | none => 1.0
  | some name => gainOf (parameters.get? name)

/-- The velocity that a system brings its entity to in a step, if it does anything. -/
def pushed? (info : StepInfo) (parameters : Parameters) (world : Scene) (s : Accelerate) :
    Option Vector3 :=
  if info.paused || s.propulsion.isIdle then none
  else
    (world.get? s.entity DataKind.velocity).map fun velocity =>
      s.propulsion.apply (s.gainIn parameters) info.dt.toSeconds.toFloat32 velocity

/-- What an accelerating system does to a world in a step. -/
def push (info : StepInfo) (parameters : Parameters) (world : Scene) (s : Accelerate) : Scene :=
  match s.pushed? info parameters world with
  | none => world
  | some velocity =>
    world.modifyEntity s.entity (·.insert velocityType ⟨DataKind.velocity, velocity⟩)

/-- What a crew does to a world in a step. -/
def pushAll (info : StepInfo) (parameters : Parameters) (world : Scene)
    (crew : List Accelerate) : Scene :=
  crew.foldl (push info parameters) world

variable {info : StepInfo} {parameters : Parameters} {world : Scene} {s t : Accelerate}

/-- The push of one entity does not matter to that of another. -/
theorem pushed?_push_of_ne (hne : t.entity ≠ s.entity) :
    t.pushed? info parameters (s.push info parameters world) = t.pushed? info parameters world := by
  unfold push
  split
  · rfl
  · rw [pushed?, pushed?, world.get?_modifyEntity_of_ne hne]

/-- Two entities may be pushed in either order. -/
theorem push_comm (hne : s.entity ≠ t.entity) :
    t.push info parameters (s.push info parameters world) =
      s.push info parameters (t.push info parameters world) := by
  rw [push.eq_1 info parameters (s.push info parameters world), pushed?_push_of_ne hne.symm,
    push.eq_1 info parameters (t.push info parameters world), pushed?_push_of_ne hne, push, push]
  cases s.pushed? info parameters world with
  | none => rfl
  | some velocity =>
      cases t.pushed? info parameters world with
      | none => rfl
      | some velocity' => exact world.modifyEntity_comm hne _ _

/-- **Different entities may be pushed in any order.** -/
theorem pushAll_perm {crew crew' : List Accelerate} (hperm : crew.Perm crew')
    (hdistinct : (crew.map Accelerate.entity).Nodup) :
    pushAll info parameters world crew' = pushAll info parameters world crew := by
  refine (hperm.foldl_eq' (fun s hs t ht world => ?_) world).symm
  by_cases hsame : s.entity = t.entity
  · rw [List.inj_on_of_nodup_map hdistinct hs ht hsame]
  · exact push_comm hsame

end Accelerate

/-- **An accelerating system pushes its entity**, and does nothing else. -/
theorem run_update_push {env : Environment cast} (halive : env.orphaned = false) (s : Accelerate)
    (info : StepInfo) :
    behavior.run .full (s.update info) env =
      (.done (), { env with world := s.push info env.parameters env.world }) := by
  unfold Accelerate.update Accelerate.push Accelerate.pushed?
  split
  · rfl
  · refine (run_ask behavior .full (.read s.entity DataKind.velocity) _ halive).trans ?_
    show behavior.run .full (match env.world.get? s.entity DataKind.velocity with
      | none => _
      | some velocity => _) env = _
    cases hvelocity : env.world.get? s.entity DataKind.velocity with
    | none => rfl
    | some velocity =>
        have hgain : behavior.run .full s.currentGain env =
            (.done (s.gainIn env.parameters), env) := by
          unfold Accelerate.currentGain Accelerate.gainIn
          cases s.gain with
          | none => rfl
          | some name => exact run_ask behavior .full (.getParameter name) _ halive
        refine (run_bind_of_done hgain _).trans ?_
        have hset : ∀ faster : Vector3, env.write .full s.entity DataKind.velocity faster =
            (true, { env with
              world := env.world.modifyEntity s.entity
                (·.insert velocityType ⟨DataKind.velocity, faster⟩) }) := by
          intro faster
          simp only [Environment.write, World.set?, hvelocity]
          rfl
        refine (run_ask behavior .full (.write s.entity DataKind.velocity _) _ ?_).trans ?_
        · exact (congrArg (fun x => x.2.orphaned) (hset _)).trans halive
        · exact congrArg (fun x : Bool × Environment cast => (Outcome.done (), x.2)) (hset _)

namespace HiddenSelection

variable {N : HiddenSelection} {inside inside' : SystemId → Option Member}

/-- An instance of an accelerating system that is inside of a hidden selection. -/
structure Accelerates (N : HiddenSelection) (inside : SystemId → Option Member) (i : Instance cast)
    (s : Accelerate) : Prop where
  handle : N.handles i.handle
  system : N.systems i.attachment.system
  shown : i.capabilities = .ofList [.configure, .configureParameters, .phase .update]
  role : (inside i.attachment.system).map Member.role = some (.accelerate s)

theorem Accelerates.admitted {i : Instance cast} {s : Accelerate} (h : N.Accelerates inside i s) :
    N.Accelerates inside i.admitted s :=
  ⟨h.handle, h.system, h.shown, h.role⟩

/-- The instances of a block have handles that are inside. -/
theorem handles_of_accelerates {block : List (Instance cast)} {crew : List Accelerate}
    (haccelerates : List.Forall₂ (N.Accelerates inside) block crew) {i : Instance cast}
    (hi : i ∈ block) : N.handles i.handle := by
  induction haccelerates with
  | nil => exact absurd hi List.not_mem_nil
  | cons hman _ ih =>
      rcases List.mem_cons.1 hi with rfl | hi
      · exact hman.handle
      · exact ih hi

section BlockTurns

variable {p : StepProgress cast} {block : List (Instance cast)} {crew : List Accelerate}

/-- Nothing is delivered to a block in whose lists no queries wait. -/
theorem deliver_block (info : StepInfo)
    (hquiet : ∀ i ∈ block, (p.env.queryList i.handle).queries = []) :
    ∃ queries, block.foldl (StepProgress.deliverOne behavior info) p =
        { p with env := { p.env with queries := queries } } ∧
      ∀ list, ({ p.env with queries := queries } : Environment cast).queryList list =
        if list ∈ block.map Instance.handle then (p.env.queryList list).depart.settle []
        else p.env.queryList list := by
  induction block generalizing p with
  | nil => exact ⟨p.env.queries, rfl, fun list => rfl⟩
  | cons i rest ih =>
      let idle := (p.env.queryList i.handle).depart.settle []
      let next : Environment cast :=
        (p.env.setQueryList i.handle (p.env.queryList i.handle).depart).setQueryList i.handle idle
      have hnext : ∀ list, next.queryList list =
          if list = i.handle then idle else p.env.queryList list := by
        intro list
        simp only [next, queryList_setQueryList]
        split <;> rfl
      have hturn : StepProgress.deliverOne behavior info p i = { p with env := next } := by
        rw [StepProgress.deliverOne, deliver_of_quiet (hquiet i List.mem_cons_self)]
        rfl
      obtain ⟨queries, hrest, hlists⟩ := ih (p := { p with env := next }) (by
        intro j hj
        rw [hnext]
        split
        · rfl
        · exact hquiet j (List.mem_cons_of_mem i hj))
      refine ⟨queries, ?_, fun list => ?_⟩
      · rw [List.foldl_cons, hturn]
        exact hrest
      · refine (hlists list).trans ?_
        simp only [hnext, List.map_cons, List.mem_cons]
        by_cases hlist : list = i.handle
        · simp only [hlist, if_true, true_or]
          exact ite_self _
        · simp only [hlist, if_false, false_or]

/-- In a phase that the systems of a block do not have, nobody is called. -/
theorem call_block_idle (info : StepInfo)
    (haccelerates : List.Forall₂ (N.Accelerates inside) block crew) {phase : StepPhase}
    (hphase : phase ≠ .update) :
    block.foldl (StepProgress.callOne behavior info phase) p = p := by
  have hshown : (Capabilities.ofList [.configure, .configureParameters, .phase .update]).has
      phase.capability = false := by
    cases phase with
    | update => exact absurd rfl hphase
    | _ => rfl
  induction haccelerates with
  | nil => rfl
  | @cons i s rest crew hi _ ih =>
      have hturn : StepProgress.callOne behavior info phase p i = p := by
        rw [StepProgress.callOne, Instance.runPhase, hi.shown, hshown]
        exact ite_self _
      rw [List.foldl_cons, hturn, ih]

/-- The system of an instance that is inside is what it is inside. -/
theorem Accelerates.role? {i : Instance cast} {s : Accelerate} (hi : N.Accelerates inside i s)
    {m : Memory} (hinside : ∀ system, N.systems system → m.members.find? system = inside system) :
    m.role? i.attachment.system = some (.accelerate s) := by
  rw [Memory.role?, hinside _ hi.system, hi.role]

/-- **A block pushes its entities** in the phase in which systems update. -/
theorem call_block (info : StepInfo) (haccelerates : List.Forall₂ (N.Accelerates inside) block crew)
    (halive : p.env.orphaned = false)
    (hinside : ∀ system, N.systems system → p.env.memory.members.find? system = inside system)
    (hwell : ∀ handle ∈ p.faulted, ¬ N.handles handle) :
    block.foldl (StepProgress.callOne behavior info .update) p =
      { p with
        report := { p.report with phaseCalls := p.report.phaseCalls + crew.length }
        env := { p.env with
          world := Accelerate.pushAll info p.env.parameters p.env.world crew } } := by
  induction haccelerates generalizing p with
  | nil => rfl
  | @cons i s rest crew hi _ ih =>
      have hrole := hi.role? hinside
      have hwell' : i.handle ∉ p.faulted := fun hmem => hwell i.handle hmem hi.handle
      have hrun : behavior.run .full (behavior.phase .update i.attachment.system info) p.env =
          (.done (), { p.env with world := s.push info p.env.parameters p.env.world }) :=
        run_tending_of_none halive hrole
          ((run_bind_of_done (run_update_push halive s info) _).trans rfl)
      have hturn : StepProgress.callOne behavior info .update p i =
          { p with
            report := { p.report with phaseCalls := p.report.phaseCalls + 1 }
            env := { p.env with world := s.push info p.env.parameters p.env.world } } := by
        have hcall : i.call behavior (.phase .update) .full
            (behavior.phase .update i.attachment.system info) p.env = _ :=
          call_of_offered (offers_accelerate hrole (.phase .update))
        rw [hrun] at hcall
        have hphase : i.runPhase behavior .update info p.env = _ :=
          (if_pos (by rw [hi.shown]; rfl)).trans hcall
        rw [StepProgress.callOne, if_neg hwell', hphase]
      have hrest := ih (p := { p with
        report := { p.report with phaseCalls := p.report.phaseCalls + 1 }
        env := { p.env with world := s.push info p.env.parameters p.env.world } })
        halive hinside hwell
      rw [List.foldl_cons, hturn, hrest]
      simp only [List.length_cons, Nat.add_assoc, Nat.add_comm 1]
      rfl

/-- No query is registered for an instance that nobody names. -/
theorem quiet_of_accelerates {env env' : Environment cast}
    (h : (N.relation inside inside').Agree env env') {known : SystemId → Option Member}
    (haccelerates : List.Forall₂ (N.Accelerates known) block crew) :
    ∀ i ∈ block, (env.queryList i.handle).queries = [] := by
  intro i hi
  refine List.eq_nil_iff_forall_not_mem.2 fun q hq => ?_
  exact (h.asked i.handle q hq).1 (handles_of_accelerates haccelerates hi)

/-- **Two fleets come to the same in a step.** -/
theorem blocksAlike_fleets {block' : List (Instance cast)} {crew' : List Accelerate}
    (haccelerates : List.Forall₂ (N.Accelerates inside) block crew)
    (haccelerates' : List.Forall₂ (N.Accelerates inside') block' crew')
    (hhandles : block'.map Instance.handle = block.map Instance.handle)
    (hperm : crew.Perm crew') (hdistinct : (crew.map Accelerate.entity).Nodup)
    (info : StepInfo) : (N.relation inside inside').BlocksAlike behavior info block block' := by
  intro kind p p' h
  cases kind with
  | deliver =>
      have hquiet' : ∀ i ∈ block', (p'.env.queryList i.handle).queries = [] := by
        intro i hi
        rw [h.agree.lists]
        exact quiet_of_accelerates h.agree haccelerates' i hi
      obtain ⟨queries, hdelivered, hlists⟩ :=
        deliver_block info (quiet_of_accelerates h.agree haccelerates)
      obtain ⟨queries', hdelivered', hlists'⟩ := deliver_block info hquiet'
      show (N.relation inside inside').ProgressAlike
        (block.foldl (StepProgress.deliverOne behavior info) p)
        (block'.foldl (StepProgress.deliverOne behavior info) p')
      rw [hdelivered, hdelivered']
      refine ⟨h.faulted, h.report, { h.agree with
        lists := fun list => ?_
        asked := fun list q hq => ?_ }, h.named⟩
      · rw [hlists, hlists', hhandles, h.agree.lists]
      · rw [hlists] at hq
        split at hq
        · exact absurd hq List.not_mem_nil
        · exact h.agree.asked list q hq
  | call phase =>
      by_cases hphase : phase = .update
      · subst hphase
        have hcalled := call_block info (p := p) haccelerates h.agree.alive
          h.agree.memory.inside h.named
        have hcalled' := call_block info (p := p') haccelerates' h.agree.alive'
          h.agree.memory.inside' (h.faulted ▸ h.named)
        show (N.relation inside inside').ProgressAlike
          (block.foldl (StepProgress.callOne behavior info .update) p)
          (block'.foldl (StepProgress.callOne behavior info .update) p')
        -- Each fleet has pushed its entities; the pushes are the same ones in another order.
        rw [hcalled, hcalled']
        refine ⟨h.faulted, ?_, { h.agree with world := ?_ }, h.named⟩
        · rw [h.report, hperm.length_eq]
        · rw [h.agree.parameters, h.agree.world, Accelerate.pushAll_perm hperm hdistinct]
      · show (N.relation inside inside').ProgressAlike
          (block.foldl (StepProgress.callOne behavior info phase) p)
          (block'.foldl (StepProgress.callOne behavior info phase) p')
        rw [call_block_idle info haccelerates hphase, call_block_idle info haccelerates' hphase]
        exact h

end BlockTurns

end HiddenSelection

section Starts

/-- What is still to come of handles and systems. -/
def Engine.future (e : Engine cast) : Selection where
  handles := fun handle => e.env.nextHandle ≤ handle.number
  systems := fun system => e.env.memory.nextSystem ≤ system.number

/-- An engine in which nothing is named that is still to come. -/
structure Engine.Grounded (e : Engine cast) : Prop where
  alive : e.env.orphaned = false
  spares : e.future.Spares e

/-- The handles and systems of so many plugins that are launched next. -/
def Engine.newcomers (e : Engine cast) (count : Nat) : HiddenSelection where
  handles := fun handle =>
    e.env.nextHandle ≤ handle.number ∧ handle.number < e.env.nextHandle + count
  systems := fun system =>
    e.env.memory.nextSystem ≤ system.number ∧ system.number < e.env.memory.nextSystem + count
  first := e.env.nextHandle + count
  fresh := fun _ hfirst hinside => absurd hinside.2 (Nat.not_lt.2 hfirst)

variable {e : Engine cast} {specs specs' : List PluginSpec}

theorem Engine.within_newcomers (e : Engine cast) (count : Nat) :
    (e.newcomers count).Within e.future :=
  ⟨fun _ h => h.1, fun _ h => h.1⟩

theorem handles_fleet (e : Engine cast) (specs : List PluginSpec) (handle system : Nat) :
    (e.fleet specs handle system).map Instance.handle =
      (List.range' handle specs.length).map Handle.mk := by
  induction specs generalizing handle system with
  | nil => rfl
  | cons spec rest ih => exact congrArg (List.cons _) (ih (handle + 1) (system + 1))

/-- For whom the instances of a fleet are, and which of them are degraded. -/
theorem flags_fleet (e : Engine cast) (specs : List PluginSpec) (handle system : Nat) :
    (e.fleet specs handle system).map (fun i => (i.entity, i.degraded)) =
      specs.map fun spec => (spec.entity, spec.isFaulty e.env.world e.env.parameters) := by
  induction specs generalizing handle system with
  | nil => rfl
  | cons spec rest ih => exact congrArg (List.cons _) (ih (handle + 1) (system + 1))

/-- The instances of a fleet are inside of a selection that has their handles and systems. -/
theorem accelerates_fleet {N : HiddenSelection} {handle system : Nat}
    (hhandles : ∀ h : Handle, handle ≤ h.number → h.number < handle + specs.length → N.handles h)
    (hsystems : ∀ s : SystemId, system ≤ s.number → s.number < system + specs.length → N.systems s)
    {m : Memory} (hnext : m.nextSystem = system) :
    List.Forall₂ (N.Accelerates (m.enrollAll ((e.crew specs).map .accelerate)).members.find?)
      (e.fleet specs handle system) (e.crew specs) := by
  induction specs generalizing handle system m with
  | nil => exact .nil
  | cons spec rest ih =>
      rw [List.length_cons] at hhandles hsystems
      let role : Role := .accelerate (spec.engaged e.env.world e.env.parameters)
      have hnew : (⟨system⟩ : SystemId).number < (m.enroll role).2.nextSystem := by
        show system < m.nextSystem + 1
        omega
      have hself : ((m.enroll role).2.enrollAll ((e.crew rest).map .accelerate)).members.find?
          ⟨system⟩ = some ⟨role, 1⟩ := by
        rw [(m.enroll role).2.find?_enrollAll_of_outside _ (.inl hnew), ← hnext]
        exact OrderedMap.find?_insert_self _ _ _
      refine .cons ?_ (ih (fun h hfirst hlast => hhandles h (by omega) (by omega))
        (fun s hfirst hlast => hsystems s (by omega) (by omega)) (congrArg (· + 1) hnext))
      exact
        { handle := hhandles ⟨handle⟩ (Nat.le_refl _) (Nat.lt_add_of_pos_right (Nat.succ_pos _))
          system := hsystems ⟨system⟩ (Nat.le_refl _) (Nat.lt_add_of_pos_right (Nat.succ_pos _))
          shown := rfl
          role := congrArg (Option.map Member.role) hself }

/-- What is remembered when the systems of plugins are remembered in a row. -/
def Engine.enrolled (e : Engine cast) (specs : List PluginSpec) : Memory :=
  e.env.memory.enrollAll ((e.crew specs).map .accelerate)

theorem length_crew (e : Engine cast) (specs : List PluginSpec) :
    ((e.crew specs).map Role.accelerate).length = specs.length := by
  simp [Engine.crew]

theorem enrolled_rest (e : Engine cast) (specs : List PluginSpec) :
    ∃ members, e.enrolled specs =
      { e.env.memory with
        members := members
        nextSystem := e.env.memory.nextSystem + specs.length } := by
  obtain ⟨members, hmembers⟩ := e.env.memory.enrollAll_rest ((e.crew specs).map .accelerate)
  rw [length_crew] at hmembers
  exact ⟨members, hmembers⟩

/-- The instances of a fleet are newcomers. -/
theorem accelerates_newcomers {count : Nat} (hlength : specs.length = count) :
    List.Forall₂ ((e.newcomers count).Accelerates (e.enrolled specs).members.find?)
      (e.fleet specs e.env.nextHandle e.env.memory.nextSystem) (e.crew specs) := by
  subst hlength
  exact accelerates_fleet (N := e.newcomers specs.length) (fun _ hfirst hlast => ⟨hfirst, hlast⟩)
    (fun _ hfirst hlast => ⟨hfirst, hlast⟩) rfl

/-- Whatever is not new is remembered as before. -/
theorem find?_enrolled_of_outside {count : Nat} (hlength : specs.length = count) {system : SystemId}
    (hsystem : ¬ (e.newcomers count).systems system) :
    (e.enrolled specs).members.find? system = e.env.memory.members.find? system := by
  refine e.env.memory.find?_enrollAll_of_outside _ ?_
  rw [length_crew, hlength]
  by_cases hfirst : system.number < e.env.memory.nextSystem
  · exact .inl hfirst
  · exact .inr (Nat.le_of_not_lt fun hlast => hsystem ⟨Nat.le_of_not_lt hfirst, hlast⟩)

theorem Selection.Unnamed.enrollAll {N : Selection} {m : Memory} (h : N.Unnamed m)
    (crew : List Accelerate) :
    N.Unnamed (m.enrollAll (crew.map .accelerate)) := by
  induction crew generalizing m with
  | nil => exact h
  | cons s rest ih => exact ih (h.enroll (show N.SparesRole (.accelerate s) from trivial))

/-- Two crews of the same size are remembered alike, but for what is inside. -/
theorem sameOutside_enrolled (h : e.Grounded) (hlength : specs'.length = specs.length) :
    (e.newcomers specs.length).SameOutside (e.enrolled specs).members.find?
      (e.enrolled specs').members.find? (e.enrolled specs) (e.enrolled specs') := by
  have hunnamed := (e.within_newcomers specs.length).unnamed h.spares.memory
  obtain ⟨members, hmembers⟩ := enrolled_rest e specs
  obtain ⟨members', hmembers'⟩ := enrolled_rest e specs'
  exact
    { unnamed := hunnamed.enrollAll _
      unnamed' := hunnamed.enrollAll _
      rest := ⟨members', by rw [hmembers, hmembers', hlength]⟩
      outside := fun system hsystem =>
        (find?_enrolled_of_outside hlength hsystem).trans
          (find?_enrolled_of_outside rfl hsystem).symm
      inside := fun _ _ => rfl
      inside' := fun _ _ => rfl
      used := by
        intro system hused hinside
        rw [hmembers] at hused
        exact absurd hinside.2 (Nat.not_lt.2 hused) }

/-- New lists of queries are empty. -/
theorem queries_of_new {queries : OrderedMap Handle (QueryList Callback)} {numbers : List Nat}
    {list : Handle} {q : PendingQuery Callback}
    (hq : q ∈ (((numbers.foldl (fun queries number => queries.insert ⟨number⟩ .empty)
      queries).find? list).getD .empty).queries) :
    q ∈ ((queries.find? list).getD .empty).queries := by
  induction numbers generalizing queries with
  | nil => exact hq
  | cons number rest ih =>
      have hnext := ih hq
      by_cases hlist : list = ⟨number⟩
      · rw [hlist, OrderedMap.find?_insert_self] at hnext
        exact absurd hnext List.not_mem_nil
      · rwa [OrderedMap.find?_insert_of_ne _ hlist] at hnext

/-- **Plugins that are launched in two orders leave engines that are parallel.** -/
theorem parallel_launched (h : e.Grounded) (hperm : specs.Perm specs')
    (journal journal' : List Notice) :
    ((e.newcomers specs.length).relation (e.enrolled specs).members.find?
      (e.enrolled specs').members.find?).Parallel [] []
        (e.fleet specs e.env.nextHandle e.env.memory.nextSystem)
        (e.fleet specs' e.env.nextHandle e.env.memory.nextSystem)
        (e.launchedAll specs journal) (e.launchedAll specs' journal') := by
  have hlength : specs'.length = specs.length := hperm.length_eq.symm
  have hspares := (e.within_newcomers specs.length).spares h.spares
  have hkeeps : ∀ i ∈ e.scheduler.all, ((e.newcomers specs.length).relation
      (e.enrolled specs).members.find? (e.enrolled specs').members.find?).Keeps i :=
    hspares.instances
  refine ⟨⟨.of_forall fun i hi => hkeeps i (List.mem_append_left _ hi), ?_⟩, ?_⟩
  · exact ⟨e.scheduler.pending, [], by simp [Engine.launchedAll], by simp [Engine.launchedAll],
      fun i hi => hkeeps i (List.mem_append_right _ hi), fun _ hi => absurd hi List.not_mem_nil⟩
  · exact
      { world := rfl
        parameters := e.env.parameters.declareAll_perm hperm
        channels := rfl
        lists := fun list => by simp only [Engine.launchedAll, Environment.queryList, hlength]
        requests := rfl
        alive := h.alive
        orphaned := rfl
        loader := e.env.loader.countAll_perm hperm
        loop := rfl
        nextHandle := congrArg (e.env.nextHandle + ·) hlength
        memory := sameOutside_enrolled h hlength
        heard := hspares.heard
        asked := fun list q hq => hspares.asked list q (queries_of_new hq)
        queued := fun c hc => by
          have hspared := hspares.commands c hc
          cases c with
          | attach handle attachment entity config => exact hspared
          | detach handle => exact hspared
        first := Nat.le_refl _ }

end Starts

section Moves

/-- What the host does after it has launched plugins: steps, new parameters, and code of its own. -/
inductive Operation.IsMove : Operation cast → Prop
  | step (info : StepInfo) : IsMove (.step info)
  | set (access : Access) (name : String) (value : Convertible) :
      IsMove (.run access (Program.setParameter name value))
  | host (access : Access) {s : Scope} (hlink : s.reach.link = none) (hsystem : s.system = none)
      (actions : List Action) : IsMove (.run access (performAll s actions))

variable {N : HiddenSelection} {inside inside' : SystemId → Option Member}
  {block block' : List (Instance cast)} {crew crew' : List Accelerate} {e e' : Engine cast}

/-- Two engines are parallel, whether or not their blocks take part in steps already. -/
def HiddenSelection.Parallel (N : HiddenSelection) (inside inside' : SystemId → Option Member)
    (block block' : List (Instance cast)) (e e' : Engine cast) : Prop :=
  (N.relation inside inside').Parallel [] [] block block' e e' ∨
    (N.relation inside inside').Parallel (block.map Instance.admitted)
      (block'.map Instance.admitted) [] [] e e'

/-- Two blocks come to the same, and are inside. -/
structure HiddenSelection.Matches (N : HiddenSelection) (inside inside' : SystemId → Option Member)
    (block block' : List (Instance cast)) (crew crew' : List Accelerate) : Prop where
  accelerates : List.Forall₂ (N.Accelerates inside) block crew
  accelerates' : List.Forall₂ (N.Accelerates inside') block' crew'
  handles : block'.map Instance.handle = block.map Instance.handle
  perm : crew.Perm crew'
  distinct : (crew.map Accelerate.entity).Nodup

namespace HiddenSelection

theorem Matches.admitted (h : N.Matches inside inside' block block' crew crew') :
    N.Matches inside inside' (block.map Instance.admitted) (block'.map Instance.admitted) crew
      crew' :=
  { h with
    accelerates := List.forall₂_map_left_iff.2 (h.accelerates.imp fun _ _ => Accelerates.admitted)
    accelerates' := List.forall₂_map_left_iff.2 (h.accelerates'.imp fun _ _ => Accelerates.admitted)
    handles := by
      rw [List.map_map, List.map_map]
      exact h.handles }

theorem hides_of_accelerates (haccelerates : List.Forall₂ (N.Accelerates inside) block crew)
    (outer outer' : SystemId → Option Member) : (N.relation outer outer').Hides block :=
  fun _ hi houtside => houtside (handles_of_accelerates haccelerates hi)

/-- **A step is the same** for two blocks that come to the same. -/
theorem Parallel.step (h : N.Parallel inside inside' block block' e e')
    (hmatch : N.Matches inside inside' block block' crew crew') (info : StepInfo) :
    (e'.runStep behavior info).1 = (e.runStep behavior info).1 ∧
      (N.relation inside inside').Parallel (block.map Instance.admitted)
        (block'.map Instance.admitted) [] [] (e.runStep behavior info).2
        (e'.runStep behavior info).2 := by
  have hcalls := N.callsAlike inside inside'
  have hadmitted := hmatch.admitted
  have hblocks := blocksAlike_fleets hadmitted.accelerates hadmitted.accelerates'
    hadmitted.handles hadmitted.perm hadmitted.distinct info
  refine hcalls.runStep ?_ hblocks
  rcases h with hwaiting | hacting
  · exact hcalls.beginStep_waiting hwaiting (hides_of_accelerates hmatch.accelerates _ _)
      (hides_of_accelerates hmatch.accelerates' _ _)
  · exact hcalls.beginStep_acting hacting (hides_of_accelerates hadmitted.accelerates _ _)
      (hides_of_accelerates hadmitted.accelerates' _ _)

theorem Parallel.run (h : N.Parallel inside inside' block block' e e') {p : Deed Unit}
    (hp : N.Discreet inside inside' p) (access : Access) :
    N.Parallel inside inside' block block' (e.operate behavior (.run access p))
      (e'.operate behavior (.run access p)) := by
  have hrun : ∀ {acting acting' waiting waiting'},
      (N.relation inside inside').Parallel acting acting' waiting waiting' e e' →
        (N.relation inside inside').Parallel acting acting' waiting waiting'
          (e.operate behavior (.run access p)) (e'.operate behavior (.run access p)) :=
    fun h =>
      ⟨h.schedulers, (MemoryRelation.run_alike (N.callsAlike inside inside').onSignal hp access
        h.agree).agree⟩
  exact h.imp hrun hrun

/-- What a host does next, engines stay alike. -/
theorem Parallel.move (h : N.Parallel inside inside' block block' e e')
    (hmatch : N.Matches inside inside' block block' crew crew') {move : Operation cast}
    (hmove : move.IsMove) :
    N.Parallel inside inside' block block' (e.operate behavior move)
      (e'.operate behavior move) := by
  cases hmove with
  | step info => exact .inr (h.step hmatch info).2
  | set access name value =>
      let request : Request cast := .setParameter name value
      exact h.run (.ask (r := request) trivial fun _ _ => .ofExcept fun _ _ => trivial) access
  | host access hlink hsystem actions =>
      refine h.run (discreet_performAll ⟨fun link hreach => ?_, fun system hscope => ?_⟩ _) access
      · rw [hlink] at hreach
        cases hreach
      · rw [hsystem] at hscope
        cases hscope

theorem Parallel.moves (h : N.Parallel inside inside' block block' e e')
    (hmatch : N.Matches inside inside' block block' crew crew') {moves : List (Operation cast)}
    (hmoves : ∀ move ∈ moves, move.IsMove) :
    N.Parallel inside inside' block block' (e.operateAll behavior moves)
      (e'.operateAll behavior moves) := by
  induction moves generalizing e e' with
  | nil => exact h
  | cons move rest ih =>
      exact ih (h.move hmatch (hmoves move List.mem_cons_self))
        fun next hnext => hmoves next (List.mem_cons_of_mem move hnext)

/-- The instances that are inside are the blocks. -/
theorem filter_sameButBlock {list list' : List (Instance cast)}
    (h : (N.relation inside inside').SameButBlock block block' list list')
    {isInside : Instance cast → Bool}
    (hinside : ∀ i, isInside i = true ↔ N.handles i.handle)
    (hblock : ∀ i ∈ block, N.handles i.handle) (hblock' : ∀ i ∈ block', N.handles i.handle) :
    list.filter isInside = block ∧ list'.filter isInside = block' := by
  obtain ⟨front, back, rfl, rfl, hfront, hback⟩ := h
  have houtside : ∀ {keepers : List (Instance cast)},
      (∀ i ∈ keepers, (N.relation inside inside').Keeps i) → keepers.filter isInside = [] :=
    fun hkeep => List.filter_eq_nil_iff.2 fun i hi hisInside =>
      (hkeep i hi).1 ((hinside i).1 hisInside)
  have hall : ∀ {block : List (Instance cast)}, (∀ i ∈ block, N.handles i.handle) →
      block.filter isInside = block := fun hblock =>
    List.filter_eq_self.2 fun i hi => (hinside i).2 (hblock i hi)
  simp only [List.filter_append, houtside hfront, houtside hback, hall hblock, hall hblock',
    List.nil_append, List.append_nil, and_self]

/-- What is told of the instances that are inside does not depend on whether they were admitted. -/
theorem Parallel.told (h : N.Parallel inside inside' block block' e e')
    (hmatch : N.Matches inside inside' block block' crew crew') {isInside : Instance cast → Bool}
    (hinside : ∀ i, isInside i = true ↔ N.handles i.handle) {β : Type} (tell : Instance cast → β)
    (htell : ∀ i, tell i.admitted = tell i) :
    (e.scheduler.all.filter isInside).map tell = block.map tell ∧
      (e'.scheduler.all.filter isInside).map tell = block'.map tell := by
  have hadmitted := hmatch.admitted
  have htold : ∀ block : List (Instance cast),
      (block.map Instance.admitted).map tell = block.map tell := by
    intro block
    rw [List.map_map]
    exact List.map_congr_left fun i _ => htell i
  rcases h with h | h
  · obtain ⟨hinstances, hinstances'⟩ := filter_sameButBlock h.schedulers.instances hinside
      (fun _ hi => absurd hi List.not_mem_nil) fun _ hi => absurd hi List.not_mem_nil
    obtain ⟨hpending, hpending'⟩ := filter_sameButBlock h.schedulers.pending hinside
      (fun _ => handles_of_accelerates hmatch.accelerates) fun _ =>
        handles_of_accelerates hmatch.accelerates'
    simp only [Scheduler.all, List.filter_append, hinstances, hinstances', hpending, hpending',
      List.nil_append, and_self]
  · obtain ⟨hinstances, hinstances'⟩ := filter_sameButBlock h.schedulers.instances hinside
      (fun _ => handles_of_accelerates hadmitted.accelerates) fun _ =>
        handles_of_accelerates hadmitted.accelerates'
    obtain ⟨hpending, hpending'⟩ := filter_sameButBlock h.schedulers.pending hinside
      (fun _ hi => absurd hi List.not_mem_nil) fun _ hi => absurd hi List.not_mem_nil
    simp only [Scheduler.all, List.filter_append, hinstances, hinstances', hpending, hpending',
      List.append_nil, htold, and_self]

end HiddenSelection

end Moves

/-- Entities and degradation of the instances whose handles are so many from a number on. -/
def Engine.flagsFrom (e : Engine cast) (first count : Nat) : List (Entity × Bool) :=
  (e.scheduler.all.filter fun i =>
    first ≤ i.handle.number ∧ i.handle.number < first + count).map fun i => (i.entity, i.degraded)

/--
**Launches in any order.**  Take any engine in which nothing is named that is still to come,
whatever systems there are, and accelerating plugins for different entities.  Launch them in one
order, or in another, and go on with the same steps, parameters set by the host, and other code of
the host.  Then the worlds are equal, the parameters are equal, and so is what the next step
reports.  Each of the plugins is degraded in both if it cannot be configured for its entity or if
the gain of the entity was declared before, and stays so.
-/
theorem launches_in_any_order {e : Engine cast} (h : e.Grounded) {specs specs' : List PluginSpec}
    (hfactories : ∀ spec ∈ specs,
      e.env.loader.factories.find? spec.name = some (.builtin .accelerate))
    (hdistinct : (specs.map PluginSpec.entity).Nodup) (hperm : specs.Perm specs')
    {moves : List (Operation cast)} (hmoves : ∀ move ∈ moves, move.IsMove) :
    let left := (e.launchAll specs).operateAll behavior moves
    let left' := (e.launchAll specs').operateAll behavior moves
    let flag (spec : PluginSpec) := (spec.entity, spec.isFaulty e.env.world e.env.parameters)
    left'.env.world = left.env.world ∧ left'.env.parameters = left.env.parameters ∧
    (∀ info, (left'.runStep behavior info).1 = (left.runStep behavior info).1) ∧
    left.flagsFrom e.env.nextHandle specs.length = specs.map flag ∧
    left'.flagsFrom e.env.nextHandle specs'.length = specs'.map flag := by
  intro left left' flag
  have hlength : specs'.length = specs.length := hperm.length_eq.symm
  obtain ⟨journal, hlaunched⟩ := launchAll_eq h.alive hfactories hdistinct
  obtain ⟨journal', hlaunched'⟩ := launchAll_eq h.alive
    (fun spec hspec => hfactories spec (hperm.mem_iff.2 hspec))
    ((hperm.map PluginSpec.entity).nodup_iff.1 hdistinct)
  have hentities : (e.crew specs).map Accelerate.entity = specs.map PluginSpec.entity := by
    rw [Engine.crew, List.map_map]
    exact List.map_congr_left fun spec _ => spec.entity_engaged _ _
  have hmatch : (e.newcomers specs.length).Matches (e.enrolled specs).members.find?
      (e.enrolled specs').members.find? (e.fleet specs e.env.nextHandle e.env.memory.nextSystem)
      (e.fleet specs' e.env.nextHandle e.env.memory.nextSystem) (e.crew specs) (e.crew specs') :=
    { accelerates := accelerates_newcomers rfl
      accelerates' := accelerates_newcomers hlength
      handles := by rw [handles_fleet, handles_fleet, hlength]
      perm := hperm.map _
      distinct := hentities ▸ hdistinct }
  -- Right after the launches the two engines are alike but for the newcomers, and stay so.
  have hstart := parallel_launched h hperm journal journal'
  rw [← hlaunched, ← hlaunched'] at hstart
  have hparallel := HiddenSelection.Parallel.moves (.inl hstart) hmatch hmoves
  have hagree : ((e.newcomers specs.length).relation _ _).Agree left.env left'.env :=
    hparallel.elim (fun h => h.agree) fun h => h.agree
  have hinside : ∀ i : Instance cast, decide (e.env.nextHandle ≤ i.handle.number ∧
      i.handle.number < e.env.nextHandle + specs.length) = true ↔
        (e.newcomers specs.length).handles i.handle := fun _ => decide_eq_true_iff
  obtain ⟨hflags, hflags'⟩ :=
    hparallel.told hmatch hinside (fun i => (i.entity, i.degraded)) fun _ => rfl
  refine ⟨hagree.world, hagree.parameters, fun info => (hparallel.step hmatch info).1, ?_, ?_⟩
  · exact hflags.trans (flags_fleet e specs _ _)
  · rw [hlength]
    exact hflags'.trans (flags_fleet e specs' _ _)

namespace Cast

/-- Plugins for two entities, for one of which another plugin was launched before. -/
def latecomers : List PluginSpec :=
  [thruster ⟨2⟩, thruster ⟨1⟩]

/-- A step, a new gain, a paused step, and a step that follows. -/
def laterMoves : List (Operation cast) :=
  [.step (.first .sixtieth),
    .run .none (Program.setParameter (Accelerate.gainName ⟨2⟩) (.ok (.ofNat 3))),
    .step { StepInfo.first .sixtieth with paused := true }, .step (.first .sixtieth)]

theorem grounded_pushing : pushing.Grounded := by
  have hstaffed := reached_pushing.staffed
  have hchannels : pushing.env.channels = ∅ := rfl
  have hshared : pushing.env.memory.shared = ∅ := rfl
  have hinstances : ∀ i ∈ pushing.scheduler.all, ¬ pushing.env.nextHandle ≤ i.handle.number ∧
      ¬ pushing.env.memory.nextSystem ≤ i.attachment.system.number := by decide +kernel
  have hcommands : ∃ attachment config,
      pushing.env.commands = [.attach ⟨2⟩ attachment ⟨9⟩ config] ∧ attachment.system = ⟨1⟩ :=
    ⟨_, _, rfl, rfl⟩
  have hknown : ∀ handle ∈ pushing.env.memory.known, ¬ pushing.env.nextHandle ≤ handle.number := by
    decide +kernel
  have hnext : pushing.env.nextHandle = 3 ∧ pushing.env.memory.nextSystem = 2 := by decide +kernel
  refine ⟨hstaffed.civil.alive, hinstances, ?_, fun key s hs callback hcallback => ?_,
    fun list q hq => ?_, ?_, hknown, fun label system hlabel => ?_⟩
  · obtain ⟨attachment, config, hqueued, hsystem⟩ := hcommands
    intro c hc
    rw [hqueued] at hc
    rw [List.mem_singleton.1 hc]
    show ¬ pushing.env.nextHandle ≤ 2 ∧ ¬ pushing.env.memory.nextSystem ≤ attachment.system.number
    rw [hnext.1, hnext.2, hsystem]
    decide
  · rw [hchannels] at hs
    exact absurd hs List.not_mem_nil
  · rw [hstaffed.civil.quiet] at hq
    exact absurd hq List.not_mem_nil
  · intro system member hmember
    have hbuiltin := (hstaffed.civil.builtin system member.role
      (congrArg (Option.map Member.role) hmember)).1
    cases hrole : member.role with
    | scripted s =>
        rw [hrole] at hbuiltin
        exact hbuiltin.elim
    | _ => trivial
  · rw [hshared] at hlabel
    cases hlabel

end Cast

theorem launches_in_any_order_pushing :
    Cast.pushing.Grounded ∧ (Cast.latecomers.map PluginSpec.entity).Nodup ∧
    let left := (Cast.pushing.launchAll Cast.latecomers).operateAll behavior Cast.laterMoves
    let left' :=
      (Cast.pushing.launchAll Cast.latecomers.reverse).operateAll behavior Cast.laterMoves
    left'.env.world = left.env.world ∧ left'.env.parameters = left.env.parameters ∧
    (∀ info, (left'.runStep behavior info).1 = (left.runStep behavior info).1) ∧
    left.flagsFrom 3 2 = [(⟨2⟩, false), (⟨1⟩, true)] ∧
    left'.flagsFrom 3 2 = [(⟨1⟩, true), (⟨2⟩, false)] := by
  have hfactories : ∀ spec ∈ Cast.latecomers,
      Cast.pushing.env.loader.factories.find? spec.name = some (.builtin .accelerate) := by
    intro spec hspec
    rcases List.mem_cons.1 hspec with rfl | hspec
    · rfl
    · exact List.mem_singleton.1 hspec ▸ rfl
  have hdistinct : (Cast.latecomers.map PluginSpec.entity).Nodup := by decide
  have hmoves : ∀ move ∈ Cast.laterMoves, move.IsMove := by
    intro move hmove
    rcases List.mem_cons.1 hmove with rfl | hmove
    · exact .step _
    rcases List.mem_cons.1 hmove with rfl | hmove
    · exact .set _ _ _
    rcases List.mem_cons.1 hmove with rfl | hmove
    · exact .step _
    · exact List.mem_singleton.1 hmove ▸ .step _
  obtain ⟨hworld, hparameters, hreports, hflags, hflags'⟩ := launches_in_any_order
    Cast.grounded_pushing hfactories hdistinct Cast.latecomers.reverse_perm.symm hmoves
  have hnext : Cast.pushing.env.nextHandle = 3 := by decide +kernel
  have hleft : Cast.latecomers.map (fun spec => (spec.entity, spec.isFaulty Cast.pushing.env.world
      Cast.pushing.env.parameters)) = [(⟨2⟩, false), (⟨1⟩, true)] := by decide +kernel
  refine ⟨Cast.grounded_pushing, hdistinct, hworld, hparameters, hreports, ?_, ?_⟩
  · rw [hnext] at hflags
    exact hflags.trans hleft
  · rw [hnext] at hflags'
    refine hflags'.trans ?_
    rw [List.map_reverse, hleft]
    rfl

end SimEngine
