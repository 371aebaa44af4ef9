import SimEngine.Engine.TickLoop
import SimEngine.Proofs.Batches
import SimEngine.Proofs.Signals

/-!
# Courses of loops

Between the ticks of a loop the host pauses it and does as it likes with the
engine beside it, and at each of these operations guest code may run and notify
the loop.  The marks of a course tell the ticks, the host's pauses and the
notifications that begin, in the order in which they come; all that the loop is
told can be read off them.

**Definitions.**
* `LoopOperation`, `TickLoop.operateAll`: what a host does with a loop.
* `TickLoop.momentsOf`, `TickLoop.log`: the acts of an operation, and the
  requests that guest code makes in a course.
* `Mark`, `TickLoop.marks`: what bears on the flags of the loop.
* `Engine.Unattended`: an engine that no loop drives yet.
* `TickLoop.Listens`: the loop hears what it is told.

**Results.**
* `listens_operateAll`: a loop that nothing hinders listens on, and its flags are
  those that the marks of its course come to.
-/

namespace SimEngine

variable {G : Guest}

/-- What a host does with a loop. -/
inductive LoopOperation (G : Guest) where
  | tick
  | setPaused (paused : Bool)
  /-- The host does something with the engine between two ticks. -/
  | host (operation : Operation G)

/-- An operation that leaves channels and flags to those who are notified. -/
def Operation.beside (env : Environment G) : Operation G → Operation G
  | .arrange a => .arrange { a with channels := env.channels, loop := env.loop }
  | operation => operation

/-- What bears on the flags of a loop. -/
inductive Mark where
  | tick
  | setPaused (paused : Bool)
  /-- A notification begins. -/
  | signal (signal : Signal)

/-- The flags after a mark: a tick takes up the plugins that were asked for. -/
def LoopFlags.mark (flags : LoopFlags) : Mark → LoopFlags
  | .tick => { flags with loadRequests := [] }
  | .setPaused paused => { flags with paused := paused }
  | .signal signal => flags.tell signal

namespace TickLoop

variable (b : Behavior G)

/-- The engine of a tick that has taken up what it was asked to load. -/
def takeRequests (e : Engine G) : Engine G :=
  { e with env := { e.env with loop := { e.env.loop with loadRequests := [] } } }

/-- The moments at which plugins are loaded and attached on request. -/
def loadMoments : Engine G → List PluginSpec → List (Moment G)
  | _, [] => []
  | e, spec :: rest =>
    e.momentsOf b (.loadAndAttach spec) ++ loadMoments (loadOne b e spec) rest

/-- The loop after an operation; a tick that cannot be made leaves it as it is. -/
def operate (t : TickLoop G) : LoopOperation G → TickLoop G
  | .tick =>
    match t.tick b with
    | .ok (_, t) => t
    | .error _ => t
  | .setPaused paused => t.setPaused paused
  | .host operation => { t with engine := t.engine.operate b (operation.beside t.env) }

/-- The loop after operations. -/
def operateAll (t : TickLoop G) (operations : List (LoopOperation G)) : TickLoop G :=
  operations.foldl (operate b) t

/-- The moments of an operation. -/
def momentsOf (t : TickLoop G) : LoopOperation G → List (Moment G)
  | .tick =>
    match t.nextInfo with
    | .ok info =>
      loadMoments b (takeRequests t.engine) t.env.loop.loadRequests
        ++ (loadRequested b t.engine).momentsOf b (.step info)
    | .error _ => []
  | .setPaused _ => []
  | .host operation => t.engine.momentsOf b (operation.beside t.env)

/-- The moments of operations. -/
def history (t : TickLoop G) : List (LoopOperation G) → List (Moment G)
  | [] => []
  | operation :: rest => t.momentsOf b operation ++ (t.operate b operation).history rest

/-- The requests that guest code makes in operations. -/
def log (t : TickLoop G) (operations : List (LoopOperation G)) : List (Occurrence G) :=
  (t.history b operations).flatMap (Moment.log b)

/-- The marks of the notifications that begin in moments. -/
def signalMarks (moments : List (Moment G)) : List Mark :=
  (signalsOf (moments.flatMap (Moment.log b))).map .signal

/-- The marks of an operation; a tick that cannot be made has none. -/
def marksOf (t : TickLoop G) (operation : LoopOperation G) : List Mark :=
  match operation with
  | .tick =>
    match t.nextInfo with
    | .ok _ => .tick :: signalMarks b (t.momentsOf b .tick)
    | .error _ => []
  | .setPaused paused => [.setPaused paused]
  | .host operation => signalMarks b (t.momentsOf b (.host operation))

/-- The marks of operations. -/
def marks (t : TickLoop G) : List (LoopOperation G) → List Mark
  | [] => []
  | operation :: rest => t.marksOf b operation ++ (t.operate b operation).marks rest

/-- The loop is subscribed to its events at an engine that is alive. -/
structure Listens (t : TickLoop G) : Prop where
  alive : t.env.orphaned = false
  attentive : Attentive t.subscriptions t.env.channels

end TickLoop

/-- The engine is alive, its channels are in order, and no loop listens to them. -/
structure Engine.Unattended (e : Engine G) : Prop where
  alive : e.env.orphaned = false
  orderly : ∀ key, (e.env.channels.get key).Orderly
  unheard : ∀ key, (e.env.channels.get key).loopIds = []

/-- A sixtieth of a second, to the nanosecond. -/
def Duration.sixtieth : Duration := ⟨16666667, by decide⟩

theorem TickConfig.stepDuration?_default :
    TickConfig.default.stepDuration? = some .sixtieth := by
  decide +kernel

/-- No loop drives an engine in which nothing has happened. -/
theorem Engine.Unattended.fresh (memory : G.Memory) : (Engine.fresh memory).Unattended where
  alive := rfl
  orderly := fun _ => Channel.Orderly.empty
  unheard := fun _ => rfl

namespace TickLoop

variable {b : Behavior G}

theorem operateAll_append (t : TickLoop G) (first second : List (LoopOperation G)) :
    t.operateAll b (first ++ second) = (t.operateAll b first).operateAll b second :=
  List.foldl_append

theorem history_append (t : TickLoop G) (first second : List (LoopOperation G)) :
    t.history b (first ++ second) =
      t.history b first ++ (t.operateAll b first).history b second := by
  induction first generalizing t with
  | nil =>
      rfl
  | cons operation rest ih =>
      rw [List.cons_append, history, ih, history, List.append_assoc]
      rfl

theorem log_append (t : TickLoop G) (first second : List (LoopOperation G)) :
    t.log b (first ++ second) = t.log b first ++ (t.operateAll b first).log b second := by
  rw [log, history_append, List.flatMap_append]
  rfl

theorem marks_append (t : TickLoop G) (first second : List (LoopOperation G)) :
    t.marks b (first ++ second) = t.marks b first ++ (t.operateAll b first).marks b second := by
  induction first generalizing t with
  | nil =>
      rfl
  | cons operation rest ih =>
      rw [List.cons_append, marks, ih, marks, List.append_assoc]
      rfl

/-- The time of the first step. -/
theorem nextInfo_first {t : TickLoop G} {d : Duration} (hlast : t.last = none)
    (hduration : t.config.stepDuration? = some d) :
    t.nextInfo = .ok { StepInfo.first d with paused := t.isPaused } := by
  unfold nextInfo
  rw [hlast]
  simp only [hduration]

/-- A step is told how many ticks were made before it. -/
theorem iterations_of_nextInfo {t : TickLoop G} {info : StepInfo} (h : t.nextInfo = .ok info) :
    info.iterations.toNat = t.tickId := by
  unfold nextInfo at h
  unfold tickId
  cases hlast : t.last with
  | none =>
      rw [hlast] at h
      simp only at h
      split at h
      · cases h
      · rw [← Except.ok.inj h]
        rfl
  | some last =>
      simp only [hlast, StepInfo.next] at h
      split at h
      · cases h
      · split at h
        · rename_i hlt
          rw [← Except.ok.inj h]
          exact (UInt64.toNat_add _ _).trans (Nat.mod_eq_of_lt hlt)
        · cases h

/-- A tick that can be made is made. -/
theorem tick_of_nextInfo {t : TickLoop G} {info : StepInfo} (h : t.nextInfo = .ok info) :
    t.tick b = .ok (((loadRequested b t.engine).runStep b info).1, t.operate b .tick) ∧
      t.operate b .tick =
        { t with
          engine := ((loadRequested b t.engine).runStep b info).2
          last := some info
          faults := t.faults + ((loadRequested b t.engine).runStep b info).1.faults.length } := by
  have htick : t.tick b = .ok (((loadRequested b t.engine).runStep b info).1,
      { t with
        engine := ((loadRequested b t.engine).runStep b info).2
        last := some info
        faults := t.faults + ((loadRequested b t.engine).runStep b info).1.faults.length }) := by
    rw [tick, h]
  have hafter : t.operate b .tick =
      { t with
        engine := ((loadRequested b t.engine).runStep b info).2
        last := some info
        faults := t.faults + ((loadRequested b t.engine).runStep b info).1.faults.length } := by
    rw [operate, htick]
  exact ⟨hafter ▸ htick, hafter⟩

theorem tick_of_error {t : TickLoop G} {cause : TickError} (h : t.nextInfo = .error cause) :
    t.tick b = .error cause ∧ t.operate b .tick = t := by
  have htick : t.tick b = .error cause := by
    rw [tick, h]
  refine ⟨htick, ?_⟩
  rw [operate, htick]

/-- An operation leaves the configuration and the subscriptions of a loop alone. -/
theorem frame_operate (t : TickLoop G) (operation : LoopOperation G) :
    (t.operate b operation).config = t.config ∧
      (t.operate b operation).subscriptions = t.subscriptions := by
  cases operation with
  | tick =>
      cases h : t.nextInfo with
      | ok info =>
          rw [(tick_of_nextInfo h).2]
          exact ⟨rfl, rfl⟩
      | error cause =>
          rw [(tick_of_error h).2]
          exact ⟨rfl, rfl⟩
  | setPaused paused =>
      exact ⟨rfl, rfl⟩
  | host operation =>
      exact ⟨rfl, rfl⟩

theorem frame_operateAll (t : TickLoop G) (operations : List (LoopOperation G)) :
    (t.operateAll b operations).config = t.config ∧
      (t.operateAll b operations).subscriptions = t.subscriptions := by
  induction operations generalizing t with
  | nil =>
      exact ⟨rfl, rfl⟩
  | cons operation rest ih =>
      obtain ⟨hconfig, hsubscriptions⟩ := frame_operate (b := b) t operation
      exact ⟨(ih _).1.trans hconfig, (ih _).2.trans hsubscriptions⟩

/-- Loading on request does what the host's loading does, and reports. -/
theorem exists_loadOne_eq (e : Engine G) (spec : PluginSpec) :
    ∃ notice, loadOne b e spec =
      { e.operate b (.loadAndAttach spec) with
        env := (e.operate b (.loadAndAttach spec)).env.report notice } := by
  simp only [loadOne, Engine.operate]
  rcases e.loadAndAttach b spec with ⟨cause | handle, left⟩
  · exact ⟨_, rfl⟩
  · exact ⟨_, rfl⟩

/-- A loop that is made listens. -/
theorem listens_create (config : TickConfig) {e : Engine G} (h : e.Unattended) :
    (create config e).Listens := by
  refine ⟨h.alive, rfl, fun key => ?_, fun key => ?_⟩
  · show ((((e.env.channels.connect _ _).2.connect _ _).2.connect _ _).2.get key).Orderly
    simp only [Channels.get_connect]
    split <;> split <;> split <;> simp_all [Channel.Orderly.connect, h.orderly]
  · show ((((e.env.channels.connect _ _).2.connect _ _).2.connect _ _).2.get key).loopIds = _
    simp only [Channels.get_connect]
    rcases key with event | number
    · cases event <;> simp [Channel.loopIds_connect_loop, h.unheard, create, Channels.connect,
        Channels.get_insert_of_ne]
    · simp [h.unheard, create, Channels.connect]

/-- Only an arrangement arranges. -/
theorem arrange_of_mem_momentsOf
    {e : Engine G} {operation : Operation G} {m : Moment G} (hm : m ∈ e.momentsOf b operation)
    {a : Arrangement G} (hact : m.act = .arrange a) : operation = .arrange a ∧ m.before = e := by
  have hmem := mem_acts_of_mem_moments hm
  rw [hact] at hmem
  obtain rfl := eq_of_stroke? hmem rfl
  obtain rfl := List.mem_singleton.1 hm
  exact ⟨rfl, rfl⟩

section Heeding

variable {subscriptions : List Connection}

/-- What the host does beside a loop is heeded. -/
theorem heeds_beside (e : Engine G) (operation : Operation G) :
    Heeds b subscriptions e.env
      ((e.momentsOf b (operation.beside e.env)).flatMap (Moment.log b))
      (e.operate b (operation.beside e.env)).env := by
  intro halive
  refine heeds_accounts (accounts_operation e halive _).1 (fun m hm a hact => ?_) halive
  obtain ⟨hoperation, hbefore⟩ := arrange_of_mem_momentsOf hm hact
  rw [hbefore]
  cases operation with
  | arrange other =>
      cases hoperation
      exact ⟨rfl, rfl⟩
  | _ => cases hoperation

theorem heeds_loads (specs : List PluginSpec) (e : Engine G) :
    Heeds b subscriptions e.env ((loadMoments b e specs).flatMap (Moment.log b))
      (specs.foldl (loadOne b) e).env := by
  induction specs generalizing e with
  | nil =>
      exact Heeds.refl e.env
  | cons spec rest ih =>
      obtain ⟨notice, hload⟩ := exists_loadOne_eq (b := b) e spec
      have hfirst : Heeds b subscriptions e.env
          ((e.momentsOf b (.loadAndAttach spec)).flatMap (Moment.log b))
          (loadOne b e spec).env := by
        rw [hload]
        exact (heeds_beside e (.loadAndAttach spec)).later (Heeds.report _ notice)
      rw [loadMoments, List.flatMap_append]
      exact hfirst.trans (ih _)

/-- What happens in a tick that is made is heeded, once the requests for plugins are taken up. -/
theorem heeds_tick {t : TickLoop G} {info : StepInfo} (h : t.nextInfo = .ok info) :
    Heeds b subscriptions (takeRequests t.engine).env
      ((t.momentsOf b .tick).flatMap (Moment.log b)) (t.operate b .tick).env := by
  have hmoments : t.momentsOf b .tick =
      loadMoments b (takeRequests t.engine) t.env.loop.loadRequests
        ++ (loadRequested b t.engine).momentsOf b (.step info) := by
    rw [momentsOf, h]
  rw [hmoments, List.flatMap_append, (tick_of_nextInfo h).2]
  exact (heeds_loads _ _).trans (heeds_beside _ (.step info))

end Heeding

theorem foldl_mark_signals (flags : LoopFlags) (signals : List Signal) :
    (signals.map Mark.signal).foldl LoopFlags.mark flags = flags.tellAll signals := by
  rw [List.foldl_map]
  rfl

/-- An operation makes of the flags what its marks come to. -/
theorem listens_operate
    {t : TickLoop G} (h : t.Listens) (operation : LoopOperation G)
    (hlog : Unhindered b t.subscriptions ((t.momentsOf b operation).flatMap (Moment.log b))) :
    (t.operate b operation).Listens ∧
      (t.operate b operation).env.loop =
        (t.marksOf b operation).foldl LoopFlags.mark t.env.loop := by
  have hsubscriptions := (frame_operate (b := b) t operation).2
  cases operation with
  | tick =>
      cases hinfo : t.nextInfo with
      | ok info =>
          obtain ⟨halive, hattentive, hloop⟩ := heeds_tick hinfo h.alive h.attentive hlog
          refine ⟨⟨halive, hsubscriptions ▸ hattentive⟩, ?_⟩
          rw [hloop, marksOf, hinfo]
          exact (foldl_mark_signals _ _).symm
      | error cause =>
          rw [(tick_of_error hinfo).2, marksOf, hinfo]
          exact ⟨h, rfl⟩
  | setPaused paused =>
      exact ⟨⟨h.alive, h.attentive⟩, rfl⟩
  | host operation =>
      obtain ⟨halive, hattentive, hloop⟩ :=
        heeds_beside t.engine operation h.alive h.attentive hlog
      refine ⟨⟨halive, hattentive⟩, ?_⟩
      exact hloop.trans (foldl_mark_signals _ _).symm

/-- **A loop that nothing hinders listens on, and its marks tell its flags.** -/
theorem listens_operateAll
    {t : TickLoop G} (h : t.Listens) (operations : List (LoopOperation G))
    (hlog : Unhindered b t.subscriptions (t.log b operations)) :
    (t.operateAll b operations).Listens ∧
      (t.operateAll b operations).env.loop =
        (t.marks b operations).foldl LoopFlags.mark t.env.loop := by
  induction operations generalizing t with
  | nil =>
      exact ⟨h, rfl⟩
  | cons operation rest ih =>
      rw [log, history, List.flatMap_append] at hlog
      obtain ⟨hlog₁, hlog₂⟩ := unhindered_append.1 hlog
      obtain ⟨h', hloop⟩ := listens_operate h operation hlog₁
      rw [← (frame_operate (b := b) t operation).2] at hlog₂
      obtain ⟨hend, hloops⟩ := ih h' hlog₂
      refine ⟨hend, ?_⟩
      rw [marks, List.foldl_append, ← hloop]
      exact hloops

/-- What is set up beside the scheduler. -/
def arrangementOf (env : Environment G) : Arrangement G :=
  ⟨env.world, env.parameters, env.channels, env.loader, env.loop, env.journal, env.memory⟩

/-- Attaching the systems of a configuration is loading one after the other. -/
theorem attachAll_eq {t t' : TickLoop G} {specs : List PluginSpec}
    (h : t.attachAll b specs = (none, t')) :
    t.operateAll b (specs.map fun spec => .host (.loadAndAttach spec)) = t' := by
  induction specs generalizing t with
  | nil =>
      exact (Prod.mk.inj h).2
  | cons spec rest ih =>
      unfold attachAll at h
      rcases hload : t.engine.loadAndAttach b spec with ⟨cause | handle, e⟩
      · rw [hload] at h
        cases (Prod.mk.inj h).1
      · rw [hload] at h
        have hoperate : t.operate b (.host (.loadAndAttach spec)) = { t with engine := e } := by
          have hengine : (t.engine.loadAndAttach b spec).2 = e := by
            rw [hload]
          simp only [operate, Operation.beside, Engine.operate, hengine]
        show (t.operate b (.host (.loadAndAttach spec))).operateAll b _ = t'
        rw [hoperate]
        exact ih h

/-- **A loop made from a configuration** is one that the host has done something with. -/
theorem exists_course_ofConfig
    {config : EngineConfig}
    {populate : List EntityConfig → World G.components → World G.components} {e : Engine G}
    {t : TickLoop G} (h : (ofConfig b config populate e).1 = .ok t) :
    ∃ operations : List (Operation G),
      (create config.tick e).operateAll b (operations.map .host) = t := by
  unfold ofConfig at h
  simp only at h
  split at h
  · rename_i left hattached
    obtain rfl := Except.ok.inj h
    have hloaded := attachAll_eq hattached
    -- The host arranges the world, loads the systems, and writes the last notice.
    let ready : Operation G := .arrange { arrangementOf left.env with
      journal := .worldReady left.env.world.entityCount left.engine.scheduler.size ::
        left.env.journal }
    have hlast : ∀ t, t = left → t.operate b (.host ready) =
        { left with
          engine := { left.engine with
            env := left.env.report
              (.worldReady left.env.world.entityCount left.engine.scheduler.size) } } := by
      rintro _ rfl
      rfl
    refine ⟨.arrange { arrangementOf (create config.tick e).env with
        world := populate config.entities (create config.tick e).env.world } ::
      (config.systems.map .loadAndAttach ++ [ready]), ?_⟩
    rw [List.map_cons, List.map_append, List.map_map, operateAll, List.foldl_cons,
      List.foldl_append]
    exact hlast _ hloaded
  · cases h

end TickLoop
end SimEngine
