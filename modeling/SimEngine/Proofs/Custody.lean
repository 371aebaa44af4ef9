import SimEngine.Proofs.Counts
import SimEngine.Proofs.Rosters

/-!
# Custody of loaded systems

Who loads a system holds it until he drops it, attaches it or queues it to be
attached; from then on the engine takes care of it.  At each moment a loaded
system that was not let go of is in one place: the host holds it, it waits in
the queue, it is attached, or it is underway from the queue to the scheduler.
The loader's counts are the numbers of systems in these places, whatever the
host does, down to the end of the engine and after it.

**Definitions.**
* `Custody`, `Dealing`: an engine with what the host holds, and what the host
  does with both.
* `Steady`, `KeepsSteady`: the counts are right when acts are about to be done, and stay so.

**Results.**
* `balanced_perform`, `steady_moments`: acts keep the counts right.
* `keepsSteady_operation`: so do operations, also in between their acts.
* `balanced_dealAll`: so do dealings.
* `live_instances_eq`: the counts are right at each moment, and none that is to
  go down is zero.
-/

namespace SimEngine

variable {G : Guest}

/-- The attached systems. -/
def Engine.attachments (e : Engine G) : List (Attachment G) :=
  e.scheduler.all.map Instance.attachment

/-- The system that an act attaches. -/
def Act.attachment? : Act G → Option (Attachment G)
  | .carryOut _ command => command.attachment?
  | _ => none

/-- The systems that acts attach. -/
def underway (acts : List (Act G)) : List (Attachment G) :=
  acts.filterMap Act.attachment?

/-- The counts are right, given the systems outside of the engine and those that acts attach. -/
def Steady (outside : List (Attachment G)) (e : Engine G) (acts : List (Act G)) : Prop :=
  Balanced (underway acts ++ e.attachments ++ outside) e.env

/-- The counts are right at the end of acts, and before each of them but the first. -/
def KeepsSteady (b : Behavior G) (outside : List (Attachment G)) (e : Engine G)
    (acts : List (Act G)) : Prop :=
  Steady outside (acts.foldl (Engine.perform b) e) [] ∧
    ∀ past m rest, e.moments b acts = past ++ m :: rest → past ≠ [] →
      Steady outside m.before (m.act :: rest.map Moment.act)

/-- Runs a program whose end does not matter while a queue is let go of. -/
def Behavior.runUntidied (b : Behavior G) (p : Program G Unit) (env : Environment G) :
    Environment G :=
  (p.run b.emit id .none env).2

/-- An act that neither loads, collects, configures anew nor arranges anything. -/
def Act.IsPlain : Act G → Prop
  | .load _ | .collect | .reconfigure _ _ | .arrange _ => False
  | .run _ program => program.Honest
  | _ => True

/-- An engine, whether it came to its end, and the systems that the host has loaded and holds. -/
structure Custody (G : Guest) where
  engine : Engine G
  gone : Bool
  held : List (Attachment G)

/--
Something that the host does.  What it holds it names by the place in the list.  It does not
operate an engine that is gone.
-/
inductive Dealing (G : Guest) where
  | operate (operation : Operation G)
  /-- The host sets things up beside the scheduler and the loader. -/
  | arrange (arrangement : Arrangement G)
  /-- The host has code of its own run. -/
  | run (access : Access) (program : Program G Unit)
  | register (name : String) (factory : G.Factory)
  | unregister (name : String)
  /-- A system is loaded and held. -/
  | load (spec : PluginSpec)
  /-- A system that is held is attached. -/
  | attach (index : Nat) (entity : Entity) (config : Payload)
  /-- A system that is held is queued to be attached. -/
  | queue (index : Nat) (entity : Entity) (config : Payload)
  /-- A system that is held is let go of. -/
  | drop (index : Nat)
  /-- The engine comes to its end. -/
  | close

/-- The system that the host hands over in an operation. -/
def Operation.brought? : Operation G → Option (Attachment G)
  | .attach attachment _ _ => some attachment
  | _ => none

/-- An operation that leaves the loader as it is, with no code that queues a system as loaded. -/
def Operation.IsFair : Operation G → Prop
  | .run _ program => program.Honest
  | .arrange _ => False
  | _ => True

/--
What the host attaches beside what it holds was not loaded, code of its own queues no system as
loaded, and the loader is not exchanged.
-/
def Dealing.Honest : Dealing G → Prop
  | .operate operation =>
    operation.IsFair ∧ ∀ a ∈ operation.brought?, ∀ plugin, a.isCountedFor plugin = false
  | .run _ program => program.Honest
  | _ => True

namespace Custody

variable (b : Behavior G)

/-- The engine in which nothing has happened, and a host that holds nothing. -/
def fresh (memory : G.Memory) : Custody G :=
  ⟨.fresh memory, false, []⟩

/-- The environment of the engine. -/
def env (c : Custody G) : Environment G :=
  c.engine.env

/-- The same systems in another environment. -/
def withEnv (c : Custody G) (env : Environment G) : Custody G :=
  { c with engine := { c.engine with env := env } }

/-- The engine after an operation, with what the host holds then. -/
def operate (c : Custody G) (operation : Operation G) (held : List (Attachment G)) : Custody G :=
  if c.gone then c else ⟨c.engine.operate b operation, false, held⟩

/-- What comes of a dealing. -/
def deal (c : Custody G) : Dealing G → Custody G
  | .operate operation => c.operate b operation c.held
  | .arrange arrangement => c.withEnv ({ arrangement with loader := c.env.loader }.within c.env)
  | .run access program => c.withEnv (b.run access program c.env).2
  | .register name factory => c.withEnv { c.env with loader := c.env.loader.register name factory }
  | .unregister name => c.withEnv { c.env with loader := c.env.loader.unregister name }
  | .load spec =>
    match b.load spec c.env with
    | (.ok a, env) => { c.withEnv env with held := c.held ++ [a] }
    | (.error _, env) => c.withEnv env
  | .attach index entity config =>
    match c.held[index]? with
    | some a => c.operate b (.attach a entity config) (c.held.eraseIdx index)
    | none => c
  | .queue index entity config =>
    match c.held[index]? with
    | some a =>
      { c.withEnv (c.env.queueAttach a entity config).2 with held := c.held.eraseIdx index }
    | none => c
  | .drop index =>
    match c.held[index]? with
    | some a => { c.withEnv (b.release a c.env) with held := c.held.eraseIdx index }
    | none => c
  | .close => if c.gone then c else ⟨c.engine.close b, true, c.held⟩

/-- What comes of dealings. -/
def dealAll (c : Custody G) (dealings : List (Dealing G)) : Custody G :=
  dealings.foldl (deal b) c

/-- The operation that a dealing comes to, while the engine is alive. -/
def operationOf? (c : Custody G) (d : Dealing G) : Option (Operation G) :=
  if c.gone then none
  else
    match d with
    | .operate operation => some operation
    | .attach index entity config => c.held[index]?.map fun a => .attach a entity config
    | .close => some .clear
    | _ => none

/-- The moments of the engine in a dealing. -/
def momentsOf (c : Custody G) (d : Dealing G) : List (Moment G) :=
  match c.operationOf? d with
  | some operation => c.engine.momentsOf b operation
  | none => []

/-- The counts tell how many systems are held, queued and attached. -/
def Balanced (c : Custody G) : Prop :=
  SimEngine.Balanced (c.engine.attachments ++ c.held) c.env

/-- While the engine is alive, its handles name one instance each. -/
def Sound (c : Custody G) : Prop :=
  c.gone = false → ∃ log, Engine.Sound log [] c.engine

/-- The environment of an engine that has just come to its end, before its queue is let go of. -/
def orphan (c : Custody G) : Environment G :=
  { (c.engine.clear b).env with orphaned := true }

/--
What becomes of the counts in a dealing.  A system that is loaded is counted for its plugin.  One
that cannot be loaded is nowhere, and changes no count while the engine is alive.  The registry
does not matter to the counts.  What the host drops is counted off, and so is what an engine leaves
in its queue at its end, one system after the other, if nobody can reach them.
-/
def Reckons (c : Custody G) (d : Dealing G) : Prop :=
  match d with
  | .register _ _ | .unregister _ =>
    ∀ plugin, (c.deal b d).env.loader.liveInstances plugin = c.env.loader.liveInstances plugin
  | .load spec =>
    match b.load spec c.env with
    | (.ok a, _) =>
      (c.deal b d).held = c.held ++ [a] ∧
        ∀ plugin, a.isCountedFor plugin = true ↔ plugin = spec.name
    | (.error _, _) =>
      (c.deal b d).held = c.held ∧ (c.deal b d).engine.scheduler = c.engine.scheduler ∧
        (c.gone = false → (c.deal b d).env.loader = c.env.loader)
  | .operate (.loadAndAttach spec) =>
    ∀ cause, (b.load spec c.env).1 = .error cause →
      (c.deal b d).engine.scheduler = c.engine.scheduler ∧ (c.deal b d).env.loader = c.env.loader
  | .drop index => ∀ a, c.held[index]? = some a → b.CountsOff b.runQuietly a c.env
  | .close =>
    c.gone = false → b.holdsQueue [] (c.orphan b) = false →
      (c.deal b .close).env =
          b.releaseCommands b.runUntidied { c.orphan b with commands := [] }
            (c.orphan b).commands ∧
        ∀ past handle a entity config rest,
          (c.orphan b).commands = past ++ .attach handle a entity config :: rest →
          b.CountsOff b.runUntidied a
            (b.releaseCommands b.runUntidied { c.orphan b with commands := [] } past)
  | _ => True

end Custody

section Places

theorem countedIn_perm
    {plugin : String} {first second : List (Attachment G)} (h : first.Perm second) :
    countedIn plugin first = countedIn plugin second :=
  h.countP_eq _

/-- Who takes a system out of a list has one system and the rest. -/
theorem countedIn_eraseIdx
    {held : List (Attachment G)} {index : Nat} {a : Attachment G} (h : held[index]? = some a)
    (plugin : String) :
    countedIn plugin held = countedIn plugin [a] + countedIn plugin (held.eraseIdx index) := by
  obtain ⟨hlt, rfl⟩ := List.getElem?_eq_some_iff.1 h
  have hperm : held.Perm (held[index] :: held.eraseIdx index) := by
    rw [List.eraseIdx_eq_take_drop_succ]
    conv => lhs; rw [← List.take_append_drop index held, List.drop_eq_getElem_cons hlt]
    exact List.perm_middle
  rw [countedIn_perm hperm, countedIn_cons]

theorem attachments_attachAs
    (b : Behavior G) (e : Engine G) (handle : Handle) (attachment : Attachment G)
    (entity : Entity) (config : Payload) :
    (e.attachAs b handle attachment entity config).attachments =
      e.attachments ++ [attachment] := by
  obtain ⟨degraded, hrecruit⟩ := exists_recruit_eq b e handle attachment entity config
  have hall : (e.attachAs b handle attachment entity config).scheduler.all =
      e.scheduler.all ++ [e.recruit b handle attachment entity config] :=
    (List.append_assoc _ _ _).symm
  rw [Engine.attachments, hall, hrecruit, List.map_append]
  rfl

/-- Who is admitted stays attached. -/
theorem attachments_admitAll (b : Behavior G) (e : Engine G) :
    (e.perform b .admitAll).attachments = e.attachments := by
  simp [Engine.perform, Engine.attachments, Scheduler.admitPending, Scheduler.all,
    Function.comp_def, Instance.admitted]

/-- Who is configured anew stays attached. -/
theorem attachments_replace
    {b : Behavior G} {e : Engine G} (hdistinct : e.scheduler.handles.Nodup) {i : Instance G}
    (hi : i ∈ e.scheduler.all) (config : Option Payload) :
    (e.scheduler.replace i.handle (i.configure b config e.env).1).all.map Instance.attachment =
      e.attachments := by
  obtain ⟨degraded, hconfigured⟩ := exists_configure_eq b i config e.env
  simp only [Scheduler.replace, Scheduler.all, ← List.map_append, List.map_map]
  refine List.map_congr_left fun j hj => ?_
  simp only [Function.comp_apply]
  split
  · rename_i heq
    have hsame : j = i := List.inj_on_of_nodup_map hdistinct hj hi (beq_iff_eq.1 heq)
    rw [hconfigured, hsame]
    rfl
  · rfl

@[simp] theorem underway_append (first second : List (Act G)) :
    underway (first ++ second) = underway first ++ underway second :=
  List.filterMap_append

theorem underway_carryOut (mandate : Mandate) (commands : List (Command G)) :
    underway (commands.map (.carryOut mandate)) = queuedIn commands := by
  rw [underway, List.filterMap_map]
  rfl

theorem underway_turnActs
    (b : Behavior G) (info : StepInfo) (failed : List Handle) (slots : List (Pass × Instance G))
    (env : Environment G) : underway (Engine.turnActs b info failed slots env) = [] := by
  induction slots generalizing failed env with
  | nil =>
      rfl
  | cons slot rest ih =>
      exact ih _ _

theorem isPlain_of_mem_turnActs
    {b : Behavior G} {info : StepInfo} {failed : List Handle} {slots : List (Pass × Instance G)}
    {env : Environment G} {act : Act G} (h : act ∈ Engine.turnActs b info failed slots env) :
    act.IsPlain := by
  induction slots generalizing failed env with
  | nil =>
      cases h
  | cons slot rest ih =>
      rcases List.mem_cons.1 h with rfl | h
      · trivial
      · exact ih h

theorem isPlain_of_mem_attachActs
    {handle : Handle} {attachment : Attachment G} {entity : Entity} {config : Payload} :
    ∀ act ∈ Engine.attachActs handle attachment entity config, act.IsPlain := by
  intro act hact
  rcases List.mem_pair.1 hact with rfl | rfl <;> trivial

/-- What is taken out of a scheduler is the instance that its handle names. -/
theorem perm_erase
    {s : Scheduler G} {handle : Handle} {i : Instance G} (h : s.instance? handle = some i) :
    s.all.Perm (i :: (s.erase handle).all) := by
  have htaken : ∀ instances : List (Instance G),
      (instances.find? fun j => j.handle == handle) = some i →
      instances.Perm (i :: instances.eraseP fun j => j.handle == handle) := by
    intro instances hfind
    obtain ⟨hhandle, before, after, rfl, hbefore⟩ := List.find?_eq_some_iff_append.1 hfind
    have hrest : ∀ j ∈ before, ¬ (j.handle == handle) = true := by
      intro j hj
      simpa using hbefore j hj
    have herase : ((before ++ i :: after).eraseP fun j => j.handle == handle) =
        before ++ after := by
      rw [List.eraseP_append_right _ hrest]
      exact congrArg (before ++ ·) (List.eraseP_cons_of_pos hhandle)
    rw [herase]
    exact List.perm_middle
  unfold Scheduler.instance? Scheduler.all at h
  rw [List.find?_append] at h
  unfold Scheduler.erase Scheduler.all
  cases hfind : s.instances.find? fun j => j.handle == handle with
  | some j =>
      rw [hfind] at h
      obtain rfl := Option.some.inj h
      have hany : (s.instances.any fun j => j.handle == handle) = true :=
        List.any_eq_true.2 ⟨j, List.mem_of_find?_eq_some hfind,
          List.find?_some (p := fun j : Instance G => j.handle == handle) hfind⟩
      rw [if_pos hany]
      exact (htaken _ hfind).append_right _
  | none =>
      rw [hfind] at h
      have hany : ¬ (s.instances.any fun j => j.handle == handle) = true := by
        simpa using hfind
      rw [if_neg hany]
      exact ((htaken _ h).append_left _).trans List.perm_middle

/-- The instance that leaves takes its system along. -/
theorem perm_departure
    {b : Behavior G} {m : Moment G} {i : Instance G} {env : Environment G}
    (h : m.departure? = some (i, env)) :
    m.before.attachments.Perm (i.attachment :: (m.after b).attachments) := by
  rcases departure_cases h with ⟨mandate, hact, hfind, -⟩ | ⟨s, hact, hnewest, -⟩
  · have hscheduler : (m.after b).scheduler = m.before.scheduler.erase i.handle := by
      rw [Moment.after, hact]
      exact scheduler_detach b m.before i.handle
    rw [Engine.attachments, Engine.attachments, hscheduler]
    exact (perm_erase hfind).map Instance.attachment
  · have hscheduler : (m.after b).scheduler = s := by
      simp only [Moment.after, hact, Engine.perform, hnewest]
    rw [Engine.attachments, Engine.attachments, hscheduler, Scheduler.all_of_newest? hnewest,
      List.map_append]
    exact List.perm_append_singleton _ _

end Places

section Acts

variable {b : Behavior G} (hb : b.Honest)
include hb

theorem keeping_deliverTo
    (list : Handle) (info : StepInfo) (q : PendingQuery G.Callback) (entities : List Entity) :
    Keeping fun env => (QueryList.deliverTo b list info q entities env).2 := by
  induction entities with
  | nil =>
      exact fun _ _ h => h
  | cons e rest ih =>
      intro outside env h
      simp only [QueryList.deliverTo]
      split
      · exact h
      · have hcalled : Balanced outside (b.run .full (b.onQuery q.callback info e) env).2 :=
          keeping_run hb .full _ (hb.onQuery q.callback info e) outside env h
        rcases hanswer : b.run .full (b.onQuery q.callback info e) env with ⟨outcome, left⟩
        rw [hanswer] at hcalled
        simp only
        cases outcome.ofCallback with
        | ok _ => exact ih outside left hcalled
        | error reason => exact hcalled

theorem keeping_deliverAll
    (list : Handle) (info : StepInfo) (queries : List (PendingQuery G.Callback)) :
    Keeping fun env => (QueryList.deliverAll b list info queries env).2 := by
  induction queries with
  | nil =>
      exact fun _ _ h => h
  | cons q rest ih =>
      intro outside env h
      have hcalled : Balanced outside
          (QueryList.deliverTo b list info q (env.world.query q.signature) env).2 :=
        keeping_deliverTo hb list info q _ outside env h
      simp only [QueryList.deliverAll]
      rcases hanswer : QueryList.deliverTo b list info q (env.world.query q.signature) env
        with ⟨⟨n, _ | fault⟩, left⟩
      · rw [hanswer] at hcalled
        exact ih outside left hcalled
      · rw [hanswer] at hcalled
        exact hcalled

theorem keeping_turn
    (info : StepInfo) (failed : List Handle) (slot : Pass × Instance G) :
    Keeping fun env => (b.turn info failed slot env).after := by
  intro outside env h
  have hreported : ∀ {pass : Pass} {i : Instance G} {result : Except String Unit}
      {left : Environment G}, Balanced outside left →
      Balanced outside (faultReported info pass i result left) := by
    intro pass i result left hleft
    cases result with
    | ok _ => exact hleft
    | error message => exact hleft.of_eq rfl rfl
  obtain ⟨pass, i⟩ := slot
  cases pass with
  | queries =>
      obtain ⟨delivery, left, n, hanswer, hturn⟩ := turn_queries b info failed i env
      have hdelivered : Balanced outside (QueryList.deliver b i.handle info env).2 :=
        (keeping_deliverAll hb i.handle info (env.queryList i.handle).queries outside
          (env.setQueryList i.handle (env.queryList i.handle).depart)
          (h.of_eq rfl rfl)).of_eq rfl rfl
      rw [hanswer] at hdelivered
      simp only [hturn]
      exact hreported hdelivered
  | phase p =>
      rcases turn_phase_cases b info failed p i env with
        ⟨_, hturn⟩ | ⟨_, hturn⟩ | ⟨outcome, left, _, _, _, hanswer, hturn⟩
      · simp only [hturn]
        exact h
      · simp only [hturn]
        exact h.of_eq rfl rfl
      · have hrun : Balanced outside
            (b.run (Instance.accessOf p) (b.phase p i.attachment.system info) env).2 :=
          keeping_run hb _ _ (hb.phase p i.attachment.system info) outside env h
        rw [hanswer] at hrun
        simp only [hturn]
        exact hreported hrun

theorem keeping_configure (i : Instance G) (config : Option Payload) :
    Keeping fun env => (i.configure b config env).2 := by
  intro outside env h
  obtain ⟨left, journal, hleft, hconfigure⟩ := exists_configure_env b i env config
  simp only [hconfigure]
  rcases hleft with rfl | rfl
  · exact h.of_eq rfl rfl
  · exact (keeping_run hb .full _ (hb.configure _ _) outside env h).of_eq rfl rfl

theorem keeping_configureParameters (i : Instance G) :
    Keeping fun env => (i.configureParameters b env).2 := by
  intro outside env h
  obtain ⟨left, journal, hleft, hdeclare⟩ := exists_configureParameters_env b i env
  simp only [hdeclare]
  rcases hleft with rfl | rfl
  · exact h.of_eq rfl rfl
  · exact (keeping_run hb .full _ (hb.configureParameters _) outside env h).of_eq rfl rfl

/-- **Who leaves is counted off**, from a count that is not zero. -/
theorem balanced_departure
    {m : Moment G} {i : Instance G} {env : Environment G}
    (hdeparture : m.departure? = some (i, env))
    {outside : List (Attachment G)} (h : Balanced (m.before.attachments ++ outside) m.before.env) :
    Balanced ((m.after b).attachments ++ outside) (m.after b).env ∧
      b.CountsOff b.runQuietly i.attachment env := by
  obtain ⟨hafter, _, _⟩ := env_after_departure (b := b) hdeparture
  have hleft : Balanced (m.before.attachments ++ outside) env := by
    obtain ⟨_, rfl⟩ := env_of_departure hdeparture
    exact h.of_eq rfl rfl
  rw [hafter]
  refine balanced_release hb i.attachment (hleft.congr fun plugin => ?_)
  exact (countedIn_perm ((perm_departure hdeparture).append_right outside)).symm

/-- A system that is attached is with the other ones. -/
theorem balanced_attachAs
    {e : Engine G} {handle : Handle} {attachment : Attachment G} {entity : Entity}
    {config : Payload} {outside : List (Attachment G)}
    (h : Balanced (attachment :: (e.attachments ++ outside)) e.env) :
    Balanced ((e.attachAs b handle attachment entity config).attachments ++ outside)
      (e.attachAs b handle attachment entity config).env := by
  have hnew : Balanced (attachment :: (e.attachments ++ outside))
      (e.newcomer b handle attachment entity config).2 := h.of_eq rfl rfl
  have hconfigured := keeping_configure hb
    (e.newcomer b handle attachment entity config).1 none _ _ hnew
  have hdeclared := keeping_configureParameters hb
    ((e.newcomer b handle attachment entity config).1.configure b none
      (e.newcomer b handle attachment entity config).2).1 _ _ hconfigured
  rw [attachments_attachAs]
  refine Balanced.congr (Balanced.of_eq hdeclared rfl rfl) fun plugin => ?_
  rw [List.append_assoc]
  exact countedIn_perm List.perm_middle

/-- **A plain act keeps the counts right**, with the system that it attaches. -/
theorem balanced_perform
    {act : Act G} (hact : act.IsPlain) {outside : List (Attachment G)} {e : Engine G}
    (h : Balanced (act.attachment?.toList ++ e.attachments ++ outside) e.env) :
    Balanced ((e.perform b act).attachments ++ outside) (e.perform b act).env := by
  -- An instance leaves, or nobody does.
  have hleft : ((∃ mandate handle, act = .carryOut mandate (.detach handle)) ∨ act = .expel) →
      Balanced (e.attachments ++ outside) e.env →
      Balanced ((e.perform b act).attachments ++ outside) (e.perform b act).env := by
    intro hact h
    cases hdeparture : (⟨e, act⟩ : Moment G).departure? with
    | none =>
        obtain ⟨hafter, _⟩ := after_of_no_departure (b := b) hdeparture hact
        have hafter' : e.perform b act = e := hafter
        rw [hafter']
        exact h
    | some departure =>
        obtain ⟨i, env⟩ := departure
        exact (balanced_departure hb hdeparture h).1
  cases act with
  | reserve => exact h.of_eq rfl rfl
  | carryOut mandate command =>
      cases command with
      | attach handle attachment entity config => exact balanced_attachAs hb h
      | detach handle => exact hleft (.inl ⟨mandate, handle, rfl⟩) h
  | admitAll =>
      rw [attachments_admitAll]
      exact h
  | turn info failed slot => exact keeping_turn hb info failed slot _ _ h
  | expel => exact hleft (.inr rfl) h
  | run access program => exact keeping_run hb access program hact _ _ h
  | _ => exact hact.elim

/-- A system that is configured anew stays the same one. -/
theorem balanced_reconfigure
    {e : Engine G} (hdistinct : e.scheduler.handles.Nodup) (handle : Handle)
    (config : Option Payload) {outside : List (Attachment G)}
    (h : Balanced (e.attachments ++ outside) e.env) :
    Balanced ((e.perform b (.reconfigure handle config)).attachments ++ outside)
      (e.perform b (.reconfigure handle config)).env := by
  simp only [Engine.perform, Engine.reconfigure]
  cases hfind : e.scheduler.instance? handle with
  | none => exact h
  | some i =>
      obtain ⟨hi, rfl⟩ := Scheduler.mem_of_instance? hfind
      have hsame := attachments_replace hdistinct hi config (b := b)
      have hkept := keeping_configure hb i config _ _ h
      simp only [Engine.attachments, hsame]
      exact hkept

/-- **Plain acts keep the counts right**, up to each of them. -/
theorem steady_moments
    {outside : List (Attachment G)} {acts : List (Act G)} (hplain : ∀ act ∈ acts, act.IsPlain)
    {e : Engine G} (h : Steady outside e acts) :
    Steady outside (acts.foldl (Engine.perform b) e) [] ∧
      ∀ past m rest, e.moments b acts = past ++ m :: rest →
        Steady outside m.before (m.act :: rest.map Moment.act) := by
  induction acts generalizing e with
  | nil =>
      refine ⟨h, fun past m rest hsplit => ?_⟩
      cases past <;> cases hsplit
  | cons act later ih =>
      have hunderway : underway (act :: later) = act.attachment?.toList ++ underway later := by
        cases hattached : act.attachment? with
        | none => rw [underway, List.filterMap_cons_none hattached]; rfl
        | some a => rw [underway, List.filterMap_cons_some hattached]; rfl
      have hperformed : Steady outside (e.perform b act) later := by
        have hbefore : Balanced (act.attachment?.toList ++ e.attachments ++
            (underway later ++ outside)) e.env := by
          refine Balanced.congr h fun plugin => ?_
          rw [hunderway]
          simp only [countedIn_append]
          omega
        have hafter := balanced_perform hb (hplain act List.mem_cons_self) hbefore
        refine Balanced.congr hafter fun plugin => ?_
        simp only [countedIn_append]
        omega
      obtain ⟨hend, hwithin⟩ := ih (fun a ha => hplain a (List.mem_cons_of_mem act ha)) hperformed
      refine ⟨hend, fun past m rest hsplit => ?_⟩
      cases past with
      | nil =>
          obtain ⟨rfl, hrest⟩ := List.cons.inj hsplit
          have hacts : rest.map Moment.act = later := by
            rw [← hrest, map_act_moments]
          rw [hacts]
          exact h
      | cons first past => exact hwithin past m rest (List.cons.inj hsplit).2

/-- Plain acts leave no gap from the first to the last. -/
theorem keepsSteady_of_plain
    {outside : List (Attachment G)} {acts : List (Act G)} (hplain : ∀ act ∈ acts, act.IsPlain)
    {e : Engine G} (h : Steady outside e acts) : KeepsSteady b outside e acts := by
  obtain ⟨hend, hwithin⟩ := steady_moments hb hplain h
  exact ⟨hend, fun past m rest hsplit _ => hwithin past m rest hsplit⟩

/-- After its first act, an operation whose other acts are plain keeps the counts right. -/
theorem keepsSteady_cons
    {outside : List (Attachment G)} {e : Engine G} {act : Act G} {acts : List (Act G)}
    (hplain : ∀ act ∈ acts, act.IsPlain) (h : Steady outside (e.perform b act) acts) :
    KeepsSteady b outside e (act :: acts) := by
  obtain ⟨hend, hwithin⟩ := steady_moments hb hplain h
  refine ⟨hend, fun past m rest hsplit hpast => ?_⟩
  cases past with
  | nil => exact absurd rfl hpast
  | cons first past => exact hwithin past m rest (List.cons.inj hsplit).2

theorem keepsSteady_single
    {outside : List (Attachment G)} {e : Engine G} {act : Act G}
    (h : Balanced ((e.perform b act).attachments ++ outside) (e.perform b act).env) :
    KeepsSteady b outside e [act] :=
  keepsSteady_cons hb (fun _ ha => absurd ha List.not_mem_nil) h

theorem keepsSteady_loadAndAttach
    {outside : List (Attachment G)} {e : Engine G} (spec : PluginSpec)
    (h : Balanced (e.attachments ++ outside) e.env) :
    KeepsSteady b outside e (e.actsOf b (.loadAndAttach spec)) := by
  have hload := balanced_load hb spec h
  have hloaded : (e.perform b (.load spec)).env = (b.load spec e.env).2 := rfl
  simp only [Engine.actsOf]
  rcases hanswer : b.load spec e.env with ⟨cause | a, env⟩
  · rw [hanswer] at hload hloaded
    exact keepsSteady_single hb (Balanced.of_eq hload (congrArg _ hloaded) (congrArg _ hloaded))
  · rw [hanswer] at hload hloaded
    exact keepsSteady_cons hb isPlain_of_mem_attachActs
      (Balanced.of_eq hload.2 (congrArg _ hloaded) (congrArg _ hloaded))

/-- What was queued is underway once a step has begun. -/
theorem keepsSteady_step
    {outside : List (Attachment G)} {e : Engine G} (info : StepInfo)
    (h : Balanced (e.attachments ++ outside) e.env) :
    KeepsSteady b outside e (e.actsOf b (.step info)) := by
  refine keepsSteady_cons hb (fun act ha => ?_) fun plugin => ?_
  · rcases List.mem_append.1 ha with ha | ha
    · obtain ⟨command, _, rfl⟩ := List.mem_map.1 ha
      trivial
    · rcases List.mem_cons.1 ha with rfl | ha
      · trivial
      · exact isPlain_of_mem_turnActs ha
  · have hplugin := h plugin
    have hturns : underway (.admitAll :: Engine.turnActs b info []
        (slots (e.beginStep b).scheduler.instances) (e.beginStep b).env) = [] :=
      underway_turnActs b info [] _ _
    rw [underway_append, underway_carryOut, hturns]
    show e.env.loader.liveInstances plugin = countedIn plugin [] +
      countedIn plugin (queuedIn e.env.commands ++ [] ++ e.attachments ++ outside)
    simp only [countedIn_append, countedIn_nil] at hplugin ⊢
    omega

theorem keepsSteady_clear
    {outside : List (Attachment G)} {e : Engine G}
    (h : Balanced (e.attachments ++ outside) e.env) :
    KeepsSteady b outside e (e.actsOf b .clear) := by
  have hexpel : ∀ act ∈ List.replicate e.scheduler.size (.expel : Act G), act = .expel :=
    fun act ha => List.eq_of_mem_replicate ha
  refine keepsSteady_of_plain hb (fun act ha => hexpel act ha ▸ trivial) ?_
  have hnone : underway (List.replicate e.scheduler.size (.expel : Act G)) = [] :=
    List.filterMap_eq_nil_iff.2 fun act ha => hexpel act ha ▸ rfl
  show Balanced (underway (List.replicate e.scheduler.size .expel) ++ e.attachments ++
    outside) e.env
  rw [hnone]
  exact h

/-- **Operations keep the counts right**, also in between their acts. -/
theorem keepsSteady_operation
    {outside : List (Attachment G)} {e : Engine G} (hdistinct : e.scheduler.handles.Nodup)
    {operation : Operation G} (hfair : operation.IsFair)
    (h : Balanced (operation.brought?.toList ++ e.attachments ++ outside) e.env) :
    KeepsSteady b outside e (e.actsOf b operation) := by
  cases operation with
  | attach attachment entity config =>
      exact keepsSteady_of_plain hb isPlain_of_mem_attachActs h
  | loadAndAttach spec => exact keepsSteady_loadAndAttach hb spec h
  | detach handle =>
      refine keepsSteady_of_plain hb (fun act ha => ?_) h
      rw [List.mem_singleton.1 ha]
      trivial
  | reconfigure handle config =>
      exact keepsSteady_single hb (balanced_reconfigure hb hdistinct handle config h)
  | step info => exact keepsSteady_step hb info h
  | clear => exact keepsSteady_clear hb h
  | run access program => exact keepsSteady_single hb (keeping_run hb access program hfair _ _ h)
  | arrange arrangement => exact hfair.elim

/-- An operation ends with the counts right. -/
theorem balanced_operation
    {outside : List (Attachment G)} {e : Engine G} (hdistinct : e.scheduler.handles.Nodup)
    {operation : Operation G} (hfair : operation.IsFair)
    (h : Balanced (operation.brought?.toList ++ e.attachments ++ outside) e.env) :
    Balanced ((e.operate b operation).attachments ++ outside) (e.operate b operation).env := by
  rw [← operate_eq_foldl]
  exact (keepsSteady_operation hb hdistinct hfair h).1

end Acts

section Dealings

variable {b : Behavior G}

/-- Guest code changes no count in any of its runs. -/
theorem loader_of_accounted
    {env env' : Environment G} {guestRuns : List (GuestRun G)}
    (h : Engine.Accounted b env guestRuns env') (halive : env.orphaned = false) {s : GuestRun G}
    (hs : s ∈ guestRuns) :
    (s.after b).loader = s.before.loader ∧ ∀ o ∈ s.log b, o.env.loader = s.before.loader := by
  induction guestRuns generalizing env with
  | nil =>
      cases hs
  | cons first rest ih =>
      have halive' : first.before.orphaned = false := h.1.orphaned.trans halive
      obtain ⟨hfirst, halive''⟩ := (loaderLaw b).of_guestRun first halive'
      rcases List.mem_cons.1 hs with rfl | hs
      · exact hfirst
      · exact ih h.2 halive'' hs

theorem alive_before_moment
    {e : Engine G} (halive : e.env.orphaned = false) {acts : List (Act G)} {m : Moment G}
    (hm : m ∈ e.moments b acts) : m.before.env.orphaned = false := by
  induction acts generalizing e with
  | nil =>
      cases hm
  | cons act rest ih =>
      rcases List.mem_cons.1 hm with rfl | hm
      · exact halive
      · exact ih (alive_after (b := b) ⟨e, act⟩ halive) hm

/-- Guest code changes no count at any moment of an operation. -/
theorem loader_of_moment
    {e : Engine G} (halive : e.env.orphaned = false) {operation : Operation G} {m : Moment G}
    (hm : m ∈ e.momentsOf b operation) {s : GuestRun G} (hs : s ∈ m.guestRuns b) :
    (s.after b).loader = s.before.loader ∧ ∀ o ∈ s.log b, o.env.loader = s.before.loader := by
  have haccounted := (accounts_operation (b := b) e halive operation).1.accounted m hm
  have hbefore := alive_before_moment halive hm
  refine loader_of_accounted haccounted ?_ hs
  unfold Moment.ready
  split <;> exact hbefore

/-- A system that cannot be loaded changes no count. -/
theorem loader_of_load_error
    {env : Environment G} (halive : env.orphaned = false) {spec : PluginSpec} {cause : SystemError}
    (h : (b.load spec env).1 = .error cause) : (b.load spec env).2.loader = env.loader := by
  unfold Behavior.load at h ⊢
  cases hfind : env.loader.factories.find? spec.name with
  | none => rfl
  | some factory =>
      have hkept : (b.run .none (b.construct factory spec) env).2.loader = env.loader :=
        ((loaderLaw b).run (.top .none) (b.construct factory spec) halive).1
      rcases hanswer : b.run .none (b.construct factory spec) env with ⟨outcome, left⟩
      simp only [hfind, hanswer] at h hkept ⊢
      cases houtcome : outcome.toExcept with
      | ok system =>
          rw [houtcome] at h
          cases h
      | error message => exact hkept

namespace Custody

theorem Sound.operate
    {c : Custody G} (h : c.Sound) (operation : Operation G) (held : List (Attachment G)) :
    (c.operate b operation held).Sound := by
  unfold Custody.operate
  split
  · exact h
  · rename_i hgone
    intro _
    obtain ⟨log, hlog⟩ := h (Bool.eq_false_iff.2 hgone)
    exact ⟨_, hlog.operate operation⟩

theorem Sound.withEnv
    {c : Custody G} (h : c.Sound) (env : Environment G)
    (hgrows : c.env.orphaned = false → c.env.Grows env) (held : List (Attachment G)) :
    Sound { c.withEnv env with held := held } := by
  intro hgone
  obtain ⟨log, hlog⟩ := h hgone
  exact ⟨log, hlog.grow (hgrows hlog.alive)⟩

/-- **Dealings keep the handles apart.** -/
theorem Sound.deal {c : Custody G} (h : c.Sound) (d : Dealing G) : (c.deal b d).Sound := by
  cases d with
  | operate operation => exact h.operate operation c.held
  | arrange arrangement =>
      exact h.withEnv ({ arrangement with loader := c.env.loader }.within c.env)
        (fun _ => Environment.Grows.of_eq rfl rfl rfl) c.held
  | run access program => exact h.withEnv _ (fun halive => grows_run halive access program) c.held
  | register name factory =>
      exact h.withEnv { c.env with loader := c.env.loader.register name factory }
        (fun _ => Environment.Grows.of_eq rfl rfl rfl) c.held
  | unregister name =>
      exact h.withEnv { c.env with loader := c.env.loader.unregister name }
        (fun _ => Environment.Grows.of_eq rfl rfl rfl) c.held
  | load spec =>
      have hgrows : c.env.orphaned = false → c.env.Grows (b.load spec c.env).2 :=
        fun halive => grows_load halive spec
      simp only [Custody.deal]
      rcases hanswer : b.load spec c.env with ⟨cause | a, env⟩
      · rw [hanswer] at hgrows
        exact h.withEnv _ hgrows c.held
      · rw [hanswer] at hgrows
        exact h.withEnv _ hgrows _
  | attach index entity config =>
      simp only [Custody.deal]
      split
      · exact h.operate _ _
      · exact h
  | queue index entity config =>
      simp only [Custody.deal]
      split
      · exact h.withEnv _ (fun _ => Environment.Grows.queueAttach c.env _ entity config) _
      · exact h
  | drop index =>
      simp only [Custody.deal]
      split
      · exact h.withEnv _ (fun halive => grows_release halive _) _
      · exact h
  | close =>
      simp only [Custody.deal]
      split
      · exact h
      · intro hgone
        cases hgone

/-- What the host hands over is not in its hands any more. -/
theorem balanced_operate
    (hb : b.Honest) {c : Custody G} (hsound : c.Sound) {operation : Operation G}
    (hfair : operation.IsFair) {held : List (Attachment G)}
    (h : SimEngine.Balanced (operation.brought?.toList ++ c.engine.attachments ++ held) c.env)
    (hgone : c.gone = false) : (c.operate b operation held).Balanced := by
  obtain ⟨log, hlog⟩ := hsound hgone
  unfold Custody.operate
  rw [hgone]
  exact balanced_operation hb hlog.nodup_handles hfair h

/-- Who takes a system from what is held has it beside the rest. -/
theorem Balanced.take
    {c : Custody G} (h : c.Balanced) {index : Nat} {a : Attachment G}
    (ha : c.held[index]? = some a) :
    SimEngine.Balanced (a :: (c.engine.attachments ++ c.held.eraseIdx index)) c.env := by
  refine SimEngine.Balanced.congr h fun plugin => ?_
  rw [countedIn_cons, countedIn_append, countedIn_append, countedIn_eraseIdx ha plugin]
  omega

/-- What an honest operation brings along is not counted. -/
theorem Balanced.brought
    {c : Custody G} (h : c.Balanced) {operation : Operation G}
    (hd : (Dealing.operate operation).Honest) :
    SimEngine.Balanced (operation.brought?.toList ++ c.engine.attachments ++ c.held) c.env := by
  refine SimEngine.Balanced.congr h fun plugin => ?_
  cases hbrought : operation.brought? with
  | none => rfl
  | some a =>
      have hnone := countedIn_of_not_counted (hd.2 a hbrought) plugin
      simp only [countedIn_append, Option.toList_some, hnone, Nat.zero_add]

/-- **Dealings keep the counts right.** -/
theorem Balanced.deal
    (hb : b.Honest) {c : Custody G} (hsound : c.Sound) (h : c.Balanced) {d : Dealing G}
    (hd : d.Honest) : (c.deal b d).Balanced := by
  -- Without an engine, an operation changes nothing.
  have hoperate : ∀ {operation : Operation G} {held : List (Attachment G)}, operation.IsFair →
      SimEngine.Balanced (operation.brought?.toList ++ c.engine.attachments ++ held) c.env →
      (c.operate b operation held).Balanced := by
    intro operation held hfair hbalanced
    cases hgone : c.gone with
    | false => exact balanced_operate hb hsound hfair hbalanced hgone
    | true =>
        unfold Custody.operate
        rw [hgone]
        exact h
  cases d with
  | operate operation => exact hoperate hd.1 (h.brought hd)
  | arrange arrangement => exact SimEngine.Balanced.of_eq h rfl rfl
  | run access program => exact keeping_run hb access program hd _ _ h
  | register name factory => exact h
  | unregister name => exact h
  | load spec =>
      have hload := balanced_load hb spec h
      simp only [Custody.deal]
      rcases hanswer : b.load spec c.env with ⟨cause | a, env⟩
      · rw [hanswer] at hload
        exact hload
      · rw [hanswer] at hload
        refine SimEngine.Balanced.congr hload.2 fun plugin => ?_
        show countedIn plugin (c.engine.attachments ++ (c.held ++ [a])) = _
        rw [countedIn_cons, countedIn_append, countedIn_append, countedIn_append]
        omega
  | attach index entity config =>
      simp only [Custody.deal]
      split
      · rename_i a ha
        have hfair : (Operation.attach a entity config).IsFair := trivial
        exact hoperate hfair (h.take ha)
      · exact h
  | queue index entity config =>
      simp only [Custody.deal]
      split
      · rename_i a ha
        exact (h.take ha).queueAttach entity config
      · exact h
  | drop index =>
      simp only [Custody.deal]
      split
      · rename_i a ha
        exact (balanced_release hb a (h.take ha)).1
      · exact h
  | close =>
      simp only [Custody.deal]
      split
      · exact h
      · rename_i hgone
        obtain ⟨log, hlog⟩ := hsound (Bool.eq_false_iff.2 hgone)
        have hfair : (Operation.clear : Operation G).IsFair := trivial
        have hclear := balanced_operation hb hlog.nodup_handles hfair h
        have horphan : SimEngine.Balanced ((c.engine.clear b).attachments ++ c.held)
            (c.orphan b) := SimEngine.Balanced.of_eq hclear rfl rfl
        exact keeping_tidy hb _ _ horphan

/-- **The counts are right after all dealings.** -/
theorem balanced_dealAll
    (hb : b.Honest) {c : Custody G} (hsound : c.Sound) (h : c.Balanced)
    {dealings : List (Dealing G)} (hd : ∀ d ∈ dealings, d.Honest) :
    (c.dealAll b dealings).Sound ∧ (c.dealAll b dealings).Balanced := by
  induction dealings generalizing c with
  | nil => exact ⟨hsound, h⟩
  | cons d rest ih =>
      exact ih (hsound.deal d) (h.deal hb hsound (hd d List.mem_cons_self))
        fun d' hd' => hd d' (List.mem_cons_of_mem d hd')

theorem sound_fresh (b : Behavior G) (memory : G.Memory) : (fresh memory : Custody G).Sound :=
  fun _ => ⟨[], (Engine.Reached.fresh (b := b) memory).sound⟩

theorem balanced_fresh (memory : G.Memory) : (fresh memory : Custody G).Balanced :=
  fun _ => rfl

/-- A system that the engine cannot load changes neither a count nor the scheduler. -/
theorem reckons_loadAndAttach
    {c : Custody G} (hsound : c.Sound) (spec : PluginSpec) :
    c.Reckons b (.operate (.loadAndAttach spec)) := by
  intro cause hcause
  cases hgone : c.gone with
  | true =>
      have hsame : c.deal b (.operate (.loadAndAttach spec)) = c := by
        show c.operate b _ _ = c
        unfold Custody.operate
        rw [hgone]
        rfl
      rw [hsame]
      exact ⟨rfl, rfl⟩
  | false =>
      obtain ⟨log, hlog⟩ := hsound hgone
      have hloader := loader_of_load_error hlog.alive hcause
      have hafter : (c.deal b (.operate (.loadAndAttach spec))).engine =
          { c.engine with env := (b.load spec c.env).2 } := by
        show (c.operate b _ _).engine = _
        unfold Custody.operate
        rw [hgone]
        show (c.engine.loadAndAttach b spec).2 = _
        unfold Engine.loadAndAttach
        have hcause' : (b.load spec c.engine.env).1 = .error cause := hcause
        rcases hanswer : b.load spec c.engine.env with ⟨_ | a, env⟩
        · rw [Custody.env, hanswer]
        · rw [hanswer] at hcause'
          cases hcause'
      rw [Custody.env, hafter]
      exact ⟨rfl, hloader⟩

/-- A system that the host has loaded is counted for the plugin of that name. -/
theorem reckons_load
    (hb : b.Honest) {c : Custody G} (hsound : c.Sound) (h : c.Balanced) (spec : PluginSpec) :
    c.Reckons b (.load spec) := by
  have hloader : ∀ cause, (b.load spec c.env).1 = .error cause → c.gone = false →
      (b.load spec c.env).2.loader = c.env.loader := by
    intro cause hcause hgone
    obtain ⟨log, hlog⟩ := hsound hgone
    exact loader_of_load_error hlog.alive hcause
  have hload := balanced_load hb spec h
  simp only [Reckons, Custody.deal]
  rcases hanswer : b.load spec c.env with ⟨cause | a, env⟩
  · rw [hanswer] at hloader
    exact ⟨rfl, rfl, hloader cause rfl⟩
  · rw [hanswer] at hload
    refine ⟨rfl, fun plugin => ?_⟩
    rw [Attachment.isCountedFor, hload.1, decide_eq_true_iff]
    exact ⟨fun heq => (Ownership.plugin.inj heq).1.symm, fun heq => heq ▸ rfl⟩

/-- What an engine leaves in its queue at its end is counted off, if nobody can reach it. -/
theorem reckons_close
    (hb : b.Honest) {c : Custody G} (hsound : c.Sound) (h : c.Balanced) : c.Reckons b .close := by
  intro hgone hunreached
  obtain ⟨log, hlog⟩ := hsound hgone
  have hfair : (Operation.clear : Operation G).IsFair := trivial
  have hclear := balanced_operation hb hlog.nodup_handles hfair h
  have horphan : SimEngine.Balanced (queuedIn (c.orphan b).commands ++
      ((c.engine.clear b).attachments ++ c.held)) { c.orphan b with commands := [] } := by
    intro plugin
    rw [countedIn_append]
    exact (hclear plugin).trans (Nat.zero_add _).symm
  have hrun : ∀ p : Program G Unit, p.Honest → Keeping (b.runUntidied p) :=
    fun p hp => keeping_program (keeping_emit hb) (fun _ _ h => h) .none p hp
  refine ⟨?_, (balanced_releaseCommands hb hrun (c.orphan b).commands horphan).2⟩
  simp only [Custody.deal, hgone]
  show b.tidy (c.orphan b) = _
  unfold Behavior.tidy Behavior.tidyWith
  rw [hunreached]
  rfl

/-- **What becomes of the counts in a dealing.** -/
theorem reckons
    (hb : b.Honest) {c : Custody G} (hsound : c.Sound) (h : c.Balanced) (d : Dealing G) :
    c.Reckons b d := by
  cases d with
  | operate operation =>
      cases operation with
      | loadAndAttach spec => exact reckons_loadAndAttach hsound spec
      | _ => trivial
  | register name factory => exact fun _ => rfl
  | unregister name => exact fun _ => rfl
  | load spec => exact reckons_load hb hsound h spec
  | drop index => exact fun a ha => (balanced_release hb a (h.take ha)).2
  | close => exact reckons_close hb hsound h
  | _ => trivial

/-- What a dealing hands over to the engine is not held any more. -/
theorem handed_over
    {c : Custody G} (hsound : c.Sound) (h : c.Balanced) {d : Dealing G} (hd : d.Honest)
    {operation : Operation G} (hoperation : c.operationOf? d = some operation) :
    c.env.orphaned = false ∧ c.engine.scheduler.handles.Nodup ∧ operation.IsFair ∧
      SimEngine.Balanced
        (operation.brought?.toList ++ c.engine.attachments ++ (c.deal b d).held) c.env := by
  unfold operationOf? at hoperation
  cases hgone : c.gone with
  | true =>
      rw [hgone] at hoperation
      cases hoperation
  | false =>
      obtain ⟨log, hlog⟩ := hsound hgone
      refine ⟨hlog.alive, hlog.nodup_handles, ?_⟩
      simp only [hgone, Bool.false_eq_true, if_false] at hoperation
      cases d with
      | operate operation' =>
          obtain rfl := Option.some.inj hoperation
          have hheld : (c.deal b (.operate operation')).held = c.held := by
            simp [Custody.deal, Custody.operate, hgone]
          rw [hheld]
          exact ⟨hd.1, h.brought hd⟩
      | attach index entity config =>
          obtain ⟨a, ha, rfl⟩ := Option.map_eq_some_iff.1 hoperation
          have hheld : (c.deal b (.attach index entity config)).held = c.held.eraseIdx index := by
            simp [Custody.deal, Custody.operate, hgone, ha]
          rw [hheld]
          exact ⟨trivial, h.take ha⟩
      | close =>
          obtain rfl := Option.some.inj hoperation
          have hheld : (c.deal b .close).held = c.held := by
            simp [Custody.deal, hgone]
          rw [hheld]
          exact ⟨trivial, h⟩
      | _ => cases hoperation

/-- In between the acts of a dealing, the counts are right with what is underway. -/
theorem balanced_moment
    (hb : b.Honest) {c : Custody G} (hsound : c.Sound) (h : c.Balanced) {d : Dealing G}
    (hd : d.Honest) {past rest : List (Moment G)} {m : Moment G}
    (hsplit : c.momentsOf b d = past ++ m :: rest) :
    (past ≠ [] → Steady (c.deal b d).held m.before (m.act :: rest.map Moment.act)) ∧
      ∃ outside, SimEngine.Balanced (m.before.attachments ++ outside) m.before.env := by
  unfold momentsOf at hsplit
  cases hoperation : c.operationOf? d with
  | none =>
      rw [hoperation] at hsplit
      cases past <;> cases hsplit
  | some operation =>
      rw [hoperation] at hsplit
      obtain ⟨_, hdistinct, hfair, hbefore⟩ := handed_over (b := b) hsound h hd hoperation
      have hsteady := (keepsSteady_operation hb hdistinct hfair hbefore).2 past m rest hsplit
      refine ⟨hsteady, ?_⟩
      by_cases hpast : past = []
      · subst hpast
        have hm : m.before = c.engine := by
          simp only [Engine.momentsOf] at hsplit
          cases hacts : c.engine.actsOf b operation with
          | nil =>
              rw [hacts] at hsplit
              cases hsplit
          | cons act acts =>
              rw [hacts] at hsplit
              exact congrArg Moment.before (List.cons.inj hsplit).1.symm
        rw [hm]
        refine ⟨operation.brought?.toList ++ (c.deal b d).held,
          SimEngine.Balanced.congr hbefore fun plugin => ?_⟩
        simp only [countedIn_append]
        omega
      · refine ⟨underway (m.act :: rest.map Moment.act) ++ (c.deal b d).held,
          SimEngine.Balanced.congr (hsteady hpast) fun plugin => ?_⟩
        simp only [countedIn_append]
        omega

end Custody

/--
**The counts of a loader are right.**  Whatever the host has done with an engine and with systems
that it has loaded, as many instances of a plugin are counted as there are with the host, in the
queue and in the scheduler together.  The same holds in between the acts of what it does next, with
the systems that are underway to the scheduler.  An instance that leaves is counted off, so that no
count that is to go down is zero, and no guest code changes a count.
-/
theorem live_instances_eq (b : Behavior G) (hb : b.Honest) (memory : G.Memory)
    {dealings : List (Dealing G)} (hdealings : ∀ d ∈ dealings, d.Honest) {c : Custody G}
    (hc : (Custody.fresh memory).dealAll b dealings = c) :
    (∀ plugin, c.env.loader.liveInstances plugin =
      countedIn plugin c.held + countedIn plugin (queuedIn c.env.commands) +
        countedIn plugin c.engine.attachments) ∧
    ∀ d : Dealing G, d.Honest →
      (∀ past m rest, c.momentsOf b d = past ++ m :: rest → past ≠ [] →
        ∀ plugin, m.before.env.loader.liveInstances plugin =
          countedIn plugin (c.deal b d).held + countedIn plugin (queuedIn m.before.env.commands) +
            countedIn plugin m.before.attachments +
            countedIn plugin (underway (m.act :: rest.map Moment.act))) ∧
      (∀ m ∈ c.momentsOf b d,
        (∀ i env, m.departure? = some (i, env) →
          (m.after b).env = b.release i.attachment env ∧
            b.CountsOff b.runQuietly i.attachment env) ∧
        ∀ s ∈ m.guestRuns b, (s.after b).loader = s.before.loader ∧
          ∀ o ∈ s.log b, o.env.loader = s.before.loader) ∧
      c.Reckons b d := by
  obtain ⟨hsound, hbalanced⟩ := Custody.balanced_dealAll hb
    (Custody.sound_fresh b memory) (Custody.balanced_fresh memory) hdealings
  rw [hc] at hsound hbalanced
  refine ⟨fun plugin => ?_, fun d hd => ⟨?_, ?_, Custody.reckons hb hsound hbalanced d⟩⟩
  · have hplugin := hbalanced plugin
    rw [countedIn_append] at hplugin
    omega
  · intro past m rest hsplit hpast plugin
    have hplugin := (Custody.balanced_moment hb hsound hbalanced hd hsplit).1 hpast plugin
    simp only [countedIn_append] at hplugin
    omega
  · intro m hm
    refine ⟨fun i env hdeparture => ?_, fun s hs => ?_⟩
    · obtain ⟨past, rest, hsplit⟩ := List.append_of_mem hm
      obtain ⟨outside, hbefore⟩ :=
        (Custody.balanced_moment hb hsound hbalanced hd hsplit).2
      exact ⟨(env_after_departure hdeparture).1, (balanced_departure hb hdeparture hbefore).2⟩
    · unfold Custody.momentsOf at hm
      cases hoperation : c.operationOf? d with
      | none =>
          rw [hoperation] at hm
          cases hm
      | some operation =>
          rw [hoperation] at hm
          obtain ⟨halive, _⟩ := Custody.handed_over (b := b) hsound hbalanced hd hoperation
          exact loader_of_moment halive hm hs

end Dealings

namespace Puppets

theorem honest_idle : idle.Honest where
  configure _ _ := trivial
  configureParameters _ := trivial
  phase _ _ _ := trivial
  onQuery _ _ _ := trivial
  onSignal _ _ := trivial
  construct _ _ := trivial
  discard _ := trivial
  giveBack _ := trivial
  unloaded _ := trivial

/-- Of two systems that the host has loaded, it queues one and holds the other. -/
def booking : List (Dealing puppets) :=
  [.register "actor" (1 : Nat), .load (.ofName "actor"), .load (.ofName "actor"),
    .unregister "actor", .load (.ofName "actor"), .queue 0 .null .empty]

/-- The host's next step. -/
def premiere : Dealing puppets :=
  .operate (.step (.first .zero))

end Puppets

theorem live_instances_eq_booking :
    Puppets.idle.Honest ∧ (∀ d ∈ Puppets.booking, d.Honest) ∧ Puppets.premiere.Honest ∧
    ∃ c : Custody puppets, (Custody.fresh (0 : Nat)).dealAll Puppets.idle Puppets.booking = c ∧
      c.env.loader.liveInstances "actor" = 2 ∧
      countedIn "actor" c.held = 1 ∧ countedIn "actor" (queuedIn c.env.commands) = 1 ∧
      ∃ m rest, c.momentsOf Puppets.idle Puppets.premiere =
          ⟨c.engine, .collect⟩ :: m :: rest ∧
        m.before.env.loader.liveInstances "actor" = 2 ∧
        countedIn "actor" (queuedIn m.before.env.commands) = 0 ∧
        countedIn "actor" (underway (m.act :: rest.map Moment.act)) = 1 := by
  have hdealings : ∀ d ∈ Puppets.booking, d.Honest := by
    simp [Puppets.booking, Dealing.Honest]
  have hnext : Puppets.premiere.Honest := ⟨trivial, fun _ ha => nomatch ha⟩
  obtain ⟨hcount, hmoments⟩ :=
    live_instances_eq Puppets.idle Puppets.honest_idle (0 : Nat) hdealings rfl
  refine ⟨Puppets.honest_idle, hdealings, hnext, _, rfl, ?_, rfl, rfl, _, _, rfl, ?_, rfl, rfl⟩
  · exact hcount "actor"
  · exact (hmoments Puppets.premiere hnext).1 [_] _ _ rfl (List.cons_ne_nil _ _) "actor"

end SimEngine
