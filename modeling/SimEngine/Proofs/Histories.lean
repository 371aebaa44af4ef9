import SimEngine.Proofs.Reachable
import SimEngine.Proofs.GuestRuns

/-!
# Histories

An operation of the host is a row of acts: a handle is handed out, a request is
carried out, the waiting instances are admitted, an instance has its turn, and
so on.  The history of a run lists its acts, each with the engine that does it;
it tells all guest code that is run, and on whose behalf.

**Definitions.**
* `Act`, `Engine.perform`: the acts of an engine, and what each comes to.
* `Engine.actsOf`: the acts of an operation.
* `Moment`, `Engine.history`: an act with the engine before it, and the moments
  of a run.
* `Moment.guestRuns`, `Moment.departure?`: the guest code that is run at a moment,
  and the instance that leaves.
* `Accounts`: moments follow one another, and the guest code that is run at them
  accounts for what becomes of the environment.

**Results.**
* `operate_eq_foldl`: an operation is the row of its acts.
* `departure_cases`, `env_of_departure`: who leaves at a moment, and what the
  departure leaves.
* `accounts_history`: a history accounts for its run.
-/

namespace SimEngine

variable {G : Guest}

/-- Who asks for an attachment or a detachment. -/
inductive Mandate where
  | host
  | queue
  deriving DecidableEq, Repr

/-- One thing that an engine does. -/
inductive Act (G : Guest) where
  /-- A handle is handed out. -/
  | reserve
  /-- A system is made by the name of its plugin. -/
  | load (spec : PluginSpec)
  /-- The queue is emptied, to be carried out. -/
  | collect
  /-- An attachment or a detachment is carried out. -/
  | carryOut (mandate : Mandate) (command : Command G)
  /-- The waiting instances are admitted. -/
  | admitAll
  /-- An instance has its turn in a step, given the instances that have failed. -/
  | turn (info : StepInfo) (failed : List Handle) (slot : Pass × Instance G)
  | reconfigure (handle : Handle) (config : Option Payload)
  /-- The instance attached last is taken out. -/
  | expel
  /-- The host has code of its own run. -/
  | run (access : Access) (program : Program G Unit)
  /-- The host sets things up beside the scheduler. -/
  | arrange (arrangement : Arrangement G)

/-- The instance attached last, and the scheduler without it. -/
def Scheduler.newest? (s : Scheduler G) : Option (Instance G × Scheduler G) :=
  match s.pending.getLast?, s.instances.getLast? with
  | some i, _ => some (i, { s with pending := s.pending.dropLast })
  | none, some i => some (i, { s with instances := s.instances.dropLast })
  | none, none => none

namespace Engine

variable (b : Behavior G)

/-- The engine after an act. -/
def perform (e : Engine G) : Act G → Engine G
  | .reserve => { e with env := e.env.freshHandle.2 }
  | .load spec => { e with env := (b.load spec e.env).2 }
  | .collect => { e with env := { e.env with commands := [] } }
  | .carryOut _ command => e.apply b command
  | .admitAll => { e with scheduler := e.scheduler.admitPending }
  | .turn info failed slot => { e with env := (b.turn info failed slot e.env).after }
  | .reconfigure handle config =>
    match e.reconfigure b handle config with
    | .ok (_, e) => e
    | .error _ => e
  | .expel =>
    match e.scheduler.newest? with
    | some (i, s) => ⟨s, retireAll b e.env [i]⟩
    | none => e
  | .run access program => { e with env := (b.run access program e.env).2 }
  | .arrange arrangement => { e with env := arrangement.within e.env }

/-- The acts of the turns for slots. -/
def turnActs (info : StepInfo) :
    List Handle → List (Pass × Instance G) → Environment G → List (Act G)
  | _, [], _ => []
  | failed, slot :: rest, env =>
    let t := b.turn info failed slot env
    .turn info failed slot :: turnActs info (markFault failed t) rest t.after

/-- The acts of an attachment by the host. -/
def attachActs (handle : Handle) (attachment : Attachment G) (entity : Entity)
    (config : Payload) : List (Act G) :=
  [.reserve, .carryOut .host (.attach handle attachment entity config)]

/-- The acts of a step. -/
def stepActs (e : Engine G) (info : StepInfo) : List (Act G) :=
  .collect :: (e.env.commands.map (.carryOut .queue) ++
    .admitAll :: turnActs b info [] (slots (e.beginStep b).scheduler.instances) (e.beginStep b).env)

/-- The acts of an operation. -/
def actsOf (e : Engine G) : Operation G → List (Act G)
  | .attach attachment entity config => attachActs ⟨e.env.nextHandle⟩ attachment entity config
  | .loadAndAttach spec =>
    .load spec ::
      match b.load spec e.env with
      | (.ok attachment, env) => attachActs ⟨env.nextHandle⟩ attachment spec.entity spec.config
      | (.error _, _) => []
  | .detach handle => [.carryOut .host (.detach handle)]
  | .reconfigure handle config => [.reconfigure handle config]
  | .step info => e.stepActs b info
  | .clear => List.replicate e.scheduler.size .expel
  | .run access program => [.run access program]
  | .arrange arrangement => [.arrange arrangement]

end Engine

/-- An act, and the engine that does it. -/
structure Moment (G : Guest) where
  before : Engine G
  act : Act G

/-- The engine after a moment. -/
def Moment.after (b : Behavior G) (m : Moment G) : Engine G :=
  m.before.perform b m.act

namespace Engine

variable (b : Behavior G)

/-- The engine in which nothing has happened. -/
def fresh (memory : G.Memory) : Engine G :=
  ⟨.empty, .initial memory⟩

/-- The moments of a row of acts. -/
def moments : Engine G → List (Act G) → List (Moment G)
  | _, [] => []
  | e, act :: rest => ⟨e, act⟩ :: moments (e.perform b act) rest

/-- The moments of an operation. -/
def momentsOf (e : Engine G) (operation : Operation G) : List (Moment G) :=
  e.moments b (e.actsOf b operation)

/-- The engine after operations. -/
def operateAll (e : Engine G) (operations : List (Operation G)) : Engine G :=
  operations.foldl (operate b) e

/-- The moments of operations. -/
def history : Engine G → List (Operation G) → List (Moment G)
  | _, [] => []
  | e, operation :: rest => e.momentsOf b operation ++ history (e.operate b operation) rest

/-- The environment of an attachment once its query list is there, and the instance made. -/
def newcomer (e : Engine G) (handle : Handle) (attachment : Attachment G) (entity : Entity)
    (config : Payload) : Instance G × Environment G :=
  Instance.create b handle attachment entity config e.env

/-- The calls that are made when a system is attached. -/
def attaching (e : Engine G) (handle : Handle) (attachment : Attachment G) (entity : Entity)
    (config : Payload) : List (GuestRun G) :=
  let made := e.newcomer b handle attachment entity config
  let configured := made.1.configure b none made.2
  made.1.configuring b none made.2 ++ configured.1.declaring b configured.2

end Engine

/-- What is run when an instance leaves, if one does. -/
def Behavior.dismissing (b : Behavior G) :
    Option (Instance G × Environment G) → List (GuestRun G)
  | some (i, env) => b.releasing i.attachment env
  | none => []

/-- The environment in which the queries of an instance were dropped. -/
def Environment.dropQueries (env : Environment G) (list : Handle) : Environment G :=
  env.setQueryList list (env.queryList list).clear

namespace Moment

variable (b : Behavior G)

/--
The instance that leaves at a moment, and the environment in which its system is let go of: its
queries are dropped by then.
-/
def departure? (m : Moment G) : Option (Instance G × Environment G) :=
  match m.act with
  | .carryOut _ (.detach handle) =>
    (m.before.scheduler.instance? handle).map fun i =>
      (i, (m.before.env.dropQueries i.handle).report (.detached i.handle i.name))
  | .expel => m.before.scheduler.newest?.map fun (i, _) => (i, m.before.env.dropQueries i.handle)
  | _ => none

/-- The guest code that is run at a moment. -/
def guestRuns (m : Moment G) : List (GuestRun G) :=
  match m.act with
  | .load spec => m.before.env.loading spec
  | .carryOut _ (.attach handle attachment entity config) =>
    m.before.attaching b handle attachment entity config
  | .carryOut _ (.detach _) | .expel => b.dismissing m.departure?
  | .turn info failed slot => (b.turn info failed slot m.before.env).guestRuns b info
  | .reconfigure handle config =>
    match m.before.scheduler.instance? handle with
    | some i => i.configuring b config m.before.env
    | none => []
  | .run access program => [⟨.host access program, m.before.env⟩]
  | .reserve | .collect | .admitAll | .arrange _ => []

/-- The environment of a moment before guest code is run. -/
def ready (m : Moment G) : Environment G :=
  match m.act with
  | .reserve => m.before.env.freshHandle.2
  | .collect => { m.before.env with commands := [] }
  | .arrange arrangement => arrangement.within m.before.env
  | _ => m.before.env

/-- The requests that guest code makes at a moment. -/
def log (m : Moment G) : List (Occurrence G) :=
  (m.guestRuns b).flatMap (GuestRun.log b)

end Moment

/-- The moments lead from one engine to another, and no guest code is run but in their runs. -/
structure Accounts (b : Behavior G) (e : Engine G) (moments : List (Moment G)) (e' : Engine G) :
    Prop where
  linked : Linked Moment.before (Moment.after b) e moments e'
  accounted : ∀ m ∈ moments, Engine.Accounted b m.ready (m.guestRuns b) (m.after b).env

namespace Scheduler

theorem newest?_eq_none_iff (s : Scheduler G) : s.newest? = none ↔ s.all = [] := by
  unfold newest? all
  cases hpending : s.pending.getLast? with
  | some i =>
      have hne : s.pending ≠ [] := by
        rintro heq
        simp [heq] at hpending
      simp [hne]
  | none =>
      cases hinstances : s.instances.getLast? with
      | some i =>
          have hne : s.instances ≠ [] := by
            rintro heq
            simp [heq] at hinstances
          simp [hne]
      | none =>
          simp [List.getLast?_eq_none_iff.1 hpending, List.getLast?_eq_none_iff.1 hinstances]

theorem all_of_newest?
    {s s' : Scheduler G} {i : Instance G} (h : s.newest? = some (i, s')) :
    s.all = s'.all ++ [i] := by
  unfold newest? at h
  split at h
  · rename_i j _ hlast
    obtain ⟨rfl, rfl⟩ := Prod.mk.inj (Option.some.inj h)
    obtain ⟨rest, hrest⟩ := List.getLast?_eq_some_iff.1 hlast
    simp [all, hrest]
  · rename_i j hpending hlast
    obtain ⟨rfl, rfl⟩ := Prod.mk.inj (Option.some.inj h)
    obtain ⟨rest, hrest⟩ := List.getLast?_eq_some_iff.1 hlast
    simp [all, hrest, List.getLast?_eq_none_iff.1 hpending]
  · cases h

theorem length_all (s : Scheduler G) : s.all.length = s.size :=
  List.length_append

end Scheduler

section Acts

variable (b : Behavior G)

theorem foldl_turnActs
    (info : StepInfo) (failed : List Handle) (slots : List (Pass × Instance G)) (e : Engine G) :
    (Engine.turnActs b info failed slots e.env).foldl (Engine.perform b) e =
      { e with env := lastOf Turn.after e.env (b.turns info failed slots e.env) } := by
  induction slots generalizing failed e with
  | nil =>
      rfl
  | cons slot rest ih =>
      exact ih _ (e.perform b (.turn info failed slot))

/-- The instances are taken out one by one, the one attached last first. -/
theorem foldl_expel (e : Engine G) :
    (List.replicate e.scheduler.size (.expel : Act G)).foldl (Engine.perform b) e =
      e.clear b := by
  generalize hsize : e.scheduler.size = n
  rw [← Scheduler.length_all] at hsize
  induction n generalizing e with
  | zero =>
      obtain ⟨⟨instances, pending⟩, env⟩ := e
      obtain ⟨rfl, rfl⟩ := List.append_eq_nil_iff.1 (List.eq_nil_of_length_eq_zero hsize)
      rfl
  | succ n ih =>
      cases hnewest : e.scheduler.newest? with
      | none =>
          rw [(Scheduler.newest?_eq_none_iff _).1 hnewest] at hsize
          cases hsize
      | some last =>
          obtain ⟨i, s⟩ := last
          have hall := Scheduler.all_of_newest? hnewest
          have hperform : e.perform b .expel = ⟨s, Engine.retireAll b e.env [i]⟩ := by
            simp only [Engine.perform, hnewest]
          have hlength : s.all.length = n := by
            rw [hall, List.length_append] at hsize
            exact Nat.succ.inj hsize
          rw [List.replicate_succ, List.foldl_cons, hperform, ih _ hlength, Engine.clear,
            Engine.clear, hall, List.reverse_append]
          rfl

theorem foldl_stepActs (e : Engine G) (info : StepInfo) :
    (e.stepActs b info).foldl (Engine.perform b) e = (e.runStep b info).2 := by
  have hbatch : (e.env.commands.map (.carryOut .queue)).foldl (Engine.perform b)
      { e with env := { e.env with commands := [] } } = e.applyCommands b := by
    rw [List.foldl_map]
    rfl
  have hturns := foldl_turnActs b info [] (slots (e.beginStep b).scheduler.instances)
    (e.beginStep b)
  rw [Engine.stepActs, List.foldl_cons, List.foldl_append, List.foldl_cons]
  show List.foldl _ (Engine.perform b (List.foldl (Engine.perform b)
    { e with env := { e.env with commands := [] } } _) .admitAll) _ = _
  rw [hbatch]
  show List.foldl _ (e.beginStep b) _ = _
  rw [hturns, Engine.runStep, passThrough_eq]

/-- **An operation is the row of its acts.** -/
theorem operate_eq_foldl (e : Engine G) (operation : Operation G) :
    (e.actsOf b operation).foldl (Engine.perform b) e = e.operate b operation := by
  cases operation with
  | loadAndAttach spec =>
      have hload : e.perform b (.load spec) = { e with env := (b.load spec e.env).2 } := rfl
      rw [Engine.actsOf, Engine.operate, Engine.loadAndAttach, List.foldl_cons, hload]
      rcases b.load spec e.env with ⟨cause | attachment, env⟩
      · rfl
      · rfl
  | step info => exact foldl_stepActs b e info
  | clear => exact foldl_expel b e
  | detach handle =>
      show e.apply b (.detach handle) = e.operate b (.detach handle)
      cases hdetach : e.detach b handle with
      | ok left => simp only [Engine.apply, Engine.operate, hdetach]
      | error cause => simp only [Engine.apply, Engine.operate, hdetach]
  | _ => rfl

theorem moments_append (e : Engine G) (first second : List (Act G)) :
    e.moments b (first ++ second) =
      e.moments b first ++ (first.foldl (Engine.perform b) e).moments b second := by
  induction first generalizing e with
  | nil =>
      rfl
  | cons act rest ih =>
      rw [List.cons_append, Engine.moments, ih]
      rfl

theorem map_act_moments (e : Engine G) (acts : List (Act G)) :
    (e.moments b acts).map Moment.act = acts := by
  induction acts generalizing e with
  | nil =>
      rfl
  | cons act rest ih =>
      rw [Engine.moments, List.map_cons, ih]

theorem history_append (e : Engine G) (first second : List (Operation G)) :
    e.history b (first ++ second) =
      e.history b first ++ (e.operateAll b first).history b second := by
  induction first generalizing e with
  | nil =>
      rfl
  | cons operation rest ih =>
      rw [List.cons_append, Engine.history, ih, Engine.history, List.append_assoc]
      rfl

end Acts

section Accounts

variable {b : Behavior G}

theorem threaded_attachAs
    (e : Engine G) (handle : Handle) (attachment : Attachment G) (entity : Entity)
    (config : Payload) :
    Engine.Accounted b e.env (e.attaching b handle attachment entity config)
      (e.attachAs b handle attachment entity config).env := by
  have hmade : e.env.Still (e.newcomer b handle attachment entity config).2 :=
    Environment.Still.setQueryList e.env handle .empty
  have hconfigured := threaded_configure (b := b)
    (e.newcomer b handle attachment entity config).1 none
    (e.newcomer b handle attachment entity config).2
  exact ((hconfigured.append (threaded_configureParameters _)).earlier hmade).later
    (Environment.Still.report _ _)

/--
**Who leaves, and how**: an instance that is detached by its handle, or the newest one when all are
detached; only the former is reported.
-/
theorem departure_cases
    {m : Moment G} {i : Instance G} {env : Environment G} (h : m.departure? = some (i, env)) :
    (∃ mandate, m.act = .carryOut mandate (.detach i.handle) ∧
      m.before.scheduler.instance? i.handle = some i ∧
      env = (m.before.env.dropQueries i.handle).report (.detached i.handle i.name)) ∨
    ∃ left, m.act = .expel ∧ m.before.scheduler.newest? = some (i, left) ∧
      env = m.before.env.dropQueries i.handle := by
  obtain ⟨e, act⟩ := m
  cases act with
  | carryOut mandate command =>
      cases command with
      | attach handle attachment entity config =>
          cases h
      | detach handle =>
          obtain ⟨j, hfind, heq⟩ := Option.map_eq_some_iff.1 h
          obtain ⟨rfl, rfl⟩ := Prod.mk.inj heq
          obtain rfl : j.handle = handle := by simpa using List.find?_some hfind
          exact Or.inl ⟨mandate, rfl, hfind, rfl⟩
  | expel =>
      obtain ⟨⟨j, left⟩, hnewest, heq⟩ := Option.map_eq_some_iff.1 h
      obtain ⟨rfl, rfl⟩ := Prod.mk.inj heq
      exact Or.inr ⟨left, rfl, hnewest, rfl⟩
  | _ => cases h

/-- An instance leaves without its queries; all else is as it was, but for the journal. -/
theorem env_of_departure
    {m : Moment G} {i : Instance G} {env : Environment G} (h : m.departure? = some (i, env)) :
    ∃ journal, env = { m.before.env.dropQueries i.handle with journal := journal } := by
  rcases departure_cases h with ⟨_, -, -, rfl⟩ | ⟨_, -, -, rfl⟩
  · exact ⟨_, rfl⟩
  · exact ⟨_, rfl⟩

/-- The system of an instance that leaves is let go of in the environment of its departure. -/
theorem env_after_departure
    {m : Moment G} {i : Instance G} {env : Environment G} (h : m.departure? = some (i, env)) :
    (m.after b).env = b.release i.attachment env ∧ m.before.env.Still env ∧
      m.guestRuns b = b.releasing i.attachment env := by
  have hstill : m.before.env.Still env := by
    obtain ⟨_, rfl⟩ := env_of_departure h
    exact ⟨rfl, rfl, rfl, rfl, rfl, rfl, rfl, rfl⟩
  rcases departure_cases h with ⟨mandate, hact, hfind, henv⟩ | ⟨left, hact, hnewest, henv⟩
  · refine ⟨?_, hstill, by simp only [Moment.guestRuns, hact, Behavior.dismissing, h]⟩
    simp only [Moment.after, hact, Engine.perform, Engine.apply, Engine.detach, hfind, henv]
    rfl
  · refine ⟨?_, hstill, by simp only [Moment.guestRuns, hact, Behavior.dismissing, h]⟩
    simp only [Moment.after, hact, Engine.perform, hnewest, henv]
    rfl

/-- Where nobody leaves, a detachment changes nothing. -/
theorem after_of_no_departure
    {m : Moment G} (h : m.departure? = none)
    (hact : (∃ mandate handle, m.act = .carryOut mandate (.detach handle)) ∨ m.act = .expel) :
    m.after b = m.before ∧ m.guestRuns b = [] := by
  obtain ⟨e, act⟩ := m
  rcases hact with ⟨mandate, handle, hact⟩ | hact
  · obtain rfl : act = _ := hact
    have hfind : e.scheduler.instance? handle = none := Option.map_eq_none_iff.1 h
    refine ⟨?_, by simp only [Moment.guestRuns, Behavior.dismissing, h]⟩
    simp only [Moment.after, Engine.perform, Engine.apply, Engine.detach, hfind]
  · obtain rfl : act = _ := hact
    have hnewest : e.scheduler.newest? = none := Option.map_eq_none_iff.1 h
    refine ⟨?_, by simp only [Moment.guestRuns, Behavior.dismissing, h]⟩
    simp only [Moment.after, Engine.perform, hnewest]

/-- **The runs of a moment account for all that guest code does at it.** -/
theorem accounted_moment (m : Moment G) (halive : m.before.env.orphaned = false) :
    Engine.Accounted b m.ready (m.guestRuns b) (m.after b).env := by
  have hdismissed : ((∃ mandate handle, m.act = .carryOut mandate (.detach handle)) ∨
      m.act = .expel) → Engine.Accounted b m.before.env (m.guestRuns b) (m.after b).env := by
    intro hact
    cases hdeparture : m.departure? with
    | none =>
        obtain ⟨hafter, hguestRuns⟩ := after_of_no_departure (b := b) hdeparture hact
        rw [hafter, hguestRuns]
        exact Environment.Still.refl m.before.env
    | some departure =>
        obtain ⟨hafter, hstill, hguestRuns⟩ := env_after_departure (b := b) hdeparture
        rw [hafter, hguestRuns]
        exact (threaded_release departure.1.attachment).earlier hstill
  obtain ⟨e, act⟩ := m
  cases act with
  | load spec =>
      exact threaded_load spec
  | carryOut mandate command =>
      cases command with
      | attach handle attachment entity config =>
          exact threaded_attachAs e handle attachment entity config
      | detach handle =>
          exact hdismissed (Or.inl ⟨mandate, handle, rfl⟩)
  | turn info failed slot =>
      exact threaded_turn info failed slot halive
  | reconfigure handle config =>
      simp only [Moment.guestRuns, Moment.after, Engine.perform, Engine.reconfigure, Moment.ready]
      cases e.scheduler.instance? handle with
      | none =>
          exact Environment.Still.refl e.env
      | some i =>
          exact threaded_configure i config e.env
  | expel =>
      exact hdismissed (Or.inr rfl)
  | run access program =>
      exact ⟨Environment.Still.refl e.env, Environment.Still.refl _⟩
  | _ => exact Environment.Still.refl _

theorem alive_after
    (m : Moment G) (halive : m.before.env.orphaned = false) :
    (m.after b).env.orphaned = false := by
  have hready : m.ready.orphaned = false := by
    unfold Moment.ready
    split <;> exact halive
  have hgrow := (growLaw b).of_threaded
    (fun hstill => Environment.Grows.of_eq hstill.orphaned hstill.commands hstill.nextHandle)
    (accounted_moment (b := b) m halive) hready
  exact hgrow.2

theorem accounts_moments (e : Engine G) (halive : e.env.orphaned = false) (acts : List (Act G)) :
    Accounts b e (e.moments b acts) (acts.foldl (Engine.perform b) e) ∧
      (acts.foldl (Engine.perform b) e).env.orphaned = false := by
  induction acts generalizing e with
  | nil =>
      exact ⟨⟨rfl, by simp [Engine.moments]⟩, halive⟩
  | cons act rest ih =>
      obtain ⟨⟨hlinked, haccounted⟩, hend⟩ := ih (e.perform b act) (alive_after ⟨e, act⟩ halive)
      refine ⟨⟨⟨rfl, hlinked⟩, ?_⟩, hend⟩
      intro m hm
      rcases List.mem_cons.1 hm with rfl | hm
      · exact accounted_moment _ halive
      · exact haccounted m hm

theorem Linked.append
    {ι σ : Type} {before after : ι → σ} {s t u : σ} {first second : List ι}
    (h₁ : Linked before after s first t) (h₂ : Linked before after t second u) :
    Linked before after s (first ++ second) u := by
  induction first generalizing s with
  | nil =>
      have hst : s = t := h₁
      rw [hst]
      exact h₂
  | cons x rest ih =>
      exact ⟨h₁.1, ih h₁.2⟩

theorem accounts_operation
    (e : Engine G) (halive : e.env.orphaned = false) (operation : Operation G) :
    Accounts b e (e.momentsOf b operation) (e.operate b operation) ∧
      (e.operate b operation).env.orphaned = false := by
  have h := accounts_moments (b := b) e halive (e.actsOf b operation)
  rwa [operate_eq_foldl] at h

/-- **A history accounts for its run.** -/
theorem accounts_history
    (e : Engine G) (halive : e.env.orphaned = false) (operations : List (Operation G)) :
    Accounts b e (e.history b operations) (e.operateAll b operations) ∧
      (e.operateAll b operations).env.orphaned = false := by
  induction operations generalizing e with
  | nil =>
      exact ⟨⟨rfl, by simp [Engine.history]⟩, halive⟩
  | cons operation rest ih =>
      obtain ⟨⟨hlinked, haccounted⟩, halive'⟩ := accounts_operation (b := b) e halive operation
      obtain ⟨⟨hlinked', haccounted'⟩, hend⟩ := ih (e.operate b operation) halive'
      refine ⟨⟨hlinked.append hlinked', ?_⟩, hend⟩
      intro m hm
      rcases List.mem_append.1 hm with hm | hm
      · exact haccounted m hm
      · exact haccounted' m hm

end Accounts
end SimEngine
