import SimEngine.Proofs.Turns

/-!
# Runs of guest code

The engine runs guest code for several purposes: it configures an instance, calls
it in a phase, calls a query for an entity, makes a system or lets go of one.
Between two such runs the engine does nothing but report, change query lists and
count what the loader made.

**Definitions.**
* `Purpose`, `GuestRun`: what guest code is run for, and in which environment.
* `Environment.Still`: what the engine does on its own.
* `Threaded`: items that follow one another, with gaps in between.
* `Instance.configuring`, `Instance.declaring`, `Turn.guestRuns`,
  `Behavior.releasing`, `Environment.loading`: the guest code that is run when the
  engine deals with one instance or one system.

**Results.**
* `threaded_configure`, `threaded_configureParameters`, `threaded_turn`,
  `threaded_release`, `threaded_load`: these runs account for all that guest code
  does there.
* `TraceLaw.of_threaded`: a law of runs is a law of runs in a row.
-/

namespace SimEngine

variable {G : Guest}

/-- The items of a list follow one another, with gaps of a kind before, between and behind them. -/
def Threaded {ι σ : Type} (gap : σ → σ → Prop) (before after : ι → σ) : σ → List ι → σ → Prop
  | s, [], t => gap s t
  | s, x :: rest, t => gap s (before x) ∧ Threaded gap before after (after x) rest t

section Threads

variable {ι σ : Type} {gap : σ → σ → Prop} [IsTrans σ gap] {before after : ι → σ}

theorem Threaded.later
    {s t u : σ} {items : List ι} (h : Threaded gap before after s items t) (hgap : gap t u) :
    Threaded gap before after s items u := by
  induction items generalizing s with
  | nil =>
      exact IsTrans.trans _ _ _ h hgap
  | cons x rest ih =>
      exact ⟨h.1, ih h.2⟩

theorem Threaded.earlier
    {s t u : σ} {items : List ι} (h : Threaded gap before after t items u) (hgap : gap s t) :
    Threaded gap before after s items u := by
  cases items with
  | nil =>
      exact IsTrans.trans _ _ _ hgap h
  | cons x rest =>
      exact ⟨IsTrans.trans _ _ _ hgap h.1, h.2⟩

theorem Threaded.append
    {s t u : σ} {first second : List ι} (h₁ : Threaded gap before after s first t)
    (h₂ : Threaded gap before after t second u) :
    Threaded gap before after s (first ++ second) u := by
  induction first generalizing s with
  | nil =>
      exact h₂.earlier h₁
  | cons x rest ih =>
      exact ⟨h₁.1, ih h₁.2⟩

end Threads

/--
What the engine does on its own: it may report, change query lists and count what the loader made,
and it leaves all else as it is.
-/
structure Environment.Still (env env' : Environment G) : Prop where
  world : env'.world = env.world
  parameters : env'.parameters = env.parameters
  channels : env'.channels = env.channels
  commands : env'.commands = env.commands
  orphaned : env'.orphaned = env.orphaned
  loop : env'.loop = env.loop
  nextHandle : env'.nextHandle = env.nextHandle
  memory : env'.memory = env.memory

namespace Environment.Still

theorem refl (env : Environment G) : env.Still env :=
  ⟨rfl, rfl, rfl, rfl, rfl, rfl, rfl, rfl⟩

theorem trans {e₁ e₂ e₃ : Environment G} (h₁ : e₁.Still e₂) (h₂ : e₂.Still e₃) : e₁.Still e₃ where
  world := h₂.world.trans h₁.world
  parameters := h₂.parameters.trans h₁.parameters
  channels := h₂.channels.trans h₁.channels
  commands := h₂.commands.trans h₁.commands
  orphaned := h₂.orphaned.trans h₁.orphaned
  loop := h₂.loop.trans h₁.loop
  nextHandle := h₂.nextHandle.trans h₁.nextHandle
  memory := h₂.memory.trans h₁.memory

instance : IsTrans (Environment G) Environment.Still :=
  ⟨fun _ _ _ => trans⟩

theorem report (env : Environment G) (notice : Notice) : env.Still (env.report notice) :=
  ⟨rfl, rfl, rfl, rfl, rfl, rfl, rfl, rfl⟩

theorem setQueryList (env : Environment G) (list : Handle) (l : QueryList G.Callback) :
    env.Still (env.setQueryList list l) :=
  ⟨rfl, rfl, rfl, rfl, rfl, rfl, rfl, rfl⟩

theorem setLoader (env : Environment G) (loader : Loader G) :
    env.Still { env with loader := loader } :=
  ⟨rfl, rfl, rfl, rfl, rfl, rfl, rfl, rfl⟩

theorem faultReported
    (info : StepInfo) (pass : Pass) (i : Instance G) (result : Except String Unit)
    (left : Environment G) : left.Still (faultReported info pass i result left) := by
  cases result with
  | ok _ => exact refl left
  | error message => exact report left _

end Environment.Still

/-- What the engine runs guest code for. -/
inductive Purpose (G : Guest) where
  | configure (i : Instance G)
  | configureParameters (i : Instance G)
  /-- A query of the instance is called for an entity. -/
  | query (i : Instance G) (info : StepInfo) (query : PendingQuery G.Callback) (entity : Entity)
  | phase (i : Instance G) (info : StepInfo) (phase : StepPhase)
  | construct (factory : G.Factory) (spec : PluginSpec)
  | discard (system : G.System)
  | giveBack (system : G.System)
  | unloaded (plugin : String)
  /-- The host has code of its own run. -/
  | host (access : Access) (program : Program G Unit)

namespace Purpose

/-- The instance on whose behalf the code is called, and the stage of the call. -/
def call? : Purpose G → Option (Instance G × Stage)
  | .configure i => some (i, .capability .configure)
  | .configureParameters i => some (i, .capability .configureParameters)
  | .query i _ _ _ => some (i, .queries)
  | .phase i _ p => some (i, p.stage)
  | _ => none

/-- Whether the code is called on behalf of an instance. -/
def IsFor (purpose : Purpose G) (h : Handle) : Prop :=
  ∃ i stage, purpose.call? = some (i, stage) ∧ i.handle = h

end Purpose

/-- A run of guest code: what for, and in which environment. -/
structure GuestRun (G : Guest) where
  purpose : Purpose G
  before : Environment G

/-- What a run leaves, and the requests that it makes. -/
def Behavior.track (b : Behavior G) {α : Type} (access : Access) (p : Program G α)
    (env : Environment G) : Environment G × List (Occurrence G) :=
  ((b.run access p env).2, b.occurrences (.top access) p env)

namespace GuestRun

/-- What a run leaves, and the requests that are made in it. -/
def track (b : Behavior G) (s : GuestRun G) : Environment G × List (Occurrence G) :=
  match s.purpose with
  | .configure i =>
    b.track .full (b.configure i.attachment.system ⟨i.handle, i.entity, i.config⟩) s.before
  | .configureParameters i => b.track .full (b.configureParameters i.attachment.system) s.before
  | .query _ info q e => b.track .full (b.onQuery q.callback info e) s.before
  | .phase i info p =>
    b.track (Instance.accessOf p) (b.phase p i.attachment.system info) s.before
  | .construct factory spec => b.track .none (b.construct factory spec) s.before
  | .discard system => b.track .none (b.discard system) s.before
  | .giveBack system => b.track .none (b.giveBack system) s.before
  | .unloaded plugin => b.track .none (b.unloaded plugin) s.before
  | .host access program => b.track access program s.before

/-- The environment that a run leaves. -/
def after (b : Behavior G) (s : GuestRun G) : Environment G :=
  (s.track b).1

/-- The requests that are made in a run. -/
def log (b : Behavior G) (s : GuestRun G) : List (Occurrence G) :=
  (s.track b).2

end GuestRun

/-- The runs account for what becomes of an environment. -/
abbrev Engine.Accounted (b : Behavior G) :
    Environment G → List (GuestRun G) → Environment G → Prop :=
  Threaded Environment.Still GuestRun.before (GuestRun.after b)

section Laws

variable {b : Behavior G} {R : Environment G → List (Occurrence G) → Environment G → Prop}

theorem TraceLaw.of_guestRun
    (law : TraceLaw b R) (s : GuestRun G) (halive : s.before.orphaned = false) :
    R s.before (s.log b) (s.after b) ∧ (s.after b).orphaned = false := by
  have htrack : ∀ {α : Type} (access : Access) (p : Program G α),
      R s.before (b.track access p s.before).2 (b.track access p s.before).1 ∧
        (b.track access p s.before).1.orphaned = false :=
    fun access p => ⟨law.run (.top access) p halive, runAt_orphaned b (.top access) p halive⟩
  obtain ⟨purpose, before⟩ := s
  cases purpose <;> exact htrack _ _

/-- **A law of runs that the engine's own doing respects is a law of runs in a row.** -/
theorem TraceLaw.of_threaded
    (law : TraceLaw b R) (hstill : ∀ {env env' : Environment G}, env.Still env' → R env [] env')
    {env env' : Environment G} {guestRuns : List (GuestRun G)}
    (h : Engine.Accounted b env guestRuns env') (halive : env.orphaned = false) :
    R env (guestRuns.flatMap (GuestRun.log b)) env' ∧ env'.orphaned = false := by
  induction guestRuns generalizing env with
  | nil =>
      have hgap : env.Still env' := h
      exact ⟨hstill hgap, hgap.orphaned.trans halive⟩
  | cons s rest ih =>
      have halive' : s.before.orphaned = false := h.1.orphaned.trans halive
      obtain ⟨hs, halive''⟩ := law.of_guestRun s halive'
      obtain ⟨hrest, hend⟩ := ih h.2 halive''
      exact ⟨law.trans (law.trans (hstill h.1) hs) hrest, hend⟩

end Laws

section GuestRuns

variable (b : Behavior G)

/-- The call of an interface of an instance, unless it was withdrawn. -/
def Behavior.calling (i : Instance G) (capability : Capability) (purpose : Purpose G)
    (env : Environment G) : List (GuestRun G) :=
  if b.offers i.attachment.system env.memory capability then [⟨purpose, env⟩] else []

/-- The call by which an instance is configured, with another payload if one is given. -/
def Instance.configuring (i : Instance G) (config : Option Payload) (env : Environment G) :
    List (GuestRun G) :=
  if i.capabilities.configure then
    b.calling i .configure (.configure (i.prepare config)) env
  else
    []

/-- The call by which an instance declares its parameters. -/
def Instance.declaring (i : Instance G) (env : Environment G) : List (GuestRun G) :=
  if i.capabilities.configureParameters then
    b.calling i .configureParameters (.configureParameters i) env
  else
    []

/-- The call of a query for the entity of a visit, if it is called. -/
def Visit.guestRuns (i : Instance G) (info : StepInfo) (v : Visit G) : List (GuestRun G) :=
  if v.called then [⟨.query i info v.query v.entity, v.before⟩] else []

/-- The calls that are made in a turn. -/
def Turn.guestRuns (info : StepInfo) (t : Turn G) : List (GuestRun G) :=
  match t.pass with
  | .queries => (b.visitsOf t.inst.handle info t.before).flatMap (Visit.guestRuns t.inst info)
  | .phase p => if t.called then [⟨.phase t.inst info p, t.before⟩] else []

/-- What is run when a system is let go of. -/
def Behavior.releasing (attachment : Attachment G) (env : Environment G) : List (GuestRun G) :=
  match attachment.ownership with
  | .shared => [⟨.giveBack attachment.system, env⟩]
  | .plugin name unload =>
    let discarding : GuestRun G := ⟨.discard attachment.system, env⟩
    match unload with
    | some .announced => [discarding, ⟨.unloaded name, discarding.after b⟩]
    | _ => [discarding]

/-- What is run when a system is made by the name of its plugin. -/
def Environment.loading (env : Environment G) (spec : PluginSpec) : List (GuestRun G) :=
  match env.loader.factories.find? spec.name with
  | none => []
  | some factory => [⟨.construct factory spec, env⟩]

variable {b} {env : Environment G}

theorem threaded_call
    (i : Instance G) (capability : Capability) (access : Access) (program : Program G Unit)
    (purpose : Purpose G) (env : Environment G)
    (hpurpose : GuestRun.after b ⟨purpose, env⟩ = (b.run access program env).2) :
    Engine.Accounted b env (b.calling i capability purpose env)
      (i.call b capability access program env).2 := by
  unfold Behavior.calling Instance.call
  split
  · rcases hanswer : b.run access program env with ⟨outcome, left⟩
    rw [hanswer] at hpurpose
    refine ⟨Environment.Still.refl env, ?_⟩
    rw [hpurpose]
    simp only
    split <;> exact Environment.Still.refl left
  · exact Environment.Still.report env _

/-- **Configuring an instance runs its Configure code, and no other.** -/
theorem threaded_configure (i : Instance G) (config : Option Payload) (env : Environment G) :
    Engine.Accounted b env (i.configuring b config env) (i.configure b config env).2 := by
  unfold Instance.configuring Instance.configure
  simp only [show (i.prepare config).capabilities = i.capabilities from rfl]
  split
  · have hcall := threaded_call (b := b) (i.prepare config) .configure .full
      (b.configure (i.prepare config).attachment.system
        ⟨(i.prepare config).handle, (i.prepare config).entity, (i.prepare config).config⟩)
      (.configure (i.prepare config)) env rfl
    split
    · rename_i heq
      rw [heq] at hcall
      exact hcall.later (Environment.Still.report _ _)
    · rename_i heq
      rw [heq] at hcall
      exact hcall.later (Environment.Still.report _ _)
  · exact Environment.Still.refl env

theorem threaded_configureParameters (i : Instance G) :
    Engine.Accounted b env (i.declaring b env) (i.configureParameters b env).2 := by
  unfold Instance.declaring Instance.configureParameters
  split
  · have hcall := threaded_call (b := b) i .configureParameters .full
      (b.configureParameters i.attachment.system) (.configureParameters i) env rfl
    simp only
    split
    · rename_i heq
      rw [heq] at hcall
      exact hcall.later (Environment.Still.report _ _)
    · rename_i heq
      rw [heq] at hcall
      exact hcall
  · exact Environment.Still.refl env

theorem threaded_visit
    {i : Instance G} {info : StepInfo} {v : Visit G}
    (hv : v = b.visit i.handle info v.target v.before) :
    Engine.Accounted b v.before (v.guestRuns i info) v.after := by
  have hfaithful := faithful_visit b i.handle info v.target v.before
  rw [← hv] at hfaithful
  unfold Visit.Faithful at hfaithful
  unfold Visit.guestRuns Visit.called
  cases hresult : v.result with
  | none =>
      rw [hresult] at hfaithful
      have hsame : v.after = v.before := hfaithful
      rw [hsame]
      exact Environment.Still.refl v.before
  | some result =>
      rw [hresult] at hfaithful
      obtain ⟨outcome, hrun, _⟩ := hfaithful
      have hafter : GuestRun.after b ⟨.query i info v.query v.entity, v.before⟩ = v.after :=
        congrArg Prod.snd hrun
      refine ⟨Environment.Still.refl v.before, ?_⟩
      rw [hafter]
      exact Environment.Still.refl v.after

theorem threaded_deliver (i : Instance G) (info : StepInfo) (halive : env.orphaned = false) :
    Engine.Accounted b env ((b.visitsOf i.handle info env).flatMap (Visit.guestRuns i info))
      (QueryList.deliver b i.handle info env).2 := by
  have hvisits : Engine.Accounted b (env.setQueryList i.handle (env.queryList i.handle).depart)
      ((b.visitsOf i.handle info env).flatMap (Visit.guestRuns i info))
      (b.afterVisits i.handle info env) :=
    Linked.relate Environment.Still.refl Threaded.append
      (linked_visits b i.handle info _ _)
      fun v hv => threaded_visit (eq_visit_of_mem b i.handle info hv)
  rw [deliver_eq halive]
  exact (hvisits.earlier (Environment.Still.setQueryList env _ _)).later
    (Environment.Still.setQueryList _ _ _)

/-- **A turn runs the code that it calls, and no other.** -/
theorem threaded_turn
    (info : StepInfo) (failed : List Handle) (slot : Pass × Instance G)
    (halive : env.orphaned = false) :
    Engine.Accounted b env ((b.turn info failed slot env).guestRuns b info)
      (b.turn info failed slot env).after := by
  obtain ⟨pass, i⟩ := slot
  cases pass with
  | queries =>
      obtain ⟨delivery, left, n, hanswer, hturn⟩ := turn_queries b info failed i env
      have hdeliver := threaded_deliver (b := b) i info halive
      rw [hanswer] at hdeliver
      rw [hturn]
      exact hdeliver.later (Environment.Still.faultReported _ _ _ _ _)
  | phase p =>
      rcases turn_phase_cases b info failed p i env with
        ⟨_, hturn⟩ | ⟨_, hturn⟩ | ⟨outcome, left, _, _, _, hanswer, hturn⟩
      · rw [hturn]
        exact Environment.Still.refl env
      · rw [hturn]
        exact Environment.Still.report env _
      · have hafter : GuestRun.after b ⟨.phase i info p, env⟩ = left :=
          congrArg Prod.snd hanswer
        rw [hturn]
        refine ⟨Environment.Still.refl env, ?_⟩
        rw [hafter]
        exact Environment.Still.faultReported _ _ _ _ _

/-- **Letting go of a system runs the code of its end, and no other.** -/
theorem threaded_release (attachment : Attachment G) :
    Engine.Accounted b env (b.releasing attachment env) (b.release attachment env) := by
  unfold Behavior.releasing Behavior.release Behavior.releaseWith
  cases attachment.ownership with
  | shared =>
      exact ⟨Environment.Still.refl env, Environment.Still.refl _⟩
  | plugin name unload =>
      cases unload with
      | none =>
          exact ⟨Environment.Still.refl env, Environment.Still.refl _⟩
      | some unload =>
          cases unload with
          | announced =>
              exact ⟨Environment.Still.refl env, Environment.Still.refl _,
                Environment.Still.refl _⟩
          | counted =>
              refine ⟨Environment.Still.refl env, ?_⟩
              simp only
              split
              · exact (Environment.Still.setLoader _ _).trans (Environment.Still.report _ _)
              · exact Environment.Still.setLoader _ _

/-- **Making a system runs its factory, if there is one, and no other code.** -/
theorem threaded_load (spec : PluginSpec) :
    Engine.Accounted b env (env.loading spec) (b.load spec env).2 := by
  unfold Environment.loading Behavior.load
  cases env.loader.factories.find? spec.name with
  | none =>
      exact Environment.Still.refl env
  | some factory =>
      refine ⟨Environment.Still.refl env, ?_⟩
      rcases hanswer : b.run .none (b.construct factory spec) env with ⟨outcome, left⟩
      have hafter : GuestRun.after b ⟨.construct factory spec, env⟩ = left :=
        congrArg Prod.snd hanswer
      rw [hafter]
      simp only [hanswer]
      split
      · exact Environment.Still.setLoader left _
      · exact Environment.Still.refl left

end GuestRuns
end SimEngine
