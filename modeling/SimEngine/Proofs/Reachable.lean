import Mathlib.Data.List.Nodup
import SimEngine.Proofs.Turns

/-!
# Reachable engines

The engines that a host can bring about: by attaching, loading, detaching and
reconfiguring systems, by making steps and detaching all systems, and by
running code and arranging the world beside the scheduler.  A log tells which
instances were made, in which order, and with which interfaces.

**Definitions.**
* `Operation`, `Engine.operate`: what a host does with an engine.
* `Engine.wrappingsOf`: the instances that an operation makes.
* `Engine.Reached`: the engines that operations bring about, with their log.
* `Engine.Sound`: what they have in common.

**Results.**
* `Engine.Reached.sound`: reached engines are sound.
* `Engine.Sound.beginStep`: so is an engine whose step has begun.
-/

namespace SimEngine

variable {G : Guest}

/-- The making of an instance: its handle, and the interfaces that were looked up. -/
structure Wrapping where
  handle : Handle
  capabilities : Capabilities
  deriving DecidableEq, Repr

/-- How an instance was made. -/
def Instance.wrapping (i : Instance G) : Wrapping :=
  ⟨i.handle, i.capabilities⟩

/-- What a host sets up beside the scheduler. -/
structure Arrangement (G : Guest) where
  world : World G.components
  parameters : Parameters
  channels : Channels (Listener G.Callback)
  loader : Loader G
  loop : LoopFlags
  journal : List Notice
  memory : G.Memory

/-- The environment with what the host sets up. -/
def Arrangement.within (a : Arrangement G) (env : Environment G) : Environment G :=
  { env with
    world := a.world
    parameters := a.parameters
    channels := a.channels
    loader := a.loader
    loop := a.loop
    journal := a.journal
    memory := a.memory }

/-- What a host does with an engine. -/
inductive Operation (G : Guest) where
  | attach (attachment : Attachment G) (entity : Entity) (config : Payload)
  | loadAndAttach (spec : PluginSpec)
  | detach (handle : Handle)
  | reconfigure (handle : Handle) (config : Option Payload)
  | step (info : StepInfo)
  | clear
  | run (access : Access) (program : Program G Unit)
  | arrange (arrangement : Arrangement G)

namespace Engine

variable (b : Behavior G)

/-- The engine after an operation; one that is refused leaves it as it is. -/
def operate (e : Engine G) : Operation G → Engine G
  | .attach attachment entity config => (e.attach b attachment entity config).2
  | .loadAndAttach spec => (e.loadAndAttach b spec).2
  | .detach handle =>
    match e.detach b handle with
    | .ok e => e
    | .error _ => e
  | .reconfigure handle config =>
    match e.reconfigure b handle config with
    | .ok (_, e) => e
    | .error _ => e
  | .step info => (e.runStep b info).2
  | .clear => e.clear b
  | .run access program => { e with env := (b.run access program e.env).2 }
  | .arrange arrangement => { e with env := arrangement.within e.env }

/-- The instance that a system is wrapped into under a handle. -/
def wrap (e : Engine G) (handle : Handle) (attachment : Attachment G) : Wrapping :=
  ⟨handle, .ofTest (b.offers attachment.system e.env.memory)⟩

/-- The instances that queued requests make when they are carried out. -/
def wrappingsBy (e : Engine G) : List (Command G) → List Wrapping
  | [] => []
  | .attach handle attachment entity config :: rest =>
    e.wrap b handle attachment ::
      (e.apply b (.attach handle attachment entity config)).wrappingsBy rest
  | .detach handle :: rest => (e.apply b (.detach handle)).wrappingsBy rest

/-- The instances that are made at the beginning of a step. -/
def stepWrappings (e : Engine G) : List Wrapping :=
  wrappingsBy b { e with env := { e.env with commands := [] } } e.env.commands

/-- The instances that an operation makes. -/
def wrappingsOf (e : Engine G) : Operation G → List Wrapping
  | .attach attachment _ _ => [e.wrap b ⟨e.env.nextHandle⟩ attachment]
  | .loadAndAttach spec =>
    match b.load spec e.env with
    | (.ok attachment, env) => [{ e with env := env }.wrap b ⟨env.nextHandle⟩ attachment]
    | (.error _, _) => []
  | .step _ => e.stepWrappings b
  | _ => []

/-- The engines that operations bring about, each with the instances made so far. -/
inductive Reached : List Wrapping → Engine G → Prop
  | fresh
      (memory : G.Memory) :
      Reached [] ⟨.empty, .initial memory⟩
  | next
      {log : List Wrapping} {e : Engine G} (h : Reached log e) (operation : Operation G) :
      Reached (log ++ e.wrappingsOf b operation) (e.operate b operation)

/--
The engine is alive, its instances stand in the order in which they were made, and no handle is
used twice, neither by those made nor by those that `todo` or the queue would make.
-/
structure Sound (log : List Wrapping) (todo : List (Command G)) (e : Engine G) : Prop where
  alive : e.env.orphaned = false
  wrapped : (e.scheduler.all.map Instance.wrapping).Sublist log
  distinct : (log.map Wrapping.handle ++ attachHandles (todo ++ e.env.commands)).Nodup
  used : ∀ h ∈ log.map Wrapping.handle ++ attachHandles (todo ++ e.env.commands),
    h.number < e.env.nextHandle

end Engine

theorem configure_wrapping
    (b : Behavior G) (i : Instance G) (config : Option Payload) (env : Environment G) :
    (i.configure b config env).1.wrapping = i.wrapping := by
  unfold Instance.configure
  simp only
  split
  · split <;> rfl
  · rfl

theorem configureParameters_wrapping
    (b : Behavior G) (i : Instance G) (env : Environment G) :
    (i.configureParameters b env).1.wrapping = i.wrapping := by
  unfold Instance.configureParameters
  split
  · simp only
    split <;> rfl
  · rfl

/-- An instance that takes the place of a similar one leaves what all instances have as it is. -/
theorem map_replace
    {s : Scheduler G} (hnodup : s.handles.Nodup) {i i' : Instance G} (hi : i ∈ s.all) {β : Type}
    {f : Instance G → β} (hf : f i' = f i) : (s.replace i.handle i').all.map f = s.all.map f := by
  have hswap : ∀ j ∈ s.all, f (if j.handle == i.handle then i' else j) = f j := by
    intro j hj
    split
    · rename_i heq
      have hsame : j = i := List.inj_on_of_nodup_map hnodup hj hi (beq_iff_eq.1 heq)
      rw [hf, hsame]
    · rfl
  rw [Scheduler.replace, Scheduler.all]
  simp only [← List.map_append, List.map_map]
  exact List.map_congr_left hswap

namespace Engine
namespace Sound

variable {b : Behavior G} {log : List Wrapping} {todo : List (Command G)} {e : Engine G}

theorem grow
    (h : Sound log todo e) {env : Environment G} (hgrows : e.env.Grows env) :
    Sound log todo { e with env := env } := by
  obtain ⟨added, hcommands, hfresh⟩ := hgrows.queue
  have hhandles : attachHandles (todo ++ env.commands) =
      attachHandles (todo ++ e.env.commands) ++ attachHandles added := by
    rw [hcommands, ← List.append_assoc, attachHandles_append]
  refine ⟨hgrows.alive h.alive, h.wrapped, ?_, ?_⟩
  · show (log.map Wrapping.handle ++ attachHandles (todo ++ env.commands)).Nodup
    rw [hhandles, ← List.append_assoc]
    refine List.nodup_append.2 ⟨h.distinct, hfresh.nodup, ?_⟩
    intro handle hused other hadded heq
    subst heq
    have := h.used handle hused
    have := hfresh.bounds handle hadded
    omega
  · intro handle hmem
    replace hmem : handle ∈ log.map Wrapping.handle ++ attachHandles (todo ++ env.commands) := hmem
    show handle.number < env.nextHandle
    rw [hhandles, ← List.append_assoc] at hmem
    rcases List.mem_append.1 hmem with hused | hadded
    · have := h.used handle hused
      have := hfresh.le
      omega
    · have := hfresh.bounds handle hadded
      omega

theorem reschedule
    (h : Sound log todo e) {s : Scheduler G}
    (hsub : (s.all.map Instance.wrapping).Sublist (e.scheduler.all.map Instance.wrapping)) :
    Sound log todo { e with scheduler := s } :=
  ⟨h.alive, hsub.trans h.wrapped, h.distinct, h.used⟩

theorem nodup_handles (h : Sound log todo e) : e.scheduler.handles.Nodup := by
  have hlog : (log.map Wrapping.handle).Nodup := (List.nodup_append.1 h.distinct).1
  have hsub := h.wrapped.map Wrapping.handle
  rw [List.map_map] at hsub
  exact hlog.sublist hsub

theorem attachAs
    {handle : Handle} {attachment : Attachment G} {entity : Entity} {config : Payload}
    (h : Sound log (.attach handle attachment entity config :: todo) e) :
    Sound (log ++ [e.wrap b handle attachment]) todo
      (e.attachAs b handle attachment entity config) := by
  -- The handle moves from the requests to be carried out to the log.
  have hhandles : (log ++ [e.wrap b handle attachment]).map Wrapping.handle
        ++ attachHandles (todo ++ e.env.commands) =
      log.map Wrapping.handle
        ++ attachHandles (.attach handle attachment entity config :: todo ++ e.env.commands) := by
    simp [attachHandles, Engine.wrap]
  rcases hcreate : Instance.create b handle attachment entity config e.env with ⟨i₀, env₀⟩
  rcases hconfigure : i₀.configure b none env₀ with ⟨i₁, env₁⟩
  rcases hparameters : i₁.configureParameters b env₁ with ⟨i₂, env₂⟩
  have hgrows₀ : e.env.Grows env₀ := by
    rw [← (Prod.mk.inj hcreate).2]
    exact Environment.Grows.setQueryList e.env handle .empty
  have hgrows₁ : env₀.Grows env₁ := by
    have := grows_configure (b := b) (hgrows₀.alive h.alive) i₀ none
    rwa [hconfigure] at this
  have hgrows₂ : env₁.Grows env₂ := by
    have := grows_configureParameters (b := b) ((hgrows₀.trans hgrows₁).alive h.alive) i₁
    rwa [hparameters] at this
  have hwrapping : i₂.wrapping = e.wrap b handle attachment := by
    have h₁ := configure_wrapping b i₀ none env₀
    have h₂ := configureParameters_wrapping b i₁ env₁
    rw [hconfigure] at h₁
    rw [hparameters] at h₂
    rw [h₂, h₁, ← (Prod.mk.inj hcreate).1]
    rfl
  have hmade : Sound (log ++ [e.wrap b handle attachment]) todo
      { e with scheduler := { e.scheduler with pending := e.scheduler.pending ++ [i₂] } } := by
    refine ⟨h.alive, ?_, ?_, ?_⟩
    · simp only [Scheduler.all, ← List.append_assoc, List.map_append, List.map_cons,
        List.map_nil, hwrapping]
      have hold := h.wrapped
      rw [Scheduler.all, List.map_append] at hold
      exact hold.append (List.Sublist.refl _)
    · rw [hhandles]
      exact h.distinct
    · rw [hhandles]
      exact h.used
  have hgrows : e.env.Grows
      (env₂.report (.attached handle i₂.name entity i₂.capabilities i₂.degraded)) :=
    ((hgrows₀.trans hgrows₁).trans hgrows₂).trans (Environment.Grows.report env₂ _)
  simp only [Engine.attachAs, hcreate, hconfigure, hparameters]
  exact hmade.grow hgrows

theorem dismiss (h : Sound log todo e) (i : Instance G) : Sound log todo (e.dismiss b i) := by
  have hcleared : e.env.Grows (e.env.setQueryList i.handle (e.env.queryList i.handle).clear) :=
    Environment.Grows.setQueryList e.env i.handle _
  have hreported := hcleared.trans (Environment.Grows.report _ (.detached i.handle i.name))
  have hreleased := grows_release (b := b) (hreported.alive h.alive) i.attachment
  exact h.grow (hreported.trans hreleased)

theorem all_erase_sublist (s : Scheduler G) (handle : Handle) :
    (s.erase handle).all.Sublist s.all := by
  unfold Scheduler.erase
  split
  · exact List.eraseP_sublist.append (List.Sublist.refl _)
  · exact (List.Sublist.refl _).append List.eraseP_sublist

theorem detach
    (h : Sound log todo e) {handle : Handle} {e' : Engine G}
    (hdetach : e.detach b handle = .ok e') : Sound log todo e' := by
  unfold Engine.detach at hdetach
  split at hdetach
  · cases hdetach
  · rename_i i _
    obtain rfl := Except.ok.inj hdetach
    exact (h.reschedule ((all_erase_sublist e.scheduler handle).map _)).dismiss i

theorem reconfigure
    (h : Sound log todo e) {handle : Handle} {config : Option Payload} {sound : Bool}
    {e' : Engine G} (hreconfigure : e.reconfigure b handle config = .ok (sound, e')) :
    Sound log todo e' := by
  unfold Engine.reconfigure at hreconfigure
  split at hreconfigure
  · cases hreconfigure
  · rename_i i hfind
    have hi : i ∈ e.scheduler.all := List.mem_of_find?_eq_some hfind
    have hhandle : i.handle = handle := by
      simpa using List.find?_some hfind
    have hgrows := grows_configure (b := b) h.alive i config
    have hwrapping := configure_wrapping b i config e.env
    rcases hconfigure : i.configure b config e.env with ⟨i', env⟩
    rw [hconfigure] at hreconfigure hgrows hwrapping
    obtain ⟨_, rfl⟩ := Prod.mk.inj (Except.ok.inj hreconfigure)
    have hall := map_replace h.nodup_handles hi hwrapping
    rw [hhandle] at hall
    exact (h.reschedule (hall ▸ List.Sublist.refl _)).grow hgrows

theorem grows_retireAll
    {env : Environment G} (halive : env.orphaned = false) (instances : List (Instance G)) :
    env.Grows (Engine.retireAll b env instances) := by
  induction instances generalizing env with
  | nil =>
      exact Environment.Grows.refl env
  | cons i rest ih =>
      have hcleared : env.Grows (env.setQueryList i.handle (env.queryList i.handle).clear) :=
        Environment.Grows.setQueryList env i.handle _
      have hretired := hcleared.trans
        (grows_release (b := b) (hcleared.alive halive) i.attachment)
      exact hretired.trans (ih (hretired.alive halive))

theorem clear (h : Sound log todo e) : Sound log todo (e.clear b) := by
  have hempty : ((Scheduler.empty : Scheduler G).all.map Instance.wrapping).Sublist
      (e.scheduler.all.map Instance.wrapping) := List.nil_sublist _
  exact (h.reschedule hempty).grow (grows_retireAll h.alive _)

theorem apply
    {command : Command G} (h : Sound log (command :: todo) e) :
    Sound (log ++ e.wrappingsBy b [command]) todo (e.apply b command) := by
  cases command with
  | attach handle attachment entity config =>
      exact h.attachAs
  | detach handle =>
      have hskip : Sound log todo e := ⟨h.alive, h.wrapped, h.distinct, h.used⟩
      simp only [Engine.wrappingsBy, List.append_nil, Engine.apply]
      split
      · rename_i heq
        exact hskip.detach heq
      · exact hskip

theorem foldl_apply
    {commands : List (Command G)} (h : Sound log commands e) :
    Sound (log ++ e.wrappingsBy b commands) [] (commands.foldl (fun e c => e.apply b c) e) := by
  induction commands generalizing log e with
  | nil =>
      simpa [Engine.wrappingsBy] using h
  | cons command rest ih =>
      have happly := ih (h.apply (b := b))
      have hlog : e.wrappingsBy b (command :: rest) =
          e.wrappingsBy b [command] ++ (e.apply b command).wrappingsBy b rest := by
        cases command <;> rfl
      rw [hlog, ← List.append_assoc]
      exact happly

/-- An engine whose step has begun is sound. -/
theorem beginStep (h : Sound log [] e) :
    Sound (log ++ e.stepWrappings b) [] (e.beginStep b) := by
  have htaken : Sound log e.env.commands { e with env := { e.env with commands := [] } } := by
    refine ⟨h.alive, h.wrapped, ?_, ?_⟩
    · simpa using h.distinct
    · simpa using h.used
  have happlied := htaken.foldl_apply (b := b)
  have hadmitted : ((e.applyCommands b).scheduler.admitPending.all.map Instance.wrapping) =
      (e.applyCommands b).scheduler.all.map Instance.wrapping := by
    simp only [Scheduler.admitPending, Scheduler.all, List.append_nil, List.map_append,
      List.map_map]
    rfl
  exact happlied.reschedule (hadmitted ▸ List.Sublist.refl _)

theorem runStep (h : Sound log [] e) (info : StepInfo) :
    Sound (log ++ e.stepWrappings b) [] (e.runStep b info).2 := by
  have hbegun := h.beginStep (b := b)
  have hgrows := grows_turns b info hbegun.alive []
    (slots (e.beginStep b).scheduler.instances)
  have henv : (e.runStep b info).2 =
      { e.beginStep b with
        env := lastOf Turn.after (e.beginStep b).env
          (b.turns info [] (slots (e.beginStep b).scheduler.instances) (e.beginStep b).env) } := by
    rw [Engine.runStep, passThrough_eq]
  rw [henv]
  exact hbegun.grow hgrows

theorem attach
    (h : Sound log [] e) (attachment : Attachment G) (entity : Entity) (config : Payload) :
    Sound (log ++ [e.wrap b ⟨e.env.nextHandle⟩ attachment]) []
      (e.attach b attachment entity config).2 := by
  have hnext : ∀ handle ∈ log.map Wrapping.handle ++ attachHandles ([] ++ e.env.commands),
      handle.number < e.env.nextHandle := h.used
  have hreserved : Sound log [.attach ⟨e.env.nextHandle⟩ attachment entity config]
      { e with env := e.env.freshHandle.2 } := by
    refine ⟨h.alive, h.wrapped, ?_, ?_⟩
    · have hnew : (⟨e.env.nextHandle⟩ : Handle) ∉
          log.map Wrapping.handle ++ attachHandles ([] ++ e.env.commands) := by
        intro hmem
        exact Nat.lt_irrefl _ (hnext _ hmem)
      have hperm : (log.map Wrapping.handle ++ attachHandles
            ([.attach ⟨e.env.nextHandle⟩ attachment entity config] ++ e.env.commands)).Perm
          (⟨e.env.nextHandle⟩ ::
            (log.map Wrapping.handle ++ attachHandles ([] ++ e.env.commands))) :=
        List.perm_middle
      exact hperm.nodup_iff.2 (List.nodup_cons.2 ⟨hnew, h.distinct⟩)
    · intro handle hmem
      show handle.number < e.env.nextHandle + 1
      have hcases : handle ∈ ⟨e.env.nextHandle⟩ ::
          (log.map Wrapping.handle ++ attachHandles ([] ++ e.env.commands)) :=
        List.perm_middle.mem_iff.1 hmem
      rcases List.mem_cons.1 hcases with rfl | hold
      · exact Nat.lt_succ_self _
      · have := hnext handle hold
        omega
  exact hreserved.attachAs

theorem operate (h : Sound log [] e) (operation : Operation G) :
    Sound (log ++ e.wrappingsOf b operation) [] (e.operate b operation) := by
  cases operation with
  | attach attachment entity config =>
      exact h.attach attachment entity config
  | loadAndAttach spec =>
      have hgrows := grows_load (b := b) h.alive spec
      simp only [Engine.wrappingsOf, Engine.operate, Engine.loadAndAttach]
      rcases hload : b.load spec e.env with ⟨cause | attachment, env⟩
      · rw [hload] at hgrows
        simpa using h.grow hgrows
      · rw [hload] at hgrows
        exact (h.grow hgrows).attach attachment spec.entity spec.config
  | detach handle =>
      simp only [Engine.wrappingsOf, List.append_nil, Engine.operate]
      split
      · rename_i heq
        exact h.detach heq
      · exact h
  | reconfigure handle config =>
      simp only [Engine.wrappingsOf, List.append_nil, Engine.operate]
      split
      · rename_i heq
        exact h.reconfigure heq
      · exact h
  | step info =>
      exact h.runStep info
  | clear =>
      show Sound (log ++ []) [] (e.clear b)
      rw [List.append_nil]
      exact h.clear
  | run access program =>
      show Sound (log ++ []) [] { e with env := (b.run access program e.env).2 }
      rw [List.append_nil]
      exact h.grow (grows_run h.alive access program)
  | arrange arrangement =>
      have hgrows : e.env.Grows (arrangement.within e.env) :=
        Environment.Grows.of_eq rfl rfl rfl
      show Sound (log ++ []) [] { e with env := arrangement.within e.env }
      rw [List.append_nil]
      exact h.grow hgrows

end Sound

/-- **Every reached engine is sound.** -/
theorem Reached.sound
    {b : Behavior G} {log : List Wrapping} {e : Engine G} (h : Reached b log e) :
    Sound log [] e := by
  induction h with
  | fresh memory =>
      refine ⟨rfl, List.Sublist.refl _, List.nodup_nil, ?_⟩
      intro handle hmem
      cases hmem
  | next _ operation ih =>
      exact ih.operate operation

end Engine
end SimEngine
