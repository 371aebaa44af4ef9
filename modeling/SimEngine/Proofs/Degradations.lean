import SimEngine.Proofs.Batches
import SimEngine.Proofs.Membership

/-!
# Degradations

An instance is degraded if its start-up failed.  One flag tells it, which each
configuration writes anew and a declaration of parameters can only set, so a
configuration that succeeds makes good for a declaration that did not.  Whether
an instance is degraded is told by the history of its calls.

**Definitions.**
* `Outcome.isDone`, `GuestRun.fails`: a call of a start-up fails.
* `Moment.guestRunsFor`, `guestRunsFor`: the calls of an instance in a stage.

**Results.**
* `degraded_configure`, `degraded_configureParameters`: what the two calls of a
  start-up make of the flag.
* `Chronicle.degraded_along`: acts that leave it alone.
* `Chronicle.asCalled`: what the calls so far have made of it.
* `degraded_history`: when an instance is degraded, what leaves it so, and what the
  host is told.
-/

namespace SimEngine

variable {G : Guest}

/-- Whether code came to its end, without an error and without a panic. -/
def Outcome.isDone {α : Type} : Outcome α → Bool
  | .done _ => true
  | _ => false

/-- Whether a run of guest code is a call of a start-up that fails, by an error or by a panic. -/
def GuestRun.fails (b : Behavior G) (s : GuestRun G) : Bool :=
  match s.purpose with
  | .configure i =>
    !(b.run .full (b.configure i.attachment.system ⟨i.handle, i.entity, i.config⟩)
      s.before).1.isDone
  | .configureParameters i =>
    !(b.run .full (b.configureParameters i.attachment.system) s.before).1.isDone
  | _ => false

/-- The runs at a moment in which the instance of a handle is called in a stage. -/
def Moment.guestRunsFor (b : Behavior G) (m : Moment G) (handle : Handle) (stage : Stage) :
    List (GuestRun G) :=
  (m.guestRuns b).filter fun s => (s.callFor? handle stage).isSome

/-- The runs at moments in which the instance of a handle is called in a stage. -/
def guestRunsFor (b : Behavior G) (moments : List (Moment G)) (handle : Handle) (stage : Stage) :
    List (GuestRun G) :=
  moments.flatMap fun m => m.guestRunsFor b handle stage

/--
An instance that was attached at a moment is as degraded as its calls have left it: that of the
declaration of its parameters, and the configurations of then and later.
-/
structure DegradedAsCalled (b : Behavior G) (handle : Handle) (resolved : Capabilities)
    (m : Moment G) (later : List (Moment G)) (degraded : Bool) : Prop where
  /-- Parameters are declared once, if the system offered to. -/
  declared :
    (guestRunsFor b (m :: later) handle (.capability .configureParameters)).length =
      if resolved.configureParameters then 1 else 0
  /-- The last configuration decides, and the declaration unless it was made good for. -/
  configured : resolved.configure = true →
    ∃ s, (guestRunsFor b (m :: later) handle (.capability .configure)).getLast? = some s ∧
      (degraded = true ↔ s.fails b = true ∨
        (∀ x ∈ later, x.reconfigures handle = false) ∧
          ∃ t ∈ guestRunsFor b (m :: later) handle (.capability .configureParameters),
            t.fails b = true)
  /-- The declaration decides if there is nothing to configure. -/
  unconfigured : resolved.configure = false →
    guestRunsFor b (m :: later) handle (.capability .configure) = [] ∧
      (degraded = true ↔
        ∃ t ∈ guestRunsFor b (m :: later) handle (.capability .configureParameters),
          t.fails b = true)

/-- Whether a call of an instance failed. -/
def CallResult.hasFailed : CallResult → Bool
  | .failed _ => true
  | _ => false

section Calls

variable {b : Behavior G}

/-- A call fails if the code that it runs does. -/
theorem hasFailed_call
    {i : Instance G} {capability : Capability} {access : Access} {program : Program G Unit}
    {purpose : Purpose G} {env : Environment G}
    (hpurpose : GuestRun.fails b ⟨purpose, env⟩ = !(b.run access program env).1.isDone) :
    (i.call b capability access program env).1.hasFailed =
      (b.calling i capability purpose env).any (GuestRun.fails b) := by
  unfold Instance.call Behavior.calling
  split
  · rw [List.any_cons, List.any_nil, Bool.or_false, hpurpose]
    rcases b.run access program env with ⟨outcome, left⟩
    cases outcome <;> rfl
  · rfl

/-- **A configuration writes the flag**, also if its call is withdrawn. -/
theorem degraded_configure (i : Instance G) (config : Option Payload) (env : Environment G) :
    (i.configure b config env).1.degraded =
      if i.capabilities.configure then (i.configuring b config env).any (GuestRun.fails b)
      else i.degraded := by
  have hcapabilities : (i.prepare config).capabilities = i.capabilities := rfl
  have hcall : ((i.prepare config).call b .configure .full
      (b.configure (i.prepare config).attachment.system
        ⟨(i.prepare config).handle, (i.prepare config).entity, (i.prepare config).config⟩)
      env).1.hasFailed =
        (b.calling i .configure (.configure (i.prepare config)) env).any (GuestRun.fails b) :=
    hasFailed_call rfl
  unfold Instance.configure Instance.configuring
  simp only [hcapabilities]
  split
  · rw [← hcall]
    rcases Instance.call b (i.prepare config) .configure .full _ env with
      ⟨_ | _ | message, left⟩ <;> rfl
  · rfl

/-- **A declaration of parameters can only set the flag.** -/
theorem degraded_configureParameters (i : Instance G) (env : Environment G) :
    (i.configureParameters b env).1.degraded =
      (i.degraded || (i.declaring b env).any (GuestRun.fails b)) := by
  have hcall : (i.call b .configureParameters .full (b.configureParameters i.attachment.system)
      env).1.hasFailed =
        (b.calling i .configureParameters (.configureParameters i) env).any (GuestRun.fails b) :=
    hasFailed_call rfl
  unfold Instance.configureParameters Instance.declaring
  split
  · rw [← hcall]
    simp only
    rcases i.call b .configureParameters .full _ env with ⟨_ | _ | message, left⟩ <;>
      simp [CallResult.hasFailed]
  · exact (Bool.or_false _).symm

/-- An instance that was just attached is degraded if one of its calls failed. -/
theorem degraded_recruit
    (e : Engine G) (handle : Handle) (attachment : Attachment G) (entity : Entity)
    (config : Payload) :
    (e.recruit b handle attachment entity config).degraded =
      (e.attaching b handle attachment entity config).any (GuestRun.fails b) := by
  simp only [Engine.recruit, Engine.attaching, List.any_append, degraded_configureParameters,
    degraded_configure]
  split
  · rfl
  · rename_i hresolved
    rw [Instance.configuring, if_neg hresolved]
    rfl

theorem guestRunsFor_append
    (first second : List (Moment G)) (handle : Handle) (stage : Stage) :
    guestRunsFor b (first ++ second) handle stage =
      guestRunsFor b first handle stage ++ guestRunsFor b second handle stage :=
  List.flatMap_append

theorem guestRunsFor_singleton (m : Moment G) (handle : Handle) (stage : Stage) :
    guestRunsFor b [m] handle stage = m.guestRunsFor b handle stage :=
  List.flatMap_singleton _ m

theorem guestRunsFor_eq_nil_iff (m : Moment G) (handle : Handle) (stage : Stage) :
    m.guestRunsFor b handle stage = [] ↔ m.calls b handle stage = [] := by
  rw [Moment.guestRunsFor, Moment.calls, List.filter_eq_nil_iff, List.filterMap_eq_nil_iff]
  refine forall₂_congr fun s _ => ?_
  rw [Bool.not_eq_true, Option.isSome_eq_false_iff, Option.isNone_iff_eq_none]

end Calls

namespace Chronicle

variable {b : Behavior G} {past : List (Moment G)} {m : Moment G} {e : Engine G}

/--
An instance that was attached before an act is as degraded as it was, unless the act has it
configured anew.
-/
theorem exists_before
    (h : Chronicle b (past ++ [m]) e) {j : Instance G} (hj : j ∈ e.scheduler.all)
    (hused : j.handle ∈ attachedIn past) :
    (∃ k ∈ m.before.scheduler.all, k.handle = j.handle ∧ k.degraded = j.degraded ∧
      ∀ config, m.act ≠ .reconfigure j.handle config) ∨
    ∃ k config, m.before.scheduler.instance? j.handle = some k ∧
      m.act = .reconfigure j.handle config ∧ j = (k.configure b config m.before.env).1 := by
  obtain ⟨-, hproper, rfl⟩ := h.last
  rcases mem_all_cases hj with
    ⟨hthere, hother⟩ | ⟨k, hk, hact, rfl⟩ | ⟨k, config, hfind, hact, rfl⟩ |
    ⟨mandate, handle, attachment, entity, config, hact, rfl⟩
  · exact Or.inl ⟨j, hthere, rfl, rfl, hother⟩
  · refine Or.inl ⟨k, hk, rfl, rfl, ?_⟩
    rw [hact]
    exact nofun
  · rw [handle_configure]
    exact Or.inr ⟨k, config, hfind, hact, rfl⟩
  · obtain ⟨degraded, heq⟩ := exists_recruit_eq b m.before handle attachment entity config
    rw [heq] at hused
    exact absurd hused (hproper.not_mem (congrArg Act.attached? hact))

/-- **Nothing but a configuration changes whether an instance is degraded.** -/
theorem degraded_along
    {between : List (Moment G)} (h : Chronicle b (past ++ m :: between) e)
    {i : Instance G} (hi : i ∈ m.before.scheduler.all)
    (hother : ∀ x ∈ m :: between, ∀ config, x.act ≠ .reconfigure i.handle config)
    {j : Instance G} (hj : j ∈ e.scheduler.all) (hsame : j.handle = i.handle) :
    j.degraded = i.degraded := by
  have hbefore := h.split.1
  have hused : j.handle ∈ attachedIn past := by
    rw [hsame]
    exact hbefore.handles_sublist.subset (List.mem_map_of_mem hi)
  induction between using List.reverseRecOn generalizing e j with
  | nil =>
      rcases h.exists_before hj hused with ⟨k, hk, hhandle, hdegraded, -⟩ | ⟨k, config, -, hact, -⟩
      · obtain rfl : k = i :=
          List.inj_on_of_nodup_map hbefore.nodup_handles hk hi (hhandle.trans hsame)
        exact hdegraded.symm
      · rw [hsame] at hact
        exact absurd hact (hother m List.mem_cons_self config)
  | append_singleton between last ih =>
      rw [← List.cons_append, ← List.append_assoc] at h
      have hused' : j.handle ∈ attachedIn (past ++ m :: between) := by
        rw [attachedIn_append]
        exact List.mem_append_left _ hused
      rcases h.exists_before hj hused' with
        ⟨k, hk, hhandle, hdegraded, -⟩ | ⟨k, config, -, hact, -⟩
      · rw [← hdegraded]
        refine ih h.last.1 (fun x hx => hother x ?_) hk (hhandle.trans hsame) (hhandle ▸ hused)
        rw [← List.cons_append]
        exact List.mem_append_left _ hx
      · rw [hsame] at hact
        exact absurd hact (hother last (by simp) config)

section Attachments

variable {later : List (Moment G)} {mandate : Mandate} {handle : Handle}
  {attachment : Attachment G} {entity : Entity} {config : Payload} {resolved : Capabilities}

/-- The calls of an attachment decide whether its instance is degraded at first. -/
theorem degraded_attached
    (h : Chronicle b (past ++ [m]) e)
    (hact : m.act = .carryOut mandate (.attach handle attachment entity config))
    {i : Instance G} (hi : i ∈ e.scheduler.all) (hhandle : i.handle = handle) :
    i.degraded = (m.guestRuns b).any (GuestRun.fails b) := by
  obtain ⟨hpast, hproper, rfl⟩ := h.last
  have hnew := hproper.not_mem (congrArg Act.attached? hact)
  rcases mem_all_perform hi with ⟨j, hj, hsame, -⟩ | ⟨_, _, _, _, _, hnow, hrecruit⟩
  · rw [← hhandle, hsame] at hnew
    exact absurd (hpast.handles_sublist.subset (List.mem_map_of_mem hj)) hnew
  · rw [hact] at hnow
    cases hnow
    rw [hrecruit, degraded_recruit, Moment.guestRuns, hact]

/-- Unless it is configured anew, an instance is not called for its start-up any more. -/
theorem guestRunsFor_idle
    (h : Chronicle b (past ++ [m]) e) (hused : handle ∈ attachedIn past)
    (hother : ∀ config, m.act ≠ .reconfigure handle config) :
    m.reconfigures handle = false ∧
      ∀ capability, (∀ p, capability ≠ .phase p) →
        m.guestRunsFor b handle (.capability capability) = [] := by
  have hreconfigures : m.reconfigures handle = false := by
    unfold Moment.reconfigures
    split
    · rename_i other supplied hact
      rw [Bool.and_eq_false_iff]
      left
      exact decide_eq_false fun heq => hother supplied (heq ▸ hact)
    · rfl
  refine ⟨hreconfigures, fun capability hstart => ?_⟩
  rw [guestRunsFor_eq_nil_iff]
  exact calls_idle h.last.2.1 hused hreconfigures hstart

/-- The calls so far tell it also after an act that does not configure the instance anew. -/
theorem asCalled_idle
    {last : Moment G} (h : Chronicle b (past ++ [last]) e) (hused : handle ∈ attachedIn past)
    (hother : ∀ config, last.act ≠ .reconfigure handle config) {degraded : Bool}
    (hbefore : DegradedAsCalled b handle resolved m later degraded) :
    DegradedAsCalled b handle resolved m (later ++ [last]) degraded := by
  obtain ⟨hkept, hidle⟩ := h.guestRunsFor_idle hused hother
  have hnone : (∀ x ∈ later ++ [last], x.reconfigures handle = false) ↔
      ∀ x ∈ later, x.reconfigures handle = false := by
    rw [List.forall_mem_append, List.forall_mem_singleton, and_iff_left hkept]
  have hsame : ∀ capability, (∀ p, capability ≠ .phase p) →
      guestRunsFor b (m :: (later ++ [last])) handle (.capability capability) =
        guestRunsFor b (m :: later) handle (.capability capability) := by
    intro capability hstart
    rw [← List.cons_append, guestRunsFor_append, guestRunsFor_singleton, hidle capability hstart,
      List.append_nil]
  have hfirst := hsame .configure (by simp)
  have hsecond := hsame .configureParameters (by simp)
  constructor
  · rw [hsecond]
    exact hbefore.declared
  · rw [hfirst, hsecond, hnone]
    exact hbefore.configured
  · rw [hfirst, hsecond]
    exact hbefore.unconfigured

/-- The calls of an attachment, told apart by their stage. -/
theorem asCalled_attached
    (h : Chronicle b (past ++ [m]) e)
    (hact : m.act = .carryOut mandate (.attach handle attachment entity config))
    (hresolved : resolved = .ofTest (b.offers attachment.system m.before.env.memory))
    (hshown : resolved.configureParameters = true →
      m.Shows b handle attachment.system .configureParameters)
    {i : Instance G} (hi : i ∈ e.scheduler.all) (hhandle : i.handle = handle) :
    DegradedAsCalled b handle resolved m [] i.degraded := by
  obtain ⟨j, k, env, env', hguestRuns, hj, hk⟩ := guestRuns_attach_shown hact hresolved hshown
  have hj' : j.handle = handle := congrArg (fun x => x.2.handle) hj
  have hk' : k.handle = handle := congrArg (fun x => x.2.handle) hk
  have hconfigured : m.guestRunsFor b handle (.capability .configure) =
      if resolved.configure then [⟨.configure j, env⟩] else [] := by
    rw [Moment.guestRunsFor, hguestRuns]
    split <;> split <;> simp [GuestRun.callFor?, Purpose.call?, hj']
  have hdeclared : m.guestRunsFor b handle (.capability .configureParameters) =
      if resolved.configureParameters then [⟨.configureParameters k, env'⟩] else [] := by
    rw [Moment.guestRunsFor, hguestRuns]
    split <;> split <;> simp [GuestRun.callFor?, Purpose.call?, hk']
  have hdegraded := h.degraded_attached hact hi hhandle
  rw [hguestRuns] at hdegraded
  constructor
  · rw [guestRunsFor_singleton, hdeclared]
    split <;> rfl
  · intro hoffered
    rw [guestRunsFor_singleton, guestRunsFor_singleton, hconfigured, hdeclared, if_pos hoffered]
    rw [if_pos hoffered] at hdegraded
    refine ⟨_, rfl, ?_⟩
    rw [hdegraded]
    split <;> simp
  · intro hnone
    have hnone := Bool.eq_false_iff.1 hnone
    rw [if_neg hnone] at hdegraded
    rw [guestRunsFor_singleton, guestRunsFor_singleton, hconfigured, hdeclared, if_neg hnone]
    refine ⟨rfl, ?_⟩
    rw [hdegraded]
    split <;> simp

/-- A configuration decides anew whether an instance is degraded. -/
theorem asCalled_reconfigured
    (h : Chronicle b (past ++ m :: later) e)
    (hact : m.act = .carryOut mandate (.attach handle attachment entity config))
    (hresolved : resolved = .ofTest (b.offers attachment.system m.before.env.memory))
    {k : Instance G} (hfind : e.scheduler.instance? handle = some k) {supplied : Option Payload}
    (hshown : resolved.configure = true →
      Moment.Shows b ⟨e, .reconfigure handle supplied⟩ handle attachment.system .configure)
    (hbefore : DegradedAsCalled b handle resolved m later k.degraded) :
    DegradedAsCalled b handle resolved m (later ++ [⟨e, .reconfigure handle supplied⟩])
      (k.configure b supplied e.env).1.degraded := by
  obtain ⟨hk, hhandle⟩ := Scheduler.mem_of_instance? hfind
  have hcapabilities : k.capabilities = resolved :=
    (h.charter hact hk hhandle).2.2.1.trans hresolved.symm
  have hguestRuns := h.guestRuns_reconfigure hact hresolved hfind hshown
  have hcalls : Moment.guestRuns b ⟨e, .reconfigure handle supplied⟩ =
      k.configuring b supplied e.env := by
    simp only [Moment.guestRuns, hfind]
  have hdegraded := degraded_configure (b := b) k supplied e.env
  rw [hcapabilities, ← hcalls, hguestRuns] at hdegraded
  have hconfigured :
      guestRunsFor b (m :: (later ++ [⟨e, .reconfigure handle supplied⟩])) handle
        (.capability .configure) =
        guestRunsFor b (m :: later) handle (.capability .configure) ++
          if resolved.configure then [⟨.configure (k.prepare supplied), e.env⟩] else [] := by
    have hprepared : (k.prepare supplied).handle = handle := hhandle
    rw [← List.cons_append, guestRunsFor_append, guestRunsFor_singleton, Moment.guestRunsFor,
      hguestRuns]
    split <;> simp [GuestRun.callFor?, Purpose.call?, hprepared]
  have hdeclared :
      guestRunsFor b (m :: (later ++ [⟨e, .reconfigure handle supplied⟩])) handle
        (.capability .configureParameters) =
        guestRunsFor b (m :: later) handle (.capability .configureParameters) := by
    rw [← List.cons_append, guestRunsFor_append, guestRunsFor_singleton, Moment.guestRunsFor,
      hguestRuns]
    split <;> simp [GuestRun.callFor?, Purpose.call?]
  have hnow : ¬ ∀ x ∈ later ++ [⟨e, .reconfigure handle supplied⟩],
      x.reconfigures handle = false := by
    intro hnone
    have hlast := hnone ⟨e, .reconfigure handle supplied⟩ (by simp)
    simp [Moment.reconfigures, Scheduler.contains, hfind] at hlast
  constructor
  · rw [hdeclared]
    exact hbefore.declared
  · intro hoffered
    rw [hconfigured, hdegraded, if_pos hoffered, if_pos hoffered]
    refine ⟨_, List.getLast?_concat, ?_⟩
    rw [or_iff_left fun hkept => hnow hkept.1, List.any_cons, List.any_nil, Bool.or_false]
  · intro hnone
    rw [hconfigured, hdeclared, hdegraded, if_neg (Bool.eq_false_iff.1 hnone),
      if_neg (Bool.eq_false_iff.1 hnone), List.append_nil]
    exact hbefore.unconfigured hnone

/-- **An instance is as degraded as its calls have left it.** -/
theorem asCalled
    (h : Chronicle b (past ++ m :: later) e)
    (hact : m.act = .carryOut mandate (.attach handle attachment entity config))
    (hresolved : resolved = .ofTest (b.offers attachment.system m.before.env.memory))
    (hshown : ∀ capability, capability = .configure ∨ capability = .configureParameters →
      resolved.has capability = true →
        ∀ x ∈ m :: later, x.Shows b handle attachment.system capability)
    {i : Instance G} (hi : i ∈ e.scheduler.all) (hhandle : i.handle = handle) :
    DegradedAsCalled b handle resolved m later i.degraded := by
  induction later using List.reverseRecOn generalizing e i with
  | nil =>
      exact h.asCalled_attached hact hresolved
        (fun hoffered => hshown .configureParameters (Or.inr rfl) hoffered m List.mem_cons_self)
        hi hhandle
  | append_singleton later last ih =>
      rw [← List.cons_append, ← List.append_assoc] at h
      have hpast := h.last.1
      have hused : handle ∈ attachedIn (past ++ m :: later) :=
        mem_attachedIn (congrArg Act.attached? hact)
      have hbefore : ∀ k ∈ last.before.scheduler.all, k.handle = handle →
          DegradedAsCalled b handle resolved m later k.degraded := fun k =>
        ih hpast fun capability hstart hoffered x hx =>
          hshown capability hstart hoffered x (List.mem_append_left [last] hx)
      rcases h.exists_before hi (hhandle ▸ hused) with
        ⟨k, hk, hsame, hdegraded, hother⟩ | ⟨k, supplied, hfind, hact', rfl⟩
      · rw [← hdegraded]
        rw [hhandle] at hother
        exact h.asCalled_idle hused hother (hbefore k hk (hsame.trans hhandle))
      · rw [handle_configure] at hhandle
        rw [handle_configure, hhandle] at hfind hact'
        obtain ⟨e', act⟩ := last
        obtain rfl : act = _ := hact'
        refine hpast.asCalled_reconfigured hact hresolved hfind (fun hoffered => ?_)
          (hbefore k (Scheduler.mem_of_instance? hfind).1 hhandle)
        exact hshown .configure (Or.inl rfl) hoffered _ (by simp)

end Attachments
end Chronicle
section Courses

variable {b : Behavior G} {c : Course G} {handle : Handle} {i : Instance G}

/-- **Nothing that a host does but a configuration changes whether an instance is degraded.** -/
theorem degraded_of_operation
    (hfind : (c.engine b).scheduler.instance? handle = some i) {operation : Operation G}
    (hother : ∀ config, operation ≠ .reconfigure handle config) {j : Instance G}
    (hlater : ((c.go [operation]).engine b).scheduler.instance? handle = some j) :
    j.degraded = i.degraded := by
  obtain ⟨hi, hhandle⟩ := Scheduler.mem_of_instance? hfind
  obtain ⟨hj, hhandle'⟩ := Scheduler.mem_of_instance? hlater
  have hchronicle := (c.go [operation]).chronicle b
  have hpast : (c.go [operation]).past b =
      c.past b ++ (c.engine b).moments b ((c.engine b).actsOf b operation) :=
    (c.past_go b [operation]).trans (congrArg _ (List.append_nil _))
  have hacts : ∀ act ∈ (c.engine b).actsOf b operation, ∀ config,
      act ≠ .reconfigure handle config := by
    rintro act hact config rfl
    exact hother config (eq_of_stroke? hact rfl)
  rw [hpast] at hchronicle
  cases hrow : (c.engine b).actsOf b operation with
  | nil =>
      have hengine : (c.go [operation]).engine b = c.engine b := by
        have hfold := operate_eq_foldl b (c.engine b) operation
        rw [hrow] at hfold
        rw [Course.engine_go]
        exact hfold.symm
      rw [hengine, hfind] at hlater
      rw [Option.some.inj hlater]
  | cons act rest =>
      rw [hrow, Engine.moments] at hchronicle
      rw [hrow] at hacts
      refine hchronicle.degraded_along hi (fun x hx => ?_) hj (hhandle'.trans hhandle.symm)
      rw [hhandle]
      have hx' : x ∈ (c.engine b).moments b (act :: rest) := hx
      exact hacts _ (mem_acts_of_mem_moments hx')

/-- **Whoever has an instance configured anew is told whether it is degraded.** -/
theorem reconfigure_eq
    (hfind : (c.engine b).scheduler.instance? handle = some i) (config : Option Payload) :
    ∃ j, ((c.go [.reconfigure handle config]).engine b).scheduler.instance? handle = some j ∧
      (c.engine b).reconfigure b handle config =
        .ok (!j.degraded, (c.go [.reconfigure handle config]).engine b) := by
  obtain ⟨hi, hhandle⟩ := Scheduler.mem_of_instance? hfind
  have hengine : (c.go [.reconfigure handle config]).engine b =
      ⟨(c.engine b).scheduler.replace handle (i.configure b config (c.engine b).env).1,
        (i.configure b config (c.engine b).env).2⟩ := by
    rw [Course.engine_go]
    simp only [Engine.operateAll, List.foldl_cons, List.foldl_nil, Engine.operate,
      Engine.reconfigure, hfind]
  have hnodup := ((c.go [.reconfigure handle config]).chronicle b).nodup_handles
  refine ⟨(i.configure b config (c.engine b).env).1, ?_, ?_⟩
  · rw [instance?_eq_some_iff hnodup, hengine]
    refine ⟨?_, (handle_configure b i config _).trans hhandle⟩
    simp only [Scheduler.replace, Scheduler.all, ← List.map_append]
    exact List.mem_map.2 ⟨i, hi, if_pos (beq_iff_eq.2 hhandle)⟩
  · rw [hengine, Engine.reconfigure, hfind]

end Courses

/--
**When an instance is degraded.**  Take an instance whose system shows, for as long as it is
attached, what it offered of the two interfaces of its start-up when it was attached.  If it offered
to be configured, the instance is degraded if and only if its last configuration failed, or it was
not configured anew since it was attached and the declaration of its parameters failed.  If it did
not, the declaration alone decides.  Whatever else a host does, be it a step in which the instance
fails or is admitted, leaves it as degraded as it was; and whoever has it configured anew is told
whether it is sound by then.
-/
theorem degraded_history
    (b : Behavior G) (c : Course G) {past future : List (Moment G)} {m₀ : Moment G}
    (hsplit : c.past b = past ++ m₀ :: future) {mandate : Mandate} {handle : Handle}
    {attachment : Attachment G} {entity : Entity} {config : Payload} {resolved : Capabilities}
    (hact : m₀.act = .carryOut mandate (.attach handle attachment entity config))
    (hresolved : resolved = .ofTest (b.offers attachment.system m₀.before.env.memory))
    (hshown : ∀ capability, capability = .configure ∨ capability = .configureParameters →
      resolved.has capability = true →
        ∀ m ∈ m₀ :: future, m.Shows b handle attachment.system capability)
    {i : Instance G} (hfind : (c.engine b).scheduler.instance? handle = some i) :
    DegradedAsCalled b handle resolved m₀ future i.degraded ∧
    (∀ operation, (∀ supplied, operation ≠ .reconfigure handle supplied) → ∀ j,
      ((c.go [operation]).engine b).scheduler.instance? handle = some j →
        j.degraded = i.degraded) ∧
    ∀ supplied, ∃ j,
      ((c.go [.reconfigure handle supplied]).engine b).scheduler.instance? handle = some j ∧
        (c.engine b).reconfigure b handle supplied =
          .ok (!j.degraded, (c.go [.reconfigure handle supplied]).engine b) := by
  obtain ⟨hi, hhandle⟩ := Scheduler.mem_of_instance? hfind
  have hchronicle := c.chronicle b
  rw [hsplit] at hchronicle
  exact ⟨hchronicle.asCalled hact hresolved hshown hi hhandle,
    fun _ hother _ => degraded_of_operation hfind hother, reconfigure_eq hfind⟩

namespace Puppets

/-- Every system offers all interfaces, takes one payload only, and panics when it is to declare. -/
def exacting : Behavior puppets :=
  { idle with
    offers := fun _ _ _ => true
    configure := fun _ context =>
      match context.config.tree with
      | .bool true => .done ()
      | _ => .fail (.ofMessage "not like this")
    configureParameters := fun _ => .panic (.text "nothing to declare") }

/-- A system is attached, makes a step, and is configured anew with the payload that it wants. -/
def mending : Course puppets where
  memory := (0 : Nat)
  operations :=
    [.attach ⟨(1 : Nat), .shared⟩ .null ⟨.null⟩, .step (.first .zero),
      .reconfigure ⟨1⟩ (some ⟨.bool true⟩)]

end Puppets

/-- A configuration that succeeds makes good for a declaration of parameters that failed. -/
theorem degraded_history_mending :
    ∃ (m₀ : Moment puppets) (future : List (Moment puppets)) (i : Instance puppets),
      Puppets.mending.past Puppets.exacting = [⟨.fresh (0 : Nat), .reserve⟩] ++ m₀ :: future ∧
      (Puppets.mending.engine Puppets.exacting).scheduler.instance? ⟨1⟩ = some i ∧
      (guestRunsFor Puppets.exacting (m₀ :: future) ⟨1⟩ (.capability .configure)).map
        (GuestRun.fails Puppets.exacting) = [true, false] ∧
      (guestRunsFor Puppets.exacting (m₀ :: future) ⟨1⟩ (.capability .configureParameters)).map
        (GuestRun.fails Puppets.exacting) = [true] ∧
      DegradedAsCalled Puppets.exacting ⟨1⟩ (.ofTest fun _ => true) m₀ future i.degraded ∧
      i.degraded = false ∧
      ∀ info j,
        ((Puppets.mending.go [.step info]).engine Puppets.exacting).scheduler.instance? ⟨1⟩ =
          some j → j.degraded = i.degraded := by
  obtain ⟨hcalled, hkept, -⟩ := degraded_history Puppets.exacting Puppets.mending
    (show _ = [⟨.fresh (0 : Nat), .reserve⟩] ++ _ :: _ from rfl) rfl rfl
    (fun _ _ _ m _ _ => ⟨rfl, fun _ _ => rfl⟩) rfl
  exact ⟨_, _, _, rfl, rfl, rfl, rfl, hcalled, rfl, fun info => hkept (.step info) nofun⟩

end SimEngine
