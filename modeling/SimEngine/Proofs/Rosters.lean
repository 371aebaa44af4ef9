import SimEngine.Proofs.Chronicles

/-!
# Rosters

The instances of a scheduler are taken on, admitted, configured anew and let go
of by acts.  What an act does to their handles depends on the handles only, so
who is attached after a chronicle can be told from its acts.  Guest code is
called on behalf of those who are attached, and of nobody else.

**Definitions.**
* `Engine.recruit`: the instance that an attachment comes to.
* `Act.enroll`: what an act does to the handles of the instances.
* `Scheduler.Staged`: each instance is in the state of the list that it is on.

**Results.**
* `handles_perform`, `mem_all_cases`: the handles and the instances after an act.
* `Chronicle.handles_sublist`: the instances stand in the order in which they
  were attached.
* `Chronicle.absent_later`: an instance that is gone stays away.
* `Chronicle.staged`: the instances of a chronicle are staged.
* `call_cases`: the acts in which guest code is called for an instance.
* `attached_of_isFor`: whoever is called is attached, or being attached.
* `Chronicle.silent_before`, `Chronicle.silent_later`: nobody is called before
  being attached, nor once gone.
-/

namespace SimEngine

variable {G : Guest}

/-- The instance that an attachment comes to. -/
def Engine.recruit (b : Behavior G) (e : Engine G) (handle : Handle) (attachment : Attachment G)
    (entity : Entity) (config : Payload) : Instance G :=
  let made := e.newcomer b handle attachment entity config
  let configured := made.1.configure b none made.2
  (configured.1.configureParameters b configured.2).1

/-- What an act does to the handles of the instances. -/
def Act.enroll : Act G → List Handle → List Handle
  | .carryOut _ (.attach handle _ _ _), handles => handles ++ [handle]
  | .carryOut _ (.detach handle), handles => handles.erase handle
  | .expel, handles => handles.dropLast
  | _, handles => handles

/-- Those who take part in steps have been admitted, and those who wait have been configured. -/
structure Scheduler.Staged (s : Scheduler G) : Prop where
  stepping : ∀ i ∈ s.instances, i.state = .stepping
  waiting : ∀ i ∈ s.pending, i.state = .configured

theorem exists_configure_eq
    (b : Behavior G) (i : Instance G) (config : Option Payload) (env : Environment G) :
    ∃ degraded, (i.configure b config env).1 = { i.prepare config with degraded := degraded } := by
  unfold Instance.configure
  simp only
  split
  · split
    · exact ⟨true, rfl⟩
    · exact ⟨false, rfl⟩
  · exact ⟨i.degraded, rfl⟩

theorem exists_configureParameters_eq
    (b : Behavior G) (i : Instance G) (env : Environment G) :
    ∃ degraded, (i.configureParameters b env).1 = { i with degraded := degraded } := by
  unfold Instance.configureParameters
  split
  · simp only
    split
    · exact ⟨true, rfl⟩
    · exact ⟨i.degraded, rfl⟩
  · exact ⟨i.degraded, rfl⟩

/-- All about a recruit, but whether it is degraded, is settled by its attachment. -/
theorem exists_recruit_eq
    (b : Behavior G) (e : Engine G) (handle : Handle) (attachment : Attachment G)
    (entity : Entity) (config : Payload) :
    ∃ degraded, e.recruit b handle attachment entity config =
      { handle := handle
        name := b.name attachment.system e.env.memory
        attachment := attachment
        entity := entity
        capabilities := .ofTest (b.offers attachment.system e.env.memory)
        config := config
        state := .configured
        degraded := degraded } := by
  unfold Engine.recruit
  obtain ⟨first, hfirst⟩ := exists_configure_eq b
    (e.newcomer b handle attachment entity config).1 none
    (e.newcomer b handle attachment entity config).2
  obtain ⟨second, hsecond⟩ := exists_configureParameters_eq b
    ((e.newcomer b handle attachment entity config).1.configure b none
      (e.newcomer b handle attachment entity config).2).1
    ((e.newcomer b handle attachment entity config).1.configure b none
      (e.newcomer b handle attachment entity config).2).2
  refine ⟨second, ?_⟩
  simp only [hsecond]
  rw [hfirst]
  rfl

namespace Scheduler

variable (s : Scheduler G)

theorem instance?_eq_none_iff (handle : Handle) :
    s.instance? handle = none ↔ handle ∉ s.handles := by
  simp [instance?, handles]

theorem mem_of_instance?
    {s : Scheduler G} {handle : Handle} {i : Instance G} (h : s.instance? handle = some i) :
    i ∈ s.all ∧ i.handle = handle :=
  ⟨List.mem_of_find?_eq_some h, by simpa using List.find?_some h⟩

theorem map_eraseP_handle (handle : Handle) (instances : List (Instance G)) :
    (instances.eraseP fun i => i.handle == handle).map Instance.handle =
      (instances.map Instance.handle).erase handle := by
  rw [List.erase_eq_eraseP', List.eraseP_map]
  rfl

theorem handles_erase (handle : Handle) :
    (s.erase handle).handles = s.handles.erase handle := by
  have hany : (s.instances.any fun i => i.handle == handle) = true ↔
      handle ∈ s.instances.map Instance.handle := by
    simp
  unfold erase handles all
  split
  · rename_i h
    rw [List.map_append, List.map_append, List.erase_append, if_pos (hany.1 h),
      map_eraseP_handle]
  · rename_i h
    rw [List.map_append, List.map_append, List.erase_append, if_neg (mt hany.2 h),
      map_eraseP_handle]

theorem erase_of_absent {s : Scheduler G} {handle : Handle} (h : handle ∉ s.handles) :
    s.erase handle = s := by
  have hsame : ∀ instances : List (Instance G), (∀ i ∈ instances, i ∈ s.all) →
      (instances.eraseP fun i => i.handle == handle) = instances := by
    intro instances hall
    apply List.eraseP_of_forall_not
    intro i hi heq
    exact h (beq_iff_eq.1 heq ▸ List.mem_map_of_mem (hall i hi))
  unfold erase
  rw [hsame s.instances fun i hi => List.mem_append_left _ hi,
    hsame s.pending fun i hi => List.mem_append_right _ hi]
  split <;> rfl

theorem map_handle_replace
    {handle : Handle} {i : Instance G} (h : i.handle = handle) :
    (s.replace handle i).handles = s.handles := by
  have hswap : ∀ j ∈ s.all,
      Instance.handle (if j.handle == handle then i else j) = j.handle := by
    intro j _
    split
    · rename_i heq
      rw [h, beq_iff_eq.1 heq]
    · rfl
  unfold replace handles all
  simp only [← List.map_append, List.map_map]
  exact List.map_congr_left hswap

theorem handles_admitPending : s.admitPending.handles = s.handles := by
  simp [admitPending, handles, all, Instance.admitted]

end Scheduler

section Acts

variable (b : Behavior G)

theorem scheduler_detach (e : Engine G) (handle : Handle) :
    (e.apply b (.detach handle)).scheduler = e.scheduler.erase handle := by
  simp only [Engine.apply, Engine.detach]
  cases hfind : e.scheduler.instance? handle with
  | none =>
      exact (Scheduler.erase_of_absent ((e.scheduler.instance?_eq_none_iff handle).1 hfind)).symm
  | some i =>
      rfl

theorem handle_configure
    (i : Instance G) (config : Option Payload) (env : Environment G) :
    (i.configure b config env).1.handle = i.handle :=
  congrArg Wrapping.handle (configure_wrapping b i config env)

/-- **The handles after an act.** -/
theorem handles_perform (e : Engine G) (act : Act G) :
    (e.perform b act).scheduler.handles = act.enroll e.scheduler.handles := by
  cases act with
  | carryOut mandate command =>
      cases command with
      | attach handle attachment entity config =>
          show ((e.scheduler.instances ++ (e.scheduler.pending ++
            [e.recruit b handle attachment entity config])).map Instance.handle) = _
          obtain ⟨degraded, hrecruit⟩ := exists_recruit_eq b e handle attachment entity config
          rw [← List.append_assoc, List.map_append, hrecruit]
          rfl
      | detach handle =>
          show (e.apply b (.detach handle)).scheduler.handles = _
          rw [scheduler_detach, Scheduler.handles_erase]
          rfl
  | admitAll =>
      exact e.scheduler.handles_admitPending
  | reconfigure handle config =>
      simp only [Engine.perform, Engine.reconfigure]
      cases hfind : e.scheduler.instance? handle with
      | none =>
          rfl
      | some i =>
          exact e.scheduler.map_handle_replace
            ((handle_configure b i config e.env).trans (Scheduler.mem_of_instance? hfind).2)
  | expel =>
      simp only [Engine.perform]
      cases hnewest : e.scheduler.newest? with
      | none =>
          show e.scheduler.handles = e.scheduler.handles.dropLast
          rw [Scheduler.handles, (Scheduler.newest?_eq_none_iff _).1 hnewest]
          rfl
      | some newest =>
          show newest.2.handles = e.scheduler.handles.dropLast
          rw [Scheduler.handles, Scheduler.handles, Scheduler.all_of_newest? hnewest,
            List.map_append, List.map_singleton, List.dropLast_concat]
  | _ => rfl

theorem enroll_sublist (act : Act G) (handles : List Handle) :
    (act.enroll handles).Sublist (handles ++ act.attached?.toList) := by
  cases act with
  | carryOut mandate command =>
      cases command with
      | attach handle attachment entity config =>
          exact List.Sublist.refl _
      | detach handle =>
          rw [used_append_none _ rfl]
          exact List.erase_sublist
  | expel =>
      rw [used_append_none _ rfl]
      exact List.dropLast_sublist _
  | _ =>
      rw [used_append_none _ rfl]
      exact List.Sublist.refl _

theorem staged_perform
    {e : Engine G} (h : e.scheduler.Staged) (hnodup : e.scheduler.handles.Nodup) (act : Act G) :
    (e.perform b act).scheduler.Staged := by
  cases act with
  | carryOut mandate command =>
      cases command with
      | attach handle attachment entity config =>
          obtain ⟨degraded, hrecruit⟩ := exists_recruit_eq b e handle attachment entity config
          refine ⟨h.stepping, ?_⟩
          intro i hi
          replace hi : i ∈ e.scheduler.pending ++
            [e.recruit b handle attachment entity config] := hi
          rcases List.mem_append.1 hi with hi | hi
          · exact h.waiting i hi
          · rw [List.mem_singleton.1 hi, hrecruit]
      | detach handle =>
          show (e.apply b (.detach handle)).scheduler.Staged
          rw [scheduler_detach, Scheduler.erase]
          split
          · exact ⟨fun i hi => h.stepping i (List.mem_of_mem_eraseP hi), h.waiting⟩
          · exact ⟨h.stepping, fun i hi => h.waiting i (List.mem_of_mem_eraseP hi)⟩
  | admitAll =>
      refine ⟨?_, fun i hi => nomatch hi⟩
      intro i hi
      rcases List.mem_append.1 hi with hi | hi
      · exact h.stepping i hi
      · obtain ⟨j, _, rfl⟩ := List.mem_map.1 hi
        rfl
  | reconfigure handle config =>
      simp only [Engine.perform, Engine.reconfigure]
      cases hfind : e.scheduler.instance? handle with
      | none =>
          exact h
      | some i =>
          obtain ⟨hi, rfl⟩ := Scheduler.mem_of_instance? hfind
          obtain ⟨degraded, hconfigured⟩ := exists_configure_eq b i config e.env
          -- The instance of the handle is the one that is configured, and keeps its state.
          have hsame : ∀ j ∈ e.scheduler.all, ∀ state : InstanceState, state ≠ .created →
              j.state = state →
              (if j.handle == i.handle then (i.configure b config e.env).1 else j).state =
                state := by
            intro j hj state hcreated hstate
            split
            · rename_i heq
              obtain rfl : j = i := List.inj_on_of_nodup_map hnodup hj hi (beq_iff_eq.1 heq)
              rw [hconfigured]
              simp [Instance.prepare, hstate, hcreated]
            · exact hstate
          constructor
          · intro j' hj'
            obtain ⟨j, hj, rfl⟩ := List.mem_map.1 hj'
            exact hsame j (List.mem_append_left _ hj) _ (by decide) (h.stepping j hj)
          · intro j' hj'
            obtain ⟨j, hj, rfl⟩ := List.mem_map.1 hj'
            exact hsame j (List.mem_append_right _ hj) _ (by decide) (h.waiting j hj)
  | expel =>
      simp only [Engine.perform, Scheduler.newest?]
      split
      · rename_i i s hnewest
        split at hnewest
        · obtain ⟨rfl, rfl⟩ := Prod.mk.inj (Option.some.inj hnewest)
          exact ⟨h.stepping, fun i hi => h.waiting i (List.dropLast_subset _ hi)⟩
        · obtain ⟨rfl, rfl⟩ := Prod.mk.inj (Option.some.inj hnewest)
          exact ⟨fun i hi => h.stepping i (List.dropLast_subset _ hi), h.waiting⟩
        · cases hnewest
      · exact h
  | _ => exact ⟨h.stepping, h.waiting⟩

/--
**Who is there after an act**: an instance of before that the act does not configure anew, one that
is admitted, the one that is configured anew, or the one that the act attaches.
-/
theorem mem_all_cases
    {b : Behavior G} {e : Engine G} {act : Act G} {i : Instance G}
    (hi : i ∈ (e.perform b act).scheduler.all) :
    (i ∈ e.scheduler.all ∧ ∀ config, act ≠ .reconfigure i.handle config) ∨
    (∃ j ∈ e.scheduler.all, act = .admitAll ∧ i = j.admitted) ∨
    (∃ j config, e.scheduler.instance? j.handle = some j ∧ act = .reconfigure j.handle config ∧
      i = (j.configure b config e.env).1) ∨
    ∃ mandate handle attachment entity config,
      act = .carryOut mandate (.attach handle attachment entity config) ∧
      i = e.recruit b handle attachment entity config := by
  cases act with
  | carryOut mandate command =>
      cases command with
      | attach handle attachment entity config =>
          have hall : (e.perform b (.carryOut mandate
              (.attach handle attachment entity config))).scheduler.all =
                e.scheduler.all ++ [e.recruit b handle attachment entity config] :=
            (List.append_assoc _ _ _).symm
          rw [hall] at hi
          rcases List.mem_append.1 hi with hi | hi
          · exact Or.inl ⟨hi, by rintro _ ⟨⟩⟩
          · exact Or.inr (Or.inr (Or.inr
              ⟨mandate, handle, attachment, entity, config, rfl, List.mem_singleton.1 hi⟩))
      | detach handle =>
          replace hi : i ∈ (e.apply b (.detach handle)).scheduler.all := hi
          rw [scheduler_detach] at hi
          exact Or.inl ⟨(Engine.Sound.all_erase_sublist e.scheduler handle).subset hi,
            by rintro _ ⟨⟩⟩
  | admitAll =>
      rcases List.mem_append.1 hi with hi | hi
      · rcases List.mem_append.1 hi with hi | hi
        · exact Or.inl ⟨List.mem_append_left _ hi, by rintro _ ⟨⟩⟩
        · obtain ⟨j, hj, rfl⟩ := List.mem_map.1 hi
          exact Or.inr (Or.inl ⟨j, List.mem_append_right _ hj, rfl, rfl⟩)
      · cases hi
  | reconfigure handle config =>
      simp only [Engine.perform, Engine.reconfigure] at hi
      cases hfind : e.scheduler.instance? handle with
      | none =>
          rw [hfind] at hi
          have habsent := (e.scheduler.instance?_eq_none_iff handle).1 hfind
          refine Or.inl ⟨hi, fun _ heq => ?_⟩
          obtain ⟨rfl, -⟩ := Act.reconfigure.inj heq
          exact habsent (List.mem_map_of_mem hi)
      | some k =>
          obtain ⟨hk, rfl⟩ := Scheduler.mem_of_instance? hfind
          simp only [hfind, Scheduler.replace, Scheduler.all, ← List.map_append] at hi
          obtain ⟨j, hj, rfl⟩ := List.mem_map.1 hi
          by_cases hsame : j.handle = k.handle
          · rw [if_pos (beq_iff_eq.2 hsame)]
            exact Or.inr (Or.inr (Or.inl ⟨k, config, hfind, rfl, rfl⟩))
          · rw [if_neg (mt beq_iff_eq.1 hsame)]
            exact Or.inl ⟨hj, fun _ heq => hsame (Act.reconfigure.inj heq).1.symm⟩
  | expel =>
      simp only [Engine.perform] at hi
      cases hnewest : e.scheduler.newest? with
      | none =>
          rw [hnewest] at hi
          exact Or.inl ⟨hi, by rintro _ ⟨⟩⟩
      | some newest =>
          rw [hnewest] at hi
          refine Or.inl ⟨?_, by rintro _ ⟨⟩⟩
          rw [Scheduler.all_of_newest? hnewest]
          exact List.mem_append_left _ hi
  | _ => exact Or.inl ⟨hi, by rintro _ ⟨⟩⟩

end Acts

namespace Chronicle

variable {b : Behavior G} {past : List (Moment G)} {e : Engine G}

/-- **The instances stand in the order in which they were attached.** -/
theorem handles_sublist (h : Chronicle b past e) :
    e.scheduler.handles.Sublist (attachedIn past) := by
  induction h with
  | start memory =>
      exact List.Sublist.refl _
  | next _ act _ ih =>
      rw [handles_perform, attachedIn_append, attachedIn_singleton]
      exact (enroll_sublist act _).trans (ih.append (List.Sublist.refl _))

theorem nodup_handles (h : Chronicle b past e) : e.scheduler.handles.Nodup :=
  h.nodup.sublist h.handles_sublist

theorem staged (h : Chronicle b past e) : e.scheduler.Staged := by
  induction h with
  | start memory =>
      exact ⟨fun _ hi => (nomatch hi), fun _ hi => (nomatch hi)⟩
  | next hpast act _ ih =>
      exact staged_perform b ih hpast.nodup_handles act

/-- **An instance that is gone stays away.** -/
theorem absent_later
    {m : Moment G} {future : List (Moment G)} (h : Chronicle b (past ++ m :: future) e)
    {handle : Handle} (hattached : handle ∈ attachedIn (past ++ [m]))
    (habsent : handle ∉ (m.after b).scheduler.handles) :
    handle ∉ e.scheduler.handles := by
  induction future using List.reverseRecOn generalizing e with
  | nil =>
      rwa [h.last.2.2]
  | append_singleton future last ih =>
      rw [← List.cons_append, ← List.append_assoc] at h
      obtain ⟨hpast, hproper, rfl⟩ := h.last
      rw [Moment.after, handles_perform]
      intro hmem
      rcases List.mem_append.1 ((enroll_sublist _ _).subset hmem) with hmem | hmem
      · exact ih hpast hmem
      · have hnew := hproper.not_mem (Option.mem_toList.1 hmem)
        rw [attachedIn_append_cons] at hnew
        exact hnew (List.mem_append_left _ hattached)

end Chronicle

section Calls

variable {b : Behavior G} {s : GuestRun G}

theorem eq_of_mem_calling
    {i : Instance G} {capability : Capability} {purpose : Purpose G} {env : Environment G}
    (h : s ∈ b.calling i capability purpose env) : s = ⟨purpose, env⟩ := by
  unfold Behavior.calling at h
  split at h
  · exact List.mem_singleton.1 h
  · cases h

theorem eq_of_mem_configuring
    {i : Instance G} {config : Option Payload} {env : Environment G}
    (h : s ∈ i.configuring b config env) : s = ⟨.configure (i.prepare config), env⟩ := by
  unfold Instance.configuring at h
  split at h
  · exact eq_of_mem_calling h
  · cases h

theorem eq_of_mem_declaring
    {i : Instance G} {env : Environment G} (h : s ∈ i.declaring b env) :
    s = ⟨.configureParameters i, env⟩ := by
  unfold Instance.declaring at h
  split at h
  · exact eq_of_mem_calling h
  · cases h

/-- A system is let go of without any call on behalf of its instance. -/
theorem call?_of_mem_releasing
    {attachment : Attachment G} {env : Environment G} (h : s ∈ b.releasing attachment env) :
    s.purpose.call? = none := by
  unfold Behavior.releasing at h
  split at h
  · rw [List.mem_singleton.1 h]
    rfl
  · simp only at h
    split at h
    · rcases List.mem_pair.1 h with rfl | rfl <;> rfl
    · rw [List.mem_singleton.1 h]
      rfl

theorem call?_of_mem_dismissing
    {departure : Option (Instance G × Environment G)} (h : s ∈ b.dismissing departure) :
    s.purpose.call? = none := by
  cases departure with
  | none =>
      cases h
  | some departure =>
      exact call?_of_mem_releasing h

theorem call?_of_mem_loading
    {env : Environment G} {spec : PluginSpec} (h : s ∈ env.loading spec) :
    s.purpose.call? = none := by
  unfold Environment.loading at h
  split at h
  · cases h
  · rw [List.mem_singleton.1 h]
    rfl

/-- The calls of a turn are made on behalf of its instance, in the stage of its pass. -/
theorem call?_of_mem_turn
    {info : StepInfo} {t : Turn G} (h : s ∈ t.guestRuns b info) :
    s.purpose.call? = some (t.inst, t.pass.stage) := by
  unfold Turn.guestRuns at h
  split at h
  · rename_i hpass
    obtain ⟨v, _, hs⟩ := List.mem_flatMap.1 h
    unfold Visit.guestRuns at hs
    split at hs
    · rw [List.mem_singleton.1 hs, hpass]
      rfl
    · cases hs
  · rename_i p hpass
    split at h
    · rw [List.mem_singleton.1 h, hpass]
      rfl
    · cases h

/--
**Whoever is called** is being attached, is configured anew, or has its turn in a step, and the
stage of the call is that of the act.
-/
theorem call_cases
    {m : Moment G} (hs : s ∈ m.guestRuns b) {i : Instance G} {stage : Stage}
    (hcall : s.purpose.call? = some (i, stage)) :
    (∃ mandate attachment entity config,
      m.act = .carryOut mandate (.attach i.handle attachment entity config)) ∨
    (∃ j config, m.act = .reconfigure i.handle config ∧
      m.before.scheduler.instance? i.handle = some j) ∨
    ∃ info failed pass, m.act = .turn info failed (pass, i) ∧ stage = pass.stage := by
  have hcalled : s.purpose.call? ≠ none := by
    rw [hcall]
    exact Option.some_ne_none _
  obtain ⟨e, act⟩ := m
  cases act with
  | load spec =>
      exact absurd (call?_of_mem_loading hs) hcalled
  | carryOut mandate command =>
      cases command with
      | attach handle attachment entity config =>
          left
          rcases List.mem_append.1 hs with hs | hs
          · rw [eq_of_mem_configuring hs] at hcall
            obtain ⟨rfl, _⟩ := Prod.mk.inj (Option.some.inj hcall)
            exact ⟨mandate, attachment, entity, config, rfl⟩
          · rw [eq_of_mem_declaring hs] at hcall
            obtain ⟨rfl, _⟩ := Prod.mk.inj (Option.some.inj hcall)
            rw [handle_configure]
            exact ⟨mandate, attachment, entity, config, rfl⟩
      | detach handle =>
          exact absurd (call?_of_mem_dismissing hs) hcalled
  | turn info failed slot =>
      right
      right
      have hturn := call?_of_mem_turn hs
      rw [hcall] at hturn
      obtain ⟨rfl, rfl⟩ := Prod.mk.inj (Option.some.inj hturn)
      have hslot := (slot_turn b info failed slot e.env).1
      exact ⟨info, failed, _, congrArg (Act.turn info failed) hslot.symm, rfl⟩
  | reconfigure handle config =>
      right
      left
      simp only [Moment.guestRuns] at hs
      split at hs
      · rename_i j hfind
        rw [eq_of_mem_configuring hs] at hcall
        obtain ⟨rfl, _⟩ := Prod.mk.inj (Option.some.inj hcall)
        obtain ⟨_, rfl⟩ := Scheduler.mem_of_instance? hfind
        exact ⟨j, config, rfl, hfind⟩
      · cases hs
  | expel =>
      exact absurd (call?_of_mem_dismissing hs) hcalled
  | run access program =>
      rw [List.mem_singleton.1 hs] at hcalled
      exact absurd rfl hcalled
  | _ => cases hs

/-- **Whoever is called is attached, or being attached.** -/
theorem attached_of_isFor
    {m : Moment G} {used : List Handle} (hproper : m.act.Proper used m.before)
    (hs : s ∈ m.guestRuns b) {handle : Handle} (hfor : s.purpose.IsFor handle) :
    m.act.attached? = some handle ∨ handle ∈ m.before.scheduler.handles := by
  obtain ⟨i, stage, hcall, rfl⟩ := hfor
  rcases call_cases hs hcall with
    ⟨_, _, _, _, hact⟩ | ⟨j, _, hact, hfind⟩ | ⟨info, failed, pass, hact, _⟩
  · exact Or.inl (congrArg Act.attached? hact)
  · obtain ⟨hj, hhandle⟩ := Scheduler.mem_of_instance? hfind
    rw [← hhandle]
    exact Or.inr (List.mem_map_of_mem hj)
  · rw [hact] at hproper
    exact Or.inr (List.mem_map_of_mem (List.mem_append_left _ hproper))

namespace Chronicle

variable {past : List (Moment G)} {m : Moment G} {future : List (Moment G)} {e : Engine G}

/-- Nobody is called before being attached. -/
theorem silent_before
    (h : Chronicle b (past ++ m :: future) e) {handle : Handle}
    (hattached : m.act.attached? = some handle) :
    ∀ m' ∈ past, ∀ s ∈ m'.guestRuns b, ¬ s.purpose.IsFor handle := by
  intro m' hm' s hs hfor
  have hnew := h.split.2.1.not_mem hattached
  obtain ⟨first, second, rfl⟩ := List.append_of_mem hm'
  rw [List.append_assoc, List.cons_append] at h
  obtain ⟨hfirst, hproper, hnext⟩ := h.split
  have hused : handle ∈ attachedIn (first ++ [m']) := by
    rw [attachedIn_append, attachedIn_singleton]
    rcases attached_of_isFor hproper hs hfor with hnow | hthere
    · exact List.mem_append_right _ (Option.mem_toList.2 hnow)
    · exact List.mem_append_left _ (hfirst.handles_sublist.subset hthere)
  rw [attachedIn_append_cons] at hnew
  exact hnew (List.mem_append_left _ hused)

/-- Nobody is called once gone. -/
theorem silent_later
    (h : Chronicle b (past ++ m :: future) e) {handle : Handle}
    (hattached : handle ∈ attachedIn (past ++ [m]))
    (habsent : handle ∉ (m.after b).scheduler.handles) :
    ∀ m' ∈ future, (∀ s ∈ m'.guestRuns b, ¬ s.purpose.IsFor handle) ∧
      handle ∉ m'.before.scheduler.handles := by
  intro m' hm'
  obtain ⟨first, second, rfl⟩ := List.append_of_mem hm'
  obtain ⟨hfirst, hproper, _⟩ := h.split_later
  have hgone := hfirst.absent_later hattached habsent
  refine ⟨?_, hgone⟩
  intro s hs hfor
  rcases attached_of_isFor hproper hs hfor with hnow | hthere
  · have hnew := hproper.not_mem hnow
    rw [attachedIn_append_cons] at hnew
    exact hnew (List.mem_append_left _ hattached)
  · exact hgone hthere

end Chronicle
end Calls
end SimEngine
