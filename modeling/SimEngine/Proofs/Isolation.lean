import Mathlib.Data.List.Permutation
import SimEngine.Proofs.Counterparts
import SimEngine.Proofs.Puppets
import SimEngine.Proofs.Reachable
import SimEngine.Proofs.Recasts

/-!
# Isolation of failures

Two runs of a step in which one call of one instance fails in the first run and
returns in the second.  The turns of both runs are equal up to that call, and from
then on they are alike outside of what belongs to the instance: it is passed over
in the first run, and its calls in the second leave everything outside as it was.

**Definitions.**
* `Engine.Resumes`: an instance takes part in the next step as ever.

**Results.**
* `turns_isolated`: the turns of the two runs.
* `fault_isolation`: all other instances are called alike in both runs.
-/

namespace SimEngine

variable {G : Guest}

section Runs

variable {S : Interior G} {b b' : Behavior G} {info : StepInfo}

/-- The turns of an instance that has failed are silent if their calls are. -/
theorem turn_of_silent
    {failed failed' : List Handle} {p : StepPhase} {i : Instance G} (hfailed : i.handle ∈ failed)
    {env env' : Environment G} (hagree : S.Agree env env')
    (hsilent : ∀ c ∈ (b'.turn info failed' (.phase p, i) env').calls b' info,
      S.Agree c.before c.after) :
    (b.turn info failed (.phase p, i) env).calls b info = [] ∧
      S.Agree (b.turn info failed (.phase p, i) env).after
        (b'.turn info failed' (.phase p, i) env').after := by
  have hidle : (b.turn info failed (.phase p, i) env).called = false := by
    rw [← Bool.not_eq_true, called_turn]
    exact fun h => h.2.2 hfailed
  refine ⟨calls_of_not_called hidle, ?_⟩
  rw [turn_of_not_called hidle]
  refine ((agree_passedOver failed p i env).symm.trans hagree).trans ?_
  cases hcalled : (b'.turn info failed' (.phase p, i) env').called with
  | false =>
      rw [turn_of_not_called hcalled]
      exact agree_passedOver failed' p i env'
  | true =>
      obtain ⟨result, after, hcalls, hturn⟩ := calls_of_called hcalled
      rw [hcalls] at hsilent
      rw [hturn]
      exact hsilent _ (List.mem_singleton_self _)

theorem Interior.TurnAlike.of_owner
    {failed failed' : List Handle} {slot : Pass × Instance G} (howner : slot.2.handle = S.owner)
    {env env' : Environment G} (hbefore : S.Agree env env')
    (hafter : S.Agree (b.turn info failed slot env).after (b'.turn info failed' slot env').after) :
    S.TurnAlike b b' info (b.turn info failed slot env) (b'.turn info failed' slot env') := by
  have hslot := slot_turn b info failed slot env
  have hslot' := slot_turn b' info failed' slot env'
  have hinst : (b.turn info failed slot env).inst.handle = S.owner := by
    rw [inst_turn, howner]
  refine ⟨hslot'.1.trans hslot.1.symm, ?_, hafter, fun h => absurd hinst h,
    fun h => absurd hinst h⟩
  rw [hslot.2, hslot'.2]
  exact hbefore

theorem Interior.TurnAlike.of_same
    {t t' : Turn G} (hsame : t' = t) (hcalls : t'.calls b' info = t.calls b info) :
    S.TurnAlike b b' info t t' := by
  rw [hsame] at hcalls ⊢
  refine ⟨rfl, Interior.Agree.refl t.before, Interior.Agree.refl t.after, fun _ => rfl,
    fun _ => ?_⟩
  rw [hcalls]
  exact List.forall₂_same.2 fun c _ => Interior.CallAlike.refl c

theorem fault?_of_result {t t' : Turn G} (hslot : t'.slot = t.slot)
    (hresult : t'.result = t.result) : t'.fault? = t.fault? := by
  obtain ⟨hpass, hinst⟩ := Prod.mk.inj hslot
  simp only [Turn.fault?, hresult, hpass, hinst]

theorem mem_markFault_of_alike
    {t t' : Turn G} (halike : S.TurnAlike b b' info t t') {failed failed' : List Handle}
    (hsame : ∀ h, h ≠ S.owner → (h ∈ failed' ↔ h ∈ failed)) :
    ∀ h, h ≠ S.owner → (h ∈ markFault failed' t' ↔ h ∈ markFault failed t) := by
  intro h hother
  have hinst : t'.inst = t.inst := congrArg Prod.snd halike.slot
  by_cases howner : t.inst.handle = S.owner
  · have hne : h ≠ t.inst.handle := fun heq => hother (heq.trans howner)
    unfold markFault
    split <;> split <;> simp [hinst, hne, hsame h hother]
  · have hfailed : t'.failed = t.failed := by
      simp only [Turn.failed, fault?_of_result halike.slot (halike.result howner)]
    unfold markFault
    rw [hfailed, hinst]
    split
    · simp [hsame h hother]
    · exact hsame h hother

variable (hrun : ∀ access (p : Program G Unit) env, b'.run access p env = b.run access p env)
  (hblind : ∀ callback signal, S.Blind (b.onSignal callback signal))
  (hoffers : b'.offers = b.offers)

include hrun hblind hoffers

/-- Once the owner has failed in the first run, and if its calls in the second are silent. -/
theorem turns_alike
    {slots : List (Pass × Instance G)}
    (hphases : ∀ slot ∈ slots, slot.2.handle = S.owner → slot.1 ≠ .queries)
    (hshown : ∀ slot ∈ slots, slot.2.handle ≠ S.owner → S.OffersBlindly b slot.2)
    {failed failed' : List Handle} (hfailed : S.owner ∈ failed)
    (hsame : ∀ h, h ≠ S.owner → (h ∈ failed' ↔ h ∈ failed))
    {env env' : Environment G} (halive : env.orphaned = false) (hagree : S.Agree env env')
    (hcode : ∀ c ∈ (b.turns info failed slots env).flatMap (Turn.calls b info),
      c.inst.handle ≠ S.owner → c.program b' info = c.program b info ∧ S.Blind (c.program b info))
    (hsilent : ∀ c ∈ (b'.turns info failed' slots env').flatMap (Turn.calls b' info),
      c.inst.handle = S.owner → S.Agree c.before c.after) :
    List.Forall₂ (S.TurnAlike b b' info) (b.turns info failed slots env)
        (b'.turns info failed' slots env') ∧
      ∀ c ∈ (b.turns info failed slots env).flatMap (Turn.calls b info),
        c.inst.handle ≠ S.owner := by
  induction slots generalizing failed failed' env env' with
  | nil =>
      exact ⟨.nil, fun c hc => by cases hc⟩
  | cons slot rest ih =>
      simp only [Behavior.turns, List.flatMap_cons, List.forall_mem_append] at hcode hsilent ⊢
      have hhead : S.TurnAlike b b' info (b.turn info failed slot env)
            (b'.turn info failed' slot env') ∧
          ∀ c ∈ (b.turn info failed slot env).calls b info, c.inst.handle ≠ S.owner := by
        by_cases howner : slot.2.handle = S.owner
        · obtain ⟨pass, i⟩ := slot
          cases pass with
          | queries =>
              exact absurd rfl (hphases _ List.mem_cons_self howner)
          | phase p =>
              have hfailed' : i.handle ∈ failed := by
                rw [show i.handle = S.owner from howner]
                exact hfailed
              obtain ⟨hnone, hafter⟩ := turn_of_silent hfailed' hagree fun c hc => by
                refine hsilent.1 c hc ?_
                rw [inst_of_mem_turn hc]
                exact howner
              refine ⟨.of_owner howner hagree hafter, ?_⟩
              rw [hnone]
              intro c hc
              cases hc
        · have hinst : ∀ c ∈ (b.turn info failed slot env).calls b info,
              c.inst.handle ≠ S.owner := by
            intro c hc
            rwa [inst_of_mem_turn hc]
          exact ⟨turn_alike hrun hblind hoffers howner (hsame _ howner)
            (hshown slot List.mem_cons_self howner) halive hagree
            fun c hc => hcode.1 c hc (hinst c hc), hinst⟩
      obtain ⟨halike, hothers⟩ := hhead
      have hgrows := grows_turn b info halive failed slot
      have hfailed' : S.owner ∈ markFault failed (b.turn info failed slot env) := by
        unfold markFault
        split
        · exact List.mem_cons_of_mem _ hfailed
        · exact hfailed
      obtain ⟨hrest, hothers'⟩ := ih (fun s hs => hphases s (List.mem_cons_of_mem _ hs))
        (fun s hs => hshown s (List.mem_cons_of_mem _ hs)) hfailed'
        (mem_markFault_of_alike halike hsame) (hgrows.alive halive) halike.after hcode.2 hsilent.2
      exact ⟨.cons halike hrest, hothers, hothers'⟩

/-- The turns of two runs that are equal up to a call that fails in the first. -/
theorem turns_isolated
    {slots : List (Pass × Instance G)}
    (hslots : slots.Pairwise fun s s' =>
      s.2.handle = S.owner → s'.2.handle = S.owner → s'.1 ≠ .queries)
    (hshown : ∀ slot ∈ slots, slot.2.handle ≠ S.owner → S.OffersBlindly b slot.2)
    {failed : List Handle} {env : Environment G} (halive : env.orphaned = false)
    (hcode : ∀ c ∈ (b.turns info failed slots env).flatMap (Turn.calls b info),
      c.inst.handle ≠ S.owner → c.program b' info = c.program b info ∧ S.Blind (c.program b info))
    {c₀ c₀' : StepCall G} {own rest rest' : List (StepCall G)} (hslip : S.Slip c₀ c₀' rest')
    (hcalls : ((b.turns info failed slots env).flatMap (Turn.calls b info)).filter
      (fun c => c.inst.handle = S.owner) = own ++ c₀ :: rest)
    (hcalls' : ((b'.turns info failed slots env).flatMap (Turn.calls b' info)).filter
      (fun c => c.inst.handle = S.owner) = own ++ c₀' :: rest') :
    List.Forall₂ (S.TurnAlike b b' info) (b.turns info failed slots env)
        (b'.turns info failed slots env) ∧
      rest = [] := by
  -- The induction keeps the calls to the owner that are still to come before it fails.
  induction slots generalizing failed env own with
  | nil =>
      simp [Behavior.turns] at hcalls
  | cons slot others ih =>
      obtain ⟨hfirst, hslots⟩ := List.pairwise_cons.1 hslots
      simp only [Behavior.turns, List.flatMap_cons, List.forall_mem_append,
        List.filter_append] at hcode hcalls hcalls' ⊢
      have hshown' := fun s hs => hshown s (List.mem_cons_of_mem slot hs)
      have halive' := (grows_turn b info halive failed slot).alive halive
      by_cases howner : slot.2.handle = S.owner
      · have hall : (((b.turn info failed slot env).calls b info).filter
            fun c => c.inst.handle = S.owner) = (b.turn info failed slot env).calls b info := by
          rw [filter_calls b info _ fun i => i.handle = S.owner, inst_turn]
          simp [howner]
        have hall' : (((b'.turn info failed slot env).calls b' info).filter
            fun c => c.inst.handle = S.owner) = (b'.turn info failed slot env).calls b' info := by
          rw [filter_calls b' info _ fun i => i.handle = S.owner, inst_turn]
          simp [howner]
        rw [hall] at hcalls
        rw [hall'] at hcalls'
        rcases turn_part hoffers hslip halive hcalls hcalls' with
          ⟨hsame, own₂, hrest, hrest'⟩ | ⟨hfailed, hafter, hrest, silent, hsilent⟩
        · -- The owner has done the same in both so far.
          have hhead : S.TurnAlike b b' info (b.turn info failed slot env)
              (b'.turn info failed slot env) := by
            refine .of_owner howner (Interior.Agree.refl env) ?_
            rw [hsame]
            exact Interior.Agree.refl _
          rw [hsame] at hrest' hhead ⊢
          obtain ⟨halike, hnil⟩ := ih hslots hshown' halive' hcode.2 hrest hrest'
          exact ⟨.cons hhead halike, hnil⟩
        · -- The owner has just failed in the first run, and is passed over from here on.
          have hhead : S.TurnAlike b b' info (b.turn info failed slot env)
              (b'.turn info failed slot env) :=
            .of_owner howner (Interior.Agree.refl env) hafter
          have hmarked : S.owner ∈ markFault failed (b.turn info failed slot env) := by
            rw [markFault, if_pos hfailed, inst_turn, howner]
            exact List.mem_cons_self
          obtain ⟨halike, hothers⟩ := turns_alike hrun hblind hoffers
            (fun s hs => hfirst s hs howner) hshown' hmarked
            (mem_markFault_of_alike hhead fun h _ => Iff.rfl) halive' hafter hcode.2
            (fun c hc hinst => hslip.silent c (by
              rw [hsilent]
              exact List.mem_append_right _ (List.mem_filter.2 ⟨hc, by simpa using hinst⟩)))
          refine ⟨.cons hhead halike, ?_⟩
          rw [← hrest]
          exact List.filter_eq_nil_iff.2 fun c hc => by simpa using hothers c hc
      · have hinst : ∀ c ∈ (b.turn info failed slot env).calls b info,
            c.inst.handle ≠ S.owner := by
          intro c hc
          rwa [inst_of_mem_turn hc]
        obtain ⟨hsame, hsameCalls⟩ := turn_congr hrun hoffers halive failed slot
          fun c hc => (hcode.1 c hc (hinst c hc)).1
        have hnone : (((b.turn info failed slot env).calls b info).filter
            fun c => c.inst.handle = S.owner) = [] := by
          rw [filter_calls b info _ fun i => i.handle = S.owner, inst_turn]
          simp [howner]
        have hhead : S.TurnAlike b b' info (b.turn info failed slot env)
            (b'.turn info failed slot env) := .of_same hsame hsameCalls
        rw [hnone, List.nil_append] at hcalls
        rw [hsameCalls, hnone, List.nil_append, hsame] at hcalls'
        rw [hsame] at hhead ⊢
        obtain ⟨halike, hnil⟩ := ih hslots hshown' halive' hcode.2 hcalls hcalls'
        exact ⟨.cons hhead halike, hnil⟩

end Runs

section Alike

variable {S : Interior G} {b b' : Behavior G} {info : StepInfo} {turns turns' : List (Turn G)}

theorem calls_of_alike (h : List.Forall₂ (S.TurnAlike b b' info) turns turns') :
    List.Forall₂ S.CallAlike
      ((turns.flatMap (Turn.calls b info)).filter fun c => c.inst.handle ≠ S.owner)
      ((turns'.flatMap (Turn.calls b' info)).filter fun c => c.inst.handle ≠ S.owner) := by
  induction h with
  | nil =>
      exact .nil
  | @cons t t' _ _ halike _ ih =>
      have hinst : t'.inst = t.inst := congrArg Prod.snd halike.slot
      simp only [List.flatMap_cons, List.filter_append]
      refine List.rel_append ?_ ih
      rw [filter_calls b info t fun i => i.handle ≠ S.owner,
        filter_calls b' info t' fun i => i.handle ≠ S.owner, hinst]
      split
      · rename_i hother
        exact halike.calls (by simpa using hother)
      · exact .nil

theorem faults_of_alike (h : List.Forall₂ (S.TurnAlike b b' info) turns turns') :
    (turns'.filterMap Turn.fault?).filter (fun f => f.handle ≠ S.owner) =
      (turns.filterMap Turn.fault?).filter fun f => f.handle ≠ S.owner := by
  induction h with
  | nil =>
      rfl
  | @cons t t' turns turns' halike _ ih =>
      have hcons : ∀ (t : Turn G) (rest : List (Turn G)), (t :: rest).filterMap Turn.fault? =
          t.fault?.toList ++ rest.filterMap Turn.fault? := by
        intro t rest
        cases hfault : t.fault? <;> simp [hfault]
      rw [hcons, hcons, List.filter_append, List.filter_append, ih]
      congr 1
      have hinst : t'.inst = t.inst := congrArg Prod.snd halike.slot
      by_cases howner : t.inst.handle = S.owner
      · have hnone : ∀ u : Turn G, u.inst.handle = S.owner →
            u.fault?.toList.filter (fun f => f.handle ≠ S.owner) = [] := by
          intro u hu
          unfold Turn.fault?
          split <;> simp [hu]
        rw [hnone t howner, hnone t' (hinst ▸ howner)]
      · rw [fault?_of_result halike.slot (halike.result howner)]

theorem agree_lastOf_of_alike
    (h : List.Forall₂ (S.TurnAlike b b' info) turns turns') {env env' : Environment G}
    (hagree : S.Agree env env') :
    S.Agree (lastOf Turn.after env turns) (lastOf Turn.after env' turns') := by
  induction h generalizing env env' with
  | nil =>
      exact hagree
  | cons halike _ ih =>
      exact ih halike.after

theorem countP_of_alike
    {calls calls' : List (StepCall G)} (h : List.Forall₂ S.CallAlike calls calls') :
    calls'.countP StepCall.counts = calls.countP StepCall.counts := by
  induction h with
  | nil =>
      rfl
  | cons halike _ ih =>
      have hcounts : ∀ {c c' : StepCall G}, S.CallAlike c c' → c'.counts = c.counts := by
        intro c c' h
        simp only [StepCall.counts, h.kind, h.result]
      rw [List.countP_cons, List.countP_cons, ih, hcounts halike]

end Alike

section Resumption

/--
An instance takes part in the next step, unless its detachment is queued: it has a turn in each
pass, and is called if it is due by the turns of that step.
-/
def Engine.Resumes (b : Behavior G) (e : Engine G) (i : Instance G) : Prop :=
  .detach i.handle ∉ e.env.commands →
    ∀ info pass, ∃ past t rest, e.stepTurns b info = past ++ t :: rest ∧ t.slot = (pass, i) ∧
      (t.called = true ↔ t.Due b past)

variable (b : Behavior G)

theorem mem_instances_apply
    {e : Engine G} {i : Instance G} (hi : i ∈ e.scheduler.instances) {command : Command G}
    (hcommand : command ≠ .detach i.handle) : i ∈ (e.apply b command).scheduler.instances := by
  cases command with
  | attach handle attachment entity config =>
      exact hi
  | detach handle =>
      have hne : ¬ (i.handle == handle) = true := by
        intro heq
        exact hcommand (congrArg Command.detach (beq_iff_eq.1 heq).symm)
      simp only [Engine.apply, Engine.detach]
      cases e.scheduler.instance? handle with
      | none =>
          exact hi
      | some j =>
          show i ∈ (e.scheduler.erase handle).instances
          unfold Scheduler.erase
          split
          · refine (List.mem_eraseP_of_neg ?_).2 hi
            exact hne
          · exact hi

theorem mem_instances_beginStep
    {e : Engine G} {i : Instance G} (hi : i ∈ e.scheduler.instances)
    (hcommands : .detach i.handle ∉ e.env.commands) :
    i ∈ (e.beginStep b).scheduler.instances := by
  have hstay : ∀ (commands : List (Command G)) (e : Engine G), i ∈ e.scheduler.instances →
      .detach i.handle ∉ commands →
        i ∈ (commands.foldl (fun e c => e.apply b c) e).scheduler.instances := by
    intro commands
    induction commands with
    | nil =>
        exact fun e hi _ => hi
    | cons command rest ih =>
        intro e hi hnot
        rw [List.mem_cons, not_or] at hnot
        exact ih _ (mem_instances_apply b hi (Ne.symm hnot.1)) hnot.2
  exact List.mem_append_left _ (hstay _ _ hi hcommands)

/-- Whatever happened in a step, its instances take part in the next one. -/
theorem resumes {e : Engine G} {i : Instance G} (hi : i ∈ e.scheduler.instances) :
    e.Resumes b i := by
  intro hcommands info pass
  have hslot : (pass, i) ∈ slots (e.beginStep b).scheduler.instances := by
    have hstays := mem_instances_beginStep b hi hcommands
    refine List.mem_flatMap.2 ⟨pass, ?_, List.mem_map_of_mem hstays⟩
    cases pass with
    | queries =>
        exact List.mem_cons_self
    | phase p =>
        cases p <;> simp [Pass.all, StepPhase.all]
  rw [← map_slot_turns b info [] (slots (e.beginStep b).scheduler.instances)
    (e.beginStep b).env] at hslot
  obtain ⟨t, ht, htslot⟩ := List.mem_map.1 hslot
  obtain ⟨past, rest, hsplit⟩ := List.append_of_mem ht
  exact ⟨past, t, rest, hsplit, htslot, called_iff_due b info hsplit⟩

end Resumption

/--
**A failure is isolated.**  Take two runs of a step in which only calls to the owner of an
interior do different things: the calls to it are the same up to one that fails in the first
run and returns in the second, which leaves the same outside of the interior in both, and the
later calls to it in the second run leave everything outside as it was.  The code of all others
and all subscribers do not look inside.  Then all others are called alike in both runs and find
and leave the same outside; they have the same share in both reports; the schedulers are equal
afterwards; and the owner takes part in the next step as ever.
-/
theorem fault_isolation
    (b : Behavior G) (phase : StepPhase → G.System → StepInfo → Program G Unit)
    (onQuery : G.Callback → StepInfo → Entity → Program G Unit) (S : Interior G)
    {log : List Wrapping} {e : Engine G} (hreached : Engine.Reached b log e) (info : StepInfo)
    (hsignals : ∀ callback signal, S.Blind (b.onSignal callback signal))
    (hshown : ∀ i ∈ (e.beginStep b).scheduler.instances, i.handle ≠ S.owner →
      S.OffersBlindly b i)
    (hothers : ∀ c ∈ e.callsBeside b info S.owner,
      c.program (b.recast phase onQuery) info = c.program b info ∧ S.Blind (c.program b info))
    {own rest rest' : List (StepCall G)} {c₀ c₀' : StepCall G}
    (hcalls : e.callsTo b info S.owner = own ++ c₀ :: rest)
    (hcalls' : e.callsTo (b.recast phase onQuery) info S.owner = own ++ c₀' :: rest')
    (hslip : S.Slip c₀ c₀' rest') :
    rest = [] ∧
      List.Forall₂ S.CallAlike (e.callsBeside b info S.owner)
        (e.callsBeside (b.recast phase onQuery) info S.owner) ∧
      S.Agree (e.runStep b info).2.env (e.runStep (b.recast phase onQuery) info).2.env ∧
      (e.runStep (b.recast phase onQuery) info).1.faults.filter (fun f => f.handle ≠ S.owner) =
        (e.runStep b info).1.faults.filter (fun f => f.handle ≠ S.owner) ∧
      (e.runStep b info).1.phaseCalls =
        (e.callsBeside b info S.owner).countP StepCall.counts +
          (e.callsTo b info S.owner).countP StepCall.counts ∧
      (e.runStep (b.recast phase onQuery) info).1.phaseCalls =
        (e.callsBeside b info S.owner).countP StepCall.counts +
          (e.callsTo (b.recast phase onQuery) info S.owner).countP StepCall.counts ∧
      (e.runStep (b.recast phase onQuery) info).2.scheduler =
        (e.runStep b info).2.scheduler ∧
      c₀.inst ∈ (e.runStep b info).2.scheduler.instances ∧
      (e.runStep b info).2.Resumes b c₀.inst ∧
      (e.runStep (b.recast phase onQuery) info).2.Resumes (b.recast phase onQuery) c₀.inst := by
  have hsound := hreached.sound.beginStep (b := b)
  have hbegin := beginStep_recast b phase onQuery e
  have hnodup : ((e.beginStep b).scheduler.instances.map Instance.handle).Nodup := by
    have hhandles := hsound.nodup_handles
    rw [Scheduler.handles, Scheduler.all, List.map_append] at hhandles
    exact (List.nodup_append.1 hhandles).1
  have hturns' : e.stepTurns (b.recast phase onQuery) info =
      (b.recast phase onQuery).turns info [] (slots (e.beginStep b).scheduler.instances)
        (e.beginStep b).env := by
    rw [Engine.stepTurns, hbegin]
  obtain ⟨halike, hnil⟩ : List.Forall₂ (S.TurnAlike b (b.recast phase onQuery) info)
      (e.stepTurns b info) (e.stepTurns (b.recast phase onQuery) info) ∧ rest = [] := by
    rw [Engine.callsTo, Engine.calls] at hcalls hcalls'
    rw [hturns'] at hcalls' ⊢
    refine turns_isolated (run_recast b phase onQuery) hsignals rfl (pairwise_slots hnodup S.owner)
      ?_ hsound.alive ?_ hslip hcalls hcalls'
    · intro slot hslot
      obtain ⟨pass, _, hmem⟩ := List.mem_flatMap.1 hslot
      obtain ⟨i, hi, rfl⟩ := List.mem_map.1 hmem
      exact hshown i hi
    · intro c hc hother
      exact hothers c (List.mem_filter.2 ⟨hc, by simpa using hother⟩)
  have hothersAlike := calls_of_alike halike
  have hinst : c₀.inst ∈ (e.beginStep b).scheduler.instances := by
    have hmem : c₀ ∈ e.callsTo b info S.owner := by
      rw [hcalls]
      simp
    exact inst_mem_of_mem_calls b info e (List.mem_filter.1 hmem).1
  refine ⟨hnil, hothersAlike, ?_, ?_, phaseCalls_split b info e S.owner, ?_, ?_, ?_, ?_, ?_⟩
  · rw [runStep_eq, runStep_eq, hbegin]
    exact agree_lastOf_of_alike halike (Interior.Agree.refl _)
  · rw [runStep_eq, runStep_eq]
    exact faults_of_alike halike
  · rw [phaseCalls_split (b.recast phase onQuery) info e S.owner,
      show (e.callsBeside (b.recast phase onQuery) info S.owner).countP StepCall.counts = _ from
        countP_of_alike hothersAlike]
    rfl
  · rw [runStep_eq, runStep_eq, hbegin]
  · rw [runStep_eq]
    exact hinst
  · rw [runStep_eq]
    exact resumes b hinst
  · rw [runStep_eq, hbegin]
    exact resumes (b.recast phase onQuery) hinst

namespace Puppets

/-- The first system fails when it is updated, the second registers a query. -/
def stumbling : Behavior puppets :=
  { idle with
    phase := fun phase system _ =>
      match phase, system with
      | .update, 1 => (Program.revise fun (m : Nat) => m + 1).bind fun _ =>
          .fail (.ofMessage "stumbled")
      | .update, 2 => (Program.register ⟨2⟩ .any (7 : Nat)).bind fun _ => .done ()
      | _, _ => .done () }

/-- The same with a first system that goes on. -/
def walking : Behavior puppets :=
  stumbling.recast
    (fun phase system info =>
      match phase, system with
      | .update, 1 => Program.revise fun (m : Nat) => m + 2
      | .postUpdate, 1 => Program.revise fun (m : Nat) => m + 3
      | phase, system => stumbling.phase phase system info)
    stumbling.onQuery

/-- An engine with both systems. -/
def paired : Engine puppets :=
  let e : Engine puppets := ⟨.empty, .initial (0 : Nat)⟩
  let e := e.operate stumbling (.attach ⟨(1 : Nat), .shared⟩ .null ⟨.null⟩)
  e.operate stumbling (.attach ⟨(2 : Nat), .shared⟩ .null ⟨.null⟩)

/-- The memory belongs to the first system. -/
def inner : Interior puppets := ⟨⟨1⟩, Unit, fun _ => (), True⟩

/-- The calls of the second system do the same in both, and do not look inside. -/
theorem second_walking (c : StepCall puppets) (hsystem : c.inst.attachment.system = (2 : Nat)) :
    c.program walking (.first .zero) = c.program stumbling (.first .zero) ∧
      inner.Blind (c.program stumbling (.first .zero)) := by
  obtain ⟨inst, kind, before, result, after⟩ := c
  have hsystem' : inst.attachment.system = (2 : Nat) := hsystem
  cases kind with
  | query q e =>
      exact ⟨rfl, .done ()⟩
  | phase p =>
      simp only [StepCall.program]
      rw [hsystem']
      cases p with
      | preUpdate =>
          exact ⟨rfl, .done ()⟩
      | update =>
          have hpublic : inner.Public (.register ⟨2⟩ .any (7 : Nat)) := by
            rintro ⟨hlist, _⟩
            cases hlist
          exact ⟨rfl, .outside hpublic fun _ => .done ()⟩
      | postUpdate =>
          exact ⟨rfl, .done ()⟩

/-- An environment without the memory and the journal. -/
def outside (env : Environment puppets) : Environment puppets :=
  { env with journal := [], memory := (0 : Nat) }

theorem inner_agree {env env' : Environment puppets} (h : outside env' = outside env) :
    inner.Agree env env' := by
  obtain ⟨hworld, hparameters, hchannels, hqueries, hcommands, horphaned, hloader, hloop, hnext,
    _, _⟩ := Environment.mk.inj h
  refine ⟨hworld, hparameters, hchannels, ?_, hcommands, horphaned, hloader, hloop, hnext, rfl⟩
  intro list _
  rw [Environment.queryList, hqueries, Environment.queryList]

end Puppets

theorem fault_isolation_walking :
    (∃ log, Engine.Reached Puppets.stumbling log Puppets.paired) ∧
      (Puppets.paired.callsBeside Puppets.stumbling (.first .zero) ⟨1⟩).length = 3 ∧
      List.Forall₂ Puppets.inner.CallAlike
        (Puppets.paired.callsBeside Puppets.stumbling (.first .zero) ⟨1⟩)
        (Puppets.paired.callsBeside Puppets.walking (.first .zero) ⟨1⟩) ∧
      (Puppets.paired.runStep Puppets.stumbling (.first .zero)).1.phaseCalls = 4 ∧
      (Puppets.paired.runStep Puppets.walking (.first .zero)).1.phaseCalls = 6 ∧
      (Puppets.paired.runStep Puppets.walking (.first .zero)).2.scheduler =
        (Puppets.paired.runStep Puppets.stumbling (.first .zero)).2.scheduler := by
  have hreached := Engine.Reached.next (Engine.Reached.next
    (Engine.Reached.fresh (b := Puppets.stumbling) (0 : Nat))
    (.attach ⟨(1 : Nat), .shared⟩ .null ⟨.null⟩)) (.attach ⟨(2 : Nat), .shared⟩ .null ⟨.null⟩)
  -- The calls to the first system, read off the two runs.
  obtain ⟨c₁, c₀, hcalls⟩ := List.length_eq_two.1 (show
    (Puppets.paired.callsTo Puppets.stumbling (.first .zero) ⟨1⟩).length = 2 from rfl)
  obtain ⟨c₁', c₀', c₂, hcalls'⟩ := List.length_eq_three.1 (show
    (Puppets.paired.callsTo Puppets.walking (.first .zero) ⟨1⟩).length = 3 from rfl)
  have hhead : (Puppets.paired.callsTo Puppets.walking (.first .zero) ⟨1⟩).head? =
      (Puppets.paired.callsTo Puppets.stumbling (.first .zero) ⟨1⟩).head? := by
    cbv
  have hfailed : (Puppets.paired.callsTo Puppets.stumbling (.first .zero) ⟨1⟩).map
      StepCall.failed = [false, true] := rfl
  have hreturned : (Puppets.paired.callsTo Puppets.walking (.first .zero) ⟨1⟩).map
      StepCall.failed = [false, false, false] := rfl
  have hafter : (Puppets.paired.callsTo Puppets.walking (.first .zero) ⟨1⟩)[1]?.map
        (fun c => Puppets.outside c.after) =
      (Puppets.paired.callsTo Puppets.stumbling (.first .zero) ⟨1⟩)[1]?.map
        (fun c => Puppets.outside c.after) := by
    cbv
  have hsilent : (Puppets.paired.callsTo Puppets.walking (.first .zero) ⟨1⟩)[2]?.map
        (fun c => Puppets.outside c.after) =
      (Puppets.paired.callsTo Puppets.walking (.first .zero) ⟨1⟩)[2]?.map
        (fun c => Puppets.outside c.before) := by
    cbv
  rw [hcalls, hcalls'] at hhead hafter
  rw [hcalls] at hfailed
  rw [hcalls'] at hreturned hsilent
  obtain rfl : c₁' = c₁ := Option.some.inj hhead
  have hslip : Puppets.inner.Slip c₀ c₀' [c₂] := by
    refine ⟨(List.cons.inj (List.cons.inj hfailed).2).1,
      (List.cons.inj (List.cons.inj hreturned).2).1,
      Puppets.inner_agree (Option.some.inj hafter), ?_⟩
    intro d hd
    rw [List.mem_singleton.1 hd]
    exact Puppets.inner_agree (Option.some.inj hsilent)
  have hsystems : (Puppets.paired.callsBeside Puppets.stumbling (.first .zero) ⟨1⟩).map
      (fun c => c.inst.attachment.system) = List.replicate 3 (2 : Nat) := rfl
  have hothers : ∀ c ∈ Puppets.paired.callsBeside Puppets.stumbling (.first .zero) ⟨1⟩,
      c.program Puppets.walking (.first .zero) = c.program Puppets.stumbling (.first .zero) ∧
        Puppets.inner.Blind (c.program Puppets.stumbling (.first .zero)) := by
    intro c hc
    refine Puppets.second_walking c (List.eq_of_mem_replicate (n := 3) ?_)
    rw [← hsystems]
    exact List.mem_map_of_mem hc
  obtain ⟨_, halike, _, _, hcount, hcount', hscheduler, _⟩ :=
    fault_isolation Puppets.stumbling _ _ Puppets.inner hreached (.first .zero)
      (fun _ _ => .done ()) (fun _ _ _ _ _ _ _ => rfl) hothers
      (show _ = [c₁'] ++ c₀ :: [] from hcalls) (show _ = [c₁'] ++ c₀' :: [c₂] from hcalls') hslip
  refine ⟨⟨_, hreached⟩, ?_, halike, rfl, rfl, hscheduler⟩
  rw [← List.length_map, hsystems]
  rfl

end SimEngine
