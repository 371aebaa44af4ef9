import SimEngine.Proofs.Calls
import SimEngine.Proofs.Interiors

/-!
# Counterparts

Two runs of a step, turn by turn.  The turns of another instance are the same
outside of an interior if the environments they meet agree and their code does
not look inside.  The turns of the owner are the same up to a call that fails in
one run and returns in the other.

**Definitions.**
* `Interior.CallAlike`, `Interior.TurnAlike`: calls and turns that are the same
  from outside.
* `Interior.Slip`: a call that failed, and its double that returned.

**Results.**
* `turn_alike`: a turn of another instance and its counterpart.
* `turn_part`: a turn of the owner and its counterpart.
-/

namespace SimEngine

variable {G : Guest}

namespace Interior

variable (S : Interior G)

/-- Two visits are the same outside of the interior. -/
structure VisitAlike (v v' : Visit G) : Prop where
  query : v'.query = v.query
  entity : v'.entity = v.entity
  result : v'.result = v.result
  before : S.Agree v.before v'.before
  after : S.Agree v.after v'.after

/-- Two calls are the same outside of the interior. -/
structure CallAlike (c c' : StepCall G) : Prop where
  inst : c'.inst = c.inst
  kind : c'.kind = c.kind
  result : c'.result = c.result
  before : S.Agree c.before c'.before
  after : S.Agree c.after c'.after

/--
Two turns are the same outside of the interior; those of the owner may differ in how they ended
and in the calls that were made.
-/
structure TurnAlike (b b' : Behavior G) (info : StepInfo) (t t' : Turn G) : Prop where
  slot : t'.slot = t.slot
  before : S.Agree t.before t'.before
  after : S.Agree t.after t'.after
  result : t.inst.handle ≠ S.owner → t'.result = t.result
  calls : t.inst.handle ≠ S.owner →
    List.Forall₂ S.CallAlike (t.calls b info) (t'.calls b' info)

/--
A call failed and its double returned, but both left the same outside of the interior, and the
calls behind the double left everything outside as it was.
-/
structure Slip (c c' : StepCall G) (later : List (StepCall G)) : Prop where
  failed : c.failed = true
  returned : c'.failed = false
  after : S.Agree c.after c'.after
  silent : ∀ d ∈ later, S.Agree d.before d.after

/-- Whether an instance is offered an interface does not depend on the interior. -/
def OffersBlindly (b : Behavior G) (i : Instance G) : Prop :=
  ∀ m m' capability, S.view m' = S.view m →
    b.offers i.attachment.system m' capability = b.offers i.attachment.system m capability

end Interior

section Others

variable {S : Interior G} {b b' : Behavior G} {info : StepInfo}

theorem Interior.CallAlike.refl (c : StepCall G) : S.CallAlike c c :=
  ⟨rfl, rfl, rfl, Interior.Agree.refl c.before, Interior.Agree.refl c.after⟩

theorem agree_faultReported
    (pass : Pass) (i : Instance G) (result : Except String Unit) (left : Environment G) :
    S.Agree left (faultReported info pass i result left) := by
  cases result with
  | ok _ =>
      exact Interior.Agree.refl left
  | error message =>
      exact Interior.Agree.report_right left _

theorem Interior.Agree.faultReported
    {left left' : Environment G} (h : S.Agree left left') (pass : Pass) (i : Instance G)
    (result result' : Except String Unit) :
    S.Agree (faultReported info pass i result left)
      (faultReported info pass i result' left') :=
  ((agree_faultReported pass i result left).symm.trans h).trans
    (agree_faultReported pass i result' left')

theorem agree_passedOver
    (failed : List Handle) (p : StepPhase) (i : Instance G) (env : Environment G) :
    S.Agree env (passedOver failed p i env) := by
  unfold passedOver
  split
  · exact Interior.Agree.refl env
  · exact Interior.Agree.report_right env _

theorem fault?_of_alike {v v' : Visit G} (h : S.VisitAlike v v') : v'.fault? = v.fault? := by
  simp only [Visit.fault?, h.result, h.entity]

theorem deliveryOf_of_alike
    {visits visits' : List (Visit G)} (h : List.Forall₂ S.VisitAlike visits visits') :
    deliveryOf visits' = deliveryOf visits := by
  induction h with
  | nil =>
      rfl
  | cons hv _ ih =>
      have hreturned : ∀ {v v' : Visit G}, S.VisitAlike v v' → v'.returned = v.returned := by
        intro v v' h
        simp only [Visit.returned, h.result]
      rw [deliveryOf_cons, deliveryOf_cons, ih, fault?_of_alike hv, hreturned hv]

theorem callsOf_of_alike
    (i : Instance G) {visits visits' : List (Visit G)}
    (h : List.Forall₂ S.VisitAlike visits visits') :
    List.Forall₂ S.CallAlike (callsOf i visits) (callsOf i visits') := by
  induction h with
  | nil =>
      exact .nil
  | @cons v v' _ _ hv _ ih =>
      rw [callsOf_cons, callsOf_cons, Visit.call?, Visit.call?, hv.result]
      cases v.result with
      | none =>
          exact ih
      | some result =>
          refine .cons ⟨rfl, ?_, rfl, hv.before, hv.after⟩ ih
          rw [hv.query, hv.entity]

variable (hrun : ∀ access (p : Program G Unit) env, b'.run access p env = b.run access p env)
  (hblind : ∀ callback signal, S.Blind (b.onSignal callback signal))

include hrun hblind

theorem visit_alike
    {list : Handle} (hlist : ¬ S.Hides list) {target : PendingQuery G.Callback × Entity}
    {env env' : Environment G} (halive : env.orphaned = false) (hagree : S.Agree env env')
    (hcode : (b.visit list info target env).called = true →
      b'.onQuery target.1.callback info target.2 = b.onQuery target.1.callback info target.2 ∧
        S.Blind (b.onQuery target.1.callback info target.2)) :
    S.VisitAlike (b.visit list info target env) (b'.visit list info target env') := by
  have hmarks : (env'.queryList list).cancelled = (env.queryList list).cancelled := by
    rw [hagree.lists list hlist]
  by_cases hmark : target.1.id ∈ (env.queryList list).cancelled
  · have hmark' : target.1.id ∈ (env'.queryList list).cancelled := hmarks ▸ hmark
    rw [visit_of_cancelled b list info hmark, visit_of_cancelled b' list info hmark']
    exact ⟨rfl, rfl, rfl, hagree, hagree⟩
  · have hmark' : target.1.id ∉ (env'.queryList list).cancelled := hmarks ▸ hmark
    obtain ⟨hsame, hblindly⟩ := hcode ((called_visit b list info target env).2 hmark)
    rcases hanswer : b.run .full (b.onQuery target.1.callback info target.2) env
      with ⟨outcome, left⟩
    rcases hanswer' : b'.run .full (b'.onQuery target.1.callback info target.2) env'
      with ⟨outcome', left'⟩
    have hconcur := Interior.run_alike hblind hblindly .full halive hagree
    rw [← hrun .full _ env', ← hsame, hanswer', hsame, hanswer] at hconcur
    obtain ⟨houtcome, hleft⟩ := hconcur
    rw [visit_of_not_cancelled b list info hmark hanswer,
      visit_of_not_cancelled b' list info hmark' hanswer']
    exact ⟨rfl, rfl, congrArg (fun o => some o.ofCallback) houtcome, hagree, hleft⟩

theorem visits_alike
    {list : Handle} (hlist : ¬ S.Hides list)
    (targets : List (PendingQuery G.Callback × Entity)) {env env' : Environment G}
    (halive : env.orphaned = false) (hagree : S.Agree env env')
    (hcode : ∀ v ∈ b.visits list info targets env, v.called = true →
      b'.onQuery v.query.callback info v.entity = b.onQuery v.query.callback info v.entity ∧
        S.Blind (b.onQuery v.query.callback info v.entity)) :
    List.Forall₂ S.VisitAlike (b.visits list info targets env)
        (b'.visits list info targets env') ∧
      S.Agree (lastOf Visit.after env (b.visits list info targets env))
        (lastOf Visit.after env' (b'.visits list info targets env')) := by
  induction targets generalizing env env' with
  | nil =>
      exact ⟨.nil, hagree⟩
  | cons target rest ih =>
      have hhead := mem_visits_cons b list info target rest env
      have htarget := target_visit b list info target env
      have hvisit : S.VisitAlike (b.visit list info target env)
          (b'.visit list info target env') := by
        refine visit_alike hrun hblind hlist halive hagree fun hcalled => ?_
        have hcode' := hcode _ hhead hcalled
        rwa [show (b.visit list info target env).query = target.1 from congrArg Prod.fst htarget,
          show (b.visit list info target env).entity = target.2 from congrArg Prod.snd htarget]
          at hcode'
      have halive' : (b.visit list info target env).after.orphaned = false :=
        ((growLaw b).of_visit (eq_visit_of_mem b list info hhead)
          ((before_visit b list info target env).symm ▸ halive)).2
      have hfault := fault?_of_alike hvisit
      rw [Behavior.visits, Behavior.visits, hfault]
      split
      · exact ⟨.cons hvisit .nil, hvisit.after⟩
      · rename_i hnone
        obtain ⟨hrest, hlast⟩ := ih halive' hvisit.after fun v hv => by
          refine hcode v ?_
          rw [Behavior.visits, if_neg hnone]
          exact List.mem_cons_of_mem _ hv
        exact ⟨.cons hvisit hrest, hlast⟩

theorem delivery_alike
    {i : Instance G} (hother : i.handle ≠ S.owner) {env env' : Environment G}
    (halive : env.orphaned = false) (hagree : S.Agree env env')
    (hcode : ∀ c ∈ callsOf i (b.visitsOf i.handle info env),
      c.program b' info = c.program b info ∧ S.Blind (c.program b info)) :
    List.Forall₂ S.VisitAlike (b.visitsOf i.handle info env) (b'.visitsOf i.handle info env') ∧
      S.Concur (QueryList.deliver b i.handle info env)
        (QueryList.deliver b' i.handle info env') := by
  have hlist : ¬ S.Hides i.handle := fun h => hother h.1
  have hsame : env'.queryList i.handle = env.queryList i.handle := hagree.lists i.handle hlist
  have htargets : (env'.queryList i.handle).targets env'.world =
      (env.queryList i.handle).targets env.world := by
    rw [hsame, hagree.world]
  have hdepart : S.Agree (env.setQueryList i.handle (env.queryList i.handle).depart)
      (env'.setQueryList i.handle (env'.queryList i.handle).depart) :=
    hagree.setQueryList fun _ => congrArg QueryList.depart hsame
  obtain ⟨hvisits, hafter⟩ : List.Forall₂ S.VisitAlike (b.visitsOf i.handle info env)
        (b'.visitsOf i.handle info env') ∧
      S.Agree (b.afterVisits i.handle info env) (b'.afterVisits i.handle info env') := by
    unfold Behavior.afterVisits Behavior.visitsOf
    rw [htargets]
    refine visits_alike hrun hblind hlist _ halive hdepart fun v hv hcalled => ?_
    obtain ⟨result, hresult⟩ := Option.isSome_iff_exists.1 hcalled
    refine hcode ⟨i, .query v.query v.entity, v.before, result, v.after⟩ ?_
    exact List.mem_filterMap.2 ⟨v, hv, by rw [Visit.call?, hresult]; rfl⟩
  refine ⟨hvisits, ?_⟩
  have halive' : env'.orphaned = false := hagree.orphaned.trans halive
  rw [deliver_eq halive, deliver_eq halive']
  refine ⟨deliveryOf_of_alike hvisits, hafter.setQueryList fun hlist => ?_⟩
  rw [hafter.lists i.handle hlist, hsame]

theorem turn_alike
    (hoffers : b'.offers = b.offers) {failed failed' : List Handle} {slot : Pass × Instance G}
    (hother : slot.2.handle ≠ S.owner) (hfailed : slot.2.handle ∈ failed' ↔ slot.2.handle ∈ failed)
    (hshown : S.OffersBlindly b slot.2) {env env' : Environment G}
    (halive : env.orphaned = false) (hagree : S.Agree env env')
    (hcode : ∀ c ∈ (b.turn info failed slot env).calls b info,
      c.program b' info = c.program b info ∧ S.Blind (c.program b info)) :
    S.TurnAlike b b' info (b.turn info failed slot env) (b'.turn info failed' slot env') := by
  obtain ⟨pass, i⟩ := slot
  cases pass with
  | queries =>
      rw [calls_queries] at hcode
      obtain ⟨hvisits, hdelivery, hleft⟩ :=
        delivery_alike hrun hblind hother halive hagree hcode
      have hcalls : List.Forall₂ S.CallAlike
          ((b.turn info failed (.queries, i) env).calls b info)
          ((b'.turn info failed' (.queries, i) env').calls b' info) := by
        rw [calls_queries, calls_queries]
        exact callsOf_of_alike i hvisits
      obtain ⟨delivery, left, n, hanswer, hturn⟩ := turn_queries b info failed i env
      obtain ⟨delivery', left', n', hanswer', hturn'⟩ :=
        turn_queries b' info failed' i env'
      rw [hanswer, hanswer'] at hdelivery hleft
      have hsame : delivery' = delivery := hdelivery
      subst hsame
      rw [hturn, hturn'] at hcalls ⊢
      exact ⟨rfl, hagree, hleft.faultReported _ _ _ _, fun _ => rfl, fun _ => hcalls⟩
  | phase p =>
      have hsame : (b'.turn info failed' (.phase p, i) env').called =
          (b.turn info failed (.phase p, i) env).called := by
        rw [Bool.eq_iff_iff, called_turn, called_turn, hoffers]
        simp only [hshown _ _ p.capability hagree.memory, not_congr hfailed]
      cases hcalled : (b.turn info failed (.phase p, i) env).called with
      | false =>
          rw [hcalled] at hsame
          rw [turn_of_not_called hsame, turn_of_not_called hcalled]
          have hleft := ((agree_passedOver failed p i env).symm.trans hagree).trans
            (agree_passedOver failed' p i env')
          exact ⟨rfl, hagree, hleft, fun _ => rfl, fun _ => .nil⟩
      | true =>
          rw [hcalled] at hsame
          rcases hanswer : b.run (Instance.accessOf p) (b.phase p i.attachment.system info) env
            with ⟨outcome, left⟩
          rcases hanswer' : b'.run (Instance.accessOf p) (b'.phase p i.attachment.system info) env'
            with ⟨outcome', left'⟩
          rw [turn_of_called hcalled hanswer] at hcode ⊢
          rw [turn_of_called hsame hanswer']
          obtain ⟨hprogram, hblindly⟩ :
              b'.phase p i.attachment.system info = b.phase p i.attachment.system info ∧
                S.Blind (b.phase p i.attachment.system info) :=
            hcode _ (List.mem_singleton_self _)
          have hconcur := Interior.run_alike hblind hblindly (Instance.accessOf p) halive hagree
          rw [← hrun _ _ env', hanswer, ← hprogram, hanswer'] at hconcur
          obtain ⟨houtcome, hleft⟩ := hconcur
          have hresult : outcome' = outcome := houtcome
          subst hresult
          exact ⟨rfl, hagree, hleft.faultReported _ _ _ _, fun _ => rfl,
            fun _ => .cons ⟨rfl, rfl, rfl, hagree, hleft.faultReported _ _ _ _⟩ .nil⟩

end Others

section Owner

variable {S : Interior G} {b b' : Behavior G} {info : StepInfo}

/-- Visits whose calls leave everything outside as it was do so in a row. -/
theorem agree_of_silent
    {list : Handle} (i : Instance G) (targets : List (PendingQuery G.Callback × Entity))
    (env : Environment G)
    (hsilent : ∀ c ∈ callsOf i (b.visits list info targets env), S.Agree c.before c.after) :
    S.Agree env (lastOf Visit.after env (b.visits list info targets env)) := by
  refine (linked_visits b list info targets env).keep (I := fun e => S.Agree env e) ?_
    (Interior.Agree.refl env)
  intro v hv hbefore
  refine hbefore.trans ?_
  cases hresult : v.result with
  | none =>
      have hfaithful : v.Faithful b info := by
        rw [eq_visit_of_mem b list info hv]
        exact faithful_visit b list info v.target v.before
      rw [Visit.Faithful, hresult] at hfaithful
      rw [show v.after = v.before from hfaithful]
      exact Interior.Agree.refl v.before
  | some result =>
      refine hsilent ⟨i, .query v.query v.entity, v.before, result, v.after⟩ ?_
      exact List.mem_filterMap.2 ⟨v, hv, by rw [Visit.call?, hresult]; rfl⟩

variable {c₀ c₀' : StepCall G} {rest rest' : List (StepCall G)}

/--
The visits of both runs are the same, or they part at the call that fails in the first run:
there they end in that run, and all later ones of the second run are silent.
-/
theorem visits_part
    (hslip : S.Slip c₀ c₀' rest') {list : Handle} (i : Instance G)
    (targets : List (PendingQuery G.Callback × Entity)) {env : Environment G}
    {own tail tail' : List (StepCall G)}
    (hcalls : callsOf i (b.visits list info targets env) ++ tail = own ++ c₀ :: rest)
    (hcalls' : callsOf i (b'.visits list info targets env) ++ tail' = own ++ c₀' :: rest') :
    (b'.visits list info targets env = b.visits list info targets env ∧
        ∃ own₂, tail = own₂ ++ c₀ :: rest ∧ tail' = own₂ ++ c₀' :: rest') ∨
      ((deliveryOf (b.visits list info targets env)).fault.isSome = true ∧
        S.Agree (lastOf Visit.after env (b.visits list info targets env))
          (lastOf Visit.after env (b'.visits list info targets env)) ∧
        tail = rest ∧ ∃ silent, rest' = silent ++ tail') := by
  induction targets generalizing own env with
  | nil =>
      exact Or.inl ⟨rfl, own, hcalls, hcalls'⟩
  | cons target others ih =>
      by_cases hmark : target.1.id ∈ (env.queryList list).cancelled
      · have hvisit := visit_of_cancelled b list info hmark
        have hvisit' := visit_of_cancelled b' list info hmark
        have hnone : (b.visit list info target env).fault? = none := by
          rw [hvisit]
          rfl
        have hnone' : (b'.visit list info target env).fault? = none := by
          rw [hvisit']
          rfl
        rw [visits_cons_of_none b list info hnone, hvisit, callsOf_cons] at hcalls
        rw [visits_cons_of_none b' list info hnone', hvisit', callsOf_cons] at hcalls'
        rw [visits_cons_of_none b list info hnone, visits_cons_of_none b' list info hnone',
          hvisit, hvisit', deliveryOf_cons]
        rcases ih hcalls hcalls' with ⟨hsame, hahead⟩ | hparted
        · exact Or.inl ⟨congrArg _ hsame, hahead⟩
        · exact Or.inr hparted
      · rcases hanswer : b.run .full (b.onQuery target.1.callback info target.2) env
          with ⟨outcome, left⟩
        rcases hanswer' : b'.run .full (b'.onQuery target.1.callback info target.2) env
          with ⟨outcome', left'⟩
        obtain ⟨more, hvisits, hmore⟩ := visits_of_not_cancelled hmark hanswer others
        obtain ⟨more', hvisits', hmore'⟩ := visits_of_not_cancelled hmark hanswer' others
        rw [hvisits, callsOf_called, List.cons_append] at hcalls
        rw [hvisits', callsOf_called, List.cons_append] at hcalls'
        rw [hvisits, hvisits', deliveryOf_cons]
        generalize outcome.ofCallback = result at *
        generalize outcome'.ofCallback = result' at *
        cases own with
        | nil =>
            -- This is the call that fails, and its double.
            obtain ⟨rfl, htail⟩ := List.cons.inj hcalls
            obtain ⟨rfl, htail'⟩ := List.cons.inj hcalls'
            cases result with
            | ok _ =>
                cases hslip.failed
            | error reason =>
                cases result' with
                | error reason' =>
                    cases hslip.returned
                | ok _ =>
                    have hmore : more = [] := hmore
                    have hmore' : more' = b'.visits list info others left' := hmore'
                    subst hmore hmore'
                    refine Or.inr ⟨rfl, hslip.after.trans ?_, htail, _, htail'.symm⟩
                    refine agree_of_silent (b := b') i others left' fun c hc => ?_
                    refine hslip.silent c ?_
                    rw [← htail']
                    exact List.mem_append_left _ hc
        | cons c own =>
            obtain ⟨rfl, htail⟩ := List.cons.inj hcalls
            obtain ⟨hsame, htail'⟩ := List.cons.inj hcalls'
            obtain ⟨_, _, _, rfl, rfl⟩ := StepCall.mk.inj hsame
            cases result' with
            | error reason =>
                have hmore : more = [] := hmore
                have hmore' : more' = [] := hmore'
                subst hmore hmore'
                exact Or.inl ⟨rfl, own, htail, htail'⟩
            | ok _ =>
                have hmore : more = b.visits list info others left' := hmore
                have hmore' : more' = b'.visits list info others left' := hmore'
                subst hmore hmore'
                rcases ih htail htail' with ⟨hvisits, hahead⟩ | ⟨hfault, hparted⟩
                · exact Or.inl ⟨congrArg _ hvisits, hahead⟩
                · exact Or.inr ⟨hfault, hparted⟩

/-- The turns of both runs are the same, or they part at the call that fails in the first run. -/
theorem turn_part
    (hoffers : b'.offers = b.offers) (hslip : S.Slip c₀ c₀' rest') {failed : List Handle}
    {slot : Pass × Instance G} {env : Environment G} (halive : env.orphaned = false)
    {own tail tail' : List (StepCall G)}
    (hcalls : (b.turn info failed slot env).calls b info ++ tail = own ++ c₀ :: rest)
    (hcalls' : (b'.turn info failed slot env).calls b' info ++ tail' = own ++ c₀' :: rest') :
    (b'.turn info failed slot env = b.turn info failed slot env ∧
        ∃ own₂, tail = own₂ ++ c₀ :: rest ∧ tail' = own₂ ++ c₀' :: rest') ∨
      ((b.turn info failed slot env).failed = true ∧
        S.Agree (b.turn info failed slot env).after (b'.turn info failed slot env).after ∧
        tail = rest ∧ ∃ silent, rest' = silent ++ tail') := by
  obtain ⟨pass, i⟩ := slot
  cases pass with
  | queries =>
      rw [calls_queries] at hcalls hcalls'
      rcases visits_part hslip i _ hcalls hcalls' with
        ⟨hvisits, hahead⟩ | ⟨hfault, hafter, hrest⟩
      · have hdeliver : QueryList.deliver b' i.handle info env =
            QueryList.deliver b i.handle info env := by
          have hvisits' : b'.visitsOf i.handle info env = b.visitsOf i.handle info env := hvisits
          rw [deliver_eq halive, deliver_eq halive, Behavior.afterVisits, Behavior.afterVisits,
            hvisits']
        refine Or.inl ⟨?_, hahead⟩
        simp only [Behavior.turn, Behavior.deliveryTurn, hdeliver]
      · have hleft : S.Agree (QueryList.deliver b i.handle info env).2
            (QueryList.deliver b' i.handle info env).2 := by
          rw [deliver_eq halive, deliver_eq halive]
          refine Interior.Agree.setQueryList hafter fun hlist => ?_
          exact congrArg (fun l => QueryList.settle l _) (hafter.lists i.handle hlist)
        obtain ⟨delivery, left, n, hanswer, hturn⟩ := turn_queries b info failed i env
        obtain ⟨delivery', left', n', hanswer', hturn'⟩ :=
          turn_queries b' info failed i env
        rw [hanswer, hanswer'] at hleft
        rw [hturn, hturn']
        refine Or.inr ⟨?_, hleft.faultReported _ _ _ _, hrest⟩
        have hdelivery : delivery = deliveryOf (b.visitsOf i.handle info env) := by
          rw [deliver_eq halive] at hanswer
          exact (Prod.mk.inj hanswer).1.symm
        obtain ⟨message, hmessage⟩ : ∃ message, delivery.fault = some message := by
          rw [hdelivery]
          exact Option.isSome_iff_exists.1 hfault
        have hresult : resultOf delivery = .error message := by
          rw [resultOf, hmessage]
        rw [hresult]
        rfl
  | phase p =>
      have hsame := called_congr info hoffers failed p i env
      cases hcalled : (b.turn info failed (.phase p, i) env).called with
      | false =>
          rw [hcalled] at hsame
          rw [calls_of_not_called hcalled] at hcalls
          rw [calls_of_not_called hsame] at hcalls'
          refine Or.inl ⟨?_, own, hcalls, hcalls'⟩
          rw [turn_of_not_called hsame, turn_of_not_called hcalled]
      | true =>
          rw [hcalled] at hsame
          obtain ⟨result, after, hcall, hturn⟩ := calls_of_called hcalled
          obtain ⟨result', after', hcall', hturn'⟩ := calls_of_called hsame
          rw [hcall] at hcalls
          rw [hcall'] at hcalls'
          rw [hturn, hturn']
          cases own with
          | nil =>
              obtain ⟨rfl, htail⟩ := List.cons.inj hcalls
              obtain ⟨rfl, htail'⟩ := List.cons.inj hcalls'
              refine Or.inr ⟨?_, hslip.after, htail, [], htail'.symm⟩
              cases result with
              | ok _ =>
                  cases hslip.failed
              | error reason =>
                  rfl
          | cons c own =>
              obtain ⟨rfl, htail⟩ := List.cons.inj hcalls
              obtain ⟨hsame, htail'⟩ := List.cons.inj hcalls'
              obtain ⟨_, _, _, rfl, rfl⟩ := StepCall.mk.inj hsame
              exact Or.inl ⟨rfl, own, htail, htail'⟩

end Owner

end SimEngine
