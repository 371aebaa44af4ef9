import SimEngine.Engine.Instance
import SimEngine.Proofs.Laws
import SimEngine.Proofs.Puppets
import SimEngine.Proofs.QueryLists
import SimEngine.Proofs.Worlds

/-!
# Deliveries

A delivery visits the entities of each query, one query after the other.  Its
callbacks may register queries, cancel queries and clear the list; the requests
they make tell whom the delivery calls and what the list holds afterwards.

**Definitions.**
* `Request.listChange`: what a request does to a query list.
* `QueryList.targets`: whom a delivery would visit if nobody interfered.
* `Visit`: what becomes of one of them.

**Results.**
* `delivery_visits`: a delivery calls its targets in their order, except those of
  queries dropped meanwhile, up to the first panic; afterwards the list holds the
  queries of before and those registered meanwhile that were not dropped.
-/

namespace SimEngine

variable {G : Guest}

/-- What a request does to a query list. -/
def Request.listChange (list : Handle) :
    Request G → Option (Roll.Change (Signature × G.Callback))
  | .register other signature callback =>
    if other = list then some (.enter (signature, callback)) else none
  | .cancel other query => if other = list then some (.leave query) else none
  | .clearQueries other => if other = list then some .dissolve else none
  | _ => none

/-- What a list of requests does to a query list. -/
def listChanges (list : Handle) (log : List (Occurrence G)) :
    List (Roll.Change (Signature × G.Callback)) :=
  log.filterMap fun o => o.request.listChange list

@[simp] theorem listChanges_append (list : Handle) (first second : List (Occurrence G)) :
    listChanges list (first ++ second) = listChanges list first ++ listChanges list second :=
  List.filterMap_append

theorem dropsAny_listChanges (list : Handle) (id : Nat) (log : List (Occurrence G)) :
    Roll.dropsAny (listChanges list log) id = false ↔
      ∀ o ∈ log, o.request ≠ .cancel list id ∧ o.request ≠ .clearQueries list := by
  induction log with
  | nil =>
      simp [listChanges]
  | cons o log ih =>
      have hsplit : listChanges list (o :: log) =
          (o.request.listChange list).toList ++ listChanges list log := by
        cases h : o.request.listChange list <;> simp [listChanges, h]
      have hhead : Roll.dropsAny (o.request.listChange list).toList id = false ↔
          o.request ≠ .cancel list id ∧ o.request ≠ .clearQueries list := by
        cases o.request with
        | register other signature callback =>
            by_cases hlist : other = list <;>
              simp [Request.listChange, hlist, Roll.Change.drops]
        | cancel other query =>
            by_cases hlist : other = list <;>
              simp [Request.listChange, hlist, Roll.Change.drops]
        | clearQueries other =>
            by_cases hlist : other = list <;>
              simp [Request.listChange, hlist, Roll.Change.drops]
        | _ => simp [Request.listChange]
      rw [hsplit, Roll.dropsAny_append, Bool.or_eq_false_iff, hhead, ih, List.forall_mem_cons]

theorem queryList_setQueryList
    (env : Environment G) (list other : Handle) (l : QueryList G.Callback) :
    (env.setQueryList list l).queryList other =
      if other = list then l else env.queryList other := by
  split
  · rename_i h
    subst h
    simp [Environment.queryList, Environment.setQueryList]
  · rename_i h
    simp [Environment.queryList, Environment.setQueryList, OrderedMap.find?_insert_of_ne _ h]

theorem queryList_setChange
    (env : Environment G) (other list : Handle) (c : Roll.Change (Signature × G.Callback)) :
    (env.setQueryList other ((env.queryList other).change c)).queryList list =
      (if other = list then some c else none).toList.foldl QueryList.change
        (env.queryList list) := by
  rw [queryList_setQueryList]
  by_cases hlist : other = list
  · subst hlist
    simp
  · have hlist' : list ≠ other := fun h => hlist h.symm
    simp [hlist, hlist']

theorem queryList_performAt
    (b : Behavior G) (spot : Spot G) (r : Request G) (env : Environment G)
    (hr : ∀ signal, r ≠ .emit signal) (list : Handle) :
    (b.performAt spot r env).2.queryList list =
      (r.listChange list).toList.foldl QueryList.change (env.queryList list) := by
  obtain ⟨_, _, hafter⟩ := performAt_eq b spot r env hr
  rw [hafter]
  cases r with
  | register other signature callback =>
      exact queryList_setChange env other list (.enter (signature, callback))
  | cancel other query =>
      exact queryList_setChange env other list (.leave query)
  | clearQueries other =>
      exact queryList_setChange env other list .dissolve
  | _ => rfl

theorem query_performAt
    (b : Behavior G) (spot : Spot G) (r : Request G) (env : Environment G)
    (hr : ∀ signal, r ≠ .emit signal) (s : Signature) :
    (b.performAt spot r env).2.world.query s = env.world.query s := by
  obtain ⟨_, _, hafter⟩ := performAt_eq b spot r env hr
  rw [hafter]
  cases r with
  | write e kind value =>
      simp only [Request.onWorld]
      split
      · cases hset : env.world.set? e kind value with
        | none => rfl
        | some world => exact World.query_set? hset s
      · rfl
  | _ => rfl

section Laws

variable (b : Behavior G)

theorem listLaw :
    TraceLaw b fun env L env' => ∀ list,
      env'.queryList list = (listChanges list L).foldl QueryList.change (env.queryList list) where
  refl := fun _ _ => rfl
  trans := by
    intro e₁ L₁ e₂ L₂ e₃ h₁ h₂ list
    rw [h₂ list, h₁ list, listChanges_append, List.foldl_append]
  request := by
    intro spot r env hr list
    rw [queryList_performAt b spot r env hr]
    cases h : r.listChange list <;> simp [listChanges, h]
  emit := fun _ _ _ _ => rfl
  ensure := fun _ _ _ => rfl
  tell := by
    intro signal env list
    cases signal <;> rfl
  report := fun _ _ _ => rfl
  turnTo := fun _ _ _ _ => rfl

theorem queryLaw :
    TraceLaw b fun env _ env' => ∀ s, env'.world.query s = env.world.query s where
  refl := fun _ _ => rfl
  trans := fun h₁ h₂ s => (h₂ s).trans (h₁ s)
  request := query_performAt b
  emit := fun _ _ _ _ => rfl
  ensure := fun _ _ _ => rfl
  tell := by
    intro signal env s
    cases signal <;> rfl
  report := fun _ _ _ => rfl
  turnTo := fun _ _ _ _ => rfl

end Laws

/--
Whom a delivery visits if nobody interferes: the entities of each query, one query after the
other.
-/
def QueryList.targets (l : QueryList G.Callback) (w : World G.components) :
    List (PendingQuery G.Callback × Entity) :=
  l.queries.flatMap fun q => (w.query q.signature).map fun e => (q, e)

/-- What becomes of one entity of a query in a delivery. -/
structure Visit (G : Guest) where
  query : PendingQuery G.Callback
  entity : Entity
  before : Environment G
  /-- How the call ended; an entity that is passed over is not called. -/
  result : Option (Except String Unit)
  after : Environment G

namespace Visit

/-- The query and the entity. -/
def target (v : Visit G) : PendingQuery G.Callback × Entity :=
  (v.query, v.entity)

/-- Whether the entity was called. -/
def called (v : Visit G) : Bool :=
  v.result.isSome

/-- Whether the entity was called and the call returned normally. -/
def returned (v : Visit G) : Bool :=
  match v.result with
  | some (.ok ()) => true
  | _ => false

/-- The message about the call, if it panicked. -/
def fault? (v : Visit G) : Option String :=
  match v.result with
  | some (.error reason) => some (QueryList.panicMessage v.entity reason)
  | _ => none

/-- The requests that are made in a visit. -/
def occurrences (b : Behavior G) (info : StepInfo) (v : Visit G) : List (Occurrence G) :=
  if v.called then
    b.occurrences (.top .full) (b.onQuery v.query.callback info v.entity) v.before
  else
    []

/--
A visit is the call of its query with the time of the step and the entity, or it is no call and
leaves everything as it is.
-/
def Faithful (b : Behavior G) (info : StepInfo) (v : Visit G) : Prop :=
  match v.result with
  | none => v.after = v.before
  | some result => ∃ outcome,
      b.run .full (b.onQuery v.query.callback info v.entity) v.before = (outcome, v.after) ∧
        outcome.ofCallback = result

end Visit

namespace Behavior

variable (b : Behavior G) (list : Handle) (info : StepInfo)

/-- The visit of one entity. -/
def visit (target : PendingQuery G.Callback × Entity) (env : Environment G) : Visit G :=
  if target.1.id ∈ (env.queryList list).cancelled then
    ⟨target.1, target.2, env, none, env⟩
  else
    let answer := b.run .full (b.onQuery target.1.callback info target.2) env
    ⟨target.1, target.2, env, some answer.1.ofCallback, answer.2⟩

/-- The visits of a list of targets, up to the first panic. -/
def visits :
    List (PendingQuery G.Callback × Entity) → Environment G → List (Visit G)
  | [], _ => []
  | target :: rest, env =>
    let v := b.visit list info target env
    if v.fault?.isSome then [v] else v :: visits rest v.after

end Behavior

/-- What a delivery comes to by its visits. -/
def deliveryOf (visits : List (Visit G)) : Delivery :=
  ⟨visits.countP Visit.returned, visits.findSome? Visit.fault?⟩

theorem deliveryOf_cons (v : Visit G) (rest : List (Visit G)) :
    deliveryOf (v :: rest) =
      ⟨(deliveryOf rest).completed + if v.returned then 1 else 0,
        v.fault?.or (deliveryOf rest).fault⟩ := by
  cases hfault : v.fault? <;> simp [deliveryOf, hfault, List.countP_cons]

section Visits

variable (b : Behavior G) (list : Handle) (info : StepInfo)

theorem visit_of_cancelled
    {target : PendingQuery G.Callback × Entity} {env : Environment G}
    (hmark : target.1.id ∈ (env.queryList list).cancelled) :
    b.visit list info target env = ⟨target.1, target.2, env, none, env⟩ := by
  rw [Behavior.visit, if_pos hmark]

theorem visit_of_not_cancelled
    {target : PendingQuery G.Callback × Entity} {env env' : Environment G} {outcome : Outcome Unit}
    (hmark : target.1.id ∉ (env.queryList list).cancelled)
    (hanswer : b.run .full (b.onQuery target.1.callback info target.2) env = (outcome, env')) :
    b.visit list info target env =
      ⟨target.1, target.2, env, some outcome.ofCallback, env'⟩ := by
  rw [Behavior.visit, if_neg hmark, hanswer]

theorem target_visit
    (target : PendingQuery G.Callback × Entity) (env : Environment G) :
    (b.visit list info target env).target = target := by
  unfold Behavior.visit
  split <;> rfl

theorem before_visit
    (target : PendingQuery G.Callback × Entity) (env : Environment G) :
    (b.visit list info target env).before = env := by
  unfold Behavior.visit
  split <;> rfl

theorem mem_visits_cons
    (target : PendingQuery G.Callback × Entity)
    (rest : List (PendingQuery G.Callback × Entity)) (env : Environment G) :
    b.visit list info target env ∈ b.visits list info (target :: rest) env := by
  rw [Behavior.visits]
  split <;> exact List.mem_cons_self

theorem visits_cons_of_none
    {target : PendingQuery G.Callback × Entity} {env : Environment G}
    (hnone : (b.visit list info target env).fault? = none)
    (rest : List (PendingQuery G.Callback × Entity)) :
    b.visits list info (target :: rest) env =
      b.visit list info target env ::
        b.visits list info rest (b.visit list info target env).after := by
  simp [Behavior.visits, hnone]

theorem visits_append
    (first second : List (PendingQuery G.Callback × Entity)) (env : Environment G) :
    b.visits list info (first ++ second) env =
      if (deliveryOf (b.visits list info first env)).fault.isSome then b.visits list info first env
      else b.visits list info first env ++
        b.visits list info second (lastOf Visit.after env (b.visits list info first env)) := by
  induction first generalizing env with
  | nil =>
      rfl
  | cons target first ih =>
      by_cases hfault : (b.visit list info target env).fault?.isSome = true
      · simp [Behavior.visits, deliveryOf_cons, hfault]
      · have hnone : (b.visit list info target env).fault? = none := by
          simpa using hfault
        rw [List.cons_append, visits_cons_of_none b list info hnone,
          visits_cons_of_none b list info hnone, ih, deliveryOf_cons, hnone, Option.none_or]
        split <;> rfl

theorem deliverTo_eq
    (q : PendingQuery G.Callback) (entities : List Entity) (env : Environment G) :
    QueryList.deliverTo b list info q entities env =
      (deliveryOf (b.visits list info (entities.map fun e => (q, e)) env),
        lastOf Visit.after env (b.visits list info (entities.map fun e => (q, e)) env)) := by
  induction entities generalizing env with
  | nil =>
      rfl
  | cons e rest ih =>
      simp only [List.map_cons, Behavior.visits]
      by_cases hmark : q.id ∈ (env.queryList list).cancelled
      · -- The rest of the query is passed over one by one.
        have hstop : QueryList.deliverTo b list info q rest env = (⟨0, none⟩, env) := by
          cases rest with
          | nil => rfl
          | cons e' rest' => rw [QueryList.deliverTo, if_pos hmark]
        rw [ih env] at hstop
        obtain ⟨hdelivery, hlast⟩ := Prod.mk.inj hstop
        rw [QueryList.deliverTo, if_pos hmark, visit_of_cancelled b list info hmark]
        simp only [Visit.fault?, Option.isSome_none, Bool.false_eq_true, if_false, lastOf, hlast]
        have hcons : deliveryOf (⟨q, e, env, none, env⟩ ::
            b.visits list info (rest.map fun e => (q, e)) env) =
            deliveryOf (b.visits list info (rest.map fun e => (q, e)) env) := by
          rw [deliveryOf_cons]
          rfl
        rw [hcons, hdelivery]
      · rcases hanswer : b.run .full (b.onQuery q.callback info e) env with ⟨outcome, env'⟩
        rw [QueryList.deliverTo, if_neg hmark, hanswer,
          visit_of_not_cancelled b list info hmark hanswer]
        simp only []
        cases hresult : outcome.ofCallback with
        | error reason =>
            rfl
        | ok _ =>
            simp only [Visit.fault?, Option.isSome_none, Bool.false_eq_true, if_false, ih env',
              deliveryOf_cons, lastOf]
            rfl

theorem linked_visits
    (targets : List (PendingQuery G.Callback × Entity)) (env : Environment G) :
    Linked Visit.before Visit.after env (b.visits list info targets env)
      (lastOf Visit.after env (b.visits list info targets env)) := by
  induction targets generalizing env with
  | nil =>
      rfl
  | cons target rest ih =>
      have hbefore := before_visit b list info target env
      by_cases hfault : (b.visit list info target env).fault?.isSome = true
      · rw [Behavior.visits, if_pos hfault]
        exact ⟨hbefore, rfl⟩
      · rw [Behavior.visits, if_neg hfault]
        exact ⟨hbefore, ih _⟩

theorem eq_visit_of_mem
    {targets : List (PendingQuery G.Callback × Entity)} {env : Environment G} {v : Visit G}
    (hv : v ∈ b.visits list info targets env) :
    v = b.visit list info v.target v.before := by
  have hself : ∀ target env, b.visit list info target env =
      b.visit list info (b.visit list info target env).target
        (b.visit list info target env).before := by
    intro target env
    rw [target_visit, before_visit]
  induction targets generalizing env with
  | nil =>
      simp [Behavior.visits] at hv
  | cons target rest ih =>
      rw [Behavior.visits] at hv
      split at hv
      · rw [List.mem_singleton.1 hv]
        exact hself target env
      · rcases List.mem_cons.1 hv with rfl | hv
        · exact hself target env
        · exact ih hv

theorem faithful_visit
    (target : PendingQuery G.Callback × Entity) (env : Environment G) :
    (b.visit list info target env).Faithful b info := by
  by_cases hmark : target.1.id ∈ (env.queryList list).cancelled
  · rw [visit_of_cancelled b list info hmark]
    exact rfl
  · rw [visit_of_not_cancelled b list info hmark rfl]
    exact ⟨_, rfl, rfl⟩

theorem called_visit
    (target : PendingQuery G.Callback × Entity) (env : Environment G) :
    (b.visit list info target env).called = true ↔
      target.1.id ∉ (env.queryList list).cancelled := by
  by_cases hmark : target.1.id ∈ (env.queryList list).cancelled
  · simp [visit_of_cancelled b list info hmark, Visit.called, hmark]
  · simp [visit_of_not_cancelled b list info hmark rfl, Visit.called, hmark]

variable {b} {list} {info}

theorem TraceLaw.of_visit
    {R : Environment G → List (Occurrence G) → Environment G → Prop} (law : TraceLaw b R)
    {v : Visit G} (hv : v = b.visit list info v.target v.before)
    (halive : v.before.orphaned = false) :
    R v.before (v.occurrences b info) v.after ∧ v.after.orphaned = false := by
  by_cases hmark : v.target.1.id ∈ (v.before.queryList list).cancelled
  · rw [visit_of_cancelled b list info hmark] at hv
    rw [hv]
    exact ⟨law.refl v.before, halive⟩
  · rcases hanswer : b.run .full (b.onQuery v.target.1.callback info v.target.2) v.before
      with ⟨outcome, env'⟩
    rw [visit_of_not_cancelled b list info hmark hanswer] at hv
    have hlaw := law.run (.top .full) (b.onQuery v.target.1.callback info v.target.2) halive
    have halive' := runAt_orphaned b (.top .full)
      (b.onQuery v.target.1.callback info v.target.2) halive
    rw [Behavior.run_eq_runAt] at hanswer
    rw [hanswer] at hlaw halive'
    rw [hv]
    exact ⟨hlaw, halive'⟩

theorem TraceLaw.of_visits
    {R : Environment G → List (Occurrence G) → Environment G → Prop} (law : TraceLaw b R)
    {visits : List (Visit G)} {env last : Environment G}
    (hlinked : Linked Visit.before Visit.after env visits last)
    (hvisits : ∀ v ∈ visits, v = b.visit list info v.target v.before)
    (halive : env.orphaned = false) :
    R env (visits.flatMap fun v => v.occurrences b info) last ∧ last.orphaned = false := by
  refine Linked.relate
    (R := fun e L e' => e.orphaned = false → R e L e' ∧ e'.orphaned = false)
    ?_ ?_ hlinked ?_ halive
  · exact fun e h => ⟨law.refl e, h⟩
  · intro e₁ L₁ e₂ L₂ e₃ h₁ h₂ h
    obtain ⟨hR₁, halive₂⟩ := h₁ h
    obtain ⟨hR₂, halive₃⟩ := h₂ halive₂
    exact ⟨law.trans hR₁ hR₂, halive₃⟩
  · exact fun v hv => law.of_visit (hvisits v hv)

/-- Deliveries of one query after the other are visits, whatever the callbacks write. -/
theorem deliverAll_eq
    (queries : List (PendingQuery G.Callback)) {env : Environment G} (w : World G.components)
    (hworld : ∀ s, env.world.query s = w.query s) (halive : env.orphaned = false) :
    QueryList.deliverAll b list info queries env =
      (deliveryOf (b.visits list info
          (queries.flatMap fun q => (w.query q.signature).map fun e => (q, e)) env),
        lastOf Visit.after env (b.visits list info
          (queries.flatMap fun q => (w.query q.signature).map fun e => (q, e)) env)) := by
  induction queries generalizing env with
  | nil =>
      rfl
  | cons q rest ih =>
      rw [QueryList.deliverAll, List.flatMap_cons, visits_append, hworld, deliverTo_eq]
      generalize hfirst : b.visits list info ((w.query q.signature).map fun e => (q, e)) env =
        first
      have hlinked := linked_visits b list info ((w.query q.signature).map fun e => (q, e)) env
      rw [hfirst] at hlinked
      have hvisits : ∀ v ∈ first, v = b.visit list info v.target v.before := by
        intro v hv
        rw [← hfirst] at hv
        exact eq_visit_of_mem b list info hv
      obtain ⟨hstable, halive'⟩ := (queryLaw b).of_visits hlinked hvisits halive
      have hworld' : ∀ s, (lastOf Visit.after env first).world.query s = w.query s :=
        fun s => (hstable s).trans (hworld s)
      cases hfault : (deliveryOf first).fault with
      | some message =>
          obtain ⟨n, hdelivery⟩ : ∃ n, deliveryOf first = ⟨n, some message⟩ :=
            ⟨(deliveryOf first).completed, by rw [← hfault]⟩
          rw [hdelivery]
          simp [hdelivery]
      | none =>
          obtain ⟨n, hdelivery⟩ : ∃ n, deliveryOf first = ⟨n, none⟩ :=
            ⟨(deliveryOf first).completed, by rw [← hfault]⟩
          have hcomplete : ∀ second : List (Visit G), deliveryOf (first ++ second) =
              ⟨n + (deliveryOf second).completed, (deliveryOf second).fault⟩ := by
            intro second
            obtain ⟨hcount, hnone⟩ := Delivery.mk.inj hdelivery
            simp [deliveryOf, List.findSome?_append, hnone, hcount]
          rw [hdelivery]
          simp only [Option.isSome_none, Bool.false_eq_true, if_false, ih hworld' halive',
            lastOf_append, hcomplete]

/-- The visits of a delivery. -/
def Behavior.visitsOf (b : Behavior G) (list : Handle) (info : StepInfo) (env : Environment G) :
    List (Visit G) :=
  b.visits list info ((env.queryList list).targets env.world)
    (env.setQueryList list (env.queryList list).depart)

/-- The environment that the visits of a delivery leave. -/
def Behavior.afterVisits (b : Behavior G) (list : Handle) (info : StepInfo)
    (env : Environment G) : Environment G :=
  lastOf Visit.after (env.setQueryList list (env.queryList list).depart)
    (b.visitsOf list info env)

theorem linked_visitsOf
    (b : Behavior G) (list : Handle) (info : StepInfo) (env : Environment G) :
    Linked Visit.before Visit.after (env.setQueryList list (env.queryList list).depart)
      (b.visitsOf list info env) (b.afterVisits list info env) :=
  linked_visits b list info _ _

theorem eq_visit_of_mem_visitsOf
    (b : Behavior G) (list : Handle) (info : StepInfo) {env : Environment G} {v : Visit G}
    (hv : v ∈ b.visitsOf list info env) :
    v = b.visit list info v.target v.before :=
  eq_visit_of_mem b list info hv

theorem TraceLaw.of_delivery
    {R : Environment G → List (Occurrence G) → Environment G → Prop} (law : TraceLaw b R)
    {env : Environment G} (halive : env.orphaned = false) :
    R (env.setQueryList list (env.queryList list).depart)
        ((b.visitsOf list info env).flatMap fun v => v.occurrences b info)
        (b.afterVisits list info env) ∧
      (b.afterVisits list info env).orphaned = false :=
  law.of_visits (linked_visits b list info _ _) (fun _ hv => eq_visit_of_mem b list info hv) halive

/-- **A delivery is the sequence of its visits.** -/
theorem deliver_eq {env : Environment G} (halive : env.orphaned = false) :
    QueryList.deliver b list info env =
      (deliveryOf (b.visitsOf list info env),
        (b.afterVisits list info env).setQueryList list
          (((b.afterVisits list info env).queryList list).settle
            (env.queryList list).queries)) := by
  have halive' : (env.setQueryList list (env.queryList list).depart).orphaned = false := halive
  have hworld : ∀ s, (env.setQueryList list (env.queryList list).depart).world.query s =
      env.world.query s := fun _ => rfl
  rw [QueryList.deliver, deliverAll_eq (env.queryList list).queries env.world hworld halive']
  rfl

theorem queryList_of_visits
    {env : Environment G} (halive : env.orphaned = false)
    {visits : List (Visit G)} {last : Environment G}
    (hlinked : Linked Visit.before Visit.after
      (env.setQueryList list (env.queryList list).depart) visits last)
    (hvisits : ∀ v ∈ visits, v = b.visit list info v.target v.before) :
    last.queryList list =
      (listChanges list (visits.flatMap fun v => v.occurrences b info)).foldl QueryList.change
        (env.queryList list).depart := by
  have hlist := ((listLaw b).of_visits hlinked hvisits halive).1 list
  rwa [queryList_setQueryList, if_pos rfl] at hlist

theorem queryList_afterVisits {env : Environment G} (halive : env.orphaned = false) :
    (b.afterVisits list info env).queryList list =
      (listChanges list
          ((b.visitsOf list info env).flatMap fun v => v.occurrences b info)).foldl
        QueryList.change (env.queryList list).depart :=
  queryList_of_visits halive (linked_visits b list info _ _)
    fun _ hv => eq_visit_of_mem b list info hv

theorem atRest_deliver
    {env : Environment G} (halive : env.orphaned = false) (hrest : (env.queryList list).AtRest) :
    ((QueryList.deliver b list info env).2.queryList list).AtRest := by
  rw [deliver_eq halive]
  show ((Environment.setQueryList _ list _).queryList list).AtRest
  rw [queryList_setQueryList, if_pos rfl, queryList_afterVisits halive]
  exact hrest.settle _

/-- The targets visited come first, and all are visited if no call panics. -/
theorem map_target_visits
    (targets : List (PendingQuery G.Callback × Entity)) (env : Environment G) :
    ∃ unvisited, (b.visits list info targets env).map Visit.target ++ unvisited = targets ∧
      (unvisited ≠ [] → ∃ v ∈ b.visits list info targets env, v.fault?.isSome = true) := by
  induction targets generalizing env with
  | nil =>
      exact ⟨[], rfl, fun h => absurd rfl h⟩
  | cons target rest ih =>
      have htarget := target_visit b list info target env
      by_cases hfault : (b.visit list info target env).fault?.isSome = true
      · refine ⟨rest, ?_, ?_⟩
        · simp [Behavior.visits, hfault, htarget]
        · intro _
          exact ⟨b.visit list info target env, by simp [Behavior.visits, hfault], hfault⟩
      · obtain ⟨unvisited, hmap, hpanic⟩ := ih (b.visit list info target env).after
        rw [Behavior.visits, if_neg hfault]
        refine ⟨unvisited, ?_, ?_⟩
        · rw [List.map_cons, List.cons_append, hmap, htarget]
        · intro hne
          obtain ⟨v, hv, hpanicked⟩ := hpanic hne
          exact ⟨v, List.mem_cons_of_mem _ hv, hpanicked⟩

theorem eq_nil_of_fault
    {targets : List (PendingQuery G.Callback × Entity)} {env : Environment G}
    {past rest : List (Visit G)} {v : Visit G}
    (hsplit : b.visits list info targets env = past ++ v :: rest)
    (hfault : v.fault?.isSome = true) : rest = [] := by
  induction targets generalizing env past with
  | nil =>
      simp [Behavior.visits] at hsplit
  | cons target others ih =>
      rw [Behavior.visits] at hsplit
      split at hsplit
      · cases past with
        | nil =>
            exact (List.cons.inj hsplit).2.symm
        | cons u past =>
            simp at hsplit
      · rename_i hnone
        cases past with
        | nil =>
            obtain ⟨rfl, _⟩ := List.cons.inj hsplit
            exact absurd hfault hnone
        | cons u past =>
            exact ih (List.cons.inj hsplit).2

end Visits

/-- Lists that came about by registering, cancelling, clearing and deliveries. -/
inductive QueryList.Formed (b : Behavior G) : QueryList G.Callback → Prop
  | unused :
      Formed b .empty
  | change
      {l : QueryList G.Callback} (h : Formed b l) (c : Roll.Change (Signature × G.Callback)) :
      Formed b (l.change c)
  | deliver
      {env : Environment G} {list : Handle} (h : Formed b (env.queryList list))
      (halive : env.orphaned = false) (info : StepInfo) :
      Formed b ((QueryList.deliver b list info env).2.queryList list)

theorem QueryList.Formed.atRest
    {b : Behavior G} {l : QueryList G.Callback} (h : QueryList.Formed b l) : l.AtRest := by
  induction h with
  | unused =>
      exact QueryList.AtRest.empty
  | change _ c ih =>
      exact ih.change c
  | deliver _ halive info ih =>
      exact atRest_deliver halive ih

/--
**Whom a delivery calls, and what the list holds afterwards.**  The targets are the entities that
the world answers for the queries of the list, in the order of registration and then in ascending
order.  They are visited one by one up to the first panic, and a target is called if and only if
no request of an earlier visit cancels its query or clears the list.  Afterwards the list holds
the queries of before that were not dropped and behind them those registered meanwhile that were
not dropped since, and no query is in flight or marked.
-/
theorem delivery_visits
    (b : Behavior G) (list : Handle) (info : StepInfo) {env : Environment G}
    (halive : env.orphaned = false) (hformed : QueryList.Formed b (env.queryList list)) :
    ∃ (visits : List (Visit G)) (unvisited : List (PendingQuery G.Callback × Entity))
      (last : Environment G) (final : QueryList G.Callback),
      visits.map Visit.target ++ unvisited = (env.queryList list).targets env.world ∧
      (unvisited ≠ [] → ∃ v ∈ visits, v.fault?.isSome = true) ∧
      ((env.queryList list).queries.map PendingQuery.id).Pairwise (· < ·) ∧
      (∀ s, (env.world.query s).Pairwise (· < ·)) ∧
      Linked Visit.before Visit.after (env.setQueryList list (env.queryList list).depart)
        visits last ∧
      (∀ past v rest, visits = past ++ v :: rest →
        v.Faithful b info ∧
        (v.called = true ↔ ∀ o ∈ past.flatMap fun u => u.occurrences b info,
          o.request ≠ .cancel list v.query.id ∧ o.request ≠ .clearQueries list) ∧
        (v.fault?.isSome = true → rest = [])) ∧
      QueryList.deliver b list info env =
        (⟨visits.countP Visit.returned, visits.findSome? Visit.fault?⟩,
          last.setQueryList list final) ∧
      final.queries =
        Roll.kept PendingQuery.id (env.queryList list).queries
            (listChanges list (visits.flatMap fun v => v.occurrences b info)) ++
          Roll.entered QueryList.registered ((env.queryList list).lastId + 1)
            (listChanges list (visits.flatMap fun v => v.occurrences b info)) ∧
      final.inFlight = [] ∧ final.cancelled = [] := by
  have hrest := hformed.atRest
  obtain ⟨unvisited, hmap, hpanic⟩ :=
    @map_target_visits G b list info ((env.queryList list).targets env.world)
      (env.setQueryList list (env.queryList list).depart)
  have hlinked : Linked Visit.before Visit.after
      (env.setQueryList list (env.queryList list).depart) (b.visitsOf list info env)
      (b.afterVisits list info env) := linked_visits b list info _ _
  have hvisits : ∀ v ∈ b.visitsOf list info env, v = b.visit list info v.target v.before :=
    fun v hv => eq_visit_of_mem b list info hv
  refine ⟨b.visitsOf list info env, unvisited, b.afterVisits list info env,
    ((b.afterVisits list info env).queryList list).settle (env.queryList list).queries,
    hmap, hpanic, hrest.orderly.ascending, env.world.query_ascending, hlinked, ?_,
    deliver_eq halive, ?_, rfl, rfl⟩
  · intro past v rest hsplit
    have hv := hvisits v (by rw [hsplit]; simp)
    refine ⟨?_, ?_, fun hfault => eq_nil_of_fault hsplit hfault⟩
    · rw [hv]
      exact faithful_visit b list info v.target v.before
    · have hpast := queryList_of_visits halive (hsplit ▸ hlinked).split.1
        (fun u hu => hvisits u (by rw [hsplit]; simp [hu]))
      have hquery : v.query ∈ (env.queryList list).queries := by
        have htarget : v.target ∈ (env.queryList list).targets env.world := by
          rw [← hmap]
          refine List.mem_append_left _ (List.mem_map_of_mem ?_)
          show v ∈ b.visitsOf list info env
          rw [hsplit]
          simp
        obtain ⟨q, hq, hmem⟩ := List.mem_flatMap.1 htarget
        obtain ⟨e, _, heq⟩ := List.mem_map.1 hmem
        rwa [← (Prod.mk.inj heq).1]
      have hcalled := called_visit b list info v.target v.before
      rw [← hv, hpast] at hcalled
      rw [hcalled, ← dropsAny_listChanges, ← Bool.not_eq_true]
      exact not_congr (hrest.mem_cancelled_depart_iff _ hquery)
  · rw [queryList_afterVisits halive]
    exact hrest.queries_settle _

namespace Puppets

/-- The first callback cancels its query and registers another, the second panics on entity 2. -/
def letters : Behavior puppets :=
  { idle with
    onQuery := fun callback _ entity =>
      match callback with
      | 0 => do
        let _ ← Program.cancel ⟨1⟩ 1
        let _ ← Program.register ⟨1⟩ .any 2
      | 1 => if entity.id = 2 then .panic .other else .done ()
      | _ => .done () }

/-- Two entities, and a list of two queries for all entities. -/
def posted : Environment puppets :=
  { (Environment.initial (0 : Nat) : Environment puppets).setQueryList ⟨1⟩
      ((QueryList.empty.register .any (0 : Nat)).register .any (1 : Nat)) with
    world := World.empty.spawn.2.spawn.2 }

end Puppets

theorem delivery_visits_letters :
    QueryList.Formed Puppets.letters (Puppets.posted.queryList ⟨1⟩) ∧
      ∃ (visits : List (Visit puppets)) (unvisited : List (PendingQuery Nat × Entity))
        (final : QueryList Nat),
        (visits.map Visit.target ++ unvisited).map (fun t => (t.1.id, t.2.id)) =
          [(1, 1), (1, 2), (2, 1), (2, 2)] ∧
        visits.countP Visit.returned = 2 ∧
        final.queries.map PendingQuery.id = [2, 3] ∧ final.cancelled = [] := by
  have hunused : QueryList.Formed Puppets.letters .empty := .unused
  have hformed : QueryList.Formed Puppets.letters (Puppets.posted.queryList ⟨1⟩) :=
    (hunused.change (.enter (.any, (0 : Nat)))).change (.enter (.any, (1 : Nat)))
  obtain ⟨visits, unvisited, last, final, htargets, _, _, _, _, _, hdeliver, _, _, hmarks⟩ :=
    delivery_visits Puppets.letters ⟨1⟩ (.first .zero) rfl hformed
  refine ⟨hformed, visits, unvisited, final, ?_, ?_, ?_, hmarks⟩
  · rw [htargets]
    rfl
  · exact (congrArg (fun d => d.1.completed) hdeliver).symm
  · have hfinal : (QueryList.deliver Puppets.letters ⟨1⟩ (.first .zero) Puppets.posted).2.queryList
        ⟨1⟩ = final := by
      rw [hdeliver, queryList_setQueryList, if_pos rfl]
    rw [← hfinal]
    rfl

end SimEngine
