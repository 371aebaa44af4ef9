import SimEngine.Proofs.Deliveries

/-!
# Which queries are registered

While a delivery is in progress, the queries of a list stand in three places:
those in flight, the marks of those of them that were dropped, and those that
wait for the next delivery.  A query is registered if it is in flight without a
mark or waits; how many there are, and whether one can be cancelled, is told by
the requests made so far, at any time and whether or not a delivery is going on.

**Definitions.**
* `QueryList.members`: the numbers of the registered queries.
* `stillRegistered`: those which the requests so far leave.
* `ListPast`, `ListTime`: the times at which a list can be asked something,
  with the requests made before.

**Results.**
* `QueryList.tally_change`, `QueryList.members_depart`, `QueryList.members_settle`:
  a change of a list is a change of a roll, and the beginning and the end of a
  delivery change nothing.
* `QueryList.Exact.size_eq`, `QueryList.cancel_iff`: what a list answers.
* `ListTime.earlier`: each request of the past was made at such a time.
* `query_list_counts`: what a list answers at any time.
-/

namespace SimEngine

namespace QueryList

variable {κ : Type}

/-- The numbers of the registered queries: those in flight without a mark, and those that wait. -/
def members (l : QueryList κ) : List Nat :=
  (l.inFlight.filter fun id => id ∉ l.cancelled) ++ l.queries.map PendingQuery.id

/-- The number of the next query and the numbers of the registered ones. -/
def tally (l : QueryList κ) : Nat × List Nat :=
  (l.lastId + 1, l.members)

/-- What a change does to the number of the next query and to the registered ones. -/
def follow : Nat × List Nat → Roll.Change (Signature × κ) → Nat × List Nat :=
  Roll.step id fun n _ => n

theorem mem_members_iff (l : QueryList κ) (id : Nat) :
    id ∈ l.members ↔
      (id ∈ l.inFlight ∧ id ∉ l.cancelled) ∨ ∃ q ∈ l.queries, q.id = id := by
  simp [members]

/-- **A query can be cancelled if and only if it is registered.** -/
theorem cancel_iff (l : QueryList κ) (id : Nat) : (l.cancel id).1 = true ↔ id ∈ l.members := by
  rw [mem_members_iff, ← isWaiting_iff]
  by_cases hwaiting : l.isWaiting id = true
  · simp [cancel, hwaiting]
  · by_cases hflying : id ∈ l.inFlight ∧ id ∉ l.cancelled
    · simp [cancel, hwaiting, hflying]
    · simp [cancel, hwaiting, hflying]

theorem members_register (l : QueryList κ) (signature : Signature) (callback : κ) :
    (l.register signature callback).members = l.members ++ [l.lastId + 1] := by
  rw [members, members, register, List.map_append, List.append_assoc]
  rfl

theorem members_cancel {l : QueryList κ} (h : l.Orderly) (id : Nat) :
    (l.cancel id).2.members = l.members.filter fun other => other != id := by
  have hflying : (l.cancel id).2.inFlight = l.inFlight := inFlight_change l (.leave id)
  rw [members, members, hflying, cancel_queries h, List.filter_append, List.filter_filter,
    List.filter_map]
  congr 1
  refine List.filter_congr fun other hother => ?_
  have hmarked := mem_cancelled_cancel_iff h id other
  by_cases hid : other = id
  · subst hid
    simp [hmarked, hother]
  · have hid' : id ≠ other := fun heq => hid heq.symm
    simp [hmarked, hid, hid']

theorem members_clear (l : QueryList κ) : l.clear.members = [] := by
  refine List.eq_nil_iff_forall_not_mem.2 fun id hid => ?_
  rw [mem_members_iff] at hid
  simp [clear] at hid
  tauto

/-- **A change of a list is a change of a roll.** -/
theorem tally_change {l : QueryList κ} (h : l.Orderly) (c : Roll.Change (Signature × κ)) :
    (l.change c).tally = follow l.tally c := by
  have hnext := congrArg Prod.fst (roll_change h c)
  cases c with
  | enter entry =>
      exact Prod.ext hnext (members_register l entry.1 entry.2)
  | leave id =>
      exact Prod.ext hnext (members_cancel h id)
  | dissolve =>
      exact Prod.ext hnext (members_clear l)

/-- **The beginning of a delivery changes nothing.** -/
theorem members_depart {l : QueryList κ} (h : l.AtRest) : l.depart.members = l.members := by
  simp [members, depart, h.landed, h.cancelled_eq_nil]

/-- **The end of a delivery changes nothing.** -/
theorem members_settle
    {l : QueryList κ} {taken : List (PendingQuery κ)}
    (h : l.inFlight = taken.map PendingQuery.id) : (l.settle taken).members = l.members := by
  simp [members, settle, h, List.filter_map, Function.comp_def]

/-- An orderly list on which no number is in flight or marked twice. -/
structure Exact (l : QueryList κ) : Prop where
  orderly : l.Orderly
  flying_once : l.inFlight.Nodup
  cancelled_once : l.cancelled.Nodup

theorem AtRest.exact {l : QueryList κ} (h : l.AtRest) : l.Exact where
  orderly := h.orderly
  flying_once := by
    rw [h.landed]
    exact List.nodup_nil
  cancelled_once := by
    rw [h.cancelled_eq_nil]
    exact List.nodup_nil

theorem AtRest.exact_depart {l : QueryList κ} (h : l.AtRest) : l.depart.Exact where
  orderly := h.orderly_depart
  flying_once := h.orderly.ascending.imp Nat.ne_of_lt
  cancelled_once := h.exact.cancelled_once

namespace Exact

variable {l : QueryList κ} (h : l.Exact)

include h

theorem cancelled_once_change (c : Roll.Change (Signature × κ)) :
    (l.change c).cancelled.Nodup := by
  cases c with
  | enter entry =>
      exact h.cancelled_once
  | leave id =>
      simp only [QueryList.change, cancel]
      split
      · exact h.cancelled_once
      · split
        · rename_i hunmarked
          refine List.nodup_append.2 ⟨h.cancelled_once, by simp, ?_⟩
          rintro other hother _ hid rfl
          rw [List.mem_singleton.1 hid] at hother
          exact hunmarked.2 hother
        · exact h.cancelled_once
  | dissolve =>
      refine List.nodup_append.2 ⟨h.cancelled_once, h.flying_once.filter _, ?_⟩
      rintro other hother _ hid rfl
      simpa [hother] using List.mem_filter.1 hid

theorem change (c : Roll.Change (Signature × κ)) : (l.change c).Exact where
  orderly := h.orderly.change c
  flying_once := by
    rw [inFlight_change]
    exact h.flying_once
  cancelled_once := h.cancelled_once_change c

theorem changes (changes : List (Roll.Change (Signature × κ))) :
    (changes.foldl QueryList.change l).Exact ∧
      (changes.foldl QueryList.change l).tally = changes.foldl follow l.tally := by
  induction changes generalizing l with
  | nil =>
      exact ⟨h, rfl⟩
  | cons c changes ih =>
      rw [List.foldl_cons, List.foldl_cons, ← tally_change h.orderly c]
      exact ih (h.change c)

/-- The marks are as many as the queries in flight that are marked. -/
theorem length_cancelled :
    (l.inFlight.filter fun id => id ∈ l.cancelled).length = l.cancelled.length := by
  refine List.Perm.length_eq ?_
  refine (List.perm_ext_iff_of_nodup (h.flying_once.filter _) h.cancelled_once).2 fun id => ?_
  rw [List.mem_filter, decide_eq_true_iff]
  exact ⟨And.right, fun hid => ⟨h.orderly.cancelled_flying id hid, hid⟩⟩

/-- A query in flight is marked or registered. -/
theorem length_inFlight :
    l.inFlight.length =
      l.cancelled.length + (l.inFlight.filter fun id => id ∉ l.cancelled).length := by
  have hsplit := List.length_eq_length_filter_add (l := l.inFlight) fun id => id ∈ l.cancelled
  rw [h.length_cancelled] at hsplit
  simpa using hsplit

theorem length_cancelled_le : l.cancelled.length ≤ l.inFlight.length := by
  rw [h.length_inFlight]
  exact Nat.le_add_right _ _

/-- **The size of a list is the number of registered queries.** -/
theorem size_eq : l.size = l.members.length := by
  have hflying := h.length_inFlight
  rw [size, members, List.length_append, List.length_map]
  omega

end Exact

end QueryList

section Times

variable {G : Guest}

/-- The numbers registered on a list that were neither cancelled nor cleared since. -/
def stillRegistered (list : Handle) (past : List (Occurrence G)) : List Nat :=
  Roll.entered (fun n _ => n) 1 (listChanges list past)

/-- How many queries were registered on a list. -/
def registrations (list : Handle) (past : List (Occurrence G)) : Nat :=
  Roll.arrivals (listChanges list past)

variable (b : Behavior G) (list : Handle)

/--
The times between the calls made for a list, and what was requested since the list was new.
Guest code is run and queries are delivered while the engine is alive; a single request may be
made by whoever holds the list, also afterwards.
-/
inductive ListPast : List (Occurrence G) → Environment G → Prop
  | new
      {env : Environment G} (hnew : env.queryList list = .empty) : ListPast [] env
  | elsewhere
      {past : List (Occurrence G)} {env env' : Environment G} (h : ListPast past env)
      (hsame : env'.queryList list = env.queryList list) : ListPast past env'
  | request
      {past : List (Occurrence G)} {env : Environment G} (h : ListPast past env)
      (spot : Spot G) {r : Request G} (hr : ∀ signal, r ≠ .emit signal) :
      ListPast (past ++ [⟨spot, r, env⟩]) (b.performAt spot r env).2
  | run
      {past : List (Occurrence G)} {env : Environment G} (h : ListPast past env)
      (halive : env.orphaned = false) (spot : Spot G) {α : Type} (p : Program G α) :
      ListPast (past ++ b.occurrences spot p env) (b.runAt spot p env).2
  | deliver
      {past : List (Occurrence G)} {env : Environment G} (h : ListPast past env)
      (halive : env.orphaned = false) (other : Handle) (info : StepInfo) :
      ListPast (past ++ (b.visitsOf other info env).flatMap fun v => v.occurrences b info)
        (QueryList.deliver b other info env).2

/--
The times at which a list can be asked something, whether a delivery of it is in progress, and
what was requested since the list was new: between the calls made for it, at each point of a run,
and at each point of a callback within a delivery of this or another list.
-/
inductive ListTime : Bool → List (Occurrence G) → Environment G → Prop
  | between
      {past : List (Occurrence G)} {env : Environment G} (h : ListPast b list past env) :
      ListTime false past env
  | running
      {past during : List (Occurrence G)} {env now : Environment G} (h : ListPast b list past env)
      (halive : env.orphaned = false) {spot : Spot G} {α : Type} {p : Program G α}
      (hnow : Point b spot p env during now) : ListTime false (past ++ during) now
  | delivering
      {past during : List (Occurrence G)} {env now : Environment G} (h : ListPast b list past env)
      (halive : env.orphaned = false) {other : Handle} {info : StepInfo}
      {before after : List (Visit G)} {v : Visit G}
      (hvisits : b.visitsOf other info env = before ++ v :: after) (hcalled : v.called = true)
      (hnow : Point b (.top .full) (b.onQuery v.query.callback info v.entity) v.before
        during now) :
      ListTime (decide (other = list))
        (past ++ (before.flatMap (fun u => u.occurrences b info) ++ during)) now

variable {b list}

/-- A list is told by the requests made since it was new. -/
structure Counted (list : Handle) (past : List (Occurrence G)) (l : QueryList G.Callback) :
    Prop where
  exact : l.Exact
  lastId : l.lastId = registrations list past
  members : l.members = stillRegistered list past

theorem foldl_follow (list : Handle) (past : List (Occurrence G)) :
    (listChanges list past).foldl QueryList.follow (1, []) =
      (registrations list past + 1, stillRegistered list past) := by
  refine Prod.ext ?_ ?_
  · rw [QueryList.follow, Roll.next_foldl_step, Nat.add_comm]
    rfl
  · rw [QueryList.follow, Roll.foldl_step fun _ _ => rfl]
    rfl

theorem registrations_lt
    (list : Handle) (past : List (Occurrence G)) (spot : Spot G) (signature : Signature)
    (callback : G.Callback) (env : Environment G) (rest : List (Occurrence G)) :
    registrations list past <
      registrations list (past ++ ⟨spot, .register list signature callback, env⟩ :: rest) := by
  simp only [registrations, listChanges, List.filterMap_append, Roll.arrivals, List.countP_append]
  simp [Request.listChange, Roll.Change.enters]

/-- What is registered after more requests was registered before them or is given out by them. -/
theorem stillRegistered_append (list : Handle) (past log : List (Occurrence G)) :
    stillRegistered list (past ++ log) =
      Roll.kept id (stillRegistered list past) (listChanges list log) ++
        Roll.entered (fun n _ => n) (registrations list past + 1) (listChanges list log) := by
  have htotal := foldl_follow list (past ++ log)
  rw [listChanges_append, List.foldl_append, foldl_follow, QueryList.follow] at htotal
  have hmembers := congrArg Prod.snd htotal
  rw [Roll.foldl_step fun _ _ => rfl] at hmembers
  exact hmembers.symm

theorem eq_register_of_listChange
    {list : Handle} {r : Request G} {signature : Signature} {callback : G.Callback}
    (h : r.listChange list = some (.enter (signature, callback))) :
    r = .register list signature callback := by
  cases r with
  | register other signature' callback' =>
      by_cases hlist : other = list
      · simpa [Request.listChange, hlist] using h
      · simp [Request.listChange, hlist] at h
  | cancel other query =>
      by_cases hlist : other = list <;> simp [Request.listChange, hlist] at h
  | clearQueries other =>
      by_cases hlist : other = list <;> simp [Request.listChange, hlist] at h
  | _ => simp [Request.listChange] at h

/-- A number is registered if it was given out and neither cancelled nor cleared since. -/
theorem mem_stillRegistered_iff {list : Handle} {past : List (Occurrence G)} {id : Nat} :
    id ∈ stillRegistered list past ↔
      ∃ first spot signature callback before rest,
        past = first ++ ⟨spot, .register list signature callback, before⟩ :: rest ∧
          id = registrations list first + 1 ∧
          ∀ o ∈ rest, o.request ≠ .cancel list id ∧ o.request ≠ .clearQueries list := by
  rw [stillRegistered, Roll.mem_entered_iff]
  constructor
  · rintro ⟨first, ⟨signature, callback⟩, rest, hsplit, hid, hdrop⟩
    obtain ⟨past₁, past₂, rfl, rfl, hsecond⟩ := List.filterMap_eq_append_iff.1 hsplit
    obtain ⟨silent, ⟨spot, r, before⟩, rest, rfl, hsilent, hr, rfl⟩ :=
      List.filterMap_eq_cons_iff.1 hsecond
    obtain rfl := eq_register_of_listChange hr
    have hfirst : registrations list (past₁ ++ silent) = registrations list past₁ := by
      rw [registrations, listChanges_append, listChanges, listChanges,
        List.filterMap_eq_nil_iff.2 hsilent, List.append_nil]
      rfl
    refine ⟨past₁ ++ silent, spot, signature, callback, before, rest, by simp, ?_, ?_⟩
    · rw [hfirst, hid, Nat.add_comm]
      rfl
    · rw [hid]
      exact (dropsAny_listChanges list _ rest).1 hdrop
  · rintro ⟨first, spot, signature, callback, before, rest, rfl, hid, hkept⟩
    refine ⟨listChanges list first, (signature, callback), listChanges list rest, ?_, ?_, ?_⟩
    · simp [listChanges, Request.listChange]
    · rw [hid, Nat.add_comm]
      rfl
    · rw [Nat.add_comm, ← registrations, ← hid]
      exact (dropsAny_listChanges list id rest).2 hkept

namespace Counted

variable {past : List (Occurrence G)} {l : QueryList G.Callback} (h : Counted list past l)

include h

theorem tally_eq :
    l.tally = (registrations list past + 1, stillRegistered list past) :=
  Prod.ext (congrArg Nat.succ h.lastId) h.members

theorem changes (log : List (Occurrence G)) :
    Counted list (past ++ log) ((listChanges list log).foldl QueryList.change l) := by
  obtain ⟨hexact, htally⟩ := h.exact.changes (listChanges list log)
  rw [h.tally_eq, ← foldl_follow, ← List.foldl_append, ← listChanges_append,
    foldl_follow] at htally
  obtain ⟨hnext, hmembers⟩ := Prod.mk.inj htally
  exact ⟨hexact, Nat.succ.inj hnext, hmembers⟩

theorem depart (hrest : l.AtRest) : Counted list past l.depart :=
  ⟨hrest.exact_depart, h.lastId, (QueryList.members_depart hrest).trans h.members⟩

theorem settle {taken : List (PendingQuery G.Callback)}
    (hflying : l.inFlight = taken.map PendingQuery.id) (hrest : (l.settle taken).AtRest) :
    Counted list past (l.settle taken) :=
  ⟨hrest.exact, h.lastId, (QueryList.members_settle hflying).trans h.members⟩

end Counted

section Deliveries

variable {past : List (Occurrence G)} {env : Environment G} {other : Handle} {info : StepInfo}
variable (h : Counted list past (env.queryList list)) (hrest : (env.queryList list).AtRest)

include h hrest

/-- What is told of a list is told of it once the queries of some list are taken out. -/
theorem counted_departing :
    Counted list past
      ((env.setQueryList other (env.queryList other).depart).queryList list) := by
  rw [queryList_setQueryList]
  by_cases hlist : list = other
  · rw [if_pos hlist, ← hlist]
    exact h.depart hrest
  · rw [if_neg hlist]
    exact h

/-- What is told of a list is told of it after the visits of a delivery, or the first of them. -/
theorem counted_visits
    (halive : env.orphaned = false) {visits : List (Visit G)} {last : Environment G}
    (hlinked : Linked Visit.before Visit.after
      (env.setQueryList other (env.queryList other).depart) visits last)
    (hvisits : ∀ v ∈ visits, v = b.visit other info v.target v.before) :
    Counted list (past ++ visits.flatMap fun v => v.occurrences b info) (last.queryList list) ∧
      (list ≠ other → (last.queryList list).AtRest) ∧ last.orphaned = false := by
  obtain ⟨hlist, halive'⟩ := (listLaw b).of_visits hlinked hvisits halive
  rw [hlist list]
  refine ⟨(counted_departing h hrest).changes _, fun hother => ?_, halive'⟩
  rw [queryList_setQueryList, if_neg hother]
  exact hrest.changes _

theorem counted_before
    (halive : env.orphaned = false) {before after : List (Visit G)} {v : Visit G}
    (hsplit : b.visitsOf other info env = before ++ v :: after) :
    Counted list (past ++ before.flatMap fun u => u.occurrences b info)
        (v.before.queryList list) ∧
      (list ≠ other → (v.before.queryList list).AtRest) ∧ v.before.orphaned = false := by
  have hlinked := linked_visitsOf b other info env
  rw [hsplit] at hlinked
  refine counted_visits h hrest halive hlinked.split.1 fun u hu => ?_
  have hmem : u ∈ b.visitsOf other info env := by
    rw [hsplit]
    exact List.mem_append_left _ hu
  exact eq_visit_of_mem_visitsOf b other info hmem

theorem counted_deliver (halive : env.orphaned = false) :
    Counted list (past ++ (b.visitsOf other info env).flatMap fun v => v.occurrences b info)
        ((QueryList.deliver b other info env).2.queryList list) ∧
      ((QueryList.deliver b other info env).2.queryList list).AtRest := by
  obtain ⟨hafter, hother, -⟩ := counted_visits h hrest halive (linked_visitsOf b other info env)
    fun v hv => eq_visit_of_mem_visitsOf b other info hv
  by_cases hlist : list = other
  · subst hlist
    have hrest' : ((QueryList.deliver b list info env).2.queryList list).AtRest :=
      atRest_deliver halive hrest
    have hflying : ((b.afterVisits list info env).queryList list).inFlight =
        (env.queryList list).queries.map PendingQuery.id := by
      rw [queryList_afterVisits halive, QueryList.inFlight_changes]
      rfl
    refine ⟨?_, hrest'⟩
    rw [deliver_eq halive] at hrest' ⊢
    simp only [queryList_setQueryList, if_true] at hrest' ⊢
    exact hafter.settle hflying hrest'
  · rw [deliver_eq halive]
    simp only [queryList_setQueryList, if_neg hlist]
    exact ⟨hafter, hother hlist⟩

end Deliveries

theorem counted_performAt
    {past : List (Occurrence G)} {env : Environment G} (h : Counted list past (env.queryList list))
    (spot : Spot G) {r : Request G} (hr : ∀ signal, r ≠ .emit signal) :
    Counted list (past ++ [⟨spot, r, env⟩]) ((b.performAt spot r env).2.queryList list) := by
  rw [((listLaw b).request spot r env hr) list]
  exact h.changes _

theorem counted_point
    {past during : List (Occurrence G)} {env now : Environment G}
    (h : Counted list past (env.queryList list)) (halive : env.orphaned = false) {spot : Spot G}
    {α : Type} {p : Program G α} (hnow : Point b spot p env during now) :
    Counted list (past ++ during) (now.queryList list) := by
  rw [((listLaw b).at_point halive hnow) list]
  exact h.changes during

/-- **What is told of a list is told of it between all calls, and it is at rest there.** -/
theorem ListPast.counted
    {past : List (Occurrence G)} {env : Environment G} (h : ListPast b list past env) :
    Counted list past (env.queryList list) ∧ (env.queryList list).AtRest := by
  induction h with
  | new hnew =>
      rw [hnew]
      exact ⟨⟨QueryList.AtRest.empty.exact, rfl, rfl⟩, .empty⟩
  | elsewhere _ hsame ih =>
      rw [hsame]
      exact ih
  | request _ spot hr ih =>
      refine ⟨counted_performAt ih.1 spot hr, ?_⟩
      rw [((listLaw b).request spot _ _ hr) list]
      exact ih.2.changes _
  | run _ halive spot p ih =>
      refine ⟨counted_point ih.1 halive .finish, ?_⟩
      rw [((listLaw b).run spot p halive) list]
      exact ih.2.changes _
  | deliver _ halive other info ih =>
      exact counted_deliver ih.1 ih.2 halive

/-- **What is told of a list is told of it at all times, and it is at rest out of deliveries.** -/
theorem ListTime.counted
    {delivering : Bool} {past : List (Occurrence G)} {env : Environment G}
    (h : ListTime b list delivering past env) :
    Counted list past (env.queryList list) ∧
      (delivering = false → (env.queryList list).AtRest) := by
  cases h with
  | between h =>
      exact ⟨h.counted.1, fun _ => h.counted.2⟩
  | running h halive hnow =>
      refine ⟨counted_point h.counted.1 halive hnow, fun _ => ?_⟩
      rw [((listLaw b).at_point halive hnow) list]
      exact h.counted.2.changes _
  | @delivering past during env _ h halive other info before after v hvisits _ hnow =>
      obtain ⟨hcounted, hrest⟩ := h.counted
      obtain ⟨hbefore, hother, halive'⟩ := counted_before hcounted hrest halive hvisits
      rw [← List.append_assoc]
      refine ⟨counted_point hbefore halive' hnow, fun hdecide => ?_⟩
      rw [((listLaw b).at_point halive' hnow) list]
      exact (hother fun heq => of_decide_eq_false hdecide heq.symm).changes _

/-- A request that is made in a visit is made at a time of the list. -/
theorem exists_time_of_visit
    {past during rest : List (Occurrence G)} {o : Occurrence G} {env : Environment G}
    (h : ListPast b list past env) (halive : env.orphaned = false) {other : Handle}
    {info : StepInfo} {before after : List (Visit G)} {v : Visit G}
    (hvisits : b.visitsOf other info env = before ++ v :: after)
    (hvisit : v.occurrences b info = during ++ o :: rest) :
    ∃ delivering, ListTime b list delivering
      (past ++ (before.flatMap (fun u => u.occurrences b info) ++ during)) o.env := by
  have hcalled : v.called = true := by
    by_contra hcalled
    simp [Visit.occurrences, hcalled] at hvisit
  rw [Visit.occurrences, if_pos hcalled] at hvisit
  exact ⟨_, .delivering h halive hvisits hcalled (.request hvisit)⟩

/-- A request that is made between the calls for a list, or within one, is made at a time of it. -/
theorem ListPast.earlier
    {past mid : List (Occurrence G)} {o : Occurrence G} {env : Environment G}
    (h : ListPast b list (past ++ o :: mid) env) :
    ∃ delivering, ListTime b list delivering past o.env := by
  generalize hall : past ++ o :: mid = all at h
  induction h generalizing past mid with
  | new _ =>
      simp at hall
  | elsewhere _ _ ih =>
      exact ih hall
  | request h spot hr ih =>
      rcases append_split hall.symm with ⟨mid', hfirst, -⟩ | ⟨during, rfl, hlast⟩
      · exact ih hfirst.symm
      · obtain ⟨rfl, rfl⟩ := singleton_split hlast
        rw [List.append_nil]
        exact ⟨false, .between h⟩
  | run h halive spot p ih =>
      rcases append_split hall.symm with ⟨mid', hfirst, -⟩ | ⟨during, rfl, hlast⟩
      · exact ih hfirst.symm
      · exact ⟨false, .running h halive (.request hlast)⟩
  | deliver h halive other info ih =>
      rcases append_split hall.symm with ⟨mid', hfirst, -⟩ | ⟨during, rfl, hlast⟩
      · exact ih hfirst.symm
      · obtain ⟨before, v, after, during, mid', hvisits, rfl, hvisit⟩ := flatMap_split hlast
        exact exists_time_of_visit h halive hvisits hvisit

/-- **Each request of the past was made at a time of the list.** -/
theorem ListTime.earlier
    {delivering : Bool} {past mid : List (Occurrence G)} {o : Occurrence G} {env : Environment G}
    (h : ListTime b list delivering (past ++ o :: mid) env) :
    ∃ delivering, ListTime b list delivering past o.env := by
  generalize hall : past ++ o :: mid = all at h
  cases h with
  | between h =>
      subst hall
      exact h.earlier
  | running h halive hnow =>
      rcases append_split hall.symm with ⟨mid', rfl, -⟩ | ⟨during, rfl, rfl⟩
      · exact h.earlier
      · obtain ⟨after, hlog⟩ := hnow.isPrefix
        rw [List.append_assoc] at hlog
        exact ⟨false, .running h halive (.request hlog.symm)⟩
  | delivering h halive hvisits hcalled hnow =>
      rcases append_split hall.symm with ⟨mid', rfl, -⟩ | ⟨during, rfl, hrest⟩
      · exact h.earlier
      · rcases append_split hrest with ⟨mid', hbefore, -⟩ | ⟨during, rfl, rfl⟩
        · -- The request is one of a visit before the present one.
          obtain ⟨before, u, between, during, mid', rfl, rfl, hvisit⟩ := flatMap_split hbefore
          rw [List.append_assoc, List.cons_append] at hvisits
          exact exists_time_of_visit h halive hvisits hvisit
        · obtain ⟨after, hlog⟩ := hnow.isPrefix
          rw [List.append_assoc] at hlog
          exact ⟨_, .delivering h halive hvisits hcalled (.request hlog.symm)⟩

namespace Counted

variable {past : List (Occurrence G)} {l : QueryList G.Callback} (h : Counted list past l)

include h

/-- A number that is registered was given out. -/
theorem le_registrations {id : Nat} (hid : id ∈ stillRegistered list past) :
    id ≤ registrations list past := by
  rw [← h.members, QueryList.mem_members_iff] at hid
  rw [← h.lastId]
  rcases hid with ⟨hflying, -⟩ | ⟨q, hq, rfl⟩
  · exact h.exact.orderly.flying_le id hflying
  · exact h.exact.orderly.waiting_le q hq

/-- A number that was registered when it was cancelled is never registered again. -/
theorem not_mem_of_cancelled
    {id : Nat} (hid : id ∈ stillRegistered list past) (spot : Spot G) (env : Environment G)
    (rest : List (Occurrence G)) :
    id ∉ stillRegistered list (past ++ ⟨spot, .cancel list id, env⟩ :: rest) := by
  have hgiven := h.le_registrations hid
  rw [stillRegistered_append, List.mem_append]
  rintro (hkept | hentered)
  · have hdrop := (List.mem_filter.1 hkept).2
    simp [listChanges, Request.listChange, Roll.Change.drops] at hdrop
  · have hle := Roll.le_of_mem_entered hentered
    omega

end Counted

/--
**What a list answers at any time.**  Marks are on queries in flight only, so the size does not
underflow; out of deliveries of the list nothing is in flight or marked.  The size is the number
of the queries that were registered and neither cancelled nor cleared since, and a query can be
cancelled if and only if it is one of them, hence not a second time.  A query that is registered
is given the number of the registration, which is greater than all numbers given out before.
-/
theorem query_list_counts
    (b : Behavior G) (list : Handle) {delivering : Bool} {past : List (Occurrence G)}
    {env : Environment G} (h : ListTime b list delivering past env) :
    (∀ id ∈ (env.queryList list).cancelled, id ∈ (env.queryList list).inFlight) ∧
    (env.queryList list).cancelled.length ≤ (env.queryList list).inFlight.length ∧
    (delivering = false →
      (env.queryList list).inFlight = [] ∧ (env.queryList list).cancelled = []) ∧
    (stillRegistered list past).Nodup ∧
    (∀ id, id ∈ stillRegistered list past ↔
      ∃ first spot signature callback before rest,
        past = first ++ ⟨spot, .register list signature callback, before⟩ :: rest ∧
          id = registrations list first + 1 ∧
          ∀ o ∈ rest, o.request ≠ .cancel list id ∧ o.request ≠ .clearQueries list) ∧
    ∀ spot : Spot G,
      (b.performAt spot (.queryCount list) env).1 = (stillRegistered list past).length ∧
      (∀ id, (b.performAt spot (.cancel list id) env).1 = true ↔ id ∈ stillRegistered list past) ∧
      (∀ first spot' id before mid, past = first ++ ⟨spot', .cancel list id, before⟩ :: mid →
        (b.performAt spot' (.cancel list id) before).1 = true →
          (b.performAt spot (.cancel list id) env).1 = false) ∧
      ∀ signature callback,
        (b.performAt spot (.register list signature callback) env).1 =
          registrations list past + 1 ∧
        ∀ first spot' signature' callback' before mid,
          past = first ++ ⟨spot', .register list signature' callback', before⟩ :: mid →
            Nat.lt (b.performAt spot' (.register list signature' callback') before).1
              (b.performAt spot (.register list signature callback) env).1 := by
  obtain ⟨hcounted, hrest⟩ := h.counted
  have hcancel : ∀ {past : List (Occurrence G)} {env : Environment G} (spot : Spot G) (id : Nat),
      Counted list past (env.queryList list) →
        ((b.performAt spot (.cancel list id) env).1 = true ↔ id ∈ stillRegistered list past) := by
    intro past env spot id hcounted
    rw [← hcounted.members]
    exact QueryList.cancel_iff (env.queryList list) id
  have hregister : ∀ {past : List (Occurrence G)} {env : Environment G} (spot : Spot G)
      (signature : Signature) (callback : G.Callback), Counted list past (env.queryList list) →
        (b.performAt spot (.register list signature callback) env).1 =
          registrations list past + 1 := by
    intro past env spot signature callback hcounted
    rw [← hcounted.lastId]
    rfl
  refine ⟨hcounted.exact.orderly.cancelled_flying,
    hcounted.exact.length_cancelled_le,
    fun hout => ⟨(hrest hout).landed, (hrest hout).cancelled_eq_nil⟩,
    (Roll.ascending_entered 1 _).imp Nat.ne_of_lt, fun _ => mem_stillRegistered_iff,
    fun spot => ⟨?_, ?_, ?_, ?_⟩⟩
  · rw [← hcounted.members]
    exact hcounted.exact.size_eq
  · exact fun id => hcancel spot id hcounted
  · intro first spot' id before mid hpast hfound
    subst hpast
    obtain ⟨_, hearlier⟩ := h.earlier
    have hgone := hearlier.counted.1.not_mem_of_cancelled
      ((hcancel spot' id hearlier.counted.1).1 hfound) spot' before mid
    exact Bool.eq_false_iff.2 fun hagain => hgone ((hcancel spot id hcounted).1 hagain)
  · intro signature callback
    refine ⟨hregister spot signature callback hcounted, ?_⟩
    intro first spot' signature' callback' before mid hpast
    subst hpast
    obtain ⟨_, hearlier⟩ := h.earlier
    rw [hregister spot signature callback hcounted,
      hregister spot' signature' callback' hearlier.counted.1]
    exact Nat.succ_lt_succ (registrations_lt list first spot' signature' callback' before mid)

namespace Puppets

/-- The first callback cancels the second query, clears the list, and registers another query. -/
def clearing : Behavior puppets :=
  { idle with
    onQuery := fun callback _ _ =>
      if callback = 0 then do
        let _ ← Program.cancel ⟨1⟩ 2
        let _ ← Program.clearQueries ⟨1⟩
        let _ ← Program.cancel ⟨1⟩ 2
        let _ ← Program.register ⟨1⟩ .any 2
      else .done () }

/-- Two queries are registered. -/
def enlisting : Program puppets Unit := do
  let _ ← Program.register ⟨1⟩ .any 0
  let _ ← Program.register ⟨1⟩ .any 1

/-- A world with an entity. -/
def deserted : Environment puppets :=
  { (Environment.initial (0 : Nat) : Environment puppets) with world := World.empty.spawn.2 }

end Puppets

/-- Within its callback two queries are in flight and marked, and the third one is registered. -/
theorem query_list_counts_clearing :
    ∃ past env, ListTime Puppets.clearing ⟨1⟩ true past env ∧
      (env.queryList ⟨1⟩).inFlight = [1, 2] ∧ (env.queryList ⟨1⟩).cancelled = [2, 1] ∧
      stillRegistered ⟨1⟩ past = [3] ∧
      (Puppets.clearing.performAt (.top .full) (.queryCount ⟨1⟩) env).1 = (1 : Nat) ∧
      (Puppets.clearing.performAt (.top .full) (.cancel ⟨1⟩ 2) env).1 = false ∧
      (Puppets.clearing.performAt (.top .full) (.register ⟨1⟩ .any 0) env).1 = (4 : Nat) := by
  have hnew : ListPast Puppets.clearing ⟨1⟩ [] Puppets.deserted := .new rfl
  have henlisted := hnew.run rfl (.top .none) Puppets.enlisting
  have htime := @ListTime.delivering puppets Puppets.clearing ⟨1⟩ _ _ _ _ henlisted rfl ⟨1⟩
    (.first .zero) [] _ _ rfl rfl .finish
  obtain ⟨hsize, -, -, hregister⟩ :=
    (query_list_counts Puppets.clearing ⟨1⟩ htime).2.2.2.2.2 (.top .full)
  exact ⟨_, _, htime, rfl, rfl, rfl, hsize, rfl, (hregister .any 0).1⟩

end Times
end SimEngine
