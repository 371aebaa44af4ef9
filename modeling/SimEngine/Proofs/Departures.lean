import SimEngine.Proofs.Puppets
import SimEngine.Proofs.Rosters

/-!
# Departures

An instance leaves when it is detached, by the host or by a request of the
queue, or when all instances are.  Its system may live on, and so may its query
list and its handle, for guest code can keep them.  But the engine has done with
it: it calls the system for that handle no more.

**Definitions.**
* `Moment.Departs`: an instance leaves at a moment.
* `Engine.Refuses`: an engine does not know a handle.
* `Silent`: nothing is called for a handle, and nobody knows it.

**Results.**
* `Chronicle.silent_of_departs`: there is silence after a departure.
* `silence_after_departure`: so there is after a detachment by the host or from
  the queue, and once all instances were detached.
-/

namespace SimEngine

variable {G : Guest}

/-- The instance of a handle leaves. -/
def Moment.Departs (m : Moment G) (handle : Handle) : Prop :=
  ∃ i env, m.departure? = some (i, env) ∧ i.handle = handle

/-- The engine does not know a handle, and is left as it is by requests about it. -/
structure Engine.Refuses (b : Behavior G) (e : Engine G) (handle : Handle) : Prop where
  detach : e.detach b handle = .error (.unknownHandle handle)
  detached : e.operate b (.detach handle) = e
  reconfigure : ∀ config, e.reconfigure b handle config = .error (.unknownHandle handle)
  reconfigured : ∀ config, e.operate b (.reconfigure handle config) = e

/--
No guest code is called on behalf of a handle, and neither the engines at the moments nor the one
at their end knows it.
-/
structure Silent (b : Behavior G) (handle : Handle) (moments : List (Moment G)) (e : Engine G) :
    Prop where
  uncalled : ∀ m ∈ moments, ∀ s ∈ m.guestRuns b, ¬ s.purpose.IsFor handle
  unknown : ∀ m ∈ moments, m.before.Refuses b handle
  gone : e.Refuses b handle

section Departures

variable {b : Behavior G}

theorem refuses_of_absent
    {e : Engine G} {handle : Handle} (h : handle ∉ e.scheduler.handles) :
    e.Refuses b handle := by
  have hfind := (e.scheduler.instance?_eq_none_iff handle).2 h
  have hdetach : e.detach b handle = .error (.unknownHandle handle) := by
    simp only [Engine.detach, hfind]
  have hreconfigure : ∀ config,
      e.reconfigure b handle config = .error (.unknownHandle handle) := by
    intro config
    simp only [Engine.reconfigure, hfind]
  refine ⟨hdetach, ?_, hreconfigure, ?_⟩
  · simp only [Engine.operate, hdetach]
  · intro config
    simp only [Engine.operate, hreconfigure config]

theorem departs_of_detach
    {m : Moment G} {mandate : Mandate} {handle : Handle}
    (hact : m.act = .carryOut mandate (.detach handle))
    (hthere : handle ∈ m.before.scheduler.handles) : m.Departs handle := by
  cases hfind : m.before.scheduler.instance? handle with
  | none =>
      exact absurd hthere ((m.before.scheduler.instance?_eq_none_iff handle).1 hfind)
  | some i =>
      have hdeparture : m.departure? = some (i,
          (m.before.env.dropQueries i.handle).report (.detached i.handle i.name)) := by
        simp only [Moment.departure?, hact, hfind, Option.map_some]
      exact ⟨i, _, hdeparture, (Scheduler.mem_of_instance? hfind).2⟩

theorem mem_of_departure
    {m : Moment G} {i : Instance G} {env : Environment G} (h : m.departure? = some (i, env)) :
    i ∈ m.before.scheduler.all := by
  rcases departure_cases h with ⟨_, -, hfind, -⟩ | ⟨_, -, hnewest, -⟩
  · exact (Scheduler.mem_of_instance? hfind).1
  · rw [Scheduler.all_of_newest? hnewest]
    exact List.mem_append_right _ (List.mem_singleton_self i)

/-- Who leaves is there no more. -/
theorem absent_of_departs
    {m : Moment G} {handle : Handle} (hnodup : m.before.scheduler.handles.Nodup)
    (h : m.Departs handle) : handle ∉ (m.after b).scheduler.handles := by
  obtain ⟨i, env, hdeparture, rfl⟩ := h
  rw [Moment.after, handles_perform]
  rcases departure_cases hdeparture with ⟨_, hact, -, -⟩ | ⟨s, hact, hnewest, -⟩
  · rw [hact]
    exact hnodup.not_mem_erase
  · have hhandles : m.before.scheduler.handles = s.handles ++ [i.handle] := by
      rw [Scheduler.handles, Scheduler.all_of_newest? hnewest, List.map_append]
      rfl
    rw [hact]
    show i.handle ∉ m.before.scheduler.handles.dropLast
    rw [hhandles] at hnodup ⊢
    rw [List.dropLast_concat]
    intro hmem
    exact (List.nodup_append.1 hnodup).2.2 _ hmem _ (List.mem_singleton_self _) rfl

/-- Whoever is attached leaves when all instances are detached. -/
theorem exists_departs_clear
    {e : Engine G} {handle : Handle} (h : handle ∈ e.scheduler.handles) :
    ∃ m ∈ e.momentsOf b .clear, m.Departs handle := by
  show ∃ m ∈ e.moments b (List.replicate e.scheduler.size .expel), m.Departs handle
  generalize hsize : e.scheduler.size = n
  rw [← Scheduler.length_all] at hsize
  induction n generalizing e with
  | zero =>
      rw [Scheduler.handles, List.eq_nil_of_length_eq_zero hsize] at h
      cases h
  | succ n ih =>
      cases hnewest : e.scheduler.newest? with
      | none =>
          rw [(Scheduler.newest?_eq_none_iff _).1 hnewest] at hsize
          cases hsize
      | some newest =>
          have hall := Scheduler.all_of_newest? hnewest
          have hperform : (e.perform b .expel).scheduler = newest.2 := by
            simp only [Engine.perform, hnewest]
          rw [hall, List.length_append] at hsize
          rw [Scheduler.handles, hall, List.map_append] at h
          rcases List.mem_append.1 h with hearlier | hlast
          · rw [← Scheduler.handles, ← hperform] at hearlier
            rw [← hperform] at hsize
            obtain ⟨m, hm, hdeparts⟩ := ih hearlier (Nat.succ.inj hsize)
            exact ⟨m, List.mem_cons_of_mem _ hm, hdeparts⟩
          · have hdeparture : Moment.departure? ⟨e, .expel⟩ =
                some (newest.1, e.env.dropQueries newest.1.handle) := by
              simp only [Moment.departure?, hnewest, Option.map_some]
            exact ⟨_, List.mem_cons_self, newest.1, _, hdeparture,
              (List.mem_singleton.1 hlast).symm⟩

theorem Chronicle.silent
    {past : List (Moment G)} {m : Moment G} {future : List (Moment G)} {e : Engine G}
    (h : Chronicle b (past ++ m :: future) e) {handle : Handle}
    (hattached : handle ∈ attachedIn (past ++ [m]))
    (habsent : handle ∉ (m.after b).scheduler.handles) : Silent b handle future e where
  uncalled := fun m' hm' => (h.silent_later hattached habsent m' hm').1
  unknown := fun m' hm' => refuses_of_absent (h.silent_later hattached habsent m' hm').2
  gone := refuses_of_absent (h.absent_later hattached habsent)

/-- **There is silence after a departure.** -/
theorem Chronicle.silent_of_departs
    {past : List (Moment G)} {m : Moment G} {future : List (Moment G)} {e : Engine G}
    (h : Chronicle b (past ++ m :: future) e) {handle : Handle} (hdeparts : m.Departs handle) :
    Silent b handle future e := by
  obtain ⟨hpast, _, _⟩ := h.split
  refine h.silent ?_ (absent_of_departs hpast.nodup_handles hdeparts)
  obtain ⟨i, env, hdeparture, rfl⟩ := hdeparts
  have hthere := List.mem_map_of_mem (f := Instance.handle) (mem_of_departure hdeparture)
  rw [attachedIn_append]
  exact List.mem_append_left _ (hpast.handles_sublist.subset hthere)

theorem Chronicle.silent_of_detach
    {past : List (Moment G)} {m : Moment G} {future : List (Moment G)} {e : Engine G}
    (h : Chronicle b (past ++ m :: future) e) {mandate : Mandate} {handle : Handle}
    (hattached : handle ∈ attachedIn past)
    (hact : m.act = .carryOut mandate (.detach handle)) : Silent b handle future e := by
  obtain ⟨hpast, _, _⟩ := h.split
  refine h.silent ?_ ?_
  · rw [attachedIn_append]
    exact List.mem_append_left _ hattached
  · rw [Moment.after, hact, handles_perform]
    exact hpast.nodup_handles.not_mem_erase

/-- The queries of the instance that leaves are dropped, and no code is called for it. -/
theorem queries_of_departure
    {m : Moment G} {i : Instance G} {env : Environment G} (h : m.departure? = some (i, env)) :
    (env.queryList i.handle).queries = [] := by
  obtain ⟨journal, rfl⟩ := env_of_departure h
  show ((m.before.env.dropQueries i.handle).queryList i.handle).queries = []
  rw [Environment.dropQueries, queryList_setQueryList, if_pos rfl]
  rfl

end Departures

/--
**There is silence after a detachment.**  Once the host has detached an instance, or all of them,
or a request of the queue to detach it was carried out, no guest code is ever called on its
behalf, whatever follows: no configuration, no phase and no query, not even one registered later
with its list.  From then on its handle is unknown, and requests about it leave the engine as it
is.  When it leaves, its queries are dropped and only its system is let go of.  No other guest
code is run in a past than in its runs, for they account for what has become of the engine.
-/
theorem silence_after_departure (b : Behavior G) (c : Course G) (handle : Handle) :
    (∀ e, (c.engine b).detach b handle = .ok e →
      ∀ later, Silent b handle (e.history b later) (e.operateAll b later)) ∧
    (handle ∈ (c.engine b).scheduler.handles →
      ∀ later, Silent b handle (((c.engine b).clear b).history b later)
        (((c.engine b).clear b).operateAll b later)) ∧
    (∀ past m future, c.past b = past ++ m :: future →
      (handle ∈ attachedIn past ∧ m.act = .carryOut .queue (.detach handle) ∨ m.Departs handle) →
        Silent b handle future (c.engine b)) ∧
    (∀ m ∈ c.past b, ∀ i env, m.departure? = some (i, env) →
      (env.queryList i.handle).queries = [] ∧ m.guestRuns b = b.releasing i.attachment env ∧
      (∀ s ∈ m.guestRuns b, s.purpose.call? = none) ∧
      (m.after b).env = b.release i.attachment env) ∧
    Accounts b (.fresh c.memory) (c.past b) (c.engine b) := by
  -- What a host does next, and then whatever it does later, belongs to the past of a longer course.
  have hlonger : ∀ (operation : Operation G) (later : List (Operation G)) {m : Moment G},
      m ∈ (c.engine b).momentsOf b operation → m.Departs handle →
        Silent b handle (((c.engine b).operate b operation).history b later)
          (((c.engine b).operate b operation).operateAll b later) := by
    intro operation later m hm hdeparts
    obtain ⟨first, second, hsplit⟩ := List.append_of_mem hm
    have hchronicle := (c.go (operation :: later)).chronicle b
    rw [c.past_go, c.engine_go, Engine.history, hsplit, List.append_assoc, List.cons_append,
      ← List.append_assoc] at hchronicle
    have hsilent := hchronicle.silent_of_departs hdeparts
    exact ⟨fun m hm => hsilent.uncalled m (List.mem_append_right _ hm),
      fun m hm => hsilent.unknown m (List.mem_append_right _ hm), hsilent.gone⟩
  refine ⟨?_, ?_, ?_, ?_, (c.accounts b).1⟩
  · intro e hdetach later
    have hthere : handle ∈ (c.engine b).scheduler.handles := by
      by_contra habsent
      rw [(refuses_of_absent habsent).detach] at hdetach
      cases hdetach
    have hsilent := hlonger (.detach handle) later List.mem_cons_self
      (departs_of_detach rfl hthere)
    simp only [Engine.operate, hdetach] at hsilent
    exact hsilent
  · intro hthere later
    obtain ⟨m, hm, hdeparts⟩ := exists_departs_clear (b := b) hthere
    exact hlonger .clear later hm hdeparts
  · rintro past m future hsplit hend
    have hchronicle := c.chronicle b
    rw [hsplit] at hchronicle
    rcases hend with ⟨hattached, hact⟩ | hdeparts
    · exact hchronicle.silent_of_detach hattached hact
    · exact hchronicle.silent_of_departs hdeparts
  · intro m _ i env hdeparture
    obtain ⟨hafter, _, hguestRuns⟩ := env_after_departure (b := b) hdeparture
    refine ⟨queries_of_departure hdeparture, hguestRuns, ?_, hafter⟩
    intro s hs
    rw [hguestRuns] at hs
    exact call?_of_mem_releasing hs

namespace Puppets

/-- The second system keeps registering queries with the list of the first. -/
def meddlers : Behavior puppets :=
  { idle with
    phase := fun _ system _ =>
      match system with
      | 2 => (Program.register ⟨1⟩ .any (7 : Nat)).bind fun _ => .done ()
      | _ => .done () }

/-- Two systems are attached and make a step. -/
def meddling : Course puppets where
  memory := (0 : Nat)
  operations :=
    [.attach ⟨(1 : Nat), .shared⟩ .null ⟨.null⟩, .attach ⟨(2 : Nat), .shared⟩ .null ⟨.null⟩,
      .step (.first .zero)]

end Puppets

theorem silence_after_departure_meddling :
    ((Puppets.meddling.engine Puppets.meddlers).env.queryList ⟨1⟩).queries.length = 3 ∧
      ∃ e, (Puppets.meddling.engine Puppets.meddlers).detach Puppets.meddlers ⟨1⟩ = .ok e ∧
        (∀ later, Silent Puppets.meddlers ⟨1⟩ (e.history Puppets.meddlers later)
          (e.operateAll Puppets.meddlers later)) ∧
        ((e.operateAll Puppets.meddlers [.step (.first .zero)]).env.queryList
          ⟨1⟩).queries.length = 3 :=
  ⟨rfl, _, rfl,
    (silence_after_departure Puppets.meddlers Puppets.meddling ⟨1⟩).1 _ rfl, rfl⟩

end SimEngine
