import SimEngine.Proofs.Puppets
import SimEngine.Proofs.Rosters

/-!
# Who is attached

A scheduler keeps its instances on two lists, and there are three ways to ask
for them: by all handles, by one handle, and by their number.

**Definitions.**
* `Scheduler.Consistent`: the lists and the ways to ask agree.

**Results.**
* `handles_operate`: an operation takes instances away, and puts those that it
  attaches behind the others.
* `collection_consistent`: the collection is consistent at all times, instances
  stand in the order of their attachments, and none comes back.
-/

namespace SimEngine

variable {G : Guest}

/--
The instances have different handles, each is in the state of the one list that it is on, and all
ways to ask for instances agree.
-/
structure Scheduler.Consistent (s : Scheduler G) : Prop where
  nodup : s.handles.Nodup
  apart : ∀ i ∈ s.instances, ∀ j ∈ s.pending, i.handle ≠ j.handle
  stepping : ∀ i ∈ s.instances, i.state = .stepping
  waiting : ∀ i ∈ s.pending, i.state = .configured
  settled : ∀ i ∈ s.all, i.state ≠ .created ∧ i.state ≠ .detached
  found : ∀ handle i, s.instance? handle = some i ↔ i ∈ s.all ∧ i.handle = handle
  contained : ∀ handle, s.contains handle = true ↔ handle ∈ s.handles
  counted : s.size = s.handles.length

theorem instance?_eq_some_iff
    {s : Scheduler G} (hnodup : s.handles.Nodup) (handle : Handle) (i : Instance G) :
    s.instance? handle = some i ↔ i ∈ s.all ∧ i.handle = handle := by
  constructor
  · exact Scheduler.mem_of_instance?
  · rintro ⟨hi, rfl⟩
    cases hfind : s.instance? i.handle with
    | none =>
        exact absurd (List.mem_map_of_mem hi) ((s.instance?_eq_none_iff i.handle).1 hfind)
    | some j =>
        obtain ⟨hj, hhandle⟩ := Scheduler.mem_of_instance? hfind
        rw [List.inj_on_of_nodup_map hnodup hj hi hhandle]

theorem Scheduler.Staged.consistent
    {s : Scheduler G} (h : s.Staged) (hnodup : s.handles.Nodup) : s.Consistent where
  nodup := hnodup
  apart := by
    intro i hi j hj heq
    rw [Scheduler.handles, Scheduler.all, List.map_append] at hnodup
    exact (List.nodup_append.1 hnodup).2.2 _ (List.mem_map_of_mem hi) _ (List.mem_map_of_mem hj) heq
  stepping := h.stepping
  waiting := h.waiting
  settled := by
    intro i hi
    rcases List.mem_append.1 hi with hi | hi
    · simp [h.stepping i hi]
    · simp [h.waiting i hi]
  found := instance?_eq_some_iff hnodup
  contained := by
    intro handle
    rw [Scheduler.contains, Option.isSome_iff_ne_none, ne_eq, s.instance?_eq_none_iff handle,
      Decidable.not_not]
  counted := by
    rw [Scheduler.handles, List.length_map, s.length_all]

theorem Chronicle.consistent
    {b : Behavior G} {past : List (Moment G)} {e : Engine G} (h : Chronicle b past e) :
    e.scheduler.Consistent :=
  h.staged.consistent h.nodup_handles

theorem handles_moments
    (b : Behavior G) (e : Engine G) (acts : List (Act G)) :
    (acts.foldl (Engine.perform b) e).scheduler.handles.Sublist
      (e.scheduler.handles ++ attachedIn (e.moments b acts)) := by
  induction acts generalizing e with
  | nil =>
      exact List.sublist_append_left _ _
  | cons act rest ih =>
      have hfirst : (e.perform b act).scheduler.handles.Sublist
          (e.scheduler.handles ++ act.attached?.toList) := by
        rw [handles_perform]
        exact enroll_sublist act _
      have hrest := (ih (e.perform b act)).trans (hfirst.append (List.Sublist.refl _))
      have hmoments : e.scheduler.handles ++ attachedIn (e.moments b (act :: rest)) =
          e.scheduler.handles ++ act.attached?.toList ++
            attachedIn ((e.perform b act).moments b rest) := by
        rw [Engine.moments, ← List.singleton_append, attachedIn_append, attachedIn_singleton,
          List.append_assoc]
      rwa [hmoments]

/-- An operation takes instances away, and puts those that it attaches behind the others. -/
theorem handles_operate
    (b : Behavior G) (e : Engine G) (operation : Operation G) :
    ∃ kept entered, (e.operate b operation).scheduler.handles = kept ++ entered ∧
      kept.Sublist e.scheduler.handles ∧
      entered.Sublist (attachedIn (e.momentsOf b operation)) := by
  rw [← operate_eq_foldl]
  exact List.sublist_append_iff.1 (handles_moments b e (e.actsOf b operation))

/--
**The collection of instances is consistent at all times.**  This holds between the operations of
a host and between the acts of each.  The instances stand in the order in which they were
attached, under handles that were attached once.  An operation takes some of them away and puts
those that it attaches, who were never attached before, behind the others; and whoever was
attached and is gone does not come back, whatever follows.
-/
theorem collection_consistent (b : Behavior G) (c : Course G) :
    (c.engine b).scheduler.Consistent ∧
      (∀ m ∈ c.past b, m.before.scheduler.Consistent) ∧
      (attachedIn (c.past b)).Nodup ∧
      (c.engine b).scheduler.handles.Sublist (attachedIn (c.past b)) ∧
      (∀ operation, ∃ kept entered,
        ((c.engine b).operate b operation).scheduler.handles = kept ++ entered ∧
        kept.Sublist (c.engine b).scheduler.handles ∧
        entered.Sublist (attachedIn ((c.engine b).momentsOf b operation)) ∧
        ∀ handle ∈ entered, handle ∉ attachedIn (c.past b)) ∧
      ∀ handle ∈ attachedIn (c.past b), handle ∉ (c.engine b).scheduler.handles →
        ∀ later, handle ∉ ((c.engine b).operateAll b later).scheduler.handles := by
  have hchronicle := c.chronicle b
  refine ⟨hchronicle.consistent, ?_, hchronicle.nodup, hchronicle.handles_sublist, ?_, ?_⟩
  · intro m hm
    obtain ⟨past, future, hsplit⟩ := List.append_of_mem hm
    rw [hsplit] at hchronicle
    exact hchronicle.split.1.consistent
  · intro operation
    obtain ⟨kept, entered, hhandles, hkept, hentered⟩ := handles_operate b (c.engine b) operation
    refine ⟨kept, entered, hhandles, hkept, hentered, ?_⟩
    intro handle hhandle hold
    have hnext := ((c.go [operation]).chronicle b).nodup
    rw [c.past_go, Engine.history, Engine.history, List.append_nil, attachedIn_append] at hnext
    exact (List.nodup_append.1 hnext).2.2 handle hold handle (hentered.subset hhandle) rfl
  · intro handle hattached habsent later
    have hnext := (c.go later).chronicle b
    rw [c.past_go, c.engine_go] at hnext
    rcases List.eq_nil_or_concat' (c.past b) with hnil | ⟨past, m, hlast⟩
    · rw [hnil] at hattached
      cases hattached
    · rw [hlast] at hattached hchronicle hnext
      rw [hchronicle.last.2.2] at habsent
      rw [List.append_assoc, List.singleton_append] at hnext
      exact hnext.absent_later hattached habsent

namespace Puppets

/-- Two systems are attached, and the first makes way for a third. -/
def relay : Course puppets where
  memory := (0 : Nat)
  operations :=
    [.attach ⟨(1 : Nat), .shared⟩ .null ⟨.null⟩,
      .attach ⟨(2 : Nat), .shared⟩ .null ⟨.null⟩,
      .run .none ((Program.queueDetach ⟨1⟩).bind fun _ =>
        (Program.queueAttach ⟨(3 : Nat), .shared⟩ .null ⟨.null⟩).bind fun _ => .done ()),
      .step (.first .zero)]

end Puppets

theorem collection_consistent_relay :
    (Puppets.relay.engine Puppets.idle).scheduler.handles = [⟨2⟩, ⟨3⟩] ∧
      ∀ later, (⟨1⟩ : Handle) ∉
        ((Puppets.relay.engine Puppets.idle).operateAll Puppets.idle later).scheduler.handles := by
  obtain ⟨_, _, _, _, _, hgone⟩ := collection_consistent Puppets.idle Puppets.relay
  have hhandles : (Puppets.relay.engine Puppets.idle).scheduler.handles = [⟨2⟩, ⟨3⟩] := rfl
  have hattached : attachedIn (Puppets.relay.past Puppets.idle) = [⟨1⟩, ⟨2⟩, ⟨3⟩] := rfl
  refine ⟨hhandles, hgone ⟨1⟩ ?_ ?_⟩
  · rw [hattached]
    decide
  · rw [hhandles]
    decide

end SimEngine
