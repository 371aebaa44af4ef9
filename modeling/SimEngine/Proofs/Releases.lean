import SimEngine.Cast.Behavior
import SimEngine.Proofs.Batches
import SimEngine.Proofs.LiveCounts

/-!
# Releases

A system that was attached is let go of once.  Its value comes to its end, if a
plugin owned it, and then the hook of the plugin is run; a shared system is
given back, and whether it lives on is up to who else holds it.  This happens at
the moment in which its instance leaves, and at no other.  When an engine comes
to its end, everybody who is still there leaves, so that over the life of an
engine each system that was attached is let go of.

**Definitions.**
* `Ending`, `Attachment.endings`: what happens when a system is let go of.
* `Ending.program?`: the guest code that is run for it.
* `Moment.endings`, `endingsOf`: what happens so at a moment, and to the system
  of a handle.
* `Course.life`: the moments of an engine down to its end.
* `Removes`: how an instance is removed by an operation.
* `LetGoOnce`: the system of a handle is let go of once, when it is removed.

**Results.**
* `release_eq`: to let go of a system is to do its endings in their order.
* `run_of_ending`: no ending is cut short.
* `exists_departure`: who is there first and not in the end has left in between.
* `Chronicle.endingsOf_eq`: what happens to the system of a handle until it has
  left.
* `removes_of_departs`, `exists_operation`: in which operation an instance
  leaves, and how it is removed there.
* `endings_clear`: in which order the systems are let go of when all leave.
* `spared_of_no_departure`: when nobody leaves, nothing is let go of.
* `close_cases`, `distinct_of_reached`: what the end of an engine lets go of
  besides, and that none of it was attached.
* `released_once`: each attached system is let go of once, when it is removed.
-/

namespace SimEngine

variable {G : Guest}

/-- One thing that happens when a system is let go of. -/
inductive Ending (G : Guest) where
  /-- The value of a system that a plugin owned comes to its end. -/
  | dropped (system : G.System)
  /-- The hook of the plugin is run. -/
  | unloaded (plugin : String) (hook : Unload)
  /-- The engine gives its own hold on a shared system back. -/
  | givenBack (system : G.System)

/-- What happens when a system is let go of, in its order. -/
def Attachment.endings (a : Attachment G) : List (Ending G) :=
  match a.ownership with
  | .shared => [.givenBack a.system]
  | .plugin name unload => .dropped a.system :: unload.toList.map (.unloaded name)

/-- What an ending does. -/
def Behavior.finish (b : Behavior G) (env : Environment G) : Ending G → Environment G
  | .dropped system => b.runQuietly (b.discard system) env
  | .givenBack system => b.runQuietly (b.giveBack system) env
  | .unloaded name .announced => b.runQuietly (b.unloaded name) env
  | .unloaded name .counted =>
    let (last, loader) := env.loader.uncount name
    let env := { env with loader := loader }
    if last then env.report (.unloading name) else env

/-- The guest code that an ending runs, if it runs any. -/
def Ending.program? (b : Behavior G) : Ending G → Option (Program G Unit)
  | .dropped system => some (b.discard system)
  | .givenBack system => some (b.giveBack system)
  | .unloaded name .announced => some (b.unloaded name)
  | .unloaded _ .counted => none

/-- Guest code that is run because a system is let go of. -/
def Purpose.IsEnding : Purpose G → Prop
  | .discard _ | .giveBack _ | .unloaded _ => True
  | _ => False

/-- What happens at a moment to the system of the instance that leaves, under its handle. -/
def Moment.endings (m : Moment G) : List (Handle × Ending G) :=
  match m.departure? with
  | some (i, _) => i.attachment.endings.map fun ending => (i.handle, ending)
  | none => []

/-- What happens at moments to the system of a handle. -/
def endingsOf (handle : Handle) (moments : List (Moment G)) : List (Ending G) :=
  (moments.flatMap Moment.endings).filterMap fun x => if x.1 = handle then some x.2 else none

/-- The moments of an engine, down to those of its end. -/
def Course.life (b : Behavior G) (c : Course G) : List (Moment G) :=
  (c.go [.clear]).past b

/--
How the instance of a handle is removed by an operation: the host detaches it, a step carries out
the request of its queue to detach it, or everybody is detached.
-/
inductive Removes (b : Behavior G) (e : Engine G) (handle : Handle) (m : Moment G) :
    Operation G → Prop
  | detach
      {left : Engine G} (hact : m.act = .carryOut .host (.detach handle))
      (hdetach : e.detach b handle = .ok left) :
      Removes b e handle m (.detach handle)
  | step
      (info : StepInfo) (hact : m.act = .carryOut .queue (.detach handle))
      (hqueued : .detach handle ∈ e.env.commands) :
      Removes b e handle m (.step info)
  | clear
      (hact : m.act = .expel) :
      Removes b e handle m .clear

/--
Over the life of an engine, the system that is attached under a handle at a moment is let go of
once: at the moment at which its instance leaves, which it does in the operation that removes it.
-/
structure LetGoOnce (b : Behavior G) (c : Course G) (handle : Handle) (attachment : Attachment G)
    (past : List (Moment G)) (m : Moment G) (between : List (Moment G)) (m' : Moment G)
    (future : List (Moment G)) : Prop where
  leaves : m'.Departs handle
  now : endingsOf handle [m'] = attachment.endings
  once : endingsOf handle (c.life b) = attachment.endings
  elsewhere : ∀ x ∈ past ++ m :: (between ++ future), ¬ x.Departs handle
  absent : ∀ x ∈ past, handle ∉ x.before.scheduler.handles
  there : ∀ x ∈ between ++ [m'], handle ∈ x.before.scheduler.handles
  gone : handle ∉ (m'.after b).scheduler.handles
  gone_later : ∀ x ∈ future, handle ∉ x.before.scheduler.handles
  removed : ∃ earlier operation later first,
    c.operations ++ [.clear] = earlier ++ operation :: later ∧
    past ++ m :: between = (Engine.fresh c.memory).history b earlier ++ first ∧
    (first ++ [m']) <+: ((Engine.fresh c.memory).operateAll b earlier).momentsOf b operation ∧
    Removes b ((Engine.fresh c.memory).operateAll b earlier) handle m' operation

section Endings

variable {b : Behavior G}

/-- **To let go of a system is to do its endings in their order.** -/
theorem release_eq (attachment : Attachment G) (env : Environment G) :
    b.release attachment env = attachment.endings.foldl b.finish env := by
  rw [Behavior.release, Behavior.releaseWith, Attachment.endings]
  cases attachment.ownership with
  | shared =>
      rfl
  | plugin name unload =>
      rcases unload with _ | _ | _ <;> rfl

/-- **No ending is cut short**: the guest code that it runs neither fails nor panics. -/
theorem run_of_ending {ending : Ending G} {p : Program G Unit} (h : ending.program? b = some p)
    (env : Environment G) : b.run .none p env = (.done (), b.finish env ending) := by
  cases ending with
  | dropped system =>
      obtain rfl := Option.some.inj h
      exact b.run_of_completes (b.discard_completes system) env
  | givenBack system =>
      obtain rfl := Option.some.inj h
      exact b.run_of_completes (b.giveBack_completes system) env
  | unloaded name hook =>
      cases hook with
      | counted => cases h
      | announced =>
          obtain rfl := Option.some.inj h
          exact b.run_of_completes (b.unloaded_completes name) env

/-- Nobody is called when a system is let go of. -/
theorem Purpose.IsEnding.call? {purpose : Purpose G} (h : purpose.IsEnding) :
    purpose.call? = none := by
  cases purpose with
  | discard _ => rfl
  | giveBack _ => rfl
  | unloaded _ => rfl
  | _ => cases h

theorem endings_of_departure
    {m : Moment G} {i : Instance G} {env : Environment G} (h : m.departure? = some (i, env)) :
    m.endings = i.attachment.endings.map fun ending => (i.handle, ending) := by
  rw [Moment.endings, h]

theorem endings_of_no_departure {m : Moment G} (h : m.departure? = none) : m.endings = [] := by
  rw [Moment.endings, h]

@[simp] theorem endingsOf_append (handle : Handle) (first second : List (Moment G)) :
    endingsOf handle (first ++ second) = endingsOf handle first ++ endingsOf handle second := by
  simp [endingsOf, List.flatMap_append, List.filterMap_append]

theorem endingsOf_cons (handle : Handle) (m : Moment G) (rest : List (Moment G)) :
    endingsOf handle (m :: rest) = endingsOf handle [m] ++ endingsOf handle rest :=
  endingsOf_append handle [m] rest

theorem endingsOf_singleton (handle : Handle) (m : Moment G) :
    endingsOf handle [m] =
      match m.departure? with
      | some (i, _) => if i.handle = handle then i.attachment.endings else []
      | none => [] := by
  cases h : m.departure? with
  | none =>
      simp [endingsOf, endings_of_no_departure h]
  | some departure =>
      obtain ⟨i, env⟩ := departure
      simp only [endingsOf, List.flatMap_cons, List.flatMap_nil, List.append_nil,
        endings_of_departure h, List.filterMap_map]
      by_cases heq : i.handle = handle
      · simp [heq]
      · simp [heq]

/-- Where the instance of a handle does not leave, its system is not let go of. -/
theorem endingsOf_eq_nil {handle : Handle} {moments : List (Moment G)}
    (h : ∀ m ∈ moments, ¬ m.Departs handle) : endingsOf handle moments = [] := by
  induction moments with
  | nil =>
      rfl
  | cons m rest ih =>
      rw [endingsOf_cons, ih fun x hx => h x (List.mem_cons_of_mem _ hx), List.append_nil,
        endingsOf_singleton]
      cases hdeparture : m.departure? with
      | none =>
          rfl
      | some departure =>
          obtain ⟨i, env⟩ := departure
          exact if_neg fun heq => h m List.mem_cons_self ⟨i, env, hdeparture, heq⟩

theorem handles_of_newest?
    {s s' : Scheduler G} {i : Instance G} (h : s.newest? = some (i, s')) :
    s.handles = s'.handles ++ [i.handle] := by
  rw [Scheduler.handles, Scheduler.all_of_newest? h, List.map_append]
  rfl

theorem departure?_expel
    {e : Engine G} {i : Instance G} {s : Scheduler G} (h : e.scheduler.newest? = some (i, s)) :
    Moment.departure? ⟨e, .expel⟩ = some (i, e.env.dropQueries i.handle) := by
  simp only [Moment.departure?, h, Option.map_some]

/-- Who leaves was there. -/
theorem mem_handles_of_departs {m : Moment G} {handle : Handle} (h : m.Departs handle) :
    handle ∈ m.before.scheduler.handles := by
  obtain ⟨i, env, hdeparture, rfl⟩ := h
  exact List.mem_map_of_mem (mem_of_departure hdeparture)

/-- At which acts an instance leaves. -/
theorem act_of_departs {m : Moment G} {handle : Handle} (h : m.Departs handle) :
    (∃ mandate, m.act = .carryOut mandate (.detach handle)) ∨ m.act = .expel := by
  obtain ⟨i, env, hdeparture, rfl⟩ := h
  rcases departure_cases hdeparture with ⟨mandate, hact, -, -⟩ | ⟨_, hact, -, -⟩
  · exact Or.inl ⟨mandate, hact⟩
  · exact Or.inr hact

theorem exists_detach
    {e : Engine G} {handle : Handle} (h : handle ∈ e.scheduler.handles) :
    ∃ left, e.detach b handle = .ok left := by
  cases hfind : e.scheduler.instance? handle with
  | none =>
      exact absurd h ((e.scheduler.instance?_eq_none_iff handle).1 hfind)
  | some i =>
      simp only [Engine.detach, hfind]
      exact ⟨_, rfl⟩

/-- In a step, the requests of the queue are carried out, and those of nobody else. -/
theorem carryOut_mem_stepActs
    {e : Engine G} {info : StepInfo} {mandate : Mandate} {command : Command G}
    (h : .carryOut mandate command ∈ e.stepActs b info) :
    mandate = .queue ∧ command ∈ e.env.commands := by
  simp only [Engine.stepActs, List.mem_cons, List.mem_append, List.mem_map, reduceCtorEq,
    false_or] at h
  rcases h with ⟨queued, hqueued, heq⟩ | hturn
  · obtain ⟨rfl, rfl⟩ := Act.carryOut.inj heq
    exact ⟨rfl, hqueued⟩
  · obtain ⟨failed, slot, heq⟩ := eq_turn_of_mem_turnActs hturn
    cases heq

theorem expel_not_mem_stepActs (e : Engine G) (info : StepInfo) :
    .expel ∉ e.stepActs b info := by
  intro h
  simp only [Engine.stepActs, List.mem_cons, List.mem_append, List.mem_map, reduceCtorEq,
    and_false, exists_false, false_or] at h
  obtain ⟨failed, slot, heq⟩ := eq_turn_of_mem_turnActs h
  cases heq

/-- Who is there stays, unless it leaves. -/
theorem mem_handles_after
    {m : Moment G} {handle : Handle} (hthere : handle ∈ m.before.scheduler.handles)
    (hstays : ¬ m.Departs handle) : handle ∈ (m.after b).scheduler.handles := by
  rw [Moment.after, handles_perform]
  obtain ⟨e, act⟩ := m
  cases act with
  | carryOut mandate command =>
      cases command with
      | attach other attachment entity config =>
          exact List.mem_append_left _ hthere
      | detach other =>
          have hne : handle ≠ other := by
            rintro rfl
            exact hstays (departs_of_detach rfl hthere)
          exact (List.mem_erase_of_ne hne).2 hthere
  | expel =>
      show handle ∈ e.scheduler.handles.dropLast
      replace hthere : handle ∈ e.scheduler.handles := hthere
      cases hnewest : e.scheduler.newest? with
      | none =>
          rw [Scheduler.handles, (Scheduler.newest?_eq_none_iff _).1 hnewest] at hthere
          cases hthere
      | some newest =>
          obtain ⟨i, s⟩ := newest
          rw [handles_of_newest? hnewest] at hthere ⊢
          rw [List.dropLast_concat]
          rcases List.mem_append.1 hthere with hearlier | hlast
          · exact hearlier
          · exact absurd ⟨i, _, departure?_expel hnewest, (List.mem_singleton.1 hlast).symm⟩ hstays
  | _ => exact hthere

/--
**Who is there first and not in the end has left in between**, and was there until then; by
induction on the moments.
-/
theorem exists_departure
    {e e' : Engine G} {moments : List (Moment G)}
    (hlinked : Linked Moment.before (Moment.after b) e moments e') {handle : Handle}
    (hfirst : handle ∈ e.scheduler.handles) (hlast : handle ∉ e'.scheduler.handles) :
    ∃ between m future, moments = between ++ m :: future ∧ m.Departs handle ∧
      ∀ x ∈ between, handle ∈ x.before.scheduler.handles ∧ ¬ x.Departs handle := by
  induction moments generalizing e with
  | nil =>
      have hsame : e = e' := hlinked
      exact absurd (hsame ▸ hfirst) hlast
  | cons m rest ih =>
      obtain ⟨rfl, hrest⟩ := hlinked
      by_cases hdeparts : m.Departs handle
      · exact ⟨[], m, rest, rfl, hdeparts, fun x hx => nomatch hx⟩
      · obtain ⟨between, m', future, rfl, hleaves, hbetween⟩ :=
          ih hrest (mem_handles_after hfirst hdeparts)
        refine ⟨m :: between, m', future, rfl, hleaves, fun x hx => ?_⟩
        rcases List.mem_cons.1 hx with rfl | hx
        · exact ⟨hfirst, hdeparts⟩
        · exact hbetween x hx

namespace Chronicle

variable {past between future : List (Moment G)} {m m' : Moment G} {e : Engine G}
  {handle : Handle}

/-- Nobody is there under a handle before it is used. -/
theorem absent_before
    (h : Chronicle b (past ++ m :: future) e) (hattached : m.act.attached? = some handle) :
    ∀ x ∈ past, handle ∉ x.before.scheduler.handles := by
  intro x hx hthere
  have hnew := h.split.2.1.not_mem hattached
  obtain ⟨first, second, rfl⟩ := List.append_of_mem hx
  rw [List.append_assoc, List.cons_append] at h
  rw [attachedIn_append] at hnew
  exact hnew (List.mem_append_left _ (h.split.1.handles_sublist.subset hthere))

/-- Who has left is gone, and does not leave again. -/
theorem absent_after
    (h : Chronicle b (past ++ m :: future) e) (hleaves : m.Departs handle) :
    handle ∉ (m.after b).scheduler.handles ∧
      ∀ x ∈ future, handle ∉ x.before.scheduler.handles := by
  have hpast := h.split.1
  have habsent := absent_of_departs (b := b) hpast.nodup_handles hleaves
  have hattached : handle ∈ attachedIn (past ++ [m]) := by
    rw [attachedIn_append]
    exact List.mem_append_left _ (hpast.handles_sublist.subset (mem_handles_of_departs hleaves))
  exact ⟨habsent, fun x hx => (h.silent_later hattached habsent x hx).2⟩

/--
**What happens to the system of a handle** over a chronicle in which it is attached and leaves:
its endings, once, at the moment at which it leaves.
-/
theorem endingsOf_eq
    (h : Chronicle b (past ++ m :: (between ++ m' :: future)) e) {mandate : Mandate}
    {attachment : Attachment G} {entity : Entity} {config : Payload}
    (hact : m.act = .carryOut mandate (.attach handle attachment entity config))
    (hleaves : m'.Departs handle) :
    endingsOf handle [m'] = attachment.endings ∧
    endingsOf handle (past ++ m :: (between ++ m' :: future)) = attachment.endings ∧
    ∀ x ∈ past ++ m :: (between ++ future), ¬ x.Departs handle := by
  have hattached : m.act.attached? = some handle := congrArg Act.attached? hact
  have hsplit := h
  rw [← List.cons_append, ← List.append_assoc] at hsplit
  have hbefore : ∀ x ∈ past, ¬ x.Departs handle := fun x hx hx' =>
    h.absent_before hattached x hx (mem_handles_of_departs hx')
  have hfuture : ∀ x ∈ future, ¬ x.Departs handle := fun x hx hx' =>
    (hsplit.absent_after hleaves).2 x hx (mem_handles_of_departs hx')
  have hbetween : ∀ x ∈ between, ¬ x.Departs handle := by
    intro x hx hx'
    obtain ⟨first, second, rfl⟩ := List.append_of_mem hx
    have hregroup : (past ++ m :: first) ++ x :: (second ++ m' :: future) =
        past ++ m :: ((first ++ x :: second) ++ m' :: future) := by
      simp
    have hearlier : Chronicle b ((past ++ m :: first) ++ x :: (second ++ m' :: future)) e := by
      rwa [hregroup]
    exact (hearlier.absent_after hx').2 m' (List.mem_append_right _ List.mem_cons_self)
      (mem_handles_of_departs hleaves)
  have hnow : ¬ m.Departs handle := by
    rintro ⟨i, env, hdeparture, _⟩
    rw [Moment.departure?, hact] at hdeparture
    cases hdeparture
  have hhere : endingsOf handle [m] = [] :=
    endingsOf_eq_nil fun x hx => List.mem_singleton.1 hx ▸ hnow
  have hsame : endingsOf handle [m'] = attachment.endings := by
    obtain ⟨i, env, hdeparture, hhandle⟩ := hleaves
    obtain ⟨hattachment, -⟩ := hsplit.split.1.charter hact (mem_of_departure hdeparture) hhandle
    simp only [endingsOf_singleton, hdeparture, if_pos hhandle, hattachment]
  refine ⟨hsame, ?_, ?_⟩
  · rw [endingsOf_append, endingsOf_cons, endingsOf_append, endingsOf_cons handle m',
      endingsOf_eq_nil hbefore, hhere, endingsOf_eq_nil hbetween, hsame,
      endingsOf_eq_nil hfuture]
    simp
  · intro x hx
    rcases List.mem_append.1 hx with hx | hx
    · exact hbefore x hx
    · rcases List.mem_cons.1 hx with rfl | hx
      · exact hnow
      · exact (List.mem_append.1 hx).elim (hbetween x) (hfuture x)

end Chronicle

/-- **How an instance is removed** by the operation at one of whose moments it leaves. -/
theorem removes_of_departs
    {e : Engine G} {operation : Operation G} {m : Moment G} {handle : Handle}
    (hm : m ∈ e.momentsOf b operation) (hleaves : m.Departs handle) :
    Removes b e handle m operation := by
  have hacts := mem_acts_of_mem_moments hm
  rcases act_of_departs hleaves with ⟨mandate, hact⟩ | hact
  · rw [hact] at hacts
    cases operation with
    | detach other =>
        obtain ⟨rfl, hother⟩ := Act.carryOut.inj (List.mem_singleton.1 hacts)
        obtain rfl := Command.detach.inj hother
        obtain rfl := List.mem_singleton.1 hm
        obtain ⟨left, hdetach⟩ := exists_detach (b := b) (mem_handles_of_departs hleaves)
        exact .detach hact hdetach
    | step info =>
        obtain ⟨rfl, hqueued⟩ := carryOut_mem_stepActs hacts
        exact .step info hact hqueued
    | loadAndAttach spec =>
        rw [Engine.actsOf] at hacts
        split at hacts <;> simp [Engine.attachActs] at hacts
    | clear =>
        cases (List.mem_replicate.1 hacts).2
    | _ => simp [Engine.actsOf, Engine.attachActs] at hacts
  · rw [hact] at hacts
    cases operation with
    | step info =>
        exact absurd hacts (expel_not_mem_stepActs e info)
    | loadAndAttach spec =>
        rw [Engine.actsOf] at hacts
        split at hacts <;> simp [Engine.attachActs] at hacts
    | clear =>
        exact .clear hact
    | _ => simp [Engine.actsOf, Engine.attachActs] at hacts

/-- In which order the systems are let go of when all leave: those attached last come first. -/
theorem endings_clear (e : Engine G) :
    (e.momentsOf b .clear).flatMap Moment.endings =
      e.scheduler.all.reverse.flatMap fun i =>
        i.attachment.endings.map fun ending => (i.handle, ending) := by
  show (e.moments b (List.replicate e.scheduler.size .expel)).flatMap Moment.endings = _
  generalize hsize : e.scheduler.size = n
  rw [← Scheduler.length_all] at hsize
  induction n generalizing e with
  | zero =>
      rw [List.eq_nil_of_length_eq_zero hsize]
      rfl
  | succ n ih =>
      cases hnewest : e.scheduler.newest? with
      | none =>
          rw [(Scheduler.newest?_eq_none_iff _).1 hnewest] at hsize
          cases hsize
      | some newest =>
          obtain ⟨i, s⟩ := newest
          have hall := Scheduler.all_of_newest? hnewest
          have hperform : (e.perform b .expel).scheduler = s := by
            simp only [Engine.perform, hnewest]
          rw [hall, List.length_append] at hsize
          have hrest := ih (e.perform b .expel) (by rw [hperform]; exact Nat.succ.inj hsize)
          rw [List.replicate_succ, Engine.moments, List.flatMap_cons, hrest,
            endings_of_departure (departure?_expel hnewest), hperform, hall, List.reverse_append,
            List.flatMap_append]
          simp

/-- A moment of a history belongs to one of its operations. -/
theorem exists_operation
    {e : Engine G} {operations : List (Operation G)} {past : List (Moment G)} {m : Moment G}
    {future : List (Moment G)} (hsplit : e.history b operations = past ++ m :: future) :
    ∃ earlier operation later first, operations = earlier ++ operation :: later ∧
      past = e.history b earlier ++ first ∧
      (first ++ [m]) <+: (e.operateAll b earlier).momentsOf b operation := by
  induction operations generalizing e past with
  | nil =>
      simp [Engine.history] at hsplit
  | cons operation rest ih =>
      rw [Engine.history] at hsplit
      rcases append_split hsplit with ⟨second, hnow, -⟩ | ⟨second, rfl, hrest⟩
      · refine ⟨[], operation, rest, past, rfl, rfl, second, ?_⟩
        show _ = e.momentsOf b operation
        rw [hnow, List.append_assoc]
        rfl
      · obtain ⟨earlier, found, later, first, rfl, rfl, hfirst⟩ := ih hrest
        refine ⟨operation :: earlier, found, later, first, rfl, ?_, hfirst⟩
        rw [Engine.history, List.append_assoc]

/--
**Where nobody leaves, nothing is let go of**: no guest code is run for it, and no count goes down.
-/
theorem spared_of_no_departure
    {m : Moment G} (halive : m.before.env.orphaned = false) (h : m.departure? = none) :
    (∀ s ∈ m.guestRuns b, ¬ s.purpose.IsEnding) ∧
    ((∀ arrangement, m.act ≠ .arrange arrangement) → ∀ plugin,
      m.before.env.loader.liveInstances plugin ≤
        (m.after b).env.loader.liveInstances plugin) := by
  refine ⟨fun s hs hending => ?_, liveInstances_of_no_departure halive h⟩
  obtain ⟨e, act⟩ := m
  cases act with
  | load spec =>
      simp only [Moment.guestRuns, Environment.loading] at hs
      split at hs
      · cases hs
      · rw [List.mem_singleton.1 hs] at hending
        exact hending
  | carryOut mandate command =>
      cases command with
      | attach handle attachment entity config =>
          rcases List.mem_append.1 hs with hs | hs
          · rw [eq_of_mem_configuring hs] at hending
            exact hending
          · rw [eq_of_mem_declaring hs] at hending
            exact hending
      | detach handle =>
          rw [(after_of_no_departure h (Or.inl ⟨mandate, handle, rfl⟩)).2] at hs
          cases hs
  | turn info failed slot =>
      have hcalled := call?_of_mem_turn hs
      rw [hending.call?] at hcalled
      cases hcalled
  | reconfigure handle config =>
      simp only [Moment.guestRuns] at hs
      split at hs
      · rw [eq_of_mem_configuring hs] at hending
        exact hending
      · cases hs
  | expel =>
      rw [(after_of_no_departure h (Or.inr rfl)).2] at hs
      cases hs
  | run access program =>
      rw [List.mem_singleton.1 hs] at hending
      exact hending
  | _ => cases hs

theorem alive_in_history
    {e : Engine G} (halive : e.env.orphaned = false) {operations : List (Operation G)}
    {m : Moment G} (hm : m ∈ e.history b operations) : m.before.env.orphaned = false := by
  obtain ⟨past, future, hsplit⟩ := List.append_of_mem hm
  obtain ⟨earlier, operation, later, first, -, -, hfirst⟩ := exists_operation hsplit
  have hmoment : m ∈ (e.operateAll b earlier).momentsOf b operation := hfirst.subset (by simp)
  exact alive_before_moment (accounts_history (b := b) e halive earlier).2 hmoment

/-- The handles of the queue are none of those under which systems were attached. -/
theorem distinct_of_reached
    {log : List Wrapping} {e : Engine G} (h : Engine.Reached b log e)
    (operations : List (Operation G)) :
    (log.map Wrapping.handle ++ (attachedIn (e.history b operations) ++
      attachHandles (e.operateAll b operations).env.commands)).Nodup := by
  induction operations generalizing log e with
  | nil =>
      exact h.sound.distinct
  | cons operation rest ih =>
      have hrest := ih (h.next operation)
      rw [List.map_append, ← attachedIn_momentsOf, List.append_assoc] at hrest
      rw [Engine.history, attachedIn_append, List.append_assoc]
      exact hrest

/-- The end of an engine: all leave, and then the queue may be let go of. -/
theorem close_cases (e : Engine G) :
    (e.close b).scheduler = .empty ∧
    ((e.close b).env = { (e.clear b).env with orphaned := true } ∨
      (e.close b).env = b.releaseCommands b.runUntidied
        { (e.clear b).env with orphaned := true, commands := [] } (e.clear b).env.commands) := by
  refine ⟨rfl, ?_⟩
  show b.tidy { (e.clear b).env with orphaned := true } = _ ∨
    b.tidy { (e.clear b).env with orphaned := true } = _
  rw [Behavior.tidy, Behavior.tidyWith]
  split
  · exact Or.inr rfl
  · exact Or.inl rfl

theorem handles_reverse (s : Scheduler G) :
    s.handles.reverse = (s.pending.reverse ++ s.instances.reverse).map Instance.handle := by
  simp [Scheduler.handles, Scheduler.all]

/-- A system that somebody else holds as well has one holder less, and that is all. -/
theorem release_shared_of_held
    {env : Environment cast} {system : SystemId} (halive : env.orphaned = false)
    (hheld : 1 < env.memory.holders system) :
    Cast.behavior.release ⟨system, .shared⟩ env =
      { env with memory := env.memory.unhold system } := by
  have hholders : (env.memory.unhold system).holders system + 1 = env.memory.holders system := by
    simp only [Memory.holders, Memory.unhold, OrderedMap.find?_modify_self] at hheld ⊢
    cases hmember : env.memory.members.find? system with
    | none =>
        simp [hmember] at hheld
    | some member =>
        simp only [hmember, Option.map_some] at hheld ⊢
        omega
  have hleft : (env.memory.unhold system).holders system ≠ 0 := by
    omega
  let left : Environment cast := { env with memory := env.memory.unhold system }
  let next (m : Memory) : Deed Unit := if m.holders system = 0 then Cast.drop system else .done ()
  have hconsult : Cast.behavior.run .none (.ask .consult next) left =
      Cast.behavior.run .none (next left.memory) left :=
    run_ask Cast.behavior .none .consult next halive
  have hrun : Cast.behavior.run .none (Cast.giveBack system) env =
      Cast.behavior.run .none (.ask .consult next) left :=
    run_ask Cast.behavior .none (.revise fun m => m.unhold system) _ halive
  have hstays : next left.memory = .done () := if_neg hleft
  rw [hstays] at hconsult
  exact congrArg Prod.snd (hrun.trans hconsult)

theorem letGoOnce_of_attached
    {c : Course G} {past : List (Moment G)} {m : Moment G} {later : List (Moment G)}
    (hsplit : c.life b = past ++ m :: later) (mandate : Mandate) (handle : Handle)
    (attachment : Attachment G) (entity : Entity) (config : Payload)
    (hact : m.act = .carryOut mandate (.attach handle attachment entity config)) :
    ∃ between m' future, later = between ++ m' :: future ∧
      LetGoOnce b c handle attachment past m between m' future := by
  have hchronicle := (c.go [.clear]).chronicle b
  have hlinked := ((c.go [.clear]).accounts b).1.linked
  replace hsplit : (c.go [.clear]).past b = past ++ m :: later := hsplit
  rw [hsplit] at hchronicle hlinked
  have hfirst : handle ∈ (m.after b).scheduler.handles := by
    rw [Moment.after, hact, handles_perform]
    exact List.mem_append_right _ (List.mem_singleton_self handle)
  have hlast : handle ∉ ((c.go [.clear]).engine b).scheduler.handles := by
    rw [c.engine_go]
    exact List.not_mem_nil
  obtain ⟨between, m', future, rfl, hleaves, hbetween⟩ :=
    exists_departure hlinked.split.2 hfirst hlast
  refine ⟨between, m', future, rfl, ?_⟩
  have hattached : m.act.attached? = some handle := congrArg Act.attached? hact
  obtain ⟨hnow, honce, helsewhere⟩ := hchronicle.endingsOf_eq hact hleaves
  have hlater := hchronicle
  rw [← List.cons_append, ← List.append_assoc] at hlater
  obtain ⟨hgone, hgone'⟩ := hlater.absent_after hleaves
  rw [← List.cons_append, ← List.append_assoc] at hsplit
  obtain ⟨earlier, operation, rest, first, hoperations, hpast, hmoments⟩ :=
    exists_operation hsplit
  constructor
  case leaves => exact hleaves
  case now => exact hnow
  case once => rw [Course.life, hsplit, List.append_assoc]; exact honce
  case elsewhere => exact helsewhere
  case absent => exact hchronicle.absent_before hattached
  case there =>
    intro x hx
    rcases List.mem_append.1 hx with hx | hx
    · exact (hbetween x hx).1
    · rw [List.mem_singleton.1 hx]
      exact mem_handles_of_departs hleaves
  case gone => exact hgone
  case gone_later => exact hgone'
  case removed =>
    refine ⟨earlier, operation, rest, first, hoperations, hpast, hmoments, ?_⟩
    exact removes_of_departs (hmoments.subset (by simp)) hleaves

end Endings

/--
**Each attached system is let go of once, when it is removed.**  Over the life of an engine, down
to its end, whoever was attached leaves once: when it is detached by the host, when a step carries
out the request of its queue to detach it, or when everybody is.  It is there from its attachment
until then, and what is done to its system is done at that moment and at no other.  The system of
a plugin comes to its end, and then the hook of the plugin is run, neither of which is cut short; a
shared system is given back, and if somebody else holds it too, it has one holder less and stays.
Who leaves is counted off, and where nobody leaves, no count goes down.  Where all leave, they do so
in the reverse of their order: those who wait come first, and among those who wait, and among the
others, those attached last.  The engine lets go of no other system, but for those that wait in its
queue in the end; they were never attached.
-/
theorem released_once (b : Behavior G) (c : Course G) :
    (∀ past m later mandate handle attachment entity config, c.life b = past ++ m :: later →
      m.act = .carryOut mandate (.attach handle attachment entity config) →
        ∃ between m' future, later = between ++ m' :: future ∧
          LetGoOnce b c handle attachment past m between m' future) ∧
    (∀ handle ∉ attachedIn (c.life b), endingsOf handle (c.life b) = []) ∧
    (∀ m ∈ c.life b, ∀ i env, m.departure? = some (i, env) →
      m.before.env.Still env ∧ m.guestRuns b = b.releasing i.attachment env ∧
        (m.after b).env = i.attachment.endings.foldl b.finish env ∧
        (∀ ending ∈ i.attachment.endings, ∀ p, ending.program? b = some p → ∀ reached,
          b.run .none p reached = (.done (), b.finish reached ending)) ∧
        ∀ plugin, (m.after b).env.loader.liveInstances plugin =
          m.before.env.loader.liveInstances plugin - countedIn plugin [i.attachment]) ∧
    (∀ m ∈ c.life b, m.departure? = none →
      (∀ s ∈ m.guestRuns b, ¬ s.purpose.IsEnding) ∧
      ((∀ arrangement, m.act ≠ .arrange arrangement) → ∀ plugin,
        m.before.env.loader.liveInstances plugin ≤
          (m.after b).env.loader.liveInstances plugin)) ∧
    (∀ e : Engine G,
      e.scheduler.handles.reverse =
        (e.scheduler.pending.reverse ++ e.scheduler.instances.reverse).map Instance.handle ∧
      (e.momentsOf b .clear).flatMap Moment.endings =
        (e.scheduler.pending.reverse ++ e.scheduler.instances.reverse).flatMap fun i =>
          i.attachment.endings.map fun ending => (i.handle, ending)) ∧
    (∀ (env : Environment cast) system, env.orphaned = false → 1 < env.memory.holders system →
      Cast.behavior.release ⟨system, .shared⟩ env =
        { env with memory := env.memory.unhold system }) ∧
    (((c.engine b).close b).scheduler = .empty ∧
      (((c.engine b).close b).env = { ((c.engine b).clear b).env with orphaned := true } ∨
        ((c.engine b).close b).env = b.releaseCommands b.runUntidied
          { ((c.engine b).clear b).env with orphaned := true, commands := [] }
          ((c.engine b).clear b).env.commands) ∧
      ∀ handle ∈ attachHandles ((c.engine b).clear b).env.commands,
        handle ∉ attachedIn (c.life b)) ∧
    Accounts b (.fresh c.memory) (c.life b) ((c.engine b).clear b) := by
  have hend : (c.go [.clear]).engine b = (c.engine b).clear b := c.engine_go b [.clear]
  have haccounts := (c.go [.clear]).accounts b
  have hchronicle := (c.go [.clear]).chronicle b
  rw [hend] at haccounts
  refine ⟨?_, ?_, ?_, ?_, ?_, ?_, ?_, haccounts.1⟩
  · intro past m later mandate handle attachment entity config hsplit
    exact letGoOnce_of_attached hsplit mandate handle attachment entity config
  · intro handle hnever
    refine endingsOf_eq_nil fun m hm hleaves => hnever ?_
    obtain ⟨past, future, hsplit⟩ := List.append_of_mem hm
    replace hsplit : (c.go [.clear]).past b = past ++ m :: future := hsplit
    rw [hsplit] at hchronicle
    have hthere := hchronicle.split.1.handles_sublist.subset (mem_handles_of_departs hleaves)
    rw [Course.life, hsplit, attachedIn_append]
    exact List.mem_append_left _ hthere
  · intro m hm i env hdeparture
    obtain ⟨hafter, hstill, hguestRuns⟩ := env_after_departure (b := b) hdeparture
    exact ⟨hstill, hguestRuns, hafter.trans (release_eq i.attachment env),
      fun _ _ _ hprogram reached => run_of_ending hprogram reached,
      liveInstances_of_departure (alive_in_history (b := b) rfl hm) hdeparture⟩
  · intro m hm hnobody
    exact spared_of_no_departure (alive_in_history (b := b) rfl hm) hnobody
  · intro e
    refine ⟨handles_reverse e.scheduler, ?_⟩
    rw [endings_clear, Scheduler.all, List.reverse_append]
  · intro env system
    exact release_shared_of_held
  · obtain ⟨hempty, hclosed⟩ := close_cases (b := b) (c.engine b)
    refine ⟨hempty, hclosed, fun handle hqueued hattached => ?_⟩
    have hdistinct : (attachedIn (c.life b) ++
        attachHandles ((c.go [.clear]).engine b).env.commands).Nodup :=
      distinct_of_reached (b := b) (.fresh c.memory) (c.go [.clear]).operations
    rw [hend] at hdistinct
    exact (List.nodup_append.1 hdistinct).2.2 handle hattached handle hqueued rfl

namespace Puppets

/-- Of three systems, the host detaches one and a step another; the third is there to the end. -/
def parting : Course puppets where
  memory := (0 : Nat)
  operations :=
    [.attach ⟨(1 : Nat), .plugin "actor" (some .announced)⟩ .null ⟨.null⟩,
      .attach ⟨(2 : Nat), .shared⟩ .null ⟨.null⟩,
      .attach ⟨(3 : Nat), .plugin "extra" none⟩ .null ⟨.null⟩,
      .run .none (Program.queueDetach ⟨2⟩), .step (.first .zero), .detach ⟨1⟩]

end Puppets

/-- A clock that the host holds as well. -/
def Cast.heldTwice : Environment cast :=
  .initial ((Memory.empty.enroll (.simClock .fresh)).2.hold ⟨0⟩)

theorem released_once_parting :
    endingsOf ⟨1⟩ (Puppets.parting.life Puppets.idle) =
      [.dropped (1 : Nat), .unloaded "actor" .announced] ∧
    endingsOf ⟨2⟩ (Puppets.parting.life Puppets.idle) = [.givenBack (2 : Nat)] ∧
    endingsOf ⟨3⟩ (Puppets.parting.life Puppets.idle) = [.dropped (3 : Nat)] ∧
    endingsOf ⟨4⟩ (Puppets.parting.life Puppets.idle) = [] ∧
    (Cast.behavior.release ⟨⟨0⟩, .shared⟩ Cast.heldTwice).memory.holders ⟨0⟩ = 1 := by
  obtain ⟨hattached, hnever, _, _, _, hshared, _⟩ := released_once Puppets.idle Puppets.parting
  obtain ⟨_, _, _, _, hfirst⟩ := hattached [_] _ _ .host ⟨1⟩ _ _ _ rfl rfl
  obtain ⟨_, _, _, _, hsecond⟩ := hattached [_, _, _] _ _ .host ⟨2⟩ _ _ _ rfl rfl
  obtain ⟨_, _, _, _, hthird⟩ := hattached [_, _, _, _, _] _ _ .host ⟨3⟩ _ _ _ rfl rfl
  have hother : (⟨4⟩ : Handle) ∉ attachedIn (Puppets.parting.life Puppets.idle) := by
    have hall : attachedIn (Puppets.parting.life Puppets.idle) = [⟨1⟩, ⟨2⟩, ⟨3⟩] := rfl
    rw [hall]
    decide
  refine ⟨hfirst.once, hsecond.once, hthird.once, hnever ⟨4⟩ hother, ?_⟩
  rw [hshared Cast.heldTwice ⟨0⟩ rfl (by decide)]
  rfl

end SimEngine
