import Mathlib.Data.List.Induction
import SimEngine.Proofs.Histories

/-!
# Chronicles

The acts of a run do not come in any order: an attachment is carried out under
a handle that was not used before, and only instances that take part in steps
have turns.  A chronicle is a list of moments in which this is so.  Facts about
runs follow from facts about single acts by induction on it.

**Definitions.**
* `attachedIn`: the handles under which systems are attached, in their order.
* `Act.Proper`: what an act asks for.
* `Chronicle`: moments whose acts are proper.
* `Course`: what a host has done with an engine so far.

**Results.**
* `Course.chronicle`: the past of an engine is a chronicle.
* `Chronicle.split`: so is every beginning of it.
* `Chronicle.nodup`: no handle is attached twice.
-/

namespace SimEngine

variable {G : Guest}

/-- The handle under which an act attaches a system, if it does. -/
def Act.attached? : Act G → Option Handle
  | .carryOut _ (.attach handle _ _ _) => some handle
  | _ => none

/-- The handles under which systems are attached, in their order. -/
def attachedIn (moments : List (Moment G)) : List Handle :=
  moments.filterMap fun m => m.act.attached?

/--
What an act asks for: the handle of an attachment was not used before, and an instance that has a
turn takes part in steps.
-/
def Act.Proper (used : List Handle) (e : Engine G) : Act G → Prop
  | .carryOut _ (.attach handle _ _ _) => handle ∉ used
  | .turn _ _ slot => slot.2 ∈ e.scheduler.instances
  | _ => True

/-- What an engine began with, and what the host has done with it so far. -/
structure Course (G : Guest) where
  memory : G.Memory
  operations : List (Operation G)

namespace Course

variable (b : Behavior G) (c : Course G)

/-- The engine that the operations have brought about. -/
def engine : Engine G :=
  (Engine.fresh c.memory).operateAll b c.operations

/-- The moments so far. -/
def past : List (Moment G) :=
  (Engine.fresh c.memory).history b c.operations

/-- The course after further operations. -/
def go (later : List (Operation G)) : Course G :=
  { c with operations := c.operations ++ later }

end Course

theorem Act.exists_attach
    {act : Act G} {handle : Handle} (h : act.attached? = some handle) :
    ∃ mandate attachment entity config,
      act = .carryOut mandate (.attach handle attachment entity config) := by
  cases act with
  | carryOut mandate command =>
      cases command with
      | attach other attachment entity config =>
          obtain rfl := Option.some.inj h
          exact ⟨mandate, attachment, entity, config, rfl⟩
      | detach other =>
          cases h
  | _ => cases h

theorem Act.Proper.not_mem
    {used : List Handle} {e : Engine G} {act : Act G} (h : act.Proper used e)
    {handle : Handle} (hattached : act.attached? = some handle) : handle ∉ used := by
  obtain ⟨mandate, attachment, entity, config, rfl⟩ := Act.exists_attach hattached
  exact h

/-- The moments from the beginning to an engine, if their acts are proper. -/
inductive Chronicle (b : Behavior G) : List (Moment G) → Engine G → Prop
  | start
      (memory : G.Memory) :
      Chronicle b [] (.fresh memory)
  | next
      {past : List (Moment G)} {e : Engine G} (h : Chronicle b past e) (act : Act G)
      (hproper : act.Proper (attachedIn past) e) :
      Chronicle b (past ++ [⟨e, act⟩]) (e.perform b act)

namespace Chronicle

variable {b : Behavior G} {past : List (Moment G)} {m : Moment G} {e : Engine G}

theorem last
    (h : Chronicle b (past ++ [m]) e) :
    Chronicle b past m.before ∧ m.act.Proper (attachedIn past) m.before ∧ e = m.after b := by
  generalize hmoments : past ++ [m] = moments at h
  cases h with
  | start memory =>
      simp at hmoments
  | next hpast act hproper =>
      obtain ⟨rfl, hm⟩ := List.append_inj' hmoments rfl
      obtain rfl := List.singleton_inj.1 hm
      exact ⟨hpast, hproper, rfl⟩

/-- The beginning of a chronicle is one, and leads to what its last moment comes to. -/
theorem split
    {future : List (Moment G)} (h : Chronicle b (past ++ m :: future) e) :
    Chronicle b past m.before ∧ m.act.Proper (attachedIn past) m.before ∧
      Chronicle b (past ++ [m]) (m.after b) := by
  induction future using List.reverseRecOn generalizing e with
  | nil =>
      obtain ⟨hpast, hproper, rfl⟩ := h.last
      exact ⟨hpast, hproper, h⟩
  | append_singleton future last ih =>
      rw [← List.cons_append, ← List.append_assoc] at h
      exact ih h.last.1

theorem split_later
    {between : List (Moment G)} {m' : Moment G} {future : List (Moment G)}
    (h : Chronicle b (past ++ m :: (between ++ m' :: future)) e) :
    Chronicle b (past ++ m :: between) m'.before ∧
      m'.act.Proper (attachedIn (past ++ m :: between)) m'.before ∧
      Chronicle b (past ++ m :: between ++ [m']) (m'.after b) := by
  rw [← List.cons_append, ← List.append_assoc] at h
  exact h.split

end Chronicle

@[simp] theorem attachedIn_append (first second : List (Moment G)) :
    attachedIn (first ++ second) = attachedIn first ++ attachedIn second :=
  List.filterMap_append

@[simp] theorem attachedIn_singleton (m : Moment G) :
    attachedIn [m] = m.act.attached?.toList := by
  cases h : m.act.attached? <;> simp [attachedIn, h]

theorem attachedIn_append_cons (past : List (Moment G)) (m : Moment G) (rest : List (Moment G)) :
    attachedIn (past ++ m :: rest) = attachedIn (past ++ [m]) ++ attachedIn rest := by
  rw [← attachedIn_append, List.append_assoc, List.singleton_append]

theorem mem_attachedIn
    {past : List (Moment G)} {m : Moment G} {rest : List (Moment G)} {handle : Handle}
    (h : m.act.attached? = some handle) : handle ∈ attachedIn (past ++ m :: rest) := by
  rw [attachedIn_append]
  exact List.mem_append_right _ (List.mem_filterMap.2 ⟨m, List.mem_cons_self, h⟩)

theorem attachedIn_moments (b : Behavior G) (e : Engine G) (acts : List (Act G)) :
    attachedIn (e.moments b acts) = acts.filterMap Act.attached? := by
  have hmap := congrArg (List.filterMap Act.attached?) (map_act_moments b e acts)
  rwa [List.filterMap_map] at hmap

theorem used_append_none
    (used : List Handle) {act : Act G} (h : act.attached? = none) :
    used ++ act.attached?.toList = used := by
  rw [h, Option.toList_none, List.append_nil]

section Rows

variable (b : Behavior G)

/-- Each act of a row is proper when it is its turn. -/
def ProperRow : List Handle → Engine G → List (Act G) → Prop
  | _, _, [] => True
  | used, e, act :: rest =>
    act.Proper used e ∧ ProperRow (used ++ act.attached?.toList) (e.perform b act) rest

theorem Chronicle.row
    {b : Behavior G} {past : List (Moment G)} {e : Engine G} (h : Chronicle b past e)
    {acts : List (Act G)} (hrow : ProperRow b (attachedIn past) e acts) :
    Chronicle b (past ++ e.moments b acts) (acts.foldl (Engine.perform b) e) := by
  induction acts generalizing past e with
  | nil =>
      rwa [Engine.moments, List.append_nil]
  | cons act rest ih =>
      have hnext := h.next act hrow.1
      have hused : attachedIn (past ++ [⟨e, act⟩]) =
          attachedIn past ++ act.attached?.toList := by
        rw [attachedIn_append, attachedIn_singleton]
      have hrest := ih hnext (by rw [hused]; exact hrow.2)
      rwa [List.append_assoc] at hrest

theorem properRow_append
    {used : List Handle} {e : Engine G} {first second : List (Act G)}
    (h₁ : ProperRow b used e first)
    (h₂ : ProperRow b (used ++ first.filterMap Act.attached?) (first.foldl (Engine.perform b) e)
      second) :
    ProperRow b used e (first ++ second) := by
  induction first generalizing used e with
  | nil =>
      rwa [List.filterMap_nil, List.append_nil] at h₂
  | cons act rest ih =>
      refine ⟨h₁.1, ih h₁.2 ?_⟩
      have hused : used ++ (act :: rest).filterMap Act.attached? =
          used ++ act.attached?.toList ++ rest.filterMap Act.attached? := by
        cases hattached : act.attached? <;> simp [hattached]
      rwa [hused] at h₂

theorem filterMap_attached?_carryOut (commands : List (Command G)) :
    (commands.map (Act.carryOut .queue)).filterMap Act.attached? = attachHandles commands := by
  rw [List.filterMap_map, attachHandles]
  congr 1
  funext command
  cases command <;> rfl

theorem filterMap_attached?_turnActs
    (info : StepInfo) (failed : List Handle) (slots : List (Pass × Instance G))
    (env : Environment G) :
    (Engine.turnActs b info failed slots env).filterMap Act.attached? = [] := by
  induction slots generalizing failed env with
  | nil =>
      rfl
  | cons slot rest ih =>
      exact ih _ _

/-- The systems that a step attaches are those of its queue. -/
theorem filterMap_attached?_stepActs (e : Engine G) (info : StepInfo) :
    (e.stepActs b info).filterMap Act.attached? = attachHandles e.env.commands := by
  have hsplit : (e.stepActs b info).filterMap Act.attached? =
      (e.env.commands.map (Act.carryOut .queue)).filterMap Act.attached? ++
        (Engine.turnActs b info [] (slots (e.beginStep b).scheduler.instances)
          (e.beginStep b).env).filterMap Act.attached? :=
    List.filterMap_append
  rw [hsplit, filterMap_attached?_carryOut, filterMap_attached?_turnActs, List.append_nil]

/-- A batch is proper if its attachments have handles of their own. -/
theorem properRow_carryOut
    {used : List Handle} {e : Engine G} {commands : List (Command G)}
    (hdistinct : (used ++ attachHandles commands).Nodup) :
    ProperRow b used e (commands.map (.carryOut .queue)) := by
  induction commands generalizing used e with
  | nil =>
      exact True.intro
  | cons command rest ih =>
      cases command with
      | attach handle attachment entity config =>
          have hsplit : used ++ attachHandles (.attach handle attachment entity config :: rest) =
              used ++ [handle] ++ attachHandles rest := by
            simp [attachHandles]
          rw [hsplit] at hdistinct
          refine ⟨?_, ih hdistinct⟩
          intro hused
          have hfirst := (List.nodup_append.1 hdistinct).1
          exact (List.nodup_append.1 hfirst).2.2 handle hused handle (List.mem_singleton_self _) rfl
      | detach handle =>
          refine ⟨True.intro, ih ?_⟩
          rwa [used_append_none used rfl]

theorem properRow_turnActs
    (info : StepInfo) (failed : List Handle) (slots : List (Pass × Instance G))
    {used : List Handle} {e : Engine G} (hslots : ∀ slot ∈ slots, slot.2 ∈ e.scheduler.instances) :
    ProperRow b used e (Engine.turnActs b info failed slots e.env) := by
  induction slots generalizing failed used e with
  | nil =>
      exact True.intro
  | cons slot rest ih =>
      exact ⟨hslots slot List.mem_cons_self,
        ih _ fun other hother => hslots other (List.mem_cons_of_mem _ hother)⟩

theorem mem_instances_of_mem_slots
    {instances : List (Instance G)} {slot : Pass × Instance G} (h : slot ∈ slots instances) :
    slot.2 ∈ instances := by
  obtain ⟨pass, _, hslot⟩ := List.mem_flatMap.1 h
  obtain ⟨i, hi, rfl⟩ := List.mem_map.1 hslot
  exact hi

/-- The acts of an operation on a sound engine are proper. -/
theorem Engine.Sound.properRow
    {b : Behavior G} {log : List Wrapping} {e : Engine G} (h : e.Sound log [])
    (operation : Operation G) :
    ProperRow b (log.map Wrapping.handle) e (e.actsOf b operation) := by
  have hnew : ∀ env : Environment G, e.env.Grows env →
      (⟨env.nextHandle⟩ : Handle) ∉ log.map Wrapping.handle := by
    intro env hgrows hmem
    have hused := (h.grow hgrows).used _ (List.mem_append_left _ hmem)
    exact Nat.lt_irrefl _ hused
  cases operation with
  | attach attachment entity config =>
      refine ⟨True.intro, ?_, True.intro⟩
      rw [used_append_none _ rfl]
      exact hnew e.env (Environment.Grows.refl e.env)
  | loadAndAttach spec =>
      refine ⟨True.intro, ?_⟩
      rw [used_append_none _ rfl]
      have hgrows := grows_load (b := b) h.alive spec
      rcases hload : b.load spec e.env with ⟨cause | attachment, env⟩
      · exact True.intro
      · rw [hload] at hgrows
        refine ⟨True.intro, ?_, True.intro⟩
        rw [used_append_none _ rfl]
        exact hnew env hgrows
  | step info =>
      refine ⟨True.intro, ?_⟩
      rw [used_append_none _ rfl]
      refine properRow_append b (properRow_carryOut b h.distinct) ⟨True.intro, ?_⟩
      have hbegun : (List.foldl (Engine.perform b) (e.perform b .collect)
          (e.env.commands.map (.carryOut .queue))).perform b .admitAll = e.beginStep b := by
        rw [List.foldl_map]
        rfl
      rw [hbegun]
      exact properRow_turnActs b info [] _ fun slot => mem_instances_of_mem_slots
  | clear =>
      show ProperRow b _ e (List.replicate e.scheduler.size .expel)
      generalize e.scheduler.size = n
      clear h hnew
      induction n generalizing e with
      | zero =>
          exact True.intro
      | succ n ih =>
          refine ⟨True.intro, ?_⟩
          rw [used_append_none _ rfl]
          exact ih
  | _ => exact ⟨True.intro, True.intro⟩

theorem attachedIn_momentsOf (e : Engine G) (operation : Operation G) :
    attachedIn (e.momentsOf b operation) = (e.wrappingsOf b operation).map Wrapping.handle := by
  have hbatch : ∀ (commands : List (Command G)) (e : Engine G),
      (e.wrappingsBy b commands).map Wrapping.handle = attachHandles commands := by
    intro commands
    induction commands with
    | nil =>
        exact fun _ => rfl
    | cons command rest ih =>
        intro e
        cases command with
        | attach handle attachment entity config =>
            rw [Engine.wrappingsBy, List.map_cons, ih]
            rfl
        | detach handle =>
            exact ih _
  rw [Engine.momentsOf, attachedIn_moments]
  cases operation with
  | loadAndAttach spec =>
      simp only [Engine.actsOf, Engine.wrappingsOf]
      rcases b.load spec e.env with ⟨cause | attachment, env⟩ <;> rfl
  | step info =>
      show (e.stepActs b info).filterMap Act.attached? = (e.stepWrappings b).map _
      rw [filterMap_attached?_stepActs, Engine.stepWrappings, hbatch]
  | clear =>
      show (List.replicate e.scheduler.size (Act.expel : Act G)).filterMap Act.attached? = []
      rw [List.filterMap_eq_nil_iff]
      intro act hact
      rw [(List.mem_replicate.1 hact).2]
      rfl
  | _ => rfl

end Rows

/-- No handle is attached twice. -/
theorem Chronicle.nodup
    {b : Behavior G} {past : List (Moment G)} {e : Engine G} (h : Chronicle b past e) :
    (attachedIn past).Nodup := by
  induction h with
  | start memory =>
      exact List.nodup_nil
  | @next past e _ act hproper ih =>
      rw [attachedIn_append, attachedIn_singleton]
      cases hattached : act.attached? with
      | none =>
          rwa [Option.toList_none, List.append_nil]
      | some handle =>
          have hnew := hproper.not_mem hattached
          exact ih.append (List.nodup_singleton handle) (List.disjoint_singleton.2 hnew)

theorem chronicle_of_reached
    {b : Behavior G} {log : List Wrapping} {past : List (Moment G)} {e : Engine G}
    (hreached : Engine.Reached b log e) (h : Chronicle b past e)
    (hused : log.map Wrapping.handle = attachedIn past) (operations : List (Operation G)) :
    Chronicle b (past ++ e.history b operations) (e.operateAll b operations) := by
  induction operations generalizing log past e with
  | nil =>
      rwa [Engine.history, List.append_nil]
  | cons operation rest ih =>
      have hrow := h.row (hused ▸ hreached.sound.properRow operation)
      rw [operate_eq_foldl] at hrow
      have hused' : (log ++ e.wrappingsOf b operation).map Wrapping.handle =
          attachedIn (past ++ e.momentsOf b operation) := by
        rw [List.map_append, hused, attachedIn_append, attachedIn_momentsOf]
      have hrest := ih (hreached.next operation) hrow hused'
      rwa [List.append_assoc] at hrest

namespace Course

variable (b : Behavior G) (c : Course G)

theorem engine_go (later : List (Operation G)) :
    (c.go later).engine b = (c.engine b).operateAll b later :=
  List.foldl_append

theorem past_go (later : List (Operation G)) :
    (c.go later).past b = c.past b ++ (c.engine b).history b later :=
  history_append b (.fresh c.memory) c.operations later

/-- **The past of an engine is a chronicle.** -/
theorem chronicle : Chronicle b (c.past b) (c.engine b) :=
  chronicle_of_reached (.fresh c.memory) (.start c.memory) rfl c.operations

/-- The engine of a course is reached. -/
theorem exists_reached : ∃ log, Engine.Reached b log (c.engine b) := by
  obtain ⟨memory, operations⟩ := c
  induction operations using List.reverseRecOn with
  | nil =>
      exact ⟨_, .fresh memory⟩
  | append_singleton operations last ih =>
      obtain ⟨log, hreached⟩ := ih
      have hlast : engine b ⟨memory, operations ++ [last]⟩ =
          (engine b ⟨memory, operations⟩).operate b last :=
        List.foldl_append
      rw [hlast]
      exact ⟨_, hreached.next last⟩

/-- The past of an engine accounts for what has become of it. -/
theorem accounts :
    Accounts b (.fresh c.memory) (c.past b) (c.engine b) ∧
      (c.engine b).env.orphaned = false :=
  accounts_history (.fresh c.memory) rfl c.operations

end Course
end SimEngine
