import SimEngine.Proofs.Gains

/-!
# Launching several accelerating plugins

Accelerating plugins for different entities do not get in each other's way when
they are launched one after the other: each is configured as if it were the only
one, since no other one declares its gain.  So what becomes of the engine can be
told from the engine before, and what is declared, counted and remembered does
not depend on the order.

**Definitions.**
* `Engine.launchAll`: launching plugins in a row.
* `Engine.fleet`: the instances that this comes to.
* `Memory.enrollAll`, `Parameters.declareAll`, `Loader.countAll`: what is
  remembered, declared and counted.
* `Engine.launchedAll`: the engine afterwards.

**Results.**
* `launchAll_eq`: what becomes of the engine.
* `Parameters.declareAll_perm`, `Loader.countAll_perm`: the order does not matter.
-/

namespace SimEngine

open Cast (behavior)
open Accelerate (gainName gainNameOf gainNameOf_injective defaultGain)

/-- The host loads and attaches plugins in a row. -/
def Engine.launchAll (e : Engine cast) (specs : List PluginSpec) : Engine cast :=
  e.operateAll behavior (specs.map .loadAndAttach)

/-- The gains for the entities of plugins are declared in a row. -/
def Parameters.declareAll (p : Parameters) (specs : List PluginSpec) : Parameters :=
  specs.foldl (fun p spec => (p.respond (.declare (gainName spec.entity) (.ok defaultGain))).2) p

/-- Instances of plugins are counted in a row. -/
def Loader.countAll (l : Loader cast) (specs : List PluginSpec) : Loader cast :=
  specs.foldl (fun l spec => l.count spec.name) l

/-- Systems are remembered in a row. -/
def Memory.enrollAll (m : Memory) (roles : List Role) : Memory :=
  roles.foldl (fun m role => (m.enroll role).2) m

/-- The instances that plugins come to which are launched in a row. -/
def Engine.fleet (e : Engine cast) : List PluginSpec → Nat → Nat → List (Instance cast)
  | [], _, _ => []
  | spec :: rest, handle, system =>
    e.launchee spec ⟨handle⟩ ⟨⟨system⟩, .plugin spec.name (some .counted)⟩ ::
      fleet e rest (handle + 1) (system + 1)

/-- The systems that plugins come to which are launched beside one another. -/
def Engine.crew (e : Engine cast) (specs : List PluginSpec) : List Accelerate :=
  specs.map fun spec => spec.engaged e.env.world e.env.parameters

/-- The engine after plugins were launched, with what was reported by then. -/
def Engine.launchedAll (e : Engine cast) (specs : List PluginSpec) (journal : List Notice) :
    Engine cast where
  scheduler :=
    { e.scheduler with
      pending := e.scheduler.pending ++
        e.fleet specs e.env.nextHandle e.env.memory.nextSystem }
  env :=
    { e.env with
      parameters := e.env.parameters.declareAll specs
      queries := (List.range' e.env.nextHandle specs.length).foldl
        (fun queries handle => queries.insert ⟨handle⟩ .empty) e.env.queries
      loader := e.env.loader.countAll specs
      nextHandle := e.env.nextHandle + specs.length
      journal := journal
      memory := e.env.memory.enrollAll ((e.crew specs).map .accelerate) }

theorem Accelerate.gainName_injective : Function.Injective gainName := by
  intro entity other h
  have hid : entity.id.toNat = other.id.toNat := gainNameOf_injective h
  cases entity
  cases other
  exact congrArg Entity.mk (UInt64.toNat_inj.1 hid)

section Orders

/-- Entries under different names may be made in either order. -/
theorem OrderedMap.insert_comm {κ β : Type} [OrderedKey κ] (m : OrderedMap κ β) {key key' : κ}
    (hne : key ≠ key') (value value' : β) :
    (m.insert key value).insert key' value' = (m.insert key' value').insert key value := by
  refine eq_of_find? fun other => ?_
  by_cases hother : other = key
  · subst hother
    rw [find?_insert_of_ne _ hne, find?_insert_self, find?_insert_self]
  · by_cases hother' : other = key'
    · subst hother'
      rw [find?_insert_self, find?_insert_of_ne _ hother, find?_insert_self]
    · simp only [find?_insert_of_ne _ hother, find?_insert_of_ne _ hother']

namespace Parameters

/-- A gain that is declared: nothing happens if it was declared before. -/
theorem respond_declare (p : Parameters) (name : String) (tree : Json) :
    (p.respond (.declare name (.ok tree))).2 =
      if p.contains name then p else ⟨p.values.insert name tree⟩ := by
  rw [respond, attempt, Parameters.declare]
  cases p.contains name <;> rfl

theorem contains_declare_of_ne (p : Parameters) {name other : String} (hne : other ≠ name)
    (tree : Json) :
    (p.respond (.declare name (.ok tree))).2.contains other = p.contains other := by
  rw [contains_eq, contains_eq, p.get?_respond_of_ne hne]

/-- Different names may be declared in either order. -/
theorem declare_comm (p : Parameters) {name other : String} (hne : name ≠ other)
    (tree tree' : Json) :
    ((p.respond (.declare name (.ok tree))).2.respond (.declare other (.ok tree'))).2 =
      ((p.respond (.declare other (.ok tree'))).2.respond (.declare name (.ok tree))).2 := by
  rw [respond_declare (p.respond _).2 other, contains_declare_of_ne _ hne.symm,
    respond_declare (p.respond _).2 name, contains_declare_of_ne _ hne, respond_declare,
    respond_declare]
  by_cases hname : p.contains name = true
  · simp only [if_pos hname]
  · by_cases hother : p.contains other = true
    · simp only [if_pos hother]
    · simp only [if_neg hname, if_neg hother]
      exact congrArg Parameters.mk (p.values.insert_comm hne tree tree')

/-- **The order of declarations of different gains does not matter.** -/
theorem declareAll_perm (p : Parameters) {specs specs' : List PluginSpec}
    (hperm : specs.Perm specs') : p.declareAll specs' = p.declareAll specs := by
  refine (hperm.foldl_eq' (fun spec _ other _ p => ?_) p).symm
  by_cases hsame : spec.entity = other.entity
  · rw [hsame]
  · exact p.declare_comm (fun hname => hsame (Accelerate.gainName_injective hname)) _ _

end Parameters

namespace Loader

theorem count_comm (l : Loader cast) (name other : String) :
    (l.count name).count other = (l.count other).count name := by
  by_cases hne : name = other
  · rw [hne]
  · have hlive : ∀ {name other : String}, name ≠ other →
        (l.count name).liveInstances other = l.liveInstances other := fun hne =>
      congrArg (·.getD 0) (l.live.find?_insert_of_ne (Ne.symm hne) _)
    have hcount : ∀ (l : Loader cast) (name : String),
        l.count name = { l with live := l.live.insert name (l.liveInstances name + 1) } :=
      fun _ _ => rfl
    rw [hcount (l.count name), hlive hne, hcount (l.count other), hlive (Ne.symm hne), hcount l,
      hcount l]
    exact congrArg (Loader.mk l.factories) (l.live.insert_comm hne _ _)

/-- **Instances may be counted in any order.** -/
theorem countAll_perm (l : Loader cast) {specs specs' : List PluginSpec}
    (hperm : specs.Perm specs') : l.countAll specs' = l.countAll specs :=
  (hperm.foldl_eq' (fun spec _ other _ l => l.count_comm spec.name other.name) l).symm

end Loader

namespace Memory

/-- Nothing but the systems is remembered anew. -/
theorem enrollAll_rest (m : Memory) (roles : List Role) :
    ∃ members, m.enrollAll roles =
      { m with members := members, nextSystem := m.nextSystem + roles.length } := by
  induction roles generalizing m with
  | nil => exact ⟨m.members, rfl⟩
  | cons role rest ih =>
      obtain ⟨members, hmembers⟩ := ih (m.enroll role).2
      refine ⟨members, hmembers.trans ?_⟩
      simp only [enroll, List.length_cons]
      congr 1
      omega

theorem find?_enrollAll_of_outside (m : Memory) (roles : List Role) {system : SystemId}
    (h : system.number < m.nextSystem ∨ m.nextSystem + roles.length ≤ system.number) :
    (m.enrollAll roles).members.find? system = m.members.find? system := by
  induction roles generalizing m with
  | nil => rfl
  | cons role rest ih =>
      rw [List.length_cons] at h
      have hne : system ≠ ⟨m.nextSystem⟩ := by
        rintro rfl
        rcases h with h | h <;> simp only at h <;> omega
      have hrest : system.number < (m.enroll role).2.nextSystem ∨
          (m.enroll role).2.nextSystem + rest.length ≤ system.number := by
        show system.number < m.nextSystem + 1 ∨ m.nextSystem + 1 + rest.length ≤ system.number
        omega
      exact (ih (m.enroll role).2 hrest).trans (m.members.find?_insert_of_ne hne _)

end Memory

end Orders

section Launches

variable {e : Engine cast} {specs : List PluginSpec}

/-- A launch for another entity makes no difference to a plugin. -/
theorem engaged_launched {spec other : PluginSpec} (hne : other.entity ≠ spec.entity)
    (journal : List Notice) :
    other.engaged (e.launched spec journal).env.world (e.launched spec journal).env.parameters =
        other.engaged e.env.world e.env.parameters ∧
      other.isFaulty (e.launched spec journal).env.world (e.launched spec journal).env.parameters =
        other.isFaulty e.env.world e.env.parameters := by
  have hbound : ((Accelerate.forEntity other.entity).boundFor other e.env.world).entity =
      other.entity := Accelerate.entity_boundFor rfl e.env.world
  have hcontains : (e.launched spec journal).env.parameters.contains (gainName other.entity) =
      e.env.parameters.contains (gainName other.entity) :=
    e.env.parameters.contains_declare_of_ne
      (fun hname => hne (Accelerate.gainName_injective hname)) defaultGain
  have hworld : (e.launched spec journal).env.world = e.env.world := rfl
  simp only [PluginSpec.engaged, PluginSpec.isFaulty, Accelerate.tuned, hbound, hcontains, hworld,
    and_self]

/-- So it does not to several plugins. -/
theorem fleet_launched {spec : PluginSpec} (hne : ∀ other ∈ specs, other.entity ≠ spec.entity)
    (journal : List Notice) (handle system : Nat) :
    (e.launched spec journal).fleet specs handle system = e.fleet specs handle system := by
  induction specs generalizing handle system with
  | nil => rfl
  | cons other rest ih =>
      have hrest := ih (fun t ht => hne t (List.mem_cons_of_mem other ht)) (handle + 1) (system + 1)
      have hfaulty := (engaged_launched (e := e) (hne other List.mem_cons_self) journal).2
      rw [Engine.fleet, Engine.fleet, hrest, Engine.launchee, Engine.launchee, hfaulty]

/-- **What becomes of an engine** in which plugins for different entities are launched. -/
theorem launchAll_eq (halive : e.env.orphaned = false)
    (hfactories : ∀ spec ∈ specs,
      e.env.loader.factories.find? spec.name = some (.builtin .accelerate))
    (hdistinct : (specs.map PluginSpec.entity).Nodup) :
    ∃ journal, e.launchAll specs = e.launchedAll specs journal := by
  induction specs generalizing e with
  | nil =>
      refine ⟨e.env.journal, ?_⟩
      show e = _
      simp [Engine.launchedAll, Engine.fleet, Engine.crew, Parameters.declareAll, Loader.countAll,
        Memory.enrollAll]
  | cons spec rest ih =>
      obtain ⟨journal, hlaunched⟩ :=
        loadAndAttach_accelerate halive (hfactories spec List.mem_cons_self)
      obtain ⟨hnew, hdistinct⟩ := List.nodup_cons.1 hdistinct
      have hne : ∀ other ∈ rest, other.entity ≠ spec.entity := fun other hother heq =>
        hnew (heq ▸ List.mem_map_of_mem hother)
      obtain ⟨journal', hrest⟩ := ih (e := e.launched spec journal) halive
        (fun other hother => hfactories other (List.mem_cons_of_mem spec hother)) hdistinct
      have hcrew : (e.launched spec journal).crew rest = e.crew rest :=
        List.map_congr_left fun other hother => (engaged_launched (hne other hother) journal).1
      refine ⟨journal', ?_⟩
      have hstart : e.launchAll (spec :: rest) = (e.launched spec journal).launchAll rest := by
        show ((e.loadAndAttach behavior spec).2).launchAll rest = _
        rw [hlaunched]
      rw [hstart, hrest, Engine.launchedAll, fleet_launched hne, hcrew]
      simp only [Engine.launchedAll, Engine.launched, List.append_assoc, List.singleton_append,
        Engine.fleet, List.length_cons, List.range'_succ, List.foldl_cons]
      congr 2
      omega

end Launches

end SimEngine
