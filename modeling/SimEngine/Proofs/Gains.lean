import SimEngine.Proofs.StepFrames
import SimEngine.Proofs.Launches

/-!
# The gains of accelerating systems

Each accelerating plugin declares a gain under a name that holds the number of
its entity, whether or not it could be configured.  A name that was declared
stays so, also when the plugin is gone.  So the declared gains tell for which
entities such plugins were ever loaded, and a second plugin for one entity is
degraded for ever.

**Definitions.**
* `Occurrence.parameterCall?`: the call of the parameters that a request makes.
* `Accelerate.gainNameOf`: the names that are kept for gains.
* `Operation.launches?`, `Course.launchedFor`: the entities for which
  accelerating plugins are loaded.
* `Operation.SparesGains`, `Course.SparesGains`: nobody else declares a gain.
* `Parameters.Gained`: the gains for some entities are declared, and no others.

**Results.**
* `parameterLaw`: the requests of guest code tell what becomes of the parameters.
* `gainNameOf_injective`: entities do not share a gain.
* `gained_operate`: what one operation does to the gains.
* `gains_of_launches`: the gains in the end, and who is degraded.
-/

namespace SimEngine

open Cast (behavior)

section Calls

variable {G : Guest}

/-- The call of the parameters that a request makes, if it makes one. -/
def Occurrence.parameterCall? (o : Occurrence G) : Option ParameterCall :=
  match o.request with
  | .declare name default => some (.declare name default)
  | .setParameter name value => some (.set name value)
  | _ => none

/-- **The parameters are what guest code has made of them.** -/
theorem parameterLaw (b : Behavior G) :
    TraceLaw b fun env L env' =>
      env'.parameters = env.parameters.after (L.filterMap Occurrence.parameterCall?) where
  refl := fun _ => rfl
  trans := by
    intro e₁ L₁ e₂ L₂ e₃ h₁ h₂
    rw [h₂, h₁, List.filterMap_append, Parameters.after_append]
  request := by
    intro spot r env hr
    cases r with
    | emit signal =>
        exact absurd rfl (hr signal)
    | declare name default =>
        exact congrArg (fun answer => answer.2.parameters)
          ((ParameterCall.declare name default).perform_eq (b.emitAt spot) spot.access env)
    | setParameter name value =>
        exact congrArg (fun answer => answer.2.parameters)
          ((ParameterCall.set name value).perform_eq (b.emitAt spot) spot.access env)
    | _ =>
        obtain ⟨_, _, hafter⟩ := performAt_eq b spot _ env hr
        rw [hafter]
        rfl
  emit := fun _ _ _ => rfl
  ensure := fun _ _ => rfl
  tell := by
    intro signal env
    cases signal <;> rfl
  report := fun _ _ => rfl
  turnTo := fun _ _ _ => rfl

/-- The calls of the parameters that guest code makes in an operation. -/
def Engine.parameterCalls (b : Behavior G) (e : Engine G) (operation : Operation G) :
    List ParameterCall :=
  ((e.momentsOf b operation).flatMap (Moment.log b)).filterMap Occurrence.parameterCall?

/-- An operation leaves the parameters to guest code, unless the host exchanges them. -/
theorem parameters_operate (b : Behavior G) {e : Engine G} (halive : e.env.orphaned = false)
    {operation : Operation G}
    (hkept : ∀ a, operation = .arrange a → a.parameters = e.env.parameters) :
    (e.operate b operation).env.parameters =
      e.env.parameters.after (e.parameterCalls b operation) := by
  have haccounts := (accounts_operation (b := b) e halive operation).1
  let Told (e : Engine G) (L : List (Occurrence G)) (e' : Engine G) : Prop :=
    e'.env.parameters = e.env.parameters.after (L.filterMap Occurrence.parameterCall?)
  have hrefl : ∀ e, Told e [] e := fun _ => rfl
  refine Linked.relate hrefl ?_ haccounts.linked ?_
  · intro e₁ L₁ e₂ L₂ e₃ h₁ h₂
    exact (parameterLaw b).trans h₁ h₂
  · intro m hm
    have hready : m.ready.parameters = m.before.env.parameters ∧ m.ready.orphaned = false := by
      have halive' := alive_before_moment halive hm
      unfold Moment.ready
      split
      · exact ⟨rfl, halive'⟩
      · exact ⟨rfl, halive'⟩
      · rename_i a hact
        obtain ⟨hoperation, hbefore⟩ := TickLoop.arrange_of_mem_momentsOf hm hact
        exact ⟨(hkept a hoperation).trans (congrArg (·.env.parameters) hbefore.symm), halive'⟩
      · exact ⟨rfl, halive'⟩
    have hrun := ((parameterLaw b).of_threaded (fun hstill => hstill.parameters)
      (haccounts.accounted m hm) hready.2).1
    rw [hready.1] at hrun
    exact hrun

end Calls

namespace Parameters

variable {p : Parameters} {name : String} {calls : List ParameterCall}

/-- A name that nobody declares is declared only if it was, and holds what it held in kind. -/
theorem kind_after (h : ∀ default, .declare name default ∉ calls) :
    ((p.after calls).get? name).map Json.kind = (p.get? name).map Json.kind := by
  cases hget : p.get? name with
  | some tree =>
      obtain ⟨hafter, hkind⟩ := holds_after hget calls
      rw [hafter, Option.map_some, Option.map_some, hkind]
  | none =>
      have hnone : (p.after calls).get? name = none := by
        rw [get?_eq_none_iff, mem_names_after_iff]
        rintro (hmem | ⟨past, default, rest, rfl, -⟩)
        · exact (get?_eq_none_iff _ _).1 hget hmem
        · exact h default (by simp)
      rw [hnone]

end Parameters

namespace Accelerate

/-- The name that is kept for the gain of a number. -/
def gainNameOf (number : Nat) : String :=
  "accelerate." ++ toString number ++ ".gain"

theorem gainName_eq (entity : Entity) : gainName entity = gainNameOf entity.id.toNat :=
  rfl

/-- **Different numbers have different names.** -/
theorem gainNameOf_injective : Function.Injective gainNameOf := by
  intro m n h
  have hnumber : toString m = toString n :=
    (String.append_right_inj _).1 ((String.append_left_inj _).1 h)
  have hdigits : Nat.toDigits 10 m = Nat.toDigits 10 n := by
    rw [← Nat.toList_repr, ← Nat.toList_repr]
    exact congrArg String.toList hnumber
  have hread (k : Nat) : Nat.ofDigitChars 10 (Nat.toDigits 10 k) 0 = k :=
    Nat.ofDigitChars_toDigits (by decide) (by decide)
  rw [← hread m, hdigits, hread]

end Accelerate

open Accelerate (gainName gainNameOf gainNameOf_injective defaultGain)

/-- The entity for which an operation loads and attaches an accelerating plugin, if it does. -/
def Operation.launches? (env : Environment cast) : Operation cast → Option Entity
  | .loadAndAttach spec =>
    match env.loader.factories.find? spec.name with
    | some (.builtin .accelerate) => some spec.entity
    | _ => none
  | _ => none

/-- The entities for which accelerating plugins are loaded and attached in operations. -/
def Engine.launchedFor : Engine cast → List (Operation cast) → List Entity
  | _, [] => []
  | e, operation :: rest =>
    (operation.launches? e.env).toList ++ launchedFor (e.operate behavior operation) rest

/--
An operation that launches no accelerating plugin declares no gain: neither does any guest code that
is run in it, nor does the host exchange the parameters.
-/
def Operation.SparesGains (e : Engine cast) (operation : Operation cast) : Prop :=
  operation.launches? e.env = none →
    (∀ a, operation = .arrange a → a.parameters = e.env.parameters) ∧
    ∀ n default, .declare (gainNameOf n) default ∉ e.parameterCalls behavior operation

/-- No operation declares a gain, but for those that launch accelerating plugins. -/
def Engine.SparesGains : Engine cast → List (Operation cast) → Prop
  | _, [] => True
  | e, operation :: rest =>
    operation.SparesGains e ∧ SparesGains (e.operate behavior operation) rest

/-- The entities for which accelerating plugins were loaded and attached. -/
def Course.launchedFor (c : Course cast) : List Entity :=
  (Engine.fresh c.memory).launchedFor c.operations

/-- Nobody else has declared a gain. -/
def Course.SparesGains (c : Course cast) : Prop :=
  (Engine.fresh c.memory).SparesGains c.operations

/-- The gains for the entities of a list are declared and no others, each as a number. -/
structure Parameters.Gained (p : Parameters) (entities : List Entity) : Prop where
  declared : ∀ n, p.contains (gainNameOf n) = true ↔ ∃ entity ∈ entities, entity.id.toNat = n
  number : ∀ n tree, p.get? (gainNameOf n) = some tree → tree.kind = .number

theorem Parameters.Gained.contains_iff {p : Parameters} {entities : List Entity}
    (h : p.Gained entities) (entity : Entity) :
    p.contains (gainName entity) = true ↔ entity ∈ entities := by
  rw [Accelerate.gainName_eq, h.declared]
  constructor
  · rintro ⟨other, hother, hid⟩
    have hsame : other = entity := by
      cases other
      cases entity
      exact congrArg Entity.mk (UInt64.toNat_inj.1 hid)
    rwa [← hsame]
  · exact fun hentity => ⟨entity, hentity, rfl⟩

/-- No gain is declared where nothing has happened. -/
theorem Parameters.Gained.fresh (memory : Memory) :
    (Engine.fresh (G := cast) memory).env.parameters.Gained [] := by
  refine ⟨fun n => ⟨fun hdeclared => ?_, fun ⟨_, hentity, _⟩ => ?_⟩, fun n tree htree => ?_⟩
  · cases hdeclared
  · cases hentity
  · cases htree

/-- A gain that is declared, for the first time or once more. -/
theorem Parameters.Gained.declare {p : Parameters} {entities : List Entity}
    (h : p.Gained entities) (entity : Entity) :
    (p.respond (.declare (gainName entity) (.ok defaultGain))).2.Gained (entities ++ [entity]) := by
  let call : ParameterCall := .declare (gainNameOf entity.id.toNat) (.ok defaultGain)
  show (p.respond call).2.Gained _
  have hothers {n : Nat} (hn : n ≠ entity.id.toNat) :
      (p.respond call).2.get? (gainNameOf n) = p.get? (gainNameOf n) :=
    get?_respond_of_ne p fun hname => hn (gainNameOf_injective hname)
  -- The name holds a number: what it held, if it was declared, or else what it is declared with.
  have hown : ∃ tree, (p.respond call).2.get? (gainNameOf entity.id.toNat) = some tree ∧
      tree.kind = .number := by
    cases hget : p.get? (gainNameOf entity.id.toNat) with
    | some tree =>
        obtain ⟨hafter, hkind⟩ := get?_respond hget call
        exact ⟨_, hafter, hkind.trans (h.number _ tree hget)⟩
    | none =>
        have haccepted : p.Accepts call :=
          (accepts_declare_iff p _ _).2 ⟨(get?_eq_none_iff p _).1 hget, _, rfl⟩
        obtain ⟨tree, hvalue, hstored⟩ := (p.answers call).stored haccepted
        obtain rfl := Except.ok.inj hvalue
        exact ⟨_, hstored, rfl⟩
  refine ⟨fun n => ?_, fun n tree htree => ?_⟩
  · by_cases hn : n = entity.id.toNat
    · obtain ⟨tree, htree, -⟩ := hown
      rw [hn, contains_eq, htree]
      exact iff_of_true rfl ⟨entity, by simp, rfl⟩
    · rw [contains_eq, hothers hn, ← contains_eq, h.declared]
      constructor
      · exact fun ⟨other, hother, hid⟩ => ⟨other, List.mem_append_left _ hother, hid⟩
      · rintro ⟨other, hother, rfl⟩
        rcases List.mem_append.1 hother with hother | hother
        · exact ⟨other, hother, rfl⟩
        · exact absurd (congrArg (·.id.toNat) (List.mem_singleton.1 hother)) hn
  · by_cases hn : n = entity.id.toNat
    · obtain ⟨other, hother, hkind⟩ := hown
      rw [hn, hother] at htree
      rwa [← Option.some.inj htree]
    · rw [hothers hn] at htree
      exact h.number n tree htree

/-- Calls that declare no gain leave the gains as they are. -/
theorem Parameters.Gained.after {p : Parameters} {entities : List Entity} (h : p.Gained entities)
    {calls : List ParameterCall} (hspared : ∀ n default, .declare (gainNameOf n) default ∉ calls) :
    (p.after calls).Gained entities := by
  have hkept := fun n => kind_after (p := p) (hspared n)
  refine ⟨fun n => ?_, fun n tree htree => ?_⟩
  · rw [← h.declared n, contains_eq, contains_eq, ← Option.isSome_map (f := Json.kind), hkept n,
      Option.isSome_map]
  · have hkind := hkept n
    rw [htree, Option.map_some, eq_comm, Option.map_eq_some_iff] at hkind
    obtain ⟨former, hformer, hsame⟩ := hkind
    rw [← hsame]
    exact h.number n former hformer

section Launches

variable {e : Engine cast}

theorem Operation.launches?_eq_some {env : Environment cast} {operation : Operation cast}
    {entity : Entity} (h : operation.launches? env = some entity) :
    ∃ spec : PluginSpec, operation = .loadAndAttach spec ∧ spec.entity = entity ∧
      env.loader.factories.find? spec.name = some (.builtin .accelerate) := by
  cases operation with
  | loadAndAttach spec =>
      unfold launches? at h
      simp only at h
      split at h
      · exact ⟨spec, rfl, Option.some.inj h, ‹_›⟩
      · cases h
  | _ => cases h

theorem sparesGains_append (past rest : List (Operation cast)) :
    e.SparesGains (past ++ rest) ↔
      e.SparesGains past ∧ (e.operateAll behavior past).SparesGains rest := by
  induction past generalizing e with
  | nil => exact (iff_of_eq (true_and _)).symm
  | cons operation past ih =>
      rw [List.cons_append, Engine.SparesGains, ih, Engine.SparesGains, and_assoc]
      rfl

/-- **What an operation does to the gains**: it declares that of its launch, if it launches. -/
theorem gained_operate (halive : e.env.orphaned = false) {entities : List Entity}
    (h : e.env.parameters.Gained entities) {operation : Operation cast}
    (hspares : operation.SparesGains e) :
    (e.operate behavior operation).env.parameters.Gained
      (entities ++ (operation.launches? e.env).toList) := by
  cases hlaunches : operation.launches? e.env with
  | some entity =>
      obtain ⟨spec, rfl, rfl, hfactory⟩ := Operation.launches?_eq_some hlaunches
      obtain ⟨journal, hlaunched⟩ := loadAndAttach_accelerate halive hfactory
      rw [Engine.operate, hlaunched]
      exact h.declare spec.entity
  | none =>
      obtain ⟨hkept, hspared⟩ := hspares hlaunches
      rw [parameters_operate behavior halive hkept, Option.toList_none, List.append_nil]
      exact h.after hspared

/-- What operations do to the gains, one after the other. -/
theorem gained_operateAll (halive : e.env.orphaned = false) {entities : List Entity}
    (h : e.env.parameters.Gained entities) {operations : List (Operation cast)}
    (hspares : e.SparesGains operations) :
    (e.operateAll behavior operations).env.parameters.Gained
      (entities ++ e.launchedFor operations) := by
  induction operations generalizing e entities with
  | nil =>
      rw [Engine.launchedFor, List.append_nil]
      exact h
  | cons operation rest ih =>
      have hstep := gained_operate halive h hspares.1
      have halive' := (accounts_operation (b := behavior) e halive operation).2
      rw [Engine.launchedFor, ← List.append_assoc]
      exact ih halive' hstep hspares.2

end Launches

theorem PluginSpec.isOk_propulsion?_iff (spec : PluginSpec) (world : Scene) :
    (spec.propulsion? world).isOk = false ↔
      spec.entity.isNull = true ∨ world.contains spec.entity = false ∨
        ∀ propulsion, spec.config.parse Propulsion.reader ≠ .ok propulsion := by
  unfold propulsion?
  split
  · rename_i habsent
    simp_all [Except.isOk, Except.toBool]
    tauto
  · rename_i hpresent
    cases spec.config.parse Propulsion.reader <;>
      simp_all [Except.isOk, Except.toBool, Except.mapError]

/--
What the launches of accelerating plugins come to in the course of a host.  The declared gains are
those for the entities that such plugins were launched for, and each is a number.  A launch puts one
new instance in the queue, and it is degraded if and only if its entity is null or not alive by
then, or its payload does not tell how to accelerate, or there was a launch for its entity before.
-/
structure Course.GainsTold (c : Course cast) : Prop where
  declared : ∀ n, (c.engine behavior).env.parameters.contains (gainNameOf n) = true ↔
    ∃ entity ∈ c.launchedFor, entity.id.toNat = n
  number : ∀ n tree, (c.engine behavior).env.parameters.get? (gainNameOf n) = some tree →
    tree.kind = .number
  degraded : ∀ past spec rest, c.operations = past ++ .loadAndAttach spec :: rest →
    let before : Course cast := ⟨c.memory, past⟩
    let e := before.engine behavior
    e.env.loader.factories.find? spec.name = some (.builtin .accelerate) →
    ∃ left i, e.loadAndAttach behavior spec = (.ok i.handle, left) ∧
      left.scheduler = { e.scheduler with pending := e.scheduler.pending ++ [i] } ∧
      i.entity = spec.entity ∧
      (i.degraded = true ↔
        (spec.entity.isNull = true ∨ e.env.world.contains spec.entity = false) ∨
        (∀ propulsion, spec.config.parse Propulsion.reader ≠ .ok propulsion) ∨
        spec.entity ∈ before.launchedFor)

/-- **Who is degraded, and which gains are declared**, whatever else the host does. -/
theorem gains_of_launches (c : Course cast) (h : c.SparesGains) : c.GainsTold := by
  have hgained : ∀ {past rest : List (Operation cast)}, c.operations = past ++ rest →
      ((Course.mk c.memory past).engine behavior).env.parameters.Gained
        (Course.launchedFor ⟨c.memory, past⟩) := fun hsplit => by
    rw [Course.SparesGains, hsplit] at h
    exact gained_operateAll rfl (.fresh c.memory) ((sparesGains_append _ _).1 h).1
  have hend := hgained (List.append_nil c.operations).symm
  refine ⟨hend.declared, hend.number, ?_⟩
  intro past spec rest hsplit before e hfactory
  have halive : e.env.orphaned = false :=
    (accounts_history (b := behavior) (Engine.fresh c.memory) rfl past).2
  obtain ⟨journal, hlaunched⟩ := loadAndAttach_accelerate halive hfactory
  let i : Instance cast := e.launchee spec ⟨e.env.nextHandle⟩
    ⟨⟨e.env.memory.nextSystem⟩, .plugin spec.name (some .counted)⟩
  refine ⟨_, i, hlaunched, rfl, rfl, ?_⟩
  show spec.isFaulty e.env.world e.env.parameters = true ↔ _
  rw [PluginSpec.isFaulty, Bool.or_eq_true, Bool.not_eq_true', spec.isOk_propulsion?_iff,
    (hgained hsplit).contains_iff, or_assoc, or_assoc, or_assoc]

namespace Cast

/-- A system for one entity is detached and replaced, and one is launched for a dead entity. -/
def relaunching : Course cast where
  memory := .empty
  operations :=
    [.arrange bare, .loadAndAttach (thruster ⟨1⟩), .loadAndAttach (thruster ⟨9⟩), .detach ⟨1⟩,
      .loadAndAttach (thruster ⟨1⟩), .step (.first .sixtieth),
      .run .full (performAll hostScope [.setParameter (gainName ⟨1⟩) (.ok (.ofNat 2))])]

/-- Whether a parameter is set, and not declared. -/
def isSetting : ParameterCall → Bool
  | .declare _ _ => false
  | .set _ _ => true

theorem sparesGains_relaunching : relaunching.SparesGains := by
  have hspares : ∀ {e : Engine cast} {operation : Operation cast},
      (∀ a, operation = .arrange a → a.parameters = e.env.parameters) →
      (e.parameterCalls behavior operation).all isSetting = true →
      operation.SparesGains e := fun hkept hsets _ =>
    ⟨hkept, fun n default hcall => Bool.false_ne_true (List.all_eq_true.1 hsets _ hcall)⟩
  have hlaunches : ∀ {e : Engine cast} {operation : Operation cast},
      (operation.launches? e.env).isSome = true → operation.SparesGains e := fun hsome hnone => by
    rw [hnone] at hsome
    cases hsome
  refine ⟨hspares (fun a ha => ?_) rfl, hlaunches (by decide +kernel),
    hlaunches (by decide +kernel), hspares (by rintro _ ⟨⟩) (by decide +kernel),
    hlaunches (by decide +kernel), hspares (by rintro _ ⟨⟩) (by decide +kernel),
    hspares (by rintro _ ⟨⟩) (by decide +kernel), trivial⟩
  obtain rfl := Operation.arrange.inj ha
  rfl

end Cast

theorem gains_of_launches_relaunching :
    Cast.relaunching.SparesGains ∧ Cast.relaunching.GainsTold ∧
    Cast.relaunching.launchedFor = [⟨1⟩, ⟨9⟩, ⟨1⟩] ∧
    let e := Cast.relaunching.engine behavior
    e.scheduler.all.map (fun i => (i.entity, i.degraded)) = [(⟨9⟩, true), (⟨1⟩, true)] ∧
    e.env.parameters.names = [gainName ⟨1⟩, gainName ⟨9⟩] := by
  have htold := gains_of_launches Cast.relaunching Cast.sparesGains_relaunching
  exact ⟨Cast.sparesGains_relaunching, htold, by decide +kernel, by decide +kernel⟩

end SimEngine
