import SimEngine.Proofs.Removals
import SimEngine.Proofs.Signatures

/-!
# Answers to queries

A query is answered with the living entities that have its signature, in
ascending order, each once.  A signature that contradicts itself is answered at
once; whoever asked every entity would find none.  Who demands more is answered
with fewer entities, in the same order.

What an entity carries can be told from what was done to the world: data was put
there while the entity was alive, and it was not taken away since.

**Definitions.**
* `WorldOperation.Fills`, `WorldOperation.Clears`: an operation puts data under
  a type, or takes away what is there.
* `World.Carried`: what an entity carries after a row of operations.
* `World.Answers`: how a query is answered.

**Results.**
* `World.hasType_operate`: what one operation does to what an entity carries.
* `World.hasType_after_iff`: what any row of operations does.
* `World.query_eq_filter`: a query finds out as much as a look at every entity.
* `World.sublist_query`: who demands more.
* `World.queries_answered`: how any query of any world is answered.
-/

namespace SimEngine

variable {F : ComponentFamily}

namespace WorldOperation

/-- An operation puts data under a type of a living entity. -/
def Fills (w : World F) (e : Entity) (type : ComponentId) : WorldOperation F → Prop
  | .insert target kind _ => e = target ∧ type = F.typeOf kind ∧ w.contains e = true
  | _ => False

/-- An operation takes away what is under a type; an entity that begins has nothing. -/
def Clears (w : World F) (e : Entity) (type : ComponentId) : WorldOperation F → Prop
  | .spawn => e = w.spawn.1
  | .remove target kind => e = target ∧ type = F.typeOf kind
  | .despawn target => e = target
  | _ => False

end WorldOperation

namespace World

/-- After a row of operations an entity carries a type: it was filled, and not cleared since. -/
inductive Carried (e : Entity) (type : ComponentId) : List (WorldOperation F) → Prop
  | filled {past operation} : operation.Fills (after past) e type →
      Carried e type (past ++ [operation])
  | kept {past operation} : Carried e type past → ¬ operation.Clears (after past) e type →
      Carried e type (past ++ [operation])

/--
A query is answered with exactly the living entities that carry all that is required and nothing
that is excluded, and with fewer if more is demanded.
-/
structure Answers (w : World F) (s : Signature) : Prop where
  exact : ∀ e, e ∈ w.query s ↔ w.contains e = true ∧
    (∀ type ∈ s.required, w.hasType e type = true) ∧
    ∀ type ∈ s.excluded, w.hasType e type = false
  ascending : (w.query s).Pairwise (· < ·)
  distinct : (w.query s).Nodup
  scanned : w.query s = w.living.filter (w.satisfies s)
  narrowed : ∀ narrower : Signature, s.required ⊆ narrower.required →
    s.excluded ⊆ narrower.excluded → (w.query narrower).Sublist (w.query s)
  required : ∀ type, (w.query (s.require type)).Sublist (w.query s)
  excluded : ∀ type, (w.query (s.exclude type)).Sublist (w.query s)

section Carrying

variable {w : World F} {e : Entity} {type : ComponentId}

theorem hasType_iff : w.hasType e type = true ↔ ∃ held, w.holdings.at? e type = some held := by
  rw [hasType, ← at?_holdings, Option.isSome_iff_exists]

/-- Only living entities carry anything. -/
theorem contains_of_hasType (h : w.hasType e type = true) : w.contains e = true := by
  obtain ⟨held, hheld⟩ := hasType_iff.1 h
  obtain ⟨row, hrow, -⟩ := Option.bind_eq_some_iff.1 hheld
  rw [← isSome_holdings, hrow]
  rfl

/-- An operation that neither fills a place nor clears it leaves it as it is. -/
theorem hasType_of_untouched {w' : World F} {c : Holdings.Change F}
    (h : w'.holdings = c.apply w.holdings) (hfree : ¬ c.Touches e type) :
    w'.hasType e type = w.hasType e type := by
  rw [hasType, hasType, ← at?_holdings, ← at?_holdings, h, Holdings.Change.at?_apply hfree]

/-- An entity carries nothing when it begins, and nothing once it has ended. -/
theorem hasType_of_row {w' : World F} {held? : Option (Holding F)}
    (h : w'.holdings = (Holdings.Change.row e held?).apply w.holdings)
    (hbare : ∀ held, held? = some held → ∀ type, held type = none) :
    w'.hasType e type = false := by
  refine Bool.eq_false_of_not_eq_true fun hsome => ?_
  obtain ⟨held, hheld⟩ := hasType_iff.1 hsome
  rw [h, Holdings.at?, Holdings.Change.apply, Holdings.Change.entity, Function.update_self,
    Option.bind_eq_some_iff] at hheld
  obtain ⟨row, hrow, hheld⟩ := hheld
  rw [hbare row hrow] at hheld
  cases hheld

/-- What is under a type is changed in living entities only. -/
theorem hasType_of_cell {w' : World F} {f : Option (Component F) → Option (Component F)}
    (h : w'.holdings = (Holdings.Change.cell e type f).apply w.holdings) :
    w'.hasType e type = ((w.holdings e).bind fun held => f (held type)).isSome := by
  rw [hasType, ← at?_holdings, h, Holdings.at?_cell_self]

/-- **What one operation does to what an entity carries.** -/
theorem hasType_operate (operation : WorldOperation F) :
    (w.operate operation).hasType e type = true ↔
      operation.Fills w e type ∨ w.hasType e type = true ∧ ¬ operation.Clears w e type := by
  cases operation with
  | spawn =>
      have hchange : (w.operate .spawn).holdings = _ := holdings_operate rfl
      by_cases hbegun : e = w.spawn.1
      · have hbare : (w.operate .spawn).hasType w.spawn.1 type = false :=
          hasType_of_row hchange fun held hheld _ => by rw [← Option.some.inj hheld]
        simp [WorldOperation.Fills, WorldOperation.Clears, hbegun, hbare]
      · simp [WorldOperation.Fills, WorldOperation.Clears, hbegun,
          hasType_of_untouched hchange hbegun]
  | insert target kind value =>
      have hchange : (w.operate (.insert target kind value)).holdings = _ := holdings_operate rfl
      by_cases hput : e = target ∧ type = F.typeOf kind
      · obtain ⟨rfl, rfl⟩ := hput
        -- Nothing can be put under a type of an entity that is not alive.
        have hself : (w.operate (.insert e kind value)).hasType e (F.typeOf kind) =
            w.contains e := by
          rw [hasType_of_cell hchange, ← isSome_holdings]
          cases w.holdings e <;> rfl
        simpa [WorldOperation.Fills, WorldOperation.Clears, hself] using contains_of_hasType
      · have hfree := hasType_of_untouched hchange hput
        simp only [hfree, WorldOperation.Fills, WorldOperation.Clears]
        tauto
  | remove target kind =>
      have hchange := w.holdings_remove target kind
      by_cases htaken : e = target ∧ type = F.typeOf kind
      · obtain ⟨rfl, rfl⟩ := htaken
        have hself : (w.remove e kind).2.hasType e (F.typeOf kind) = false := by
          rw [hasType_of_cell hchange]
          cases w.holdings e <;> rfl
        simp [WorldOperation.Fills, WorldOperation.Clears, operate, hself]
      · have hfree := hasType_of_untouched hchange htaken
        simp only [operate, hfree, WorldOperation.Fills, WorldOperation.Clears]
        tauto
  | write target kind value =>
      have hsame : (w.operate (.write target kind value)).hasType e type = w.hasType e type := by
        rw [operate]
        cases hwritten : w.set? target kind value with
        | none => rfl
        | some w' => exact hasType_set? hwritten e type
      simp [WorldOperation.Fills, WorldOperation.Clears, hsame]
  | despawn target =>
      have hchange : (w.operate (.despawn target)).holdings = _ := holdings_operate rfl
      by_cases hended : e = target
      · subst hended
        have hbare : (w.operate (.despawn e)).hasType e type = false :=
          hasType_of_row hchange fun held hheld => by cases hheld
        simp [WorldOperation.Fills, WorldOperation.Clears, hbare]
      · simp [WorldOperation.Fills, WorldOperation.Clears, hended,
          hasType_of_untouched hchange hended]

theorem carried_concat {past : List (WorldOperation F)} {operation : WorldOperation F} :
    Carried e type (past ++ [operation]) ↔
      operation.Fills (after past) e type ∨
        Carried e type past ∧ ¬ operation.Clears (after past) e type := by
  constructor
  · intro h
    generalize hrow : past ++ [operation] = row at h
    cases h with
    | filled hfills =>
        obtain ⟨rfl, hlast⟩ := List.append_inj' hrow rfl
        obtain rfl := List.singleton_inj.1 hlast
        exact .inl hfills
    | kept hcarried hclears =>
        obtain ⟨rfl, hlast⟩ := List.append_inj' hrow rfl
        obtain rfl := List.singleton_inj.1 hlast
        exact .inr ⟨hcarried, hclears⟩
  · rintro (hfills | ⟨hcarried, hclears⟩)
    · exact .filled hfills
    · exact .kept hcarried hclears

/-- **What an entity carries after any row of operations.** -/
theorem hasType_after_iff (operations : List (WorldOperation F)) :
    (after operations).hasType e type = true ↔ Carried e type operations := by
  induction operations using List.reverseRecOn with
  | nil =>
      refine iff_of_false (fun h => nomatch h) fun h => ?_
      generalize hrow : [] = row at h
      cases h <;> simp at hrow
  | append_singleton past operation ih =>
      rw [after_concat, hasType_operate, ih, carried_concat]

end Carrying

section Answers

variable (w : World F) (s : Signature)

/-- **A query finds out as much as a look at every entity**, also if it is answered at once. -/
theorem query_eq_filter : w.query s = w.living.filter (w.satisfies s) := by
  rw [query]
  split
  case isTrue hcontradictory =>
    refine (List.filter_eq_nil_iff.2 fun e _ hmet => ?_).symm
    rw [satisfies, s.isContradictory_iff_unsatisfied.1 hcontradictory] at hmet
    cases hmet
  case isFalse => rfl

theorem mem_query_iff (e : Entity) :
    e ∈ w.query s ↔ w.contains e = true ∧
      (∀ type ∈ s.required, w.hasType e type = true) ∧
      ∀ type ∈ s.excluded, w.hasType e type = false := by
  rw [query_eq_filter, List.mem_filter, contains_iff, satisfies, s.satisfiedBy_iff]

theorem nodup_living : w.living.Nodup := by
  refine w.entities.ascending_keys.imp ?_
  rintro e _ hlt rfl
  exact OrderedKey.irrefl e hlt

variable {s}

/-- **Who demands more** is answered with some of the same entities, in the same order. -/
theorem sublist_query {narrower : Signature} (hrequired : s.required ⊆ narrower.required)
    (hexcluded : s.excluded ⊆ narrower.excluded) :
    (w.query narrower).Sublist (w.query s) := by
  rw [query_eq_filter, query_eq_filter]
  refine List.monotone_filter_right _ fun e hmet => ?_
  obtain ⟨hhas, hlacks⟩ := (narrower.satisfiedBy_iff _).1 hmet
  exact (s.satisfiedBy_iff _).2
    ⟨fun type h => hhas type (hrequired h), fun type h => hlacks type (hexcluded h)⟩

theorem subset_adjoin (types : List ComponentId) (type : ComponentId) :
    types ⊆ Signature.adjoin types type := by
  rw [Signature.adjoin]
  split
  · exact List.Subset.refl types
  · exact List.subset_append_left types [type]

variable (s)

/-- **How any query of any world is answered.** -/
theorem answers_query : w.Answers s where
  exact := w.mem_query_iff s
  ascending := w.query_ascending s
  distinct := w.query_eq_filter s ▸ w.nodup_living.filter _
  scanned := w.query_eq_filter s
  narrowed _ := w.sublist_query
  required type := w.sublist_query (subset_adjoin _ type) (List.Subset.refl _)
  excluded type := w.sublist_query (List.Subset.refl _) (subset_adjoin _ type)

end Answers

/--
**Queries are answered with exactly the living entities that have the signature**, in ascending
order, whatever the two lists of the signature are, and with fewer of them if more is demanded.  In
a world that operations have led to, those entities are alive that were begun and not ended, and
they carry the types under which data was put and not taken away since.
-/
theorem queries_answered (w : World F) (s : Signature) :
    w.Answers s ∧
    ∀ operations, w = after operations →
      (∀ e type, w.hasType e type = true ↔ Carried e type operations) ∧
      (spawns operations < 2 ^ 64 - 1 → ∀ e, w.contains e = true ↔
        e ∈ spawned operations ∧ e ∉ despawned operations) := by
  refine ⟨w.answers_query s, ?_⟩
  rintro operations rfl
  refine ⟨fun e type => hasType_after_iff operations, fun hfew e => ?_⟩
  rw [contains_iff]
  exact (register_after (Nat.add_lt_of_lt_sub hfew)).living e

namespace Named

/-- Of three entities with names one has lost its name, and one has ended. -/
def operations : List (WorldOperation sceneData) :=
  [.spawn, .spawn, .spawn, .insert ⟨1⟩ DataKind.name "first", .insert ⟨1⟩ DataKind.count (1 : Int),
    .insert ⟨2⟩ DataKind.name "second", .insert ⟨3⟩ DataKind.name "third", .despawn ⟨3⟩,
    .remove ⟨1⟩ DataKind.name]

/-- A name is required, twice over, and a count is excluded. -/
def signature : Signature where
  required := [sceneData.typeOf DataKind.name, sceneData.typeOf DataKind.name]
  excluded := [sceneData.typeOf DataKind.count]

end Named

/-- One entity has a name and no count: the one that has kept its name and lives. -/
theorem queries_answered_named :
    spawns Named.operations < 2 ^ 64 - 1 ∧
    (after Named.operations).query Named.signature = [⟨2⟩] ∧
    (after Named.operations).query
      (Named.signature.require (sceneData.typeOf DataKind.count)) = [] ∧
    Carried ⟨2⟩ (sceneData.typeOf DataKind.name) Named.operations ∧
    ¬ Carried ⟨1⟩ (sceneData.typeOf DataKind.name) Named.operations ∧
    ∀ e, (after Named.operations).contains e = true ↔
      e ∈ spawned Named.operations ∧ e ∉ despawned Named.operations := by
  have hfew : spawns Named.operations < 2 ^ 64 - 1 := by decide
  obtain ⟨hanswers, hpast⟩ := queries_answered (after Named.operations) Named.signature
  obtain ⟨hcarried, halive⟩ := hpast Named.operations rfl
  have hquery : (after Named.operations).query Named.signature = [⟨2⟩] := by decide +kernel
  have hlisted : ⟨2⟩ ∈ (after Named.operations).query Named.signature := by
    rw [hquery]
    exact List.mem_singleton_self _
  have hkept : Carried ⟨2⟩ (sceneData.typeOf DataKind.name) Named.operations :=
    (hcarried _ _).1 (((hanswers.exact ⟨2⟩).1 hlisted).2.1 _ List.mem_cons_self)
  have hlost : ¬ Carried ⟨1⟩ (sceneData.typeOf DataKind.name) Named.operations :=
    mt (hcarried _ _).2 (by decide +kernel)
  exact ⟨hfew, hquery, by decide +kernel, hkept, hlost, halive hfew⟩

end World
end SimEngine
