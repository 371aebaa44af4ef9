import SimEngine.Proofs.Holdings

/-!
# Removals

A removal names a kind of data and takes away whatever is stored under the type
of that kind.  Where two kinds have one name, that may be data of the other
kind: it is gone, and the answer is that there was nothing.

**Definitions.**
* `Holdings.Filed`: all data is stored under the type of its kind.
* `World.Removal`: what a removal answers, what it leaves, and what it loses.

**Results.**
* `World.filed_after`: after any row of operations all data is stored so.
* `World.removal_of_kind`: every removal from every world.
* `World.remove_loses_data`: a removal that answers nothing and loses data.
-/

namespace SimEngine

variable {F : ComponentFamily}

/-- All data is stored under the type of its kind. -/
def Holdings.Filed (t : Holdings F) : Prop :=
  ∀ e type held, t.at? e type = some held → F.typeOf held.kind = type

/--
What a removal answers, what it leaves, and what it loses: data of another kind of the same type,
for which the answer is that there was nothing.
-/
structure World.Removal (w : World F) (e : Entity) (kind : F.Kind) : Prop where
  answer : ∀ value, (w.remove e kind).1 = some value ↔ w.get? e kind = some value
  holdings : (w.remove e kind).2.holdings =
    (Holdings.Change.cell e (F.typeOf kind) fun _ => none).apply w.holdings
  allocator : (w.remove e kind).2.allocator = w.allocator
  unchanged : (w.remove e kind).2 = w ↔ w.component? e (F.typeOf kind) = none
  lost : (w.remove e kind).1 = none ∧ (w.remove e kind).2 ≠ w ↔
    ∃ held, w.component? e (F.typeOf kind) = some held ∧ held.kind ≠ kind
  shared : ∀ operations, w = .after operations →
    (w.remove e kind).1 = none → (w.remove e kind).2 ≠ w →
    ∃ other, other ≠ kind ∧ F.typeOf other = F.typeOf kind ∧ (w.get? e other).isSome = true

section Filed

namespace Holdings

theorem at?_cell_self (t : Holdings F) (e : Entity) (type : ComponentId)
    (f : Option (Component F) → Option (Component F)) :
    ((Change.cell e type f).apply t).at? e type = (t e).bind fun held => f (held type) := by
  rw [at?, Change.apply, Change.entity, Function.update_self, Change.onRow]
  cases t e with
  | none => rfl
  | some held => exact Function.update_self type _ held

/-- An entity that begins has nothing, and one that ends keeps nothing. -/
theorem filed_row {t : Holdings F} (h : t.Filed) (e : Entity) {held? : Option (Holding F)}
    (hbare : ∀ held, held? = some held → ∀ type, held type = none) :
    ((Change.row e held?).apply t).Filed := by
  intro other type found hfound
  by_cases hother : other = e
  · rw [hother, at?, Change.apply, Change.entity, Function.update_self,
      Option.bind_eq_some_iff] at hfound
    obtain ⟨held, hheld, hfound⟩ := hfound
    rw [hbare held hheld type] at hfound
    cases hfound
  · have hfree : ¬ (Change.row e held?).Touches other type := hother
    rw [Change.at?_apply hfree] at hfound
    exact h other type found hfound

/-- Data stays under the type of its kind if what comes under a type belongs there. -/
theorem filed_cell {t : Holdings F} (h : t.Filed) (e : Entity) {type : ComponentId}
    {f : Option (Component F) → Option (Component F)}
    (hf : ∀ old?, (∀ old, old? = some old → F.typeOf old.kind = type) →
      ∀ new, f old? = some new → F.typeOf new.kind = type) :
    ((Change.cell e type f).apply t).Filed := by
  intro other found held hheld
  by_cases htouches : (Change.cell e type f).Touches other found
  · obtain ⟨rfl, rfl⟩ := htouches
    rw [at?_cell_self, Option.bind_eq_some_iff] at hheld
    obtain ⟨row, hrow, hheld⟩ := hheld
    refine hf (row found) (fun old hold => h other found old ?_) held hheld
    rw [at?, hrow]
    exact hold
  · rw [Change.at?_apply htouches] at hheld
    exact h other found held hheld

end Holdings

namespace World

/-- An operation stores data under the type of its kind only. -/
theorem filed_operate {w : World F} (h : w.holdings.Filed) (operation : WorldOperation F) :
    (w.operate operation).holdings.Filed := by
  cases operation with
  | spawn =>
      rw [holdings_operate rfl]
      refine Holdings.filed_row h _ fun held hheld type => ?_
      rw [← Option.some.inj hheld]
  | insert e kind value =>
      rw [holdings_operate rfl]
      refine Holdings.filed_cell h e fun old? _ new hnew => ?_
      rw [← Option.some.inj hnew]
  | remove e kind =>
      rw [operate, holdings_remove]
      refine Holdings.filed_cell h e fun old? _ new hnew => ?_
      cases hnew
  | write e kind value =>
      rw [holdings_operate rfl]
      refine Holdings.filed_cell h e fun old? hold new hnew => ?_
      obtain ⟨old, rfl, rfl⟩ := Option.map_eq_some_iff.1 hnew
      split
      · rfl
      · exact hold old rfl
  | despawn e =>
      rw [holdings_operate rfl]
      refine Holdings.filed_row h e fun held hheld => ?_
      cases hheld

/-- **All data is stored under the type of its kind**, after any row of operations. -/
theorem filed_after (operations : List (WorldOperation F)) :
    (after operations).holdings.Filed := by
  induction operations using List.reverseRecOn with
  | nil =>
      intro e type held hheld
      cases hheld
  | append_singleton past operation ih =>
      rw [after_concat]
      exact filed_operate ih operation

end World

end Filed

section Removals

namespace World

variable (w : World F) (e : Entity) (kind : F.Kind)

/-- A removal changes a world exactly if something is stored under the type. -/
theorem remove_eq_self_iff :
    (w.remove e kind).2 = w ↔ w.component? e (F.typeOf kind) = none := by
  constructor
  · intro hsame
    rw [← at?_holdings, ← hsame, holdings_remove, Holdings.at?_cell_self]
    cases w.holdings e <;> rfl
  · intro habsent
    rw [remove, habsent]

/--
**What a removal answers, what it leaves, and what it loses.**  It answers with the data that was to
be read.  It takes away what is stored under the type of the kind and nothing else.  If it answers
nothing, the world is as it was, unless data of another kind is stored under that type: that data is
gone.  In a world that operations have led to, this takes two kinds of one type.
-/
theorem removal_of_kind : w.Removal e kind := by
  have hlost : (w.remove e kind).1 = none ∧ (w.remove e kind).2 ≠ w ↔
      ∃ held, w.component? e (F.typeOf kind) = some held ∧ held.kind ≠ kind := by
    rw [ne_eq, remove_eq_self_iff, remove_eq, get?_eq_none_iff, ← ne_eq,
      Option.ne_none_iff_exists']
    constructor
    · rintro ⟨hother, held, hheld⟩
      exact ⟨held, hheld, hother held hheld⟩
    · rintro ⟨held, hheld, hother⟩
      refine ⟨fun found hfound => ?_, held, hheld⟩
      rw [hheld] at hfound
      exact Option.some.inj hfound ▸ hother
  constructor
  case answer => exact fun value => by rw [remove_eq]
  case holdings => exact w.holdings_remove e kind
  case allocator => rw [remove_eq]; rfl
  case unchanged => exact w.remove_eq_self_iff e kind
  case lost => exact hlost
  case shared =>
    intro operations hafter hnone hchanged
    obtain ⟨⟨other, value⟩, hheld, hother⟩ := hlost.1 ⟨hnone, hchanged⟩
    rw [← at?_holdings] at hheld
    have htype : F.typeOf other = F.typeOf kind := by
      rw [hafter] at hheld
      exact filed_after operations e _ _ hheld
    refine ⟨other, hother, htype, ?_⟩
    rw [(w.get?_eq_some_iff e other value).2 (htype ▸ hheld)]
    rfl

namespace Mistaken

/-- An entity with data of a kind whose type another kind has, too. -/
def world : World sceneData :=
  after [.spawn, .insert ⟨1⟩ DataKind.count (7 : Int)]

end Mistaken

/-- A removal answers that there was nothing, and data that was to be read is gone. -/
theorem remove_loses_data :
    Mistaken.world.get? ⟨1⟩ DataKind.count = some (7 : Int) ∧
    (Mistaken.world.remove ⟨1⟩ DataKind.alias).1 = none ∧
    (Mistaken.world.remove ⟨1⟩ DataKind.alias).2.get? ⟨1⟩ DataKind.count = none ∧
    (Mistaken.world.remove ⟨1⟩ DataKind.alias).2 ≠ Mistaken.world := by
  have hbefore : Mistaken.world.get? ⟨1⟩ DataKind.count = some (7 : Int) := by decide +kernel
  have hafter : (Mistaken.world.remove ⟨1⟩ DataKind.alias).2.get? ⟨1⟩ DataKind.count = none := by
    decide +kernel
  refine ⟨hbefore, by decide +kernel, hafter, fun hsame => ?_⟩
  rw [hsame, hbefore] at hafter
  cases hafter

end World

end Removals

end SimEngine
