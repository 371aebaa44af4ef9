import Mathlib.Data.Set.Card
import SimEngine.Proofs.Lifetimes
import SimEngine.Store

/-!
# Holdings

A world keeps a map of maps, and its data under the types that names hash to.
Who works with it need not know: it behaves as one map, from living entities and
component types to data of some kind.  That map tells what an operation answers
and what it changes, and it answers whatever can be asked of a world, be it
asked directly or as a store.

**Definitions.**
* `Holdings`, `World.holdings`: such a map, and the one that a world stands for.
* `Holdings.Change`, `WorldOperation.change`: what an operation does to the map.
* `Ledger`: the map, with the number of entities that were begun.
* `WorldOperation.fits`: whether an operation takes away no data of another kind
  than the one it names.
* `World.ReadsAs`: whatever can be asked of a world is answered from a map.
* `World.ActsAs`: so it is, and so are the worlds that operations lead to.

**Results.**
* `World.entities_eq_of_holdings`: a world holds nothing but its map.
* `Holdings.Change.apply_comm`: changes of different keys commute.
* `World.holdings_operate`: what an operation does to the map of a world.
* `World.spares_operate`, `World.commute_operate`: operations on different keys.
* `World.tallies_operate`, `World.tallies_after`: a world and its ledger, after
  one operation and after any row of them.
* `World.acts_as_map`: what a world answers and becomes.
-/

namespace SimEngine

variable {F : ComponentFamily}

/-- What a living entity holds under each component type. -/
abbrev Holding (F : ComponentFamily) : Type :=
  ComponentId → Option (Component F)

/-- A map from living entities and component types to data; who is not alive has no row in it. -/
abbrev Holdings (F : ComponentFamily) : Type :=
  Entity → Option (Holding F)

namespace Holdings

/-- What is held under a key. -/
def at? (t : Holdings F) (e : Entity) (type : ComponentId) : Option (Component F) :=
  (t e).bind fun held => held type

/-- A change of the map. -/
inductive Change (F : ComponentFamily) where
  /-- An entity begins or ends. -/
  | row (e : Entity) (held? : Option (Holding F))
  /-- What an entity holds under one type changes, if the entity is alive. -/
  | cell (e : Entity) (type : ComponentId) (f : Option (Component F) → Option (Component F))

namespace Change

/-- The entity that a change is about. -/
def entity : Change F → Entity
  | .row e _ => e
  | .cell e _ _ => e

/-- What becomes of the row of that entity. -/
def onRow : Change F → Option (Holding F) → Option (Holding F)
  | .row _ held?, _ => held?
  | .cell _ type f, old => old.map fun held => Function.update held type (f (held type))

/-- The map after a change. -/
def apply (c : Change F) (t : Holdings F) : Holdings F :=
  Function.update t c.entity (c.onRow (t c.entity))

/-- Whether a change is about a key. -/
def Touches (e : Entity) (type : ComponentId) : Change F → Prop
  | .row changed _ => e = changed
  | .cell changed changedType _ => e = changed ∧ type = changedType

/-- No key is touched by both of two changes. -/
def Apart (c d : Change F) : Prop :=
  ∀ e type, ¬ (c.Touches e type ∧ d.Touches e type)

end Change
end Holdings

namespace WorldOperation

/-- What an operation does to the map of a world, given the entity that would be begun next. -/
def change (next : Entity) : WorldOperation F → Holdings.Change F
  | .spawn => .row next (some fun _ => none)
  | .insert e kind value => .cell e (F.typeOf kind) fun _ => some ⟨kind, value⟩
  | .remove e kind => .cell e (F.typeOf kind) (Option.filter fun held => held.kind ≠ kind)
  | .write e kind value =>
    .cell e (F.typeOf kind)
      (Option.map fun held => if held.kind = kind then ⟨kind, value⟩ else held)
  | .despawn e => .row e none

/-- What an operation is answered with. -/
def Reply : WorldOperation F → Type
  | .spawn => Entity
  | .insert _ _ _ => Except WorldError Unit
  | .remove _ kind => Option (F.Value kind)
  | .write _ _ _ => Bool
  | .despawn _ => Except WorldError Unit

/-- Whether an operation takes away no data of another kind than the one it names. -/
def fits (w : World F) : WorldOperation F → Bool
  | .remove e kind => (w.component? e (F.typeOf kind)).all fun held => held.kind = kind
  | _ => true

end WorldOperation

/-- The map of a world, and how many entities were begun. -/
structure Ledger (F : ComponentFamily) where
  spawns : Nat
  holdings : Holdings F

namespace Ledger

/-- The ledger of a world without entities. -/
def empty : Ledger F := ⟨0, fun _ => none⟩

/-- The entity that is begun next. -/
def next (l : Ledger F) : Entity := ⟨UInt64.ofNat (l.spawns + 1)⟩

/-- What an operation is answered with. -/
def reply (l : Ledger F) : (operation : WorldOperation F) → operation.Reply
  | .spawn => l.next
  | .insert e _ _ => if (l.holdings e).isSome then .ok () else .error (.entityNotFound e)
  | .remove e kind => (l.holdings.at? e (F.typeOf kind)).bind (·.as? kind)
  | .write e kind _ => ((l.holdings.at? e (F.typeOf kind)).bind (·.as? kind)).isSome
  | .despawn e => if (l.holdings e).isSome then .ok () else .error (.entityNotFound e)

/-- The ledger after an operation. -/
def operate (l : Ledger F) (operation : WorldOperation F) : Ledger F where
  spawns := if operation.isSpawn then l.spawns + 1 else l.spawns
  holdings := (operation.change l.next).apply l.holdings

/-- The ledger after a row of operations. -/
def after (operations : List (WorldOperation F)) : Ledger F :=
  operations.foldl operate .empty

end Ledger

namespace World

/-- The map that a world stands for. -/
def holdings (w : World F) : Holdings F :=
  fun e => (w.entities.find? e).map fun components => components.find?

/-- What an operation is answered with. -/
def reply (w : World F) : (operation : WorldOperation F) → operation.Reply
  | .spawn => w.spawn.1
  | .insert e kind value => (w.insert e kind value).map fun _ => ()
  | .remove e kind => (w.remove e kind).1
  | .write e kind value => (w.set? e kind value).isSome
  | .despawn e => (w.despawn e).map fun _ => ()

/-- Whether no operation of a row takes away data of another kind than the one it names. -/
def allFit : World F → List (WorldOperation F) → Bool
  | _, [] => true
  | w, operation :: rest => operation.fits w && allFit (w.operate operation) rest

/-- An operation leaves alone what it is not about. -/
def Spares (w : World F) (operation : WorldOperation F) : Prop :=
  ∀ e type, ¬ (operation.change w.spawn.1).Touches e type →
    (w.operate operation).component? e type = w.component? e type ∧
    (w.operate operation).contains e = w.contains e

/-- It makes no difference which of two operations comes first. -/
structure Commute (w : World F) (a b : WorldOperation F) : Prop where
  after : (w.operate a).operate b = (w.operate b).operate a
  first : (w.operate b).reply a = w.reply a
  second : (w.operate a).reply b = w.reply b

/-- A world and its ledger. -/
structure Tallies (w : World F) (l : Ledger F) : Prop where
  next : w.spawn.1 = l.next
  holdings : w.holdings = l.holdings

/-- Whatever can be asked of a world is answered from a map. -/
structure ReadsAs (w : World F) (t : Holdings F) : Prop where
  get? : ∀ e kind value,
    w.get? e kind = some value ↔ t.at? e (F.typeOf kind) = some ⟨kind, value⟩
  read? : ∀ e kind value,
    store.read? w e kind = some value ↔ t.at? e (F.typeOf kind) = some ⟨kind, value⟩
  write? : ∀ e kind value, store.write? w e kind value = w.set? e kind value
  component? : ∀ e type, w.component? e type = t.at? e type
  hasType : ∀ e type, w.hasType e type = (t.at? e type).isSome
  carries : ∀ e kind, store.carries w e kind = (t.at? e (F.typeOf kind)).isSome
  contains : ∀ e, w.contains e = (t e).isSome
  living : ∀ e, e ∈ w.living ↔ (t e).isSome = true
  ascending : w.living.Pairwise (· < ·)
  entityCount : {e | (t e).isSome = true}.Finite ∧
    w.entityCount = {e | (t e).isSome = true}.ncard
  componentCount : ∀ e, {type | (t.at? e type).isSome = true}.Finite ∧
    w.componentCount e = {type | (t.at? e type).isSome = true}.ncard

/-- A world behaves as a map. -/
structure ActsAs (w : World F) (t : Holdings F) : Prop where
  reads : w.ReadsAs t
  determined : ∀ w' : World F, w'.ReadsAs t → w'.entities = w.entities
  insert : ∀ e kind value, t e = none → w.operate (.insert e kind value) = w
  write : ∀ e kind value, (∀ old, t.at? e (F.typeOf kind) ≠ some ⟨kind, old⟩) →
    w.operate (.write e kind value) = w
  despawn : ∀ e, t e = none → w.operate (.despawn e) = w
  operate : ∀ operation : WorldOperation F, operation.fits w = true →
    (w.operate operation).ReadsAs ((operation.change w.spawn.1).apply t)
  spares : ∀ operation : WorldOperation F, operation.fits w = true → w.Spares operation
  commute : ∀ a b : WorldOperation F, a.fits w = true → b.fits w = true →
    (a.change w.spawn.1).Apart (b.change w.spawn.1) → w.Commute a b

end World

section Changes

namespace Holdings.Change

theorem exists_touches (c : Change F) : ∃ type, c.Touches c.entity type := by
  cases c with
  | row e held? => exact ⟨⟨0⟩, rfl⟩
  | cell e type f => exact ⟨type, rfl, rfl⟩

/-- A change leaves what is held under other keys as it is. -/
theorem at?_apply {c : Change F} {e : Entity} {type : ComponentId} (h : ¬ c.Touches e type)
    (t : Holdings F) : (c.apply t).at? e type = t.at? e type := by
  by_cases he : e = c.entity
  · cases c with
    | row changed held? => exact absurd he h
    | cell changed changedType f =>
        have htype : type ≠ changedType := fun heq => h ⟨he, heq⟩
        obtain rfl : e = changed := he
        rw [at?, at?, apply, entity, Function.update_self]
        cases t e with
        | none => rfl
        | some held => exact Function.update_of_ne htype _ held
  · rw [at?, at?, apply, Function.update_of_ne he]

/-- A change leaves who is alive under other keys as it is. -/
theorem isSome_apply {c : Change F} {e : Entity} {type : ComponentId} (h : ¬ c.Touches e type)
    (t : Holdings F) : (c.apply t e).isSome = (t e).isSome := by
  by_cases he : e = c.entity
  · cases c with
    | row changed held? => exact absurd he h
    | cell changed changedType f =>
        obtain rfl : e = changed := he
        rw [apply, entity, Function.update_self, onRow, Option.isSome_map]
  · rw [apply, Function.update_of_ne he]

/-- Changes of different keys of one row commute. -/
theorem onRow_comm {c d : Change F} (h : c.Apart d) (hsame : c.entity = d.entity)
    (old : Option (Holding F)) : c.onRow (d.onRow old) = d.onRow (c.onRow old) := by
  cases c with
  | row e held? =>
      obtain ⟨type, htouches⟩ := d.exists_touches
      have hsame : e = d.entity := hsame
      exact absurd ⟨rfl, hsame ▸ htouches⟩ (h e type)
  | cell e type f =>
      cases d with
      | row e' held? =>
          exact absurd ⟨⟨rfl, rfl⟩, hsame⟩ (h e type)
      | cell e' other g =>
          have hne : type ≠ other := fun heq => h e type ⟨⟨rfl, rfl⟩, hsame, heq⟩
          cases old with
          | none => rfl
          | some held =>
              simp only [onRow, Option.map_some, Function.update_of_ne hne,
                Function.update_of_ne hne.symm, Function.update_comm hne]

/-- **Changes of different keys commute.** -/
theorem apply_comm {c d : Change F} (h : c.Apart d) (t : Holdings F) :
    c.apply (d.apply t) = d.apply (c.apply t) := by
  by_cases he : c.entity = d.entity
  · have hrows := onRow_comm h he (t c.entity)
    simp only [apply, ← he, Function.update_self, Function.update_idem, hrows]
  · simp only [apply, Function.update_of_ne he, Function.update_of_ne (Ne.symm he)]
    exact Function.update_comm (Ne.symm he) _ _ t

end Holdings.Change

end Changes

section Worlds

/-- The size of a map is the number of keys that have a value. -/
theorem OrderedMap.size_eq_ncard {κ β : Type} [OrderedKey κ] (m : OrderedMap κ β) :
    {key | (m.find? key).isSome = true}.Finite ∧
      m.size = {key | (m.find? key).isSome = true}.ncard := by
  classical
  have hkeys : {key | (m.find? key).isSome = true} = (m.keys.toFinset : Set κ) := by
    ext key
    simp [m.mem_keys_iff, Option.isSome_iff_exists]
  have hnodup : m.keys.Nodup := by
    refine m.ascending_keys.imp ?_
    rintro key _ hlt rfl
    exact OrderedKey.irrefl key hlt
  rw [hkeys, Set.ncard_coe_finset, List.toFinset_card_of_nodup hnodup, keys, List.length_map]
  exact ⟨Finset.finite_toSet _, rfl⟩

variable (w : World F)

theorem Component.as?_eq_some_iff {c : Component F} {kind : F.Kind} {value : F.Value kind} :
    c.as? kind = some value ↔ c = ⟨kind, value⟩ := by
  obtain ⟨k, v⟩ := c
  unfold Component.as?
  constructor
  · intro h
    split at h
    · rename_i hkind
      obtain rfl : k = kind := hkind
      obtain rfl : v = value := Option.some.inj h
      rfl
    · cases h
  · rintro ⟨⟩
    exact dif_pos rfl

namespace World

theorem at?_holdings (e : Entity) (type : ComponentId) :
    w.holdings.at? e type = w.component? e type := by
  rw [Holdings.at?, holdings, component?]
  cases w.entities.find? e <;> rfl

theorem isSome_holdings (e : Entity) : (w.holdings e).isSome = w.contains e := by
  rw [holdings, Option.isSome_map, contains, OrderedMap.contains]

/-- A world holds nothing but its map. -/
theorem entities_eq_of_holdings {w w' : World F} (h : w.holdings = w'.holdings) :
    w.entities = w'.entities := by
  refine OrderedMap.eq_of_find? fun e => ?_
  have hrow := congrFun h e
  simp only [holdings] at hrow
  cases hfind : w.entities.find? e <;> cases hfind' : w'.entities.find? e
  · rfl
  · rw [hfind, hfind'] at hrow
    cases hrow
  · rw [hfind, hfind'] at hrow
    cases hrow
  · rw [hfind, hfind'] at hrow
    exact congrArg some (OrderedMap.eq_of_find? fun type => congrFun (Option.some.inj hrow) type)

theorem eq_of_holdings {w w' : World F} (hallocator : w.allocator = w'.allocator)
    (hholdings : w.holdings = w'.holdings) : w = w' := by
  have hentities := entities_eq_of_holdings hholdings
  obtain ⟨allocator, entities⟩ := w
  obtain rfl : allocator = w'.allocator := hallocator
  obtain rfl : entities = w'.entities := hentities
  rfl

/-- A map is changed if one row of it is. -/
theorem holdings_eq_apply {w w' : World F} {c : Holdings.Change F}
    (hself : w'.holdings c.entity = c.onRow (w.holdings c.entity))
    (hother : ∀ e, e ≠ c.entity → w'.entities.find? e = w.entities.find? e) :
    w'.holdings = c.apply w.holdings := by
  funext e
  rw [Holdings.Change.apply]
  by_cases he : e = c.entity
  · rw [he, Function.update_self, hself]
  · rw [Function.update_of_ne he, holdings, holdings, hother e he]

theorem holdings_spawn :
    w.spawn.2.holdings =
      (Holdings.Change.row w.spawn.1 (some fun _ => none)).apply w.holdings := by
  refine holdings_eq_apply ?_ fun e he => OrderedMap.find?_insert_of_ne _ he ∅
  exact congrArg (Option.map _) (OrderedMap.find?_insert_self _ _ ∅)

theorem holdings_erase (e : Entity) :
    (⟨w.allocator, w.entities.erase e⟩ : World F).holdings =
      (Holdings.Change.row e none).apply w.holdings := by
  refine holdings_eq_apply ?_ fun other he => OrderedMap.find?_erase_of_ne _ he
  exact congrArg (Option.map _) (OrderedMap.find?_erase_self _ e)

/-- What becomes of the map if one component of an entity is changed. -/
theorem holdings_modifyEntity (e : Entity) {type : ComponentId}
    {g : ComponentMap F → ComponentMap F} {f : Option (Component F) → Option (Component F)}
    (hself : ∀ components, w.entities.find? e = some components →
      (g components).find? type = f (components.find? type))
    (hother : ∀ components : ComponentMap F, ∀ other, other ≠ type →
      (g components).find? other = components.find? other) :
    (w.modifyEntity e g).holdings = (Holdings.Change.cell e type f).apply w.holdings := by
  refine holdings_eq_apply ?_ fun other he => OrderedMap.find?_modify_of_ne _ he g
  show ((w.entities.modify e g).find? e).map _ = Option.map _ ((w.entities.find? e).map _)
  rw [OrderedMap.find?_modify_self]
  cases hfind : w.entities.find? e with
  | none => rfl
  | some components =>
      refine congrArg some (funext fun other => ?_)
      show _ = Function.update components.find? type (f (components.find? type)) other
      by_cases htype : other = type
      · rw [htype, Function.update_self]
        exact hself components hfind
      · rw [Function.update_of_ne htype]
        exact hother components other htype

theorem holdings_insertAt (e : Entity) (type : ComponentId) (component : Component F) :
    (w.modifyEntity e (·.insert type component)).holdings =
      (Holdings.Change.cell e type fun _ => some component).apply w.holdings :=
  w.holdings_modifyEntity e (fun components _ => components.find?_insert_self _ _)
    fun components _ hne => components.find?_insert_of_ne hne _

theorem get?_eq_some_iff (e : Entity) (kind : F.Kind) (value : F.Value kind) :
    w.get? e kind = some value ↔ w.holdings.at? e (F.typeOf kind) = some ⟨kind, value⟩ := by
  rw [get?, ← at?_holdings, Option.bind_eq_some_iff]
  constructor
  · rintro ⟨held, hheld, hvalue⟩
    rw [hheld, Component.as?_eq_some_iff.1 hvalue]
  · exact fun h => ⟨_, h, Component.as?_eq_some_iff.2 rfl⟩

/-- Nothing of a kind is found if nothing is stored under its type, or data of another kind is. -/
theorem get?_eq_none_iff (e : Entity) (kind : F.Kind) :
    w.get? e kind = none ↔
      ∀ held, w.component? e (F.typeOf kind) = some held → held.kind ≠ kind := by
  constructor
  · rintro hnone ⟨_, value⟩ hheld rfl
    rw [← at?_holdings] at hheld
    rw [(w.get?_eq_some_iff e _ value).2 hheld] at hnone
    cases hnone
  · intro hother
    rw [Option.eq_none_iff_forall_ne_some]
    intro value hvalue
    rw [get?_eq_some_iff, at?_holdings] at hvalue
    exact hother _ hvalue rfl

/-- A world as a store overwrites what the world itself overwrites. -/
theorem write?_store (e : Entity) (kind : F.Kind) (value : F.Value kind) :
    store.write? w e kind value = w.set? e kind value := by
  have hslot : store.slot? w e (F.typeOf kind) = (w.component? e (F.typeOf kind)).map
      fun held => (held, fun c => w.modifyEntity e (·.insert (F.typeOf kind) c)) := rfl
  rw [ComponentStore.write?, set?, get?, hslot]
  cases w.component? e (F.typeOf kind) with
  | none => rfl
  | some held =>
      show (held.as? kind).map _ = if (held.as? kind).isSome = true then _ else _
      cases held.as? kind <;> rfl

/-- **Whatever can be asked of a world is answered from its map.** -/
theorem readsAs_holdings : w.ReadsAs w.holdings where
  get? := w.get?_eq_some_iff
  read? := w.get?_eq_some_iff
  write? := w.write?_store
  component? e type := (w.at?_holdings e type).symm
  hasType e type := by rw [World.hasType, at?_holdings]
  carries e kind := by rw [at?_holdings]; rfl
  contains e := (w.isSome_holdings e).symm
  living e := by rw [isSome_holdings, contains_iff]
  ascending := w.entities.ascending_keys
  entityCount := by
    simp only [isSome_holdings]
    exact w.entities.size_eq_ncard
  componentCount e := by
    simp only [at?_holdings]
    cases hfind : w.entities.find? e with
    | none => simp [World.component?, World.componentCount, hfind]
    | some components =>
        simp only [World.component?, World.componentCount, hfind]
        exact components.size_eq_ncard

end World

end Worlds

section Operations

theorem Holdings.Change.apply_eq_self {c : Holdings.Change F} {t : Holdings F}
    (h : c.onRow (t c.entity) = t c.entity) : c.apply t = t := by
  rw [apply, h, Function.update_eq_self]

/-- What a change of one component does depends on what a living entity holds there. -/
theorem Holdings.Change.cell_congr {t : Holdings F} {e : Entity} {type : ComponentId}
    {f g : Option (Component F) → Option (Component F)}
    (h : ∀ held, t e = some held → f (held type) = g (held type)) :
    (Change.cell e type f).apply t = (Change.cell e type g).apply t := by
  refine congrArg (Function.update t e) ?_
  show (t e).map _ = (t e).map _
  cases hrow : t e with
  | none => rfl
  | some held => rw [Option.map_some, Option.map_some, h held hrow]

/-- A change of one component does nothing if it keeps what a living entity holds there. -/
theorem Holdings.Change.cell_eq_self {t : Holdings F} {e : Entity} {type : ComponentId}
    {f : Option (Component F) → Option (Component F)}
    (h : ∀ held, t e = some held → f (held type) = held type) :
    (Change.cell e type f).apply t = t := by
  refine (cell_congr (g := id) h).trans (apply_eq_self ?_)
  show (t e).map _ = t e
  simp

namespace World

variable {w : World F}

theorem component?_of_holdings {e : Entity} {held : Holding F} (h : w.holdings e = some held)
    (type : ComponentId) : w.component? e type = held type := by
  rw [← at?_holdings, Holdings.at?, h]
  rfl

theorem holdings_eraseAt (w : World F) (e : Entity) (type : ComponentId) :
    (w.modifyEntity e (·.erase type)).holdings =
      (Holdings.Change.cell e type fun _ => none).apply w.holdings :=
  w.holdings_modifyEntity e (fun components _ => components.find?_erase_self _)
    fun components _ hne => components.find?_erase_of_ne hne

/--
A removal answers with the data that was to be read, and takes away what is stored under the type,
if anything is.
-/
theorem remove_eq (w : World F) (e : Entity) (kind : F.Kind) :
    w.remove e kind = (w.get? e kind, w.modifyEntity e (·.erase (F.typeOf kind))) := by
  rw [remove, get?]
  cases hstored : w.component? e (F.typeOf kind) with
  | some taken => rfl
  | none =>
      refine Prod.ext rfl (eq_of_holdings rfl ?_)
      refine Eq.symm ((w.holdings_eraseAt e _).trans (Holdings.Change.cell_eq_self ?_))
      intro held hrow
      rw [← at?_holdings, Holdings.at?, hrow] at hstored
      exact hstored.symm

/-- What a removal does to the map of a world. -/
theorem holdings_remove (w : World F) (e : Entity) (kind : F.Kind) :
    (w.remove e kind).2.holdings =
      (Holdings.Change.cell e (F.typeOf kind) fun _ => none).apply w.holdings := by
  rw [remove_eq]
  exact w.holdings_eraseAt e _

theorem holdings_eq_none_of_contains {e : Entity} (h : w.contains e = false) :
    w.holdings e = none := by
  rwa [← isSome_holdings, Option.isSome_eq_false_iff, Option.isNone_iff_eq_none] at h

/-- Who is not alive has no components to change. -/
theorem modifyEntity_of_contains {e : Entity} (h : w.contains e = false)
    (g : ComponentMap F → ComponentMap F) : w.modifyEntity e g = w := by
  rw [contains, OrderedMap.contains, Option.isSome_eq_false_iff, Option.isNone_iff_eq_none] at h
  rw [modifyEntity, OrderedMap.modify, h]

/-- **What an operation does to the map of a world.** -/
theorem holdings_operate {operation : WorldOperation F} (h : operation.fits w = true) :
    (w.operate operation).holdings = (operation.change w.spawn.1).apply w.holdings := by
  cases operation with
  | spawn => exact w.holdings_spawn
  | insert e kind value =>
      have hinsert : w.operate (.insert e kind value) =
          w.modifyEntity e (·.insert (F.typeOf kind) ⟨kind, value⟩) := by
        rw [operate, insert]
        cases halive : w.contains e with
        | false => exact (modifyEntity_of_contains halive _).symm
        | true => rfl
      rw [hinsert, holdings_insertAt]
      rfl
  | remove e kind =>
      rw [operate, holdings_remove]
      refine Holdings.Change.cell_congr fun held hrow => ?_
      rw [WorldOperation.fits, component?_of_holdings hrow] at h
      cases hheld : held (F.typeOf kind) with
      | none => rfl
      | some component =>
          rw [hheld, Option.all_some, decide_eq_true_eq] at h
          simp [Option.filter, h]
  | write e kind value =>
      rw [operate, set?]
      cases hget : w.get? e kind with
      | some old =>
          show (w.modifyEntity e _).holdings = _
          rw [holdings_insertAt]
          refine Holdings.Change.cell_congr fun held hrow => ?_
          have hheld := (w.get?_eq_some_iff e kind old).1 hget
          rw [at?_holdings, component?_of_holdings hrow] at hheld
          rw [hheld, Option.map_some, if_pos rfl]
      | none =>
          show w.holdings = _
          refine (Holdings.Change.cell_eq_self fun held hrow => ?_).symm
          have hother := (w.get?_eq_none_iff e kind).1 hget
          rw [component?_of_holdings hrow] at hother
          cases hheld : held (F.typeOf kind) with
          | none => rfl
          | some component => rw [Option.map_some, if_neg (hother component hheld)]
  | despawn e =>
      rw [operate, despawn]
      cases halive : w.contains e with
      | false =>
          refine (Holdings.Change.apply_eq_self ?_).symm
          exact (holdings_eq_none_of_contains halive).symm
      | true => exact w.holdings_erase e

/-- What an operation is answered with in a world is read off its ledger. -/
theorem reply_eq {l : Ledger F} (h : w.Tallies l) (operation : WorldOperation F) :
    w.reply operation = l.reply operation := by
  cases operation with
  | spawn => exact h.next
  | insert e kind value =>
      rw [reply, insert, Ledger.reply, ← h.holdings, isSome_holdings]
      cases w.contains e <;> rfl
  | remove e kind =>
      rw [reply, remove_eq, Ledger.reply, ← h.holdings, at?_holdings, get?]
  | write e kind value =>
      rw [reply, set?, Ledger.reply, ← h.holdings, at?_holdings, get?]
      cases (w.component? e (F.typeOf kind)).bind (·.as? kind) <;> rfl
  | despawn e =>
      rw [reply, despawn, Ledger.reply, ← h.holdings, isSome_holdings]
      cases w.contains e <;> rfl

/-- A world has one map from which everything is answered. -/
theorem ReadsAs.holdings_eq {t : Holdings F} (h : w.ReadsAs t) : w.holdings = t := by
  have hat : ∀ e type, w.holdings.at? e type = t.at? e type := fun e type =>
    (w.at?_holdings e type).trans (h.component? e type)
  funext e
  have hrow : (w.holdings e).isSome = (t e).isSome :=
    (w.isSome_holdings e).trans (h.contains e)
  have hcells := hat e
  cases hw : w.holdings e with
  | none =>
      rw [hw, Option.isSome_none, eq_comm, Option.isSome_eq_false_iff,
        Option.isNone_iff_eq_none] at hrow
      exact hrow.symm
  | some held =>
      rw [hw, Option.isSome_some, eq_comm, Option.isSome_iff_exists] at hrow
      obtain ⟨held', hheld'⟩ := hrow
      rw [hheld']
      refine congrArg some (funext fun type => ?_)
      have hcell := hcells type
      rwa [Holdings.at?, Holdings.at?, hw, hheld'] at hcell

theorem allocator_operate (w : World F) (operation : WorldOperation F) :
    (w.operate operation).allocator =
      if operation.isSpawn then w.allocator.allocate.2 else w.allocator := by
  cases operation with
  | spawn => rfl
  | insert e kind value =>
      rw [operate, insert]
      cases w.contains e <;> rfl
  | remove e kind =>
      rw [operate, remove_eq]
      rfl
  | write e kind value =>
      rw [operate, set?]
      cases w.get? e kind <;> rfl
  | despawn e =>
      rw [operate, despawn]
      cases w.contains e <;> rfl

/-- **An operation leaves alone what it is not about.** -/
theorem spares_operate {operation : WorldOperation F} (h : operation.fits w = true) :
    w.Spares operation := by
  intro e type hfree
  rw [← at?_holdings, ← isSome_holdings, holdings_operate h, Holdings.Change.at?_apply hfree,
    at?_holdings, Holdings.Change.isSome_apply hfree, isSome_holdings]
  exact ⟨rfl, rfl⟩

/-- An operation means the same change after one of other keys. -/
theorem change_operate {a b : WorldOperation F}
    (h : (a.change w.spawn.1).Apart (b.change w.spawn.1)) :
    a.change (w.operate b).spawn.1 = a.change w.spawn.1 := by
  cases a with
  | spawn =>
      have hother : b.isSpawn = false := by
        cases b with
        | spawn => exact absurd ⟨rfl, rfl⟩ (h w.spawn.1 ⟨0⟩)
        | _ => rfl
      show Holdings.Change.row ⟨(w.operate b).allocator.next⟩ _ = _
      rw [allocator_operate, hother]
      rfl
  | _ => rfl

/-- An operation fits as before after one of other keys. -/
theorem fits_operate {a b : WorldOperation F} (ha : a.fits w = true) (hb : b.fits w = true)
    (h : (a.change w.spawn.1).Apart (b.change w.spawn.1)) : a.fits (w.operate b) = true := by
  cases a with
  | remove e kind =>
      have hfree := (spares_operate hb e (F.typeOf kind) fun htouches =>
        h e (F.typeOf kind) ⟨⟨rfl, rfl⟩, htouches⟩).1
      rw [WorldOperation.fits, hfree]
      exact ha
  | _ => rfl

/-- An operation is answered as before after one of other keys. -/
theorem reply_operate {a b : WorldOperation F} (hb : b.fits w = true)
    (h : (a.change w.spawn.1).Apart (b.change w.spawn.1)) :
    (w.operate b).reply a = w.reply a := by
  have hfree : ∀ e type, (a.change w.spawn.1).Touches e type →
      (w.operate b).component? e type = w.component? e type ∧
      (w.operate b).contains e = w.contains e := fun e type htouches =>
    spares_operate hb e type fun hother => h e type ⟨htouches, hother⟩
  have hchange := change_operate h
  cases a with
  | spawn => exact congrArg Holdings.Change.entity hchange
  | insert e kind value =>
      rw [reply, reply, insert, insert, (hfree e (F.typeOf kind) ⟨rfl, rfl⟩).2]
      cases w.contains e <;> rfl
  | remove e kind =>
      rw [reply, reply, remove_eq, remove_eq, get?, get?, (hfree e (F.typeOf kind) ⟨rfl, rfl⟩).1]
  | write e kind value =>
      rw [reply, reply, set?, set?, get?, get?, (hfree e (F.typeOf kind) ⟨rfl, rfl⟩).1]
      cases (w.component? e (F.typeOf kind)).bind (·.as? kind) <;> rfl
  | despawn e =>
      rw [reply, reply, despawn, despawn, (hfree e ⟨0⟩ rfl).2]
      cases w.contains e <;> rfl

/-- **Operations on different keys commute.** -/
theorem commute_operate {a b : WorldOperation F} (ha : a.fits w = true) (hb : b.fits w = true)
    (h : (a.change w.spawn.1).Apart (b.change w.spawn.1)) : w.Commute a b := by
  have hsymm : (b.change w.spawn.1).Apart (a.change w.spawn.1) :=
    fun e type htouches => h e type htouches.symm
  have hholdings : ((w.operate a).operate b).holdings = ((w.operate b).operate a).holdings := by
    rw [holdings_operate (fits_operate hb ha hsymm), holdings_operate ha, change_operate hsymm,
      holdings_operate (fits_operate ha hb h), holdings_operate hb, change_operate h,
      Holdings.Change.apply_comm hsymm]
  have hallocator :
      ((w.operate a).operate b).allocator = ((w.operate b).operate a).allocator := by
    simp only [allocator_operate]
    cases a.isSpawn <;> cases b.isSpawn <;> rfl
  exact {
    after := eq_of_holdings hallocator hholdings
    first := reply_operate hb h
    second := reply_operate ha hsymm }

/-- What a world behaves as is its map. -/
theorem actsAs_holdings (w : World F) : w.ActsAs w.holdings := by
  have hdead : ∀ e, w.holdings e = none → e ∉ w.living := by
    intro e hnone halive
    rw [← contains_iff, ← isSome_holdings, hnone] at halive
    cases halive
  constructor
  case reads => exact w.readsAs_holdings
  case determined => exact fun w' h => entities_eq_of_holdings h.holdings_eq
  case insert => exact fun e kind value hnone =>
    (lacks_of_not_living (hdead e hnone)).operate (.insert e kind value) rfl
  case write =>
    intro e kind value hother
    have hget : w.get? e kind = none := by
      rw [Option.eq_none_iff_forall_ne_some]
      exact fun old hold => hother old ((w.get?_eq_some_iff e kind old).1 hold)
    rw [operate, set?, hget]
    rfl
  case despawn => exact fun e hnone =>
    (lacks_of_not_living (hdead e hnone)).operate (.despawn e) rfl
  case operate =>
    intro operation hfits
    rw [← holdings_operate hfits]
    exact readsAs_holdings _
  case spares => exact fun operation hfits => spares_operate hfits
  case commute => exact fun a b ha hb hapart => commute_operate ha hb hapart

end World

end Operations

section Rows

namespace World

theorem tallies_empty : (.empty : World F).Tallies .empty where
  next := rfl
  holdings := rfl

/-- **One operation, in a world and in its ledger.** -/
theorem tallies_operate {w : World F} {l : Ledger F} (h : w.Tallies l)
    {operation : WorldOperation F} (hfits : operation.fits w = true) :
    (w.operate operation).Tallies (l.operate operation) where
  next := by
    have hnext : w.allocator.next = UInt64.ofNat (l.spawns + 1) := congrArg Entity.id h.next
    refine congrArg Entity.mk ?_
    rw [allocator_operate, Ledger.operate]
    cases operation.isSpawn with
    | false => exact hnext
    | true =>
        show w.allocator.next + 1 = _
        rw [hnext]
        exact (UInt64.ofNat_add _ _).symm
  holdings := by
    rw [holdings_operate hfits, h.next, h.holdings]
    rfl

theorem allFit_append (w : World F) (first rest : List (WorldOperation F)) :
    allFit w (first ++ rest) = (allFit w first && allFit (first.foldl operate w) rest) := by
  induction first generalizing w with
  | nil => rfl
  | cons operation first ih =>
      rw [List.cons_append, allFit, allFit, ih, Bool.and_assoc]
      rfl

/-- A world and its ledger after any row of operations, by induction on those operations. -/
theorem tallies_after {operations : List (WorldOperation F)}
    (h : allFit .empty operations = true) :
    (after operations).Tallies (Ledger.after operations) := by
  induction operations using List.reverseRecOn with
  | nil => exact tallies_empty
  | append_singleton past operation ih =>
      rw [allFit_append, Bool.and_eq_true, allFit, Bool.and_eq_true] at h
      rw [after_concat, Ledger.after, List.foldl_append]
      exact tallies_operate (ih h.1) h.2.1

/--
**A world behaves as one map from living entities and component types to data of some kind.**  After
any row of operations that takes away no data of another kind than the one it names, every operation
has been answered from that map, and it has changed the map at its own key and nowhere else.
Whatever can be asked of the world, be it asked directly or as a store, is answered from the map.
What is given to an entity that is not alive is refused, and so is the end of such an entity, and
what is written over data of another kind; the world stays as it is then.  It makes no difference in
which order two operations on different keys come.
-/
theorem acts_as_map {operations : List (WorldOperation F)} (h : allFit .empty operations = true) :
    (∀ past operation rest, operations = past ++ operation :: rest →
      (after past).reply operation = (Ledger.after past).reply operation) ∧
    (after operations).ActsAs (Ledger.after operations).holdings := by
  constructor
  · intro past operation rest hsplit
    rw [hsplit, allFit_append, Bool.and_eq_true] at h
    exact reply_eq (tallies_after h.1) operation
  · have htallies := tallies_after h
    rw [← htallies.holdings]
    exact actsAs_holdings _

namespace Aliased

/-- Data of two kinds that share a type, and an entity that is used beyond its end. -/
def operations : List (WorldOperation sceneData) :=
  [.spawn, .spawn, .insert ⟨1⟩ DataKind.count (5 : Int), .write ⟨1⟩ DataKind.alias "five",
    .insert ⟨1⟩ DataKind.alias "six", .write ⟨1⟩ DataKind.alias "seven",
    .insert ⟨2⟩ DataKind.name "second", .remove ⟨2⟩ DataKind.name, .despawn ⟨2⟩,
    .insert ⟨2⟩ DataKind.count (8 : Int)]

end Aliased

/-- Data of one kind has taken the place of data of another, which is found no more. -/
theorem acts_as_map_aliased :
    allFit .empty Aliased.operations = true ∧
    (after Aliased.operations).ActsAs (Ledger.after Aliased.operations).holdings ∧
    (after Aliased.operations).get? ⟨1⟩ DataKind.alias = some "seven" ∧
    (after Aliased.operations).get? ⟨1⟩ DataKind.count = none ∧
    (after Aliased.operations).living = [⟨1⟩] := by
  have hfit : allFit .empty Aliased.operations = true := by decide +kernel
  have hacts := (acts_as_map hfit).2
  exact ⟨hfit, hacts, by decide +kernel, by decide +kernel, by decide +kernel⟩

end World

end Rows

end SimEngine
