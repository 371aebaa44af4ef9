/-!
# Maps with ascending keys

A finite map is a list of entries whose keys ascend strictly; the order is part
of the type, so two maps with the same look-ups are equal. `keys` lists the keys
in that order.
-/

namespace SimEngine

/-- Keys with a strict linear order. -/
class OrderedKey (κ : Type) extends LT κ where
  decLt : ∀ a b : κ, Decidable (a < b)
  irrefl : ∀ a : κ, ¬ a < a
  trans : ∀ {a b c : κ}, a < b → b < c → a < c
  connected : ∀ {a b : κ}, ¬ a < b → ¬ b < a → a = b

instance OrderedKey.decidableLt {κ : Type} [OrderedKey κ] (a b : κ) : Decidable (a < b) :=
  OrderedKey.decLt a b

instance : OrderedKey Nat where
  decLt := inferInstance
  irrefl := Nat.lt_irrefl
  trans := Nat.lt_trans
  connected := by intros; omega

instance : OrderedKey UInt64 where
  decLt := inferInstance
  irrefl := UInt64.lt_irrefl
  trans := UInt64.lt_trans
  connected hab hba := UInt64.le_antisymm (UInt64.not_lt.1 hba) (UInt64.not_lt.1 hab)

instance : OrderedKey String where
  decLt := inferInstance
  irrefl := String.lt_irrefl
  trans := String.lt_trans
  connected hab hba := String.le_antisymm (String.not_lt.1 hba) (String.not_lt.1 hab)

/-- A finite map, its entries in the ascending order of their keys. -/
structure OrderedMap (κ β : Type) [OrderedKey κ] where
  entries : List (κ × β)
  ascending : entries.Pairwise (fun a b => a.1 < b.1)

namespace OrderedMap

variable {κ β : Type} [OrderedKey κ]

/-- The map without entries. -/
def empty : OrderedMap κ β := ⟨[], .nil⟩

instance : Inhabited (OrderedMap κ β) := ⟨empty⟩

instance : EmptyCollection (OrderedMap κ β) := ⟨empty⟩

/-- The value of a key among entries with ascending keys. -/
def findEntry (key : κ) : List (κ × β) → Option β
  | [] => none
  | (k, v) :: rest =>
    if k < key then findEntry key rest
    else if key < k then none
    else some v

/-- Puts an entry at its place; the entry of the same key is replaced. -/
def insertEntry (key : κ) (value : β) : List (κ × β) → List (κ × β)
  | [] => [(key, value)]
  | (k, v) :: rest =>
    if key < k then (key, value) :: (k, v) :: rest
    else if k < key then (k, v) :: insertEntry key value rest
    else (key, value) :: rest

/-- Takes away the entry of a key. -/
def eraseEntry (key : κ) : List (κ × β) → List (κ × β)
  | [] => []
  | (k, v) :: rest =>
    if key < k then (k, v) :: rest
    else if k < key then (k, v) :: eraseEntry key rest
    else rest

theorem key_mem_insertEntry {key : κ} {value : β} {entries : List (κ × β)} {e : κ × β}
    (h : e ∈ insertEntry key value entries) : e = (key, value) ∨ e ∈ entries := by
  induction entries with
  | nil => simpa [insertEntry] using h
  | cons head rest ih =>
    obtain ⟨k, v⟩ := head
    rw [insertEntry] at h
    split at h
    · simpa using h
    · split at h
      · rcases List.mem_cons.1 h with h | h
        · exact .inr (by simp [h])
        · exact (ih h).imp id (fun h => List.mem_cons_of_mem _ h)
      · rcases List.mem_cons.1 h with h | h
        · exact .inl h
        · exact .inr (List.mem_cons_of_mem _ h)

theorem mem_of_mem_eraseEntry {key : κ} {entries : List (κ × β)} {e : κ × β}
    (h : e ∈ eraseEntry key entries) : e ∈ entries := by
  induction entries with
  | nil => simp [eraseEntry] at h
  | cons head rest ih =>
    obtain ⟨k, v⟩ := head
    rw [eraseEntry] at h
    split at h
    · exact h
    · split at h
      · rcases List.mem_cons.1 h with h | h
        · simp [h]
        · exact List.mem_cons_of_mem _ (ih h)
      · exact List.mem_cons_of_mem _ h

theorem ascending_insertEntry {key : κ} {value : β} {entries : List (κ × β)}
    (h : entries.Pairwise (fun a b => a.1 < b.1)) :
    (insertEntry key value entries).Pairwise (fun a b => a.1 < b.1) := by
  induction entries with
  | nil => simp [insertEntry]
  | cons head rest ih =>
    obtain ⟨k, v⟩ := head
    have hrest := List.pairwise_cons.1 h
    rw [insertEntry]
    split
    · rename_i hlt
      refine List.pairwise_cons.2 ⟨fun e he => ?_, h⟩
      rcases List.mem_cons.1 he with he | he
      · rw [he]; exact hlt
      · exact OrderedKey.trans hlt (hrest.1 e he)
    · split
      · rename_i hlt
        refine List.pairwise_cons.2 ⟨fun e he => ?_, ih hrest.2⟩
        rcases key_mem_insertEntry he with he | he
        · rw [he]; exact hlt
        · exact hrest.1 e he
      · rename_i h1 h2
        obtain rfl : key = k := OrderedKey.connected h1 h2
        exact List.pairwise_cons.2 ⟨hrest.1, hrest.2⟩

theorem ascending_eraseEntry {key : κ} {entries : List (κ × β)}
    (h : entries.Pairwise (fun a b => a.1 < b.1)) :
    (eraseEntry key entries).Pairwise (fun a b => a.1 < b.1) := by
  induction entries with
  | nil => simp [eraseEntry]
  | cons head rest ih =>
    obtain ⟨k, v⟩ := head
    have hrest := List.pairwise_cons.1 h
    rw [eraseEntry]
    split
    · exact h
    · split
      · exact List.pairwise_cons.2
          ⟨fun e he => hrest.1 e (mem_of_mem_eraseEntry he), ih hrest.2⟩
      · exact hrest.2

/-- The value of a key. -/
def find? (m : OrderedMap κ β) (key : κ) : Option β :=
  findEntry key m.entries

/-- Whether a key has a value. -/
def contains (m : OrderedMap κ β) (key : κ) : Bool :=
  (m.find? key).isSome

/-- The map with a value for a key, in place of any former one. -/
def insert (m : OrderedMap κ β) (key : κ) (value : β) : OrderedMap κ β :=
  ⟨insertEntry key value m.entries, ascending_insertEntry m.ascending⟩

/-- The map without a value for a key. -/
def erase (m : OrderedMap κ β) (key : κ) : OrderedMap κ β :=
  ⟨eraseEntry key m.entries, ascending_eraseEntry m.ascending⟩

/-- The map with the value of a key changed, if it has one. -/
def modify (m : OrderedMap κ β) (key : κ) (f : β → β) : OrderedMap κ β :=
  match m.find? key with
  | some v => m.insert key (f v)
  | none => m

/-- The keys in ascending order. -/
def keys (m : OrderedMap κ β) : List κ :=
  m.entries.map Prod.fst

/-- The number of keys. -/
def size (m : OrderedMap κ β) : Nat :=
  m.entries.length

end OrderedMap
end SimEngine
