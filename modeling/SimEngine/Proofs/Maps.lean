import SimEngine.OrderedMap

/-!
# Look-ups in maps

What a look-up finds after a value was put into a map or changed there, and
which keys the map has then.

**Results.**
* `find?_insert_self`, `find?_insert_of_ne`: a look-up after an insertion.
* `find?_modify_self`, `find?_modify_of_ne`: a look-up after a change.
* `keys_modify`: a change leaves the keys as they are.
* `mem_keys_iff`, `ascending_keys`: the keys are those with a value, each once.
* `eq_of_find?`: maps with the same look-ups are equal.
-/

namespace SimEngine
namespace OrderedMap

variable {κ β : Type} [OrderedKey κ]

theorem findEntry_insertEntry_self
    (key : κ) (value : β) (entries : List (κ × β)) :
    findEntry key (insertEntry key value entries) = some value := by
  induction entries with
  | nil =>
      simp [insertEntry, findEntry, OrderedKey.irrefl]
  | cons head rest ih =>
      obtain ⟨k, v⟩ := head
      rw [insertEntry]
      split
      · simp [findEntry, OrderedKey.irrefl]
      · split
        · rename_i hlt
          simp [findEntry, hlt, ih]
        · simp [findEntry, OrderedKey.irrefl]

theorem findEntry_insertEntry_of_ne
    {key other : κ} (hne : other ≠ key) (value : β) (entries : List (κ × β)) :
    findEntry other (insertEntry key value entries) = findEntry other entries := by
  -- Of two different keys one is the smaller.
  have hor : key < other ∨ other < key := by
    by_cases hlt : key < other
    · exact Or.inl hlt
    · by_cases hgt : other < key
      · exact Or.inr hgt
      · exact absurd (OrderedKey.connected hgt hlt) hne
  have hasymm : ¬ (key < other ∧ other < key) :=
    fun h => OrderedKey.irrefl _ (OrderedKey.trans h.1 h.2)
  induction entries with
  | nil =>
      rcases hor with hlt | hgt
      · simp [insertEntry, findEntry, hlt]
      · simp [insertEntry, findEntry, hgt]
  | cons head rest ih =>
      obtain ⟨k, v⟩ := head
      rw [insertEntry]
      split
      · rename_i hkey
        rcases hor with hlt | hgt
        · rw [findEntry, if_pos hlt]
        · have hnot : ¬ key < other := fun h => hasymm ⟨h, hgt⟩
          have hsmall : other < k := OrderedKey.trans hgt hkey
          have hnot' : ¬ k < other :=
            fun h => OrderedKey.irrefl _ (OrderedKey.trans h hsmall)
          simp [findEntry, hgt, hnot, hsmall, hnot']
      · split
        · simp only [findEntry, ih]
        · rename_i h₁ h₂
          obtain rfl : key = k := OrderedKey.connected h₁ h₂
          rcases hor with hlt | hgt
          · simp [findEntry, hlt]
          · have hnot : ¬ key < other := fun h => hasymm ⟨h, hgt⟩
            simp [findEntry, hgt, hnot]

theorem keys_insertEntry_of_findEntry
    {key : κ} {old : β} (value : β) {entries : List (κ × β)}
    (hfind : findEntry key entries = some old) :
    (insertEntry key value entries).map Prod.fst = entries.map Prod.fst := by
  induction entries with
  | nil =>
      simp [findEntry] at hfind
  | cons head rest ih =>
      obtain ⟨k, v⟩ := head
      rw [findEntry] at hfind
      rw [insertEntry]
      split at hfind
      · rename_i hlt
        have hnot : ¬ key < k :=
          fun h => OrderedKey.irrefl _ (OrderedKey.trans h hlt)
        simp [hlt, hnot, ih hfind]
      · split at hfind
        · simp at hfind
        · rename_i h₁ h₂
          obtain rfl : key = k := OrderedKey.connected h₂ h₁
          simp [OrderedKey.irrefl]

@[simp] theorem find?_insert_self
    (m : OrderedMap κ β) (key : κ) (value : β) :
    (m.insert key value).find? key = some value :=
  findEntry_insertEntry_self key value m.entries

theorem find?_insert_of_ne
    (m : OrderedMap κ β) {key other : κ} (hne : other ≠ key) (value : β) :
    (m.insert key value).find? other = m.find? other :=
  findEntry_insertEntry_of_ne hne value m.entries

theorem find?_modify_self
    (m : OrderedMap κ β) (key : κ) (f : β → β) :
    (m.modify key f).find? key = (m.find? key).map f := by
  unfold modify
  cases hfind : m.find? key with
  | none =>
      simp [hfind]
  | some v =>
      simp

theorem find?_modify_of_ne
    (m : OrderedMap κ β) {key other : κ} (hne : other ≠ key) (f : β → β) :
    (m.modify key f).find? other = m.find? other := by
  unfold modify
  cases m.find? key with
  | none =>
      rfl
  | some v =>
      exact m.find?_insert_of_ne hne (f v)

@[simp] theorem keys_modify
    (m : OrderedMap κ β) (key : κ) (f : β → β) :
    (m.modify key f).keys = m.keys := by
  unfold modify
  cases hfind : m.find? key with
  | none =>
      rfl
  | some v =>
      exact keys_insertEntry_of_findEntry (f v) hfind

/-- A key below all entries has no value. -/
theorem findEntry_of_lt {key : κ} {entries : List (κ × β)} (h : ∀ e ∈ entries, key < e.1) :
    findEntry key entries = none := by
  cases entries with
  | nil =>
      rfl
  | cons entry rest =>
      have hlt : key < entry.1 := h entry List.mem_cons_self
      have hnot : ¬ entry.1 < key := fun hgt => OrderedKey.irrefl _ (OrderedKey.trans hlt hgt)
      rw [findEntry, if_neg hnot, if_pos hlt]

/-- A key that is erased from ascending entries is gone. -/
theorem findEntry_eraseEntry_self
    (key : κ) {entries : List (κ × β)} (h : entries.Pairwise fun a b => a.1 < b.1) :
    findEntry key (eraseEntry key entries) = none := by
  induction entries with
  | nil =>
      rfl
  | cons entry rest ih =>
      obtain ⟨k, v⟩ := entry
      obtain ⟨hfirst, hrest⟩ := List.pairwise_cons.1 h
      rw [eraseEntry]
      split
      · rename_i hlt
        refine findEntry_of_lt fun e he => ?_
        rcases List.mem_cons.1 he with rfl | he
        · exact hlt
        · exact OrderedKey.trans hlt (hfirst e he)
      · split
        · rename_i hlt
          rw [findEntry, if_pos hlt, ih hrest]
        · rename_i h₁ h₂
          obtain rfl : key = k := OrderedKey.connected h₁ h₂
          exact findEntry_of_lt hfirst

theorem findEntry_eraseEntry_of_ne
    {key other : κ} (hne : other ≠ key) {entries : List (κ × β)}
    (h : entries.Pairwise fun a b => a.1 < b.1) :
    findEntry other (eraseEntry key entries) = findEntry other entries := by
  induction entries with
  | nil =>
      rfl
  | cons entry rest ih =>
      obtain ⟨k, v⟩ := entry
      obtain ⟨hfirst, hrest⟩ := List.pairwise_cons.1 h
      rw [eraseEntry]
      split
      · rfl
      · split
        · simp only [findEntry, ih hrest]
        · rename_i h₁ h₂
          obtain rfl : key = k := OrderedKey.connected h₁ h₂
          rw [findEntry]
          split
          · rfl
          · split
            · rename_i hlt
              exact findEntry_of_lt fun e he => OrderedKey.trans hlt (hfirst e he)
            · rename_i h₃ h₄
              exact absurd (OrderedKey.connected h₄ h₃) hne

@[simp] theorem find?_erase_self (m : OrderedMap κ β) (key : κ) :
    (m.erase key).find? key = none :=
  findEntry_eraseEntry_self key m.ascending

theorem find?_erase_of_ne (m : OrderedMap κ β) {key other : κ} (hne : other ≠ key) :
    (m.erase key).find? other = m.find? other :=
  findEntry_eraseEntry_of_ne hne m.ascending

@[simp] theorem find?_empty (key : κ) : (∅ : OrderedMap κ β).find? key = none :=
  rfl

theorem findEntry_eq_none_iff
    {key : κ} {entries : List (κ × β)} (h : entries.Pairwise fun a b => a.1 < b.1) :
    findEntry key entries = none ↔ key ∉ entries.map Prod.fst := by
  induction entries with
  | nil =>
      simp [findEntry]
  | cons entry rest ih =>
      obtain ⟨k, v⟩ := entry
      obtain ⟨hfirst, hrest⟩ := List.pairwise_cons.1 h
      rw [findEntry, List.map_cons, List.mem_cons, not_or]
      split
      · rename_i hlt
        have hne : key ≠ k := by
          rintro rfl
          exact OrderedKey.irrefl _ hlt
        simp [ih hrest, hne]
      · split
        · rename_i hlt
          -- A key below the first one is below all others.
          have habsent : key ∉ rest.map Prod.fst := by
            intro hmem
            obtain ⟨e, he, rfl⟩ := List.mem_map.1 hmem
            exact OrderedKey.irrefl _ (OrderedKey.trans hlt (hfirst e he))
          have hne : key ≠ k := by
            rintro rfl
            exact OrderedKey.irrefl _ hlt
          simp [hne, habsent]
        · rename_i h₁ h₂
          simp [OrderedKey.connected h₂ h₁]

/-- The keys are those that have a value. -/
theorem mem_keys_iff (m : OrderedMap κ β) (key : κ) : key ∈ m.keys ↔ ∃ v, m.find? key = some v := by
  rw [← Option.ne_none_iff_exists', find?, ne_eq, findEntry_eq_none_iff m.ascending, keys,
    Classical.not_not]

theorem ascending_keys (m : OrderedMap κ β) : m.keys.Pairwise (· < ·) :=
  List.pairwise_map.2 m.ascending

theorem findEntry_cons_self (key : κ) (value : β) (rest : List (κ × β)) :
    findEntry key ((key, value) :: rest) = some value := by
  rw [findEntry, if_neg (OrderedKey.irrefl key), if_neg (OrderedKey.irrefl key)]

/-- A key that has a value is not below the first one. -/
theorem not_lt_of_findEntry {key : κ} {value : β} {entry : κ × β} {rest : List (κ × β)}
    (hascending : (entry :: rest).Pairwise fun a b => a.1 < b.1)
    (h : findEntry key (entry :: rest) = some value) : ¬ key < entry.1 := by
  intro hlt
  have hleast := (List.pairwise_cons.1 hascending).1
  rw [findEntry_of_lt] at h
  · cases h
  · intro e he
    rcases List.mem_cons.1 he with rfl | he
    · exact hlt
    · exact OrderedKey.trans hlt (hleast e he)

/-- Ascending entries in which all keys have the same values are the same. -/
theorem eq_of_findEntry {first second : List (κ × β)}
    (hfirst : first.Pairwise fun a b => a.1 < b.1) (hsecond : second.Pairwise fun a b => a.1 < b.1)
    (h : ∀ key, findEntry key first = findEntry key second) : first = second := by
  induction first generalizing second with
  | nil =>
      cases second with
      | nil => rfl
      | cons entry rest =>
          have hentry := h entry.1
          rw [findEntry_cons_self] at hentry
          cases hentry
  | cons entry rest ih =>
      obtain ⟨k, v⟩ := entry
      obtain ⟨hleast, hrest⟩ := List.pairwise_cons.1 hfirst
      cases second with
      | nil =>
          have hentry := h k
          rw [findEntry_cons_self] at hentry
          cases hentry
      | cons entry' rest' =>
          obtain ⟨k', v'⟩ := entry'
          obtain ⟨hleast', hrest'⟩ := List.pairwise_cons.1 hsecond
          -- The least keys are the same, since each has a value on both sides.
          have hle : ¬ k < k' :=
            not_lt_of_findEntry hsecond ((h k).symm.trans (findEntry_cons_self k v rest))
          have hge : ¬ k' < k :=
            not_lt_of_findEntry hfirst ((h k').trans (findEntry_cons_self k' v' rest'))
          obtain rfl : k = k' := OrderedKey.connected hle hge
          obtain rfl : v = v' := by simpa [findEntry_cons_self] using h k
          refine congrArg _ (ih hrest hrest' fun key => ?_)
          by_cases hlt : k < key
          · simpa [findEntry, hlt] using h key
          · -- A key that is not above the least one has no other value.
            have hbelow : ∀ e : κ × β, k < e.1 → key < e.1 := by
              intro e he
              by_cases hgt : key < k
              · exact OrderedKey.trans hgt he
              · rwa [← OrderedKey.connected hlt hgt]
            rw [findEntry_of_lt fun e he => hbelow e (hleast e he),
              findEntry_of_lt fun e he => hbelow e (hleast' e he)]

/-- Maps with the same look-ups are equal. -/
theorem eq_of_find? {m m' : OrderedMap κ β} (h : ∀ key, m.find? key = m'.find? key) : m = m' := by
  obtain ⟨entries, hascending⟩ := m
  obtain ⟨entries', hascending'⟩ := m'
  obtain rfl := eq_of_findEntry hascending hascending' h
  rfl

end OrderedMap
end SimEngine
