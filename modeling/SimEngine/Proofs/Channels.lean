import SimEngine.Engine.Event
import SimEngine.Proofs.Maps
import SimEngine.Proofs.Rolls

/-!
# Channels in order

A channel is a roll of its subscribers with a mark for each one that was
dropped outside of its own turn.

**Definitions.**
* `Channels.Formed`: channels that came about by connecting and disconnecting.
* `Channel.Orderly`: what such channels have in common.
* `Channel.Knows`: a channel still knows a subscriber, connected or dropped.

**Results.**
* `Channels.Formed.orderly`: formed channels are orderly.
* `Channel.roll_connect`, `Channel.roll_disconnect`: a channel is a roll.
* `Channels.mem_subscribers_connect`, `Channels.mem_subscribers_disconnect`: who is
  subscribed afterwards.
-/

namespace SimEngine

namespace Channel

variable {κ : Type}

/--
The subscribers stand in the order of their numbers, no number is used twice, and no subscriber
that is connected is marked as dropped.
-/
structure Orderly (c : Channel κ) : Prop where
  ascending : (c.subscribers.map Subscriber.id).Pairwise (· < ·)
  listed_lt : ∀ s ∈ c.subscribers, s.id < c.nextId
  silenced_lt : ∀ id ∈ c.silenced, id < c.nextId
  listed_heard : ∀ s ∈ c.subscribers, s.id ∉ c.silenced

/-- A subscriber is connected, or it is marked as dropped. -/
def Knows (c : Channel κ) (id : Nat) : Prop :=
  c.isConnected id = true ∨ c.isSilenced id = true

/-- The number of the next subscriber and the subscribers. -/
def roll (c : Channel κ) : Nat × List (Subscriber κ) :=
  (c.nextId, c.subscribers)

theorem isConnected_iff (c : Channel κ) (id : Nat) :
    c.isConnected id = true ↔ ∃ s ∈ c.subscribers, s.id = id := by
  simp [isConnected]

theorem isSilenced_iff (c : Channel κ) (id : Nat) :
    c.isSilenced id = true ↔ id ∈ c.silenced := by
  simp [isSilenced]

theorem roll_connect (c : Channel κ) (callback : κ) :
    (c.connect callback).roll = Roll.step Subscriber.id Subscriber.mk c.roll (.enter callback) :=
  rfl

theorem roll_disconnect (c : Channel κ) (id : Nat) :
    (c.disconnect id).roll = Roll.step Subscriber.id Subscriber.mk c.roll (.leave id) := by
  by_cases hconn : c.isConnected id = true
  · simp [disconnect, hconn, roll, Roll.step]
  · have hnone : ∀ s ∈ c.subscribers, (s.id != id) = true := by
      intro s hs
      rw [bne_iff_ne]
      exact fun h => hconn ((c.isConnected_iff id).2 ⟨s, hs, h⟩)
    rw [disconnect, if_neg hconn]
    simp [roll, Roll.step, List.filter_eq_self.2 hnone]

@[simp] theorem roll_turnTo (c : Channel κ) (current : Option Nat) :
    (c.turnTo current).roll = c.roll :=
  rfl

@[simp] theorem current_connect (c : Channel κ) (callback : κ) :
    (c.connect callback).current = c.current :=
  rfl

@[simp] theorem current_disconnect (c : Channel κ) (id : Nat) :
    (c.disconnect id).current = c.current := by
  unfold disconnect
  split <;> rfl

@[simp] theorem disconnect_empty (id : Nat) : (empty : Channel κ).disconnect id = empty :=
  rfl

namespace Orderly

theorem empty : (Channel.empty : Channel κ).Orderly where
  ascending := List.Pairwise.nil
  listed_lt := by simp [Channel.empty]
  silenced_lt := by simp [Channel.empty]
  listed_heard := by simp [Channel.empty]

theorem connect {c : Channel κ} (h : c.Orderly) (callback : κ) :
    (c.connect callback).Orderly where
  ascending := by
    simp only [Channel.connect, List.map_append, List.pairwise_append]
    refine ⟨h.ascending, List.pairwise_singleton _ _, ?_⟩
    intro id hid other hother
    obtain ⟨s, hs, rfl⟩ := List.mem_map.1 hid
    rw [List.mem_singleton.1 hother]
    exact h.listed_lt s hs
  listed_lt := by
    intro s hs
    show s.id < c.nextId + 1
    rcases List.mem_append.1 hs with hs | hs
    · have := h.listed_lt s hs
      omega
    · rw [List.mem_singleton.1 hs]
      exact Nat.lt_succ_self c.nextId
  silenced_lt := by
    intro id hid
    have := h.silenced_lt id hid
    show id < c.nextId + 1
    omega
  listed_heard := by
    intro s hs hsilenced
    rcases List.mem_append.1 hs with hs | hs
    · exact h.listed_heard s hs hsilenced
    · -- The new number is larger than all those that carry a mark.
      rw [List.mem_singleton.1 hs] at hsilenced
      exact Nat.lt_irrefl _ (h.silenced_lt _ hsilenced)

theorem disconnect {c : Channel κ} (h : c.Orderly) (id : Nat) :
    (c.disconnect id).Orderly := by
  by_cases hconn : c.isConnected id = true
  · obtain ⟨dropped, hdropped, rfl⟩ := (c.isConnected_iff id).1 hconn
    have hsilenced : ∀ other ∈ (c.disconnect dropped.id).silenced,
        other ∈ c.silenced ∨ other = dropped.id := by
      intro other hother
      simp only [Channel.disconnect, hconn, if_true] at hother
      split at hother
      · exact Or.inl hother
      · exact (List.mem_cons.1 hother).symm
    have hlisted : ∀ s ∈ (c.disconnect dropped.id).subscribers,
        s ∈ c.subscribers ∧ s.id ≠ dropped.id := by
      intro s hs
      simpa [Channel.disconnect, hconn] using hs
    have hnext : (c.disconnect dropped.id).nextId = c.nextId := by
      simp [Channel.disconnect, hconn]
    refine ⟨?_, ?_, ?_, ?_⟩
    · have hsub : (c.disconnect dropped.id).subscribers.Sublist c.subscribers := by
        simp [Channel.disconnect, hconn]
      exact h.ascending.sublist (hsub.map Subscriber.id)
    · intro s hs
      rw [hnext]
      exact h.listed_lt s (hlisted s hs).1
    · intro other hother
      rw [hnext]
      rcases hsilenced other hother with hother | rfl
      · exact h.silenced_lt other hother
      · exact h.listed_lt dropped hdropped
    · intro s hs hmark
      obtain ⟨hs, hne⟩ := hlisted s hs
      rcases hsilenced s.id hmark with hmark | hmark
      · exact h.listed_heard s hs hmark
      · exact hne hmark
  · rwa [Channel.disconnect, if_neg hconn]

theorem turnTo {c : Channel κ} (h : c.Orderly) (current : Option Nat) :
    (c.turnTo current).Orderly :=
  ⟨h.ascending, h.listed_lt, h.silenced_lt, h.listed_heard⟩

theorem isSilenced_eq_false_iff {c : Channel κ} (h : c.Orderly) {id : Nat} (hknows : c.Knows id) :
    c.isSilenced id = false ↔ c.isConnected id = true := by
  constructor
  · intro hmark
    rcases hknows with hconn | hmark'
    · exact hconn
    · rw [hmark] at hmark'
      cases hmark'
  · intro hconn
    obtain ⟨s, hs, rfl⟩ := (c.isConnected_iff id).1 hconn
    rw [Bool.eq_false_iff]
    exact fun hmark => h.listed_heard s hs ((c.isSilenced_iff s.id).1 hmark)

end Orderly

theorem Knows.connect {c : Channel κ} {id : Nat} (h : c.Knows id) (callback : κ) :
    (c.connect callback).Knows id := by
  rcases h with hconn | hmark
  · obtain ⟨s, hs, hid⟩ := (c.isConnected_iff id).1 hconn
    exact Or.inl (((c.connect callback).isConnected_iff id).2
      ⟨s, List.mem_append_left _ hs, hid⟩)
  · exact Or.inr hmark

/-- A disconnection makes a channel forget nobody but the subscriber whose turn it is. -/
theorem Knows.disconnect
    {c : Channel κ} {id : Nat} (h : c.Knows id) (hturn : c.current ≠ some id) (other : Nat) :
    (c.disconnect other).Knows id := by
  by_cases hconn : c.isConnected other = true
  · rw [Channel.disconnect, if_pos hconn]
    rcases h with hlisted | hmark
    · by_cases hid : id = other
      · subst hid
        right
        simp [isSilenced, hturn]
      · obtain ⟨s, hs, hsid⟩ := (c.isConnected_iff id).1 hlisted
        left
        simp only [isConnected, List.any_eq_true]
        refine ⟨s, List.mem_filter.2 ⟨hs, ?_⟩, by simp [hsid]⟩
        rw [bne_iff_ne, hsid]
        exact hid
    · right
      rw [isSilenced_iff] at hmark ⊢
      show id ∈ (if c.current = some other then c.silenced else other :: c.silenced)
      split
      · exact hmark
      · exact List.mem_cons_of_mem other hmark
  · rwa [Channel.disconnect, if_neg hconn]

end Channel

namespace Channels

variable {κ : Type}

/-- Channels that came about by taking into use, connecting and disconnecting. -/
inductive Formed : Channels κ → Prop
  | unused :
      Formed ∅
  | ensure
      {cs : Channels κ} (h : Formed cs) (key : ChannelKey) :
      Formed (cs.ensure key)
  | connect
      {cs : Channels κ} (h : Formed cs) (key : ChannelKey) (callback : κ) :
      Formed (cs.connect key callback).2
  | disconnect
      {cs : Channels κ} (h : Formed cs) (c : Connection) :
      Formed (cs.disconnect c)

theorem get_insert_self (cs : Channels κ) (key : ChannelKey) (c : Channel κ) :
    get (cs.insert key c) key = c := by
  simp [get]

theorem get_insert_of_ne
    (cs : Channels κ) {key other : ChannelKey} (hne : other ≠ key) (c : Channel κ) :
    get (cs.insert key c) other = cs.get other := by
  simp [get, cs.find?_insert_of_ne hne]

@[simp] theorem get_unused (key : ChannelKey) : get (∅ : Channels κ) key = .empty :=
  rfl

@[simp] theorem get_ensure (cs : Channels κ) (key other : ChannelKey) :
    (cs.ensure key).get other = cs.get other := by
  by_cases h : other = key
  · subst h
    exact cs.get_insert_self other (cs.get other)
  · exact cs.get_insert_of_ne h (cs.get key)

theorem get_connect (cs : Channels κ) (key other : ChannelKey) (callback : κ) :
    (cs.connect key callback).2.get other =
      if other = key then (cs.get key).connect callback else cs.get other := by
  split
  · rename_i h
    subst h
    exact cs.get_insert_self other _
  · rename_i h
    exact cs.get_insert_of_ne h _

theorem get_disconnect (cs : Channels κ) (c : Connection) (other : ChannelKey) :
    (cs.disconnect c).get other =
      if other = c.channel then (cs.get other).disconnect c.id else cs.get other := by
  split
  · rename_i h
    subst h
    rw [get, get, disconnect, OrderedMap.find?_modify_self]
    cases OrderedMap.find? cs c.channel with
    | none => rfl
    | some channel => rfl
  · rename_i h
    rw [get, get, disconnect, OrderedMap.find?_modify_of_ne _ h]

theorem get_turnTo (cs : Channels κ) (key other : ChannelKey) (current : Option Nat) :
    (cs.turnTo key current).get other =
      if other = key then (cs.get key).turnTo current else cs.get other := by
  split
  · rename_i h
    subst h
    exact cs.get_insert_self other _
  · rename_i h
    exact cs.get_insert_of_ne h _

theorem current_get_connect (cs : Channels κ) (key other : ChannelKey) (callback : κ) :
    ((cs.connect key callback).2.get other).current = (cs.get other).current := by
  rw [get_connect]
  split
  · rename_i heq
    rw [heq, Channel.current_connect]
  · rfl

theorem current_get_disconnect (cs : Channels κ) (c : Connection) (other : ChannelKey) :
    ((cs.disconnect c).get other).current = (cs.get other).current := by
  rw [get_disconnect]
  split
  · exact Channel.current_disconnect _ _
  · rfl

/-- Who is subscribed after a subscription was before, or is the new one. -/
theorem mem_subscribers_connect {cs : Channels κ} {key other : ChannelKey} {callback : κ}
    {s : Subscriber κ} (hs : s ∈ ((cs.connect key callback).2.get other).subscribers) :
    s ∈ (cs.get other).subscribers ∨ other = key ∧ s = ⟨(cs.get key).nextId, callback⟩ := by
  rw [get_connect] at hs
  split at hs
  · rename_i heq
    subst heq
    rcases List.mem_append.1 hs with hs | hs
    · exact .inl hs
    · exact .inr ⟨rfl, List.mem_singleton.1 hs⟩
  · exact .inl hs

/-- Who is subscribed after a subscription was dropped is not the one that was dropped. -/
theorem mem_subscribers_disconnect {cs : Channels κ} {c : Connection} {key : ChannelKey}
    {s : Subscriber κ} (hs : s ∈ ((cs.disconnect c).get key).subscribers) :
    s ∈ (cs.get key).subscribers ∧ c ≠ ⟨key, s.id⟩ := by
  rw [get_disconnect] at hs
  split at hs
  · rename_i heq
    subst heq
    unfold Channel.disconnect at hs
    split at hs
    · obtain ⟨hmem, hid⟩ := List.mem_filter.1 hs
      refine ⟨hmem, fun heq => ?_⟩
      rw [heq] at hid
      simp at hid
    · rename_i hnot
      refine ⟨hs, fun heq => hnot ?_⟩
      rw [Channel.isConnected, List.any_eq_true]
      exact ⟨s, hs, by rw [heq]; exact beq_self_eq_true s.id⟩
  · rename_i hne
    exact ⟨hs, fun heq => hne (by rw [heq])⟩

/-- **Channels that came about by connecting and disconnecting are orderly.** -/
theorem Formed.orderly {cs : Channels κ} (h : cs.Formed) (key : ChannelKey) :
    (cs.get key).Orderly := by
  induction h with
  | unused =>
      exact Channel.Orderly.empty
  | @ensure cs _ other ih =>
      rwa [get_ensure]
  | @connect cs _ other callback ih =>
      rw [get_connect]
      split
      · rename_i heq
        subst heq
        exact ih.connect callback
      · exact ih
  | @disconnect cs _ c ih =>
      rw [get_disconnect]
      split
      · exact ih.disconnect c.id
      · exact ih

end Channels
end SimEngine
