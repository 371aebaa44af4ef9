import SimEngine.OrderedMap
import SimEngine.PluginSpec
/-!
# Events and channels

Each event has a channel of its own; channels may also stand alone. A channel
keeps its subscribers in the order in which they were connected and numbers
them from one. Dropping a connection takes its subscriber out of the channel.
A notification works through a snapshot of the subscribers, so each of them
carries a mark by which it learns that its connection was dropped. The mark is
held during the subscriber's own turn and cannot be set then.
-/

namespace SimEngine

/-- The events of a simulation. -/
inductive Event where
  | sceneUpdate
  | pause
  | stop
  | loadPlugins
  | custom
  deriving DecidableEq, Repr

/-- The name of an event. -/
def Event.name : Event → String
  | .sceneUpdate => "scene_update"
  | .pause => "pause"
  | .stop => "stop"
  | .loadPlugins => "load_plugins"
  | .custom => "custom"

/-- What a channel is found by. -/
inductive ChannelKey where
  | event (event : Event)
  /-- A channel that belongs to no event. -/
  | standalone (number : Nat)
  deriving DecidableEq, Repr

namespace ChannelKey

/-- The name of a channel. -/
def name : ChannelKey → String
  | .event e => e.name
  | .standalone _ => "orphan"

/-- A number for each channel. -/
def code : ChannelKey → Nat
  | .event .sceneUpdate => 0
  | .event .pause => 1
  | .event .stop => 2
  | .event .loadPlugins => 3
  | .event .custom => 4
  | .standalone n => n + 5

theorem code_injective {a b : ChannelKey} (h : a.code = b.code) : a = b := by
  cases a with
  | event e => cases b with
    | event f => cases e <;> cases f <;> simp_all [code]
    | standalone n => cases e <;> simp [code] at h
  | standalone m => cases b with
    | event f => cases f <;> simp [code] at h
    | standalone n => simp_all [code]

instance : OrderedKey ChannelKey where
  lt a b := a.code < b.code
  decLt a b := inferInstanceAs (Decidable (a.code < b.code))
  irrefl a := OrderedKey.irrefl a.code
  trans := OrderedKey.trans (κ := Nat)
  connected hab hba := code_injective (OrderedKey.connected (κ := Nat) hab hba)

end ChannelKey

/-- A notification: an event, or a channel that stands alone, with what it carries. -/
inductive Signal where
  | sceneUpdate
  | pause (paused : Bool)
  | stop
  | loadPlugins (entity : Entity) (specs : List PluginSpec)
  | custom (value : Int)
  | standalone (number : Nat) (value : Int)

/-- The channel a notification goes through. -/
def Signal.channel : Signal → ChannelKey
  | .sceneUpdate => .event .sceneUpdate
  | .pause _ => .event .pause
  | .stop => .event .stop
  | .loadPlugins _ _ => .event .loadPlugins
  | .custom _ => .event .custom
  | .standalone n _ => .standalone n

/-- A subscription: the channel, and the number of the subscriber there. -/
structure Connection where
  channel : ChannelKey
  id : Nat
  deriving DecidableEq, Repr

/-- A subscriber of a channel. -/
structure Subscriber (κ : Type) where
  id : Nat
  callback : κ

/-- A channel: the number of the next subscriber, and the subscribers in their order. -/
structure Channel (κ : Type) where
  /-- A counter of 64 bits agrees with it below `2 ^ 64`. -/
  nextId : Nat
  subscribers : List (Subscriber κ)
  /-- The numbers of the subscribers whose mark says that their connection was dropped. -/
  silenced : List Nat
  /-- The subscriber whose turn it is, if a notification is in progress. -/
  current : Option Nat

namespace Channel

variable {κ : Type}

/-- A channel without subscribers. -/
def empty : Channel κ := ⟨1, [], [], none⟩

/-- Adds a subscriber behind the others. -/
def connect (c : Channel κ) (callback : κ) : Channel κ :=
  { c with
    nextId := c.nextId + 1
    subscribers := c.subscribers ++ [⟨c.nextId, callback⟩] }

/-- Whether a number is that of a subscriber. -/
def isConnected (c : Channel κ) (id : Nat) : Bool :=
  c.subscribers.any fun s => s.id == id

/-- Takes a subscriber out and sets its mark, unless it is its turn. -/
def disconnect (c : Channel κ) (id : Nat) : Channel κ :=
  if c.isConnected id then
    { c with
      subscribers := c.subscribers.filter fun s => s.id != id
      silenced := if c.current = some id then c.silenced else id :: c.silenced }
  else
    c

/-- Whether the mark of a subscriber says that its connection was dropped. -/
def isSilenced (c : Channel κ) (id : Nat) : Bool :=
  c.silenced.contains id

/-- Gives a subscriber its turn, or ends the turn. -/
def turnTo (c : Channel κ) (current : Option Nat) : Channel κ :=
  { c with current := current }

end Channel

/-- The channels that are in use. -/
abbrev Channels (κ : Type) : Type :=
  OrderedMap ChannelKey (Channel κ)

namespace Channels

variable {κ : Type}

/-- A channel; one that was never used has no subscribers. -/
def get (cs : Channels κ) (key : ChannelKey) : Channel κ :=
  (cs.find? key).getD .empty

/-- Takes a channel into use. -/
def ensure (cs : Channels κ) (key : ChannelKey) : Channels κ :=
  cs.insert key (cs.get key)

/-- Subscribes to a channel. -/
def connect (cs : Channels κ) (key : ChannelKey) (callback : κ) : Connection × Channels κ :=
  let channel := cs.get key
  (⟨key, channel.nextId⟩, cs.insert key (channel.connect callback))

/-- Drops a subscription. -/
def disconnect (cs : Channels κ) (c : Connection) : Channels κ :=
  cs.modify c.channel (·.disconnect c.id)

/-- Whether a subscription still stands. -/
def isConnected (cs : Channels κ) (c : Connection) : Bool :=
  match cs.find? c.channel with
  | some channel => channel.isConnected c.id
  | none => false

/-- Whether the mark of a subscriber says that its connection was dropped. -/
def isSilenced (cs : Channels κ) (c : Connection) : Bool :=
  (cs.get c.channel).isSilenced c.id

/-- Gives a subscriber of a channel its turn, or ends the turn. -/
def turnTo (cs : Channels κ) (key : ChannelKey) (current : Option Nat) : Channels κ :=
  cs.insert key ((cs.get key).turnTo current)

/-- The number of subscribers of a channel. -/
def connectionCount (cs : Channels κ) (key : ChannelKey) : Nat :=
  (cs.get key).subscribers.length

end Channels
end SimEngine
