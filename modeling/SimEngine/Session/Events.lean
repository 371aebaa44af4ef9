import SimEngine.Session.Basic
/-!
# Events of a session

Subscribing to events, and to channels that stand alone, and notifying them.
Subscriptions are kept under labels; scripted code keeps its own there too.
-/

namespace SimEngine
namespace Session

/-- What a callback may use that the host connects now: an engine that is gone offers nothing. -/
def reach (s : Session) : Reach :=
  if s.drive.isEnded then .ofEntity .null else .host

/-- Subscribes to a channel and keeps the subscription under a label. -/
def connect (s : Session) (channel : ChannelKey) (label : String) (run : List Beat) :
    Connection × Session :=
  s.perform ⟨channel, 0⟩ (do
    let connection ← Scope.subscribe channel label run s.reach
    Scope.keep label connection
    return connection)

/-- Ends the subscription kept under a label; tells whether there is one. -/
def disconnect (s : Session) (label : String) : Bool × Session :=
  s.perform false (Scope.unsubscribe label)

/-- Whether the subscription kept under a label still stands, if there is one. -/
def isConnected? (s : Session) (label : String) : Option Bool :=
  (s.memory.connections.find? label).map s.env.channels.isConnected

/-- Notifies a channel; answers how many subscribers returned. -/
def emit (s : Session) (signal : Signal) : Nat × Session :=
  let (count, env) := Cast.behavior.emit signal s.env
  (count, s.withEnv env)

/-- The session with other channels. -/
def withChannels (s : Session) (channels : Channels (Listener Callback)) : Session :=
  s.withEnv { s.env with channels := channels }

/-- Takes a channel into use. -/
def useChannel (s : Session) (channel : ChannelKey) : Session :=
  s.withChannels (s.env.channels.ensure channel)

/-- The channel kept under a label. -/
def channel? (s : Session) (label : String) : Option ChannelKey :=
  (s.channels.find? label).map .standalone

/-- The end of a channel kept under a label; tells whether there is one. -/
def dropChannel (s : Session) (label : String) : Bool × Session :=
  match s.channel? label with
  | none => (false, s)
  | some channel =>
    let env := { s.env with channels := s.env.channels.erase channel }
    (true,
      { s.withEnv (Cast.behavior.tidy env) with channels := s.channels.erase label })

/-- Creates a channel that stands alone and keeps it under a label. -/
def newChannel (s : Session) (label : String) : ChannelKey × Session :=
  let channel := ChannelKey.standalone s.nextChannel
  let number := s.nextChannel
  let s := ((s.dropChannel label).2).useChannel channel
  (channel,
    { s with channels := s.channels.insert label number, nextChannel := number + 1 })

end Session
end SimEngine
