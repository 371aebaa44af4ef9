import SimEngine.Engine.Scheduler
import SimEngine.Text.Quoted
/-!
# Looking into an engine

How the parts of an engine show themselves: a name, and the fields between
braces. Two points stand for fields that are not shown.
-/

namespace SimEngine

/-- A part with its fields; some may be left out. -/
def inspected (name : String) (fields : List (String × String)) (isAbridged : Bool) : String :=
  let shown := fields.map fun (field, value) => field ++ ": " ++ value
  let shown := if isAbridged then shown ++ [".."] else shown
  name ++ " \x7b " ++ String.intercalate ", " shown ++ " \x7d"

/-- A list between brackets. -/
def inspectedList (items : List String) : String :=
  "[" ++ String.intercalate ", " items ++ "]"

/-- A Boolean. -/
def inspectedBool (b : Bool) : String :=
  if b then "true" else "false"

/-- A set of interfaces. -/
def Capabilities.inspect (c : Capabilities) : String :=
  inspected "Capabilities"
    (Capability.all.map fun capability => (capability.describe, inspectedBool (c.has capability)))
    false

/-- The owner of a plugin's system. -/
def inspectedPlugin (name : String) (unload : Option Unload) : String :=
  inspected "PluginHandle"
    [("plugin", Text.quoted name), ("has_unload_hook", inspectedBool unload.isSome)] false

/-- The owner of a system. -/
def Ownership.inspect : Ownership → String
  | .plugin name unload => "Plugin(" ++ inspectedPlugin name unload ++ ")"
  | .shared => "Shared(..)"

/-- A channel. -/
def ChannelKey.inspect (key : ChannelKey) : String :=
  inspected "EventChannel" [("name", Text.quoted key.name)] true

/-- A subscription. -/
def Connection.inspect (c : Connection) : String :=
  inspected "Connection" [("id", toString c.id), ("event", Text.quoted c.channel.name)] false

/-- The declared parameters. -/
def Parameters.inspect (p : Parameters) : String :=
  inspected "ParameterRegistry" [("names", inspectedList (p.names.map Text.quoted))] false

section

variable {G : Guest}

/-- An instance. -/
def Instance.inspect (i : Instance G) : String :=
  inspected "SystemInstance"
    [("handle", "SystemHandle(" ++ i.handle.describe ++ ")"),
      ("name", Text.quoted i.name),
      ("ownership", i.attachment.ownership.inspect),
      ("entity", "Entity(" ++ toString i.entity.id.toNat ++ ")"),
      ("capabilities", i.capabilities.inspect),
      ("state", i.state.describe),
      ("degraded", inspectedBool i.degraded)]
    true

/-- A query list. -/
def QueryList.inspect {κ : Type} (l : QueryList κ) : String :=
  inspected "QueryList" [("len", toString l.size)] false

/-- The queue of requests. -/
def Environment.inspectCommands (env : Environment G) : String :=
  inspected "SchedulerCommands" [("queued", toString env.commands.length)] false

/-- The channels of events. -/
def Environment.inspectEvents (env : Environment G) : String :=
  let used := env.channels.keys.filter fun
    | .event _ => true
    | .standalone _ => false
  inspected "EventManager" [("channels", toString used.length)] false

/-- A loader. -/
def Loader.inspect (l : Loader G) : String :=
  inspected "SystemLoader" [("plugins", inspectedList (l.names.map Text.quoted))] true

/-- A scheduler with its queue. -/
def Engine.inspectScheduler (e : Engine G) : String :=
  inspected "SystemScheduler"
    [("instances", inspectedList (e.scheduler.instances.map Instance.inspect)),
      ("pending", inspectedList (e.scheduler.pending.map Instance.inspect)),
      ("commands", e.env.inspectCommands)]
    true

end
end SimEngine
