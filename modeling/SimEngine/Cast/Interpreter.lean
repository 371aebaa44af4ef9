import SimEngine.Cast.Enlist
import SimEngine.Json.Exact
/-!
# What scripted code does

Each action as a program. An action whose means are missing does nothing: a
query list and a payload come with a configuration, the parameters with their
declaration, and the world is within reach of calls of a step only.
-/

namespace SimEngine

/-- The call within which an action is performed. -/
structure Scope where
  /-- Who writes. -/
  who : String
  access : Access
  info : Option StepInfo
  /-- The entity that a query is delivered for. -/
  subject : Option Entity
  reach : Reach
  /-- The system, if it is one of its own interfaces that is called. -/
  system : Option SystemId

/-- A Boolean as scripted code writes it. -/
def writtenBool (b : Bool) : String :=
  if b then "true" else "false"

/-- A tree as scripted code writes it, or the mark of a missing one. -/
def writtenTree (tree : Option Json) : String :=
  match tree with
  | some tree => tree.exact.compact
  | none => Json.writtenString "<none>"

/-- A size and whether it is zero. -/
def writtenSize (size : Nat) : String :=
  toString size ++ " " ++ writtenBool (size == 0)

namespace Scope

/-- Writes a line. -/
def say (s : Scope) (text : String) : Deed Unit :=
  Program.revise fun m => m.write (s.who ++ ": " ++ text)

/-- The entity an action is about. -/
def entityOr (s : Scope) (entity : Option Entity) : Entity :=
  match entity, s.subject with
  | some e, _ => e
  | none, some e => e
  | none, none => s.reach.entity

/-- The time of the step as it is written. -/
def infoText (s : Scope) : String :=
  match s.info with
  | none => "none"
  | some info =>
    "i=" ++ toString info.iterations.toNat ++ " t=" ++ toString info.simTime.nanos
      ++ " dt=" ++ toString info.dt.nanos ++ " p=" ++ writtenBool info.paused

/-- What the code was configured for, as it is written. -/
def linkText (s : Scope) : String :=
  let handle := match s.reach.link with
    | some link => link.handle.describe
    | none => "none"
  "handle=" ++ handle ++ " entity=" ++ s.reach.entity.describe

/-- Does something with the configuration, if there is one. -/
def withLink (s : Scope) (deed : Link → Deed Unit) : Deed Unit :=
  match s.reach.link with
  | some link => deed link
  | none => return ()

/-- Reads a field of the payload that must be a number, and writes it. -/
def requireNumber (s : Scope) (key : String) : Deed Unit :=
  s.withLink fun link =>
    match link.config.require (Reader.integer "u32" 0 (Nat.pow 2 32 - 1 : Nat)) key with
    | .ok n => s.say ("required " ++ toString n)
    | .error e => Program.fail e.toFailure

/-- Registers a query and keeps its number under a label. -/
def register (s : Scope) (label : String) (signature : Signature) (run : List Beat) : Deed Unit :=
  s.withLink fun link => do
    let (number, _) := (← Program.consult).newCallback
    Program.revise fun m => m.newCallback.2
    let id ← Program.register link.handle signature (Callback.scripted label number run s.reach)
    Program.revise fun m => { m with queries := m.queries.insert label (link.handle, id) }
    s.say (label ++ " is QueryId(" ++ toString id ++ ")")

/-- Cancels the query registered last under a label. -/
def cancel (s : Scope) (label : String) : Deed Unit := do
  let found ← match (← Program.consult).queries.find? label with
    | some (list, query) => Program.cancel list query
    | none => pure false
  s.say ("cancel " ++ label ++ " " ++ writtenBool found)

/-- Keeps a subscription under a label; the former one ends. -/
def keep (label : String) (connection : Connection) : Deed Unit := do
  let former := (← Program.consult).connections.find? label
  Program.revise fun m => { m with connections := m.connections.insert label connection }
  match former with
  | some former => Program.disconnect former
  | none => return ()

/-- Subscribes to a channel. -/
def subscribe (channel : ChannelKey) (label : String) (run : List Beat) (reach : Reach) :
    Deed Connection := do
  let (number, _) := (← Program.consult).newCallback
  Program.revise fun m => m.newCallback.2
  Program.connect channel (Callback.scripted label number run reach)

/-- Ends the subscription kept under a label; tells whether there was one. -/
def unsubscribe (label : String) : Deed Bool := do
  match (← Program.consult).connections.find? label with
  | some connection => do
    Program.revise fun m => { m with connections := m.connections.erase label }
    Program.disconnect connection
    return true
  | none => return false

/-- Subscribes to an event, for the system itself or under a label. -/
def connect (s : Scope) (event : Event) (label : String) (isOwned : Bool) (run : List Beat) :
    Deed Unit := do
  let connection ← subscribe (.event event) label run s.reach
  match s.system, isOwned with
  | some system, true =>
    Program.revise fun m =>
      m.reviseScripted system fun state => { state with owned := state.owned ++ [connection] }
  | _, _ => keep label connection

/-- Queues the attachment of a system. -/
def attach (s : Scope) (casting : Casting Script) : Deed Unit := do
  match (← Program.consult).enlist casting with
  | .error failure => s.say ("attach failed: " ++ failure.describe)
  | .ok (attachment, memory) => do
    Program.revise fun _ => memory
    let handle ← Program.queueAttach attachment casting.entity casting.config
    Program.revise fun m => m.acquaint handle
    s.say ("attach " ++ handle.describe)

/-- Queues the detachment of a handle that scripted code may name. -/
def detach (s : Scope) (target : Target) : Deed Unit := do
  match target, s.reach.link with
  | .self, some link => Program.queueDetach link.handle
  | .handle handle, _ =>
    if handle ∈ (← Program.consult).known then Program.queueDetach handle else return ()
  | _, _ => return ()

/-- Adds to a count; counts have 64 bits. -/
def add (s : Scope) (amount : Int) (entity : Entity) : Deed Unit := do
  match ← Deed.count? entity with
  | none => s.say "no count"
  | some count =>
    let sum := count + amount
    if -(Nat.pow 2 63 : Int) ≤ sum ∧ sum < Nat.pow 2 63 then
      let _ ← Deed.setCount entity sum
    else
      Program.panic .addOverflow

/-- Writes a count, and whether the entity is alive. -/
def read (s : Scope) (entity : Entity) : Deed Unit := do
  let count := match ← Deed.count? entity with
    | some count => "Some(" ++ toString count ++ ")"
    | none => "None"
  s.say ("count " ++ count ++ " alive " ++ writtenBool (← Program.isAlive entity))

/-- Writes the entities of a signature. -/
def find (s : Scope) (signature : Signature) : Deed Unit := do
  let entities ← Program.find signature
  s.say ("found " ++ (Json.arr (entities.map fun e => .ofNat e.id.toNat)).compact)

end Scope

/-- What an action does. -/
def Action.perform (s : Scope) : Action → Deed Unit
  | .log text => s.say text
  | .fail f => .fail f
  | .panic p => .panic p
  | .info => s.say s.infoText
  | .link => s.say s.linkText
  | .config key => s.withLink fun link => s.say (writtenTree (link.config.get? key))
  | .require key => s.requireNumber key
  | .expose capabilities =>
    match s.system with
    | some system =>
      Program.revise fun m =>
        m.reviseScripted system fun state => { state with exposed := capabilities }
    | none => return ()
  | .register label signature run => s.register label signature run
  | .cancel label => s.cancel label
  | .clearQueries => s.withLink fun link => Program.clearQueries link.handle
  | .queries =>
    s.withLink fun link => do
      s.say ("queries " ++ writtenSize (← Program.queryCount link.handle))
  | .connect event label isOwned run => s.connect event label isOwned run
  | .disconnect label => do
    s.say ("disconnect " ++ label ++ " " ++ writtenBool (← Scope.unsubscribe label))
  | .emit signal => do
    s.say ("emitted " ++ toString (← Program.emit signal))
  | .connections event => do
    s.say ("connections " ++ toString (← Program.connectionCount (.event event)))
  | .attach casting => if s.reach.commands then s.attach casting else return ()
  | .detach target => if s.reach.commands then s.detach target else return ()
  | .commands =>
    if s.reach.commands then do
      s.say ("commands " ++ writtenSize (← Program.commandCount))
    else return ()
  | .add amount entity =>
    if s.access = .full then s.add amount (s.entityOr entity) else return ()
  | .read entity => if s.access ≠ .none then s.read (s.entityOr entity) else return ()
  | .find signature => if s.access ≠ .none then s.find signature else return ()
  | .declare name value =>
    if s.reach.parameters then Program.declare name value else return ()
  | .setParameter name value =>
    if s.reach.parameters then Program.setParameter name value else return ()
  | .parameter name =>
    if s.reach.parameters then do
      s.say ("param " ++ writtenTree (← Program.getParameter name))
    else return ()

/-- Performs actions one after the other. -/
def performAll (s : Scope) (actions : List Action) : Deed Unit :=
  Program.forEach actions (Action.perform s)

namespace ScriptedSystem

/-- The line that a call writes. -/
def callLine (s : ScriptedSystem) (hook : Capability) (info : Option StepInfo) : String :=
  let step := match info with
    | some info => "@" ++ toString info.iterations.toNat
    | none => ""
  hook.describe ++ "(" ++ s.name ++ ")" ++ step

/-- A call of an interface. -/
def call (s : ScriptedSystem) (system : SystemId) (hook : Capability) (access : Access)
    (info : Option StepInfo) : Deed Unit := do
  let number := s.calls.get hook
  Program.revise fun m =>
    (m.write (s.callLine hook info)).reviseScripted system fun state =>
      { state with calls := state.calls.set hook (number + 1) }
  let scope : Scope := ⟨s.name, access, info, none, s.reach, some system⟩
  performAll scope (actionsOf (s.hooks.get hook) number)

/-- The system while it is configured: from now on it may use what it is configured for. -/
def configure (s : ScriptedSystem) (system : SystemId) (context : ConfigureContext) :
    Deed Unit := do
  let reach := s.reach.linked ⟨context.handle, context.entity, context.config⟩
  Program.revise fun m =>
    (m.acquaint context.handle).reviseScripted system fun state => { state with reach := reach }
  { s with reach := reach }.call system .configure .full none

/-- The system while it declares parameters: from now on it may use them. -/
def configureParameters (s : ScriptedSystem) (system : SystemId) : Deed Unit := do
  let reach := { s.reach with parameters := true }
  Program.revise fun m => m.reviseScripted system fun state => { state with reach := reach }
  { s with reach := reach }.call system .configureParameters .full none

/-- The end of the system. -/
def drop (s : ScriptedSystem) : Deed Unit := do
  Program.revise fun m => m.write ("drop(" ++ s.name ++ ")")
  Program.forEach s.owned Program.disconnect

theorem completes_drop (s : ScriptedSystem) : s.drop.Completes :=
  Program.completes_ask fun _ =>
    Program.completes_forEach (fun c => Program.completes_request (.disconnect c)) s.owned

end ScriptedSystem

/-- A scripted callback of a query. -/
def deliverScripted (label : String) (number : Nat) (run : List Beat) (reach : Reach)
    (info : StepInfo) (entity : Entity) : Deed Unit := do
  let call := (← Program.consult).callbackCount number
  Program.revise fun m =>
    (m.countCallback number).write
      (label ++ "(" ++ toString entity.id.toNat ++ ")@" ++ toString info.iterations.toNat)
  performAll ⟨label, .full, some info, some entity, reach, none⟩ (actionsOf run call)

/-- What a notification carries, as it is written. -/
def Signal.text : Signal → String
  | .sceneUpdate => ""
  | .stop => ""
  | .pause paused => writtenBool paused
  | .custom value => toString value
  | .standalone _ value => toString value
  | .loadPlugins entity specs =>
    entity.describe ++ " " ++ String.intercalate "," (specs.map PluginSpec.name)

/-- A scripted subscriber. -/
def notifyScripted (label : String) (number : Nat) (run : List Beat) (reach : Reach)
    (signal : Signal) : Deed Unit := do
  let call := (← Program.consult).callbackCount number
  Program.revise fun m => (m.countCallback number).write (label ++ "(" ++ signal.text ++ ")")
  performAll ⟨label, .none, none, none, reach, none⟩ (actionsOf run call)

end SimEngine
