import SimEngine.Engine.Loader
import SimEngine.Engine.QueryList
/-!
# Environments

The state that guest code works on: the world, the parameters, the channels
with their subscribers, the query lists, the queue of requests, the loader, the
flags of the loop and the memory of the guest. `Request.perform` says what each
request does to it.

The queue outlives its engine for as long as guest code can reach it; it is let
go of, with the systems in it, at the very request that takes the last way to it.
-/

namespace SimEngine

/-- Who is called when a channel is notified. -/
inductive Listener (κ : Type) where
  | guest (callback : κ)
  /-- The loop that drives the simulation. -/
  | loop

/-- What the loop is told through events. -/
structure LoopFlags where
  paused : Bool
  stopRequested : Bool
  /-- The plugins to load before the next step. -/
  loadRequests : List PluginSpec

/-- The state that guest code works on. -/
structure Environment (G : Guest) where
  world : World G.components
  parameters : Parameters
  channels : Channels (Listener G.Callback)
  /-- The query list of each attachment. -/
  queries : OrderedMap Handle (QueryList G.Callback)
  /-- The requests that wait for the next step, the oldest first. -/
  commands : List (Command G)
  /-- Whether the engine is gone that would carry out the requests. -/
  orphaned : Bool
  loader : Loader G
  loop : LoopFlags
  /-- The number of the next handle; a counter of 64 bits agrees with it below `2 ^ 64`. -/
  nextHandle : Nat
  /-- What was reported, the last notice first. -/
  journal : List Notice
  memory : G.Memory

/-- How a call may use the world. -/
inductive Access where
  | none
  | readOnly
  | full
  deriving DecidableEq, Repr

namespace Environment

variable {G : Guest}

/-- The environment in which nothing has happened. -/
def initial (memory : G.Memory) : Environment G where
  world := .empty
  parameters := .empty
  channels := ∅
  queries := ∅
  commands := []
  orphaned := false
  loader := .empty
  loop := ⟨false, false, []⟩
  nextHandle := 1
  journal := []
  memory := memory

/-- Reports a notice. -/
def report (env : Environment G) (notice : Notice) : Environment G :=
  { env with journal := notice :: env.journal }

/-- A handle that was never used. -/
def freshHandle (env : Environment G) : Handle × Environment G :=
  (⟨env.nextHandle⟩, { env with nextHandle := env.nextHandle + 1 })

/-- The query list of an attachment. -/
def queryList (env : Environment G) (handle : Handle) : QueryList G.Callback :=
  (env.queries.find? handle).getD .empty

/-- Changes the query list of an attachment. -/
def setQueryList (env : Environment G) (handle : Handle) (list : QueryList G.Callback) :
    Environment G :=
  { env with queries := env.queries.insert handle list }

/-- Queues an attachment under a fresh handle. -/
def queueAttach (env : Environment G) (attachment : Attachment G) (entity : Entity)
    (config : Payload) : Handle × Environment G :=
  let (handle, env) := env.freshHandle
  (handle, { env with commands := env.commands ++ [.attach handle attachment entity config] })

/-- Queues a detachment. -/
def queueDetach (env : Environment G) (handle : Handle) : Environment G :=
  { env with commands := env.commands ++ [.detach handle] }

/-- Gives a subscriber of a channel its turn, or ends the turn. -/
def turnTo (env : Environment G) (key : ChannelKey) (current : Option Nat) : Environment G :=
  { env with channels := env.channels.turnTo key current }

/-- The loop's answer to a notification. -/
def tellLoop (env : Environment G) : Signal → Environment G
  | .pause paused =>
    { env with loop := { env.loop with paused := paused } }.report (.pauseChanged paused)
  | .stop => { env with loop := { env.loop with stopRequested := true } }
  | .loadPlugins entity specs =>
    let requests := specs.map fun spec => { spec with entity := entity }
    { env with loop := { env.loop with loadRequests := env.loop.loadRequests ++ requests } }
  | _ => env

/-- Writes to the world, if the call may and there is something to overwrite. -/
def write (env : Environment G) (access : Access) (entity : Entity) (kind : G.components.Kind)
    (value : G.components.Value kind) : Bool × Environment G :=
  if access = .full then
    match env.world.set? entity kind value with
    | some world => (true, { env with world := world })
    | none => (false, env)
  else
    (false, env)

end Environment

variable {G : Guest}

/-- Answers a request, given what a notification does. -/
def Request.perform (emit : Signal → Environment G → Nat × Environment G) (access : Access)
    (env : Environment G) : (r : Request G) → r.Answer × Environment G
  | .consult => (env.memory, env)
  | .revise f => ((), { env with memory := f env.memory })
  | .report notice => ((), env.report notice)
  | .isAlive e => (access ≠ .none && env.world.contains e, env)
  | .find s => (if access = .none then [] else env.world.query s, env)
  | .hasType e type => (access ≠ .none && env.world.hasType e type, env)
  | .read e kind => (if access = .none then none else env.world.get? e kind, env)
  | .write e kind value => env.write access e kind value
  | .emit signal => emit signal env
  | .connect key callback =>
    let (connection, channels) := env.channels.connect key (.guest callback)
    (connection, { env with channels := channels })
  | .disconnect c => ((), { env with channels := env.channels.disconnect c })
  | .isConnected c => (env.channels.isConnected c, env)
  | .connectionCount key => (env.channels.connectionCount key, env)
  | .register list signature callback =>
    let queries := (env.queryList list).register signature callback
    (queries.lastId, env.setQueryList list queries)
  | .cancel list query =>
    let (found, queries) := (env.queryList list).cancel query
    (found, env.setQueryList list queries)
  | .clearQueries list => ((), env.setQueryList list (env.queryList list).clear)
  | .queryCount list => ((env.queryList list).size, env)
  | .queueAttach attachment entity config => env.queueAttach attachment entity config
  | .queueDetach handle => ((), env.queueDetach handle)
  | .commandCount => (env.commands.length, env)
  | .declare name value =>
    match env.parameters.declare name value with
    | .ok parameters => (.ok (), { env with parameters := parameters })
    | .error e => (.error e, env)
  | .setParameter name value =>
    match env.parameters.set name value with
    | .ok parameters => (.ok (), { env with parameters := parameters })
    | .error e => (.error e, env)
  | .getParameter name => (env.parameters.get? name, env)

/-- How a program ends. -/
inductive Outcome (α : Type) where
  | done (result : α)
  | failed (failure : Failure)
  | panicked (panic : Panic)

namespace Outcome

/-- The outcome as a result; a panic is told apart from a failure. -/
def toExcept {α : Type} : Outcome α → Except String α
  | .done a => .ok a
  | .failed f => .error f.describe
  | .panicked p => .error ("panicked: " ++ p.describe)

/-- The outcome of a callback, which can end early by a panic only. -/
def ofCallback {α : Type} : Outcome α → Except String α
  | .done a => .ok a
  | .failed f => .error f.describe
  | .panicked p => .error p.describe

end Outcome

/-- Runs a program, given what a notification does and what is due after each request. -/
def Program.run {α : Type} (emit : Signal → Environment G → Nat × Environment G)
    (tidy : Environment G → Environment G) (access : Access) :
    Program G α → Environment G → Outcome α × Environment G
  | .done a, env => (.done a, env)
  | .fail f, env => (.failed f, env)
  | .panic p, env => (.panicked p, env)
  | .ask r next, env =>
    let (answer, env) := r.perform emit access env
    (next answer).run emit tidy access (tidy env)

/-- A program that completes is run to its end, whatever it finds. -/
theorem Program.Completes.run {α : Type} {p : Program G α} (hp : p.Completes)
    (emit : Signal → Environment G → Nat × Environment G) (tidy : Environment G → Environment G)
    (access : Access) (env : Environment G) :
    ∃ a, p.run emit tidy access env = (.done a, (p.run emit tidy access env).2) := by
  induction p generalizing env with
  | done a => exact ⟨a, rfl⟩
  | fail f => exact hp.elim
  | panic m => exact hp.elim
  | ask r next ih => exact ih _ (hp _) _

/-- The subscribers that a notification in progress has yet to pass, the one called included. -/
abbrev Snapshot (G : Guest) : Type :=
  List (Subscriber (Listener G.Callback))

/--
Calls the subscribers of a snapshot, except those whose mark is set; counts those that return.
`call` and `tidy` are told the snapshots of all notifications in progress, `held` being those
outside.
-/
def notifyAll
    (call : List (Snapshot G) → Listener G.Callback → Environment G →
      Except String Unit × Environment G)
    (tidy : List (Snapshot G) → Environment G → Environment G)
    (held : List (Snapshot G)) (key : ChannelKey) :
    Snapshot G → Environment G → Nat × Environment G
  | [], env => (0, env)
  | s :: rest, env =>
    if env.channels.isSilenced ⟨key, s.id⟩ then
      notifyAll call tidy held key rest (tidy (rest :: held) env)
    else
      match call ((s :: rest) :: held) s.callback (env.turnTo key (some s.id)) with
      | (.ok (), env) =>
        let env := env.turnTo key none
        let (count, env) := notifyAll call tidy held key rest (tidy (rest :: held) env)
        (count + 1, env)
      | (.error reason, env) =>
        let env := (env.turnTo key none).report (.subscriberPanicked key.name s.id reason)
        notifyAll call tidy held key rest (tidy (rest :: held) env)

namespace Behavior

variable (b : Behavior G)

/--
Lets go of a system that is attached no more, given how programs are run. No guard stands around
the programs that are run here, and none is needed: they complete, so that each is run to its end
and what is due after it follows.
-/
def releaseWith (run : Program G Unit → Environment G → Environment G)
    (attachment : Attachment G) (env : Environment G) : Environment G :=
  match attachment.ownership with
  | .shared => run (b.giveBack attachment.system) env
  | .plugin name unload =>
    let env := run (b.discard attachment.system) env
    match unload with
    | none => env
    | some .announced => run (b.unloaded name) env
    | some .counted =>
      let (last, loader) := env.loader.uncount name
      let env := { env with loader := loader }
      if last then env.report (.unloading name) else env

/-- Lets go of the systems that requests would attach. -/
def releaseCommands (run : Program G Unit → Environment G → Environment G)
    (env : Environment G) : List (Command G) → Environment G
  | [] => env
  | .attach _ attachment _ _ :: rest =>
    releaseCommands run (b.releaseWith run attachment env) rest
  | .detach _ :: rest => releaseCommands run env rest

/-- Whether one of the subscribers can reach the queue. -/
def subscribersHoldQueue (subscribers : Snapshot G) : Bool :=
  subscribers.any fun s =>
    match s.callback with
    | .guest callback => b.callbackHoldsQueue callback
    | .loop => false

/--
Whether guest code can still reach the queue: by its memory, a subscriber, a query, or a
subscriber that a notification in progress has yet to pass.
-/
def holdsQueue (held : List (Snapshot G)) (env : Environment G) : Bool :=
  b.memoryHoldsQueue env.memory
    || env.channels.entries.any (fun (_, channel) => b.subscribersHoldQueue channel.subscribers)
    || env.queries.entries.any (fun (_, list) =>
        list.queries.any fun q => b.callbackHoldsQueue q.callback)
    || held.any b.subscribersHoldQueue

/-- Lets go of the queue if its engine is gone and guest code cannot reach it any more. -/
def tidyWith (emit : Signal → Environment G → Nat × Environment G) (held : List (Snapshot G))
    (env : Environment G) : Environment G :=
  if env.orphaned && !b.holdsQueue held env then
    let run (p : Program G Unit) (env : Environment G) : Environment G :=
      (p.run emit id .none env).2
    b.releaseCommands run { env with commands := [] } env.commands
  else
    env

theorem tidyWith_of_not_orphaned {emit : Signal → Environment G → Nat × Environment G}
    {held : List (Snapshot G)} {env : Environment G} (h : env.orphaned = false) :
    b.tidyWith emit held env = env := by
  simp [tidyWith, h]

/--
Notifies the subscribers a channel has at the beginning, in their order. The snapshots of the
notifications in progress are `held`, and no more than `depth` of them are in progress at once.

A callback may not notify a channel that is being notified, one of `busy`: the notification would
wait for its own end. Such a request is outside the contract; it is answered with `0` here, and
a result that depends on its answer excludes it by a hypothesis.
-/
def notify : Nat → List ChannelKey → List (Snapshot G) → Signal → Environment G →
    Nat × Environment G
  | 0, _, _, _, env => (0, env)
  | depth + 1, busy, held, signal, env =>
    let key := signal.channel
    if key ∈ busy then (0, env)
    else
      let env := { env with channels := env.channels.ensure key }
      let emit (held : List (Snapshot G)) := notify depth (key :: busy) held
      let tidy (held : List (Snapshot G)) := b.tidyWith (emit held) held
      let call (held : List (Snapshot G)) (listener : Listener G.Callback)
          (env : Environment G) : Except String Unit × Environment G :=
        match listener with
        | .guest callback =>
          let (outcome, env) := (b.onSignal callback signal).run (emit held) (tidy held) .none env
          (outcome.ofCallback, env)
        | .loop => (.ok (), env.tellLoop signal)
      notifyAll call tidy held key (env.channels.get key).subscribers env

/-- Notifies the subscribers of a channel while no notification is in progress. -/
def emit (signal : Signal) (env : Environment G) : Nat × Environment G :=
  b.notify b.depth [] [] signal env

/-- What is due after whatever may have taken the last way to the queue. -/
def tidy (env : Environment G) : Environment G :=
  b.tidyWith b.emit [] env

/-- Runs a program on behalf of the engine. -/
def run {α : Type} (access : Access) (p : Program G α) (env : Environment G) :
    Outcome α × Environment G :=
  p.run b.emit b.tidy access env

/-- What a program leaves that ends with nothing to tell: one that completes. -/
def runQuietly (p : Program G Unit) (env : Environment G) : Environment G :=
  (b.run .none p env).2

theorem run_of_completes {p : Program G Unit} (hp : p.Completes) (env : Environment G) :
    b.run .none p env = (.done (), b.runQuietly p env) := by
  obtain ⟨_, hrun⟩ := hp.run b.emit b.tidy .none env
  exact hrun

/-- Lets go of a system that is attached no more. -/
def release (attachment : Attachment G) (env : Environment G) : Environment G :=
  b.releaseWith b.runQuietly attachment env

/-- Makes a system by the name of its plugin. -/
def load (spec : PluginSpec) (env : Environment G) :
    Except SystemError (Attachment G) × Environment G :=
  match env.loader.factories.find? spec.name with
  | none => (.error (.unknownPlugin spec.name), env)
  | some factory =>
    let (outcome, env) := b.run .none (b.construct factory spec) env
    match outcome.toExcept with
    | .ok system =>
      (.ok ⟨system, .plugin spec.name (some .counted)⟩,
        { env with loader := env.loader.count spec.name })
    | .error message => (.error (.construction spec.name message), env)

end Behavior
end SimEngine
