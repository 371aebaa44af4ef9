import SimEngine.Engine.Environment
/-!
# Instances

An instance is an attached system together with its handle, its entity and its
payload. The interfaces it offers are looked up once, when it is made; if one of
them is withdrawn later, its calls are skipped. A call that fails or panics
never ends the instance: a failed start-up marks it as degraded, a failed call
of a step is reported to the scheduler.
-/

namespace SimEngine

/-- Where an instance stands in its life. -/
inductive InstanceState where
  | created
  | configured
  | stepping
  | detached
  deriving DecidableEq, Repr

/-- The name of a state. -/
def InstanceState.describe : InstanceState → String
  | .created => "Created"
  | .configured => "Configured"
  | .stepping => "Stepping"
  | .detached => "Detached"

/-- An attached system. -/
structure Instance (G : Guest) where
  handle : Handle
  name : String
  attachment : Attachment G
  entity : Entity
  capabilities : Capabilities
  config : Payload
  state : InstanceState
  degraded : Bool

/-- How a call of an instance went. -/
inductive CallResult where
  | completed
  /-- The instance does not offer the interface, or does so no longer. -/
  | skipped
  | failed (message : String)
  deriving DecidableEq, Repr

namespace Instance

variable {G : Guest}

/-- Whether a plugin owns the system. -/
def isPlugin (i : Instance G) : Bool :=
  match i.attachment.ownership with
  | .plugin _ _ => true
  | .shared => false

/-- An instance that has not been configured yet, and its query list. -/
def create (b : Behavior G) (handle : Handle) (attachment : Attachment G) (entity : Entity)
    (config : Payload) (env : Environment G) : Instance G × Environment G :=
  let i : Instance G :=
    { handle := handle
      name := b.name attachment.system env.memory
      attachment := attachment
      entity := entity
      capabilities := .ofTest (b.offers attachment.system env.memory)
      config := config
      state := .created
      degraded := false }
  (i, env.setQueryList handle .empty)

/-- Calls an interface of the system, unless it was withdrawn. -/
def call (b : Behavior G) (i : Instance G) (capability : Capability) (access : Access)
    (program : Program G Unit) (env : Environment G) : CallResult × Environment G :=
  if b.offers i.attachment.system env.memory capability then
    match b.run access program env with
    | (outcome, env) =>
      match outcome.toExcept with
      | .ok () => (.completed, env)
      | .error message => (.failed message, env)
  else
    (.skipped, env.report (.withdrawn i.handle i.name (.capability capability)))

/-- The instance with another payload, if one is given, and past its creation. -/
def prepare (i : Instance G) (config : Option Payload) : Instance G :=
  { i with
    config := config.getD i.config
    state := if i.state = .created then .configured else i.state }

/-- Configures the instance, with another payload if one is given. -/
def configure (b : Behavior G) (i : Instance G) (config : Option Payload)
    (env : Environment G) : Instance G × Environment G :=
  let i := i.prepare config
  if i.capabilities.configure then
    let program := b.configure i.attachment.system ⟨i.handle, i.entity, i.config⟩
    match i.call b .configure .full program env with
    | (.failed message, env) =>
      ({ i with degraded := true },
        env.report (.configureFailed i.handle i.name i.entity message))
    | (_, env) =>
      ({ i with degraded := false }, env.report (.configured i.handle i.name i.entity))
  else
    (i, env)

/-- Has the instance declare its parameters. -/
def configureParameters (b : Behavior G) (i : Instance G) (env : Environment G) :
    Instance G × Environment G :=
  if i.capabilities.configureParameters then
    let program := b.configureParameters i.attachment.system
    match i.call b .configureParameters .full program env with
    | (.failed message, env) =>
      ({ i with degraded := true }, env.report (.parametersFailed i.handle i.name message))
    | (_, env) => (i, env)
  else
    (i, env)

/-- How a phase may use the world: the last one only looks at it. -/
def accessOf : StepPhase → Access
  | .postUpdate => .readOnly
  | _ => .full

/-- Calls the instance in a phase, if it offers the phase. -/
def runPhase (b : Behavior G) (i : Instance G) (phase : StepPhase) (info : StepInfo)
    (env : Environment G) : CallResult × Environment G :=
  if i.capabilities.has phase.capability then
    i.call b phase.capability (accessOf phase) (b.phase phase i.attachment.system info) env
  else
    (.skipped, env)

/-- The instance from its first step on. -/
def admitted (i : Instance G) : Instance G :=
  { i with state := .stepping }

/-- Drops the queries of the instance and lets go of its system. -/
def retire (b : Behavior G) (i : Instance G) (env : Environment G) : Environment G :=
  b.release i.attachment env

end Instance

/-- What a delivery of queries came to. -/
structure Delivery where
  /-- How many callbacks returned. -/
  completed : Nat
  /-- The panic that ended the delivery. -/
  fault : Option String
  deriving DecidableEq, Repr

namespace QueryList

variable {G : Guest}

/-- The message about a callback that panicked. -/
def panicMessage (entity : Entity) (reason : String) : String :=
  "query callback panicked on " ++ entity.describe ++ ": " ++ reason

/-- Calls a query for entities, until it is cancelled or a call panics. -/
def deliverTo (b : Behavior G) (list : Handle) (info : StepInfo) (q : PendingQuery G.Callback) :
    List Entity → Environment G → Delivery × Environment G
  | [], env => (⟨0, none⟩, env)
  | e :: rest, env =>
    if q.id ∈ (env.queryList list).cancelled then (⟨0, none⟩, env)
    else
      match b.run .full (b.onQuery q.callback info e) env with
      | (outcome, env) =>
        match outcome.ofCallback with
        | .ok () =>
          let (d, env) := deliverTo b list info q rest env
          ({ d with completed := d.completed + 1 }, env)
        | .error reason => (⟨0, some (panicMessage e reason)⟩, env)

/-- Calls queries in their order, until a call panics. -/
def deliverAll (b : Behavior G) (list : Handle) (info : StepInfo) :
    List (PendingQuery G.Callback) → Environment G → Delivery × Environment G
  | [], env => (⟨0, none⟩, env)
  | q :: rest, env =>
    match deliverTo b list info q (env.world.query q.signature) env with
    | (⟨n, some fault⟩, env) => (⟨n, some fault⟩, env)
    | (⟨n, none⟩, env) =>
      let (d, env) := deliverAll b list info rest env
      ({ d with completed := n + d.completed }, env)

/-- Delivers the queries of a list that are registered at the beginning. -/
def deliver (b : Behavior G) (list : Handle) (info : StepInfo) (env : Environment G) :
    Delivery × Environment G :=
  let taken := (env.queryList list).queries
  let env := env.setQueryList list (env.queryList list).depart
  let (d, env) := deliverAll b list info taken env
  (d, env.setQueryList list ((env.queryList list).settle taken))

end QueryList
end SimEngine
