import SimEngine.Engine.Instance
/-!
# Schedulers

A scheduler holds the instances that take part in steps and those that wait for
their first step, each in the order in which they were attached. A step first
carries out the requests queued before it, then admits the waiting instances,
then delivers the queries of each instance, and then passes through the phases,
each over all instances. An instance that fails is left out of the rest of the
step and takes part again in the next one.
-/

namespace SimEngine

/-- The instances of a simulation. -/
structure Scheduler (G : Guest) where
  /-- The instances that take part in steps. -/
  instances : List (Instance G)
  /-- The instances that wait for their first step. -/
  pending : List (Instance G)

/-- A scheduler and the environment it works in. -/
structure Engine (G : Guest) where
  scheduler : Scheduler G
  env : Environment G

/-- A failure within a step. -/
structure PhaseFault where
  handle : Handle
  system : String
  stage : Stage
  message : String
  deriving DecidableEq, Repr

/-- The sentence that reports a fault. -/
def PhaseFault.describe (f : PhaseFault) : String :=
  "system '" ++ f.system ++ "' (" ++ f.handle.describe ++ ") faulted in " ++ f.stage.describe
    ++ ": " ++ f.message

/-- What a step came to. -/
structure StepReport where
  iterations : UInt64
  faults : List PhaseFault
  /-- How many calls of phases returned. -/
  phaseCalls : Nat
  /-- How many callbacks returned, of the deliveries that came to their end. -/
  queryCallbacks : Nat
  deriving DecidableEq, Repr

/-- Whether nothing failed. -/
def StepReport.isClean (r : StepReport) : Bool :=
  r.faults.isEmpty

namespace Scheduler

variable {G : Guest}

/-- A scheduler without instances. -/
def empty : Scheduler G := ⟨[], []⟩

/-- All instances, those that take part in steps first. -/
def all (s : Scheduler G) : List (Instance G) :=
  s.instances ++ s.pending

/-- The handles of all instances. -/
def handles (s : Scheduler G) : List Handle :=
  s.all.map Instance.handle

/-- The instance of a handle. -/
def instance? (s : Scheduler G) (handle : Handle) : Option (Instance G) :=
  s.all.find? fun i => i.handle == handle

/-- Whether a handle names an instance. -/
def contains (s : Scheduler G) (handle : Handle) : Bool :=
  (s.instance? handle).isSome

/-- The number of instances. -/
def size (s : Scheduler G) : Nat :=
  s.instances.length + s.pending.length

/-- The scheduler with the instance of a handle replaced. -/
def replace (s : Scheduler G) (handle : Handle) (i : Instance G) : Scheduler G :=
  let swap (list : List (Instance G)) : List (Instance G) :=
    list.map fun j => if j.handle == handle then i else j
  ⟨swap s.instances, swap s.pending⟩

/-- The scheduler without the instance of a handle. -/
def erase (s : Scheduler G) (handle : Handle) : Scheduler G :=
  if s.instances.any fun i => i.handle == handle then
    { s with instances := s.instances.eraseP fun i => i.handle == handle }
  else
    { s with pending := s.pending.eraseP fun i => i.handle == handle }

/-- The scheduler with its waiting instances admitted. -/
def admitPending (s : Scheduler G) : Scheduler G :=
  ⟨s.instances ++ s.pending.map Instance.admitted, []⟩

end Scheduler

/-- The part of a step that has been passed through. -/
structure StepProgress (G : Guest) where
  /-- The instances that have failed. -/
  faulted : List Handle
  report : StepReport
  env : Environment G

namespace StepProgress

variable {G : Guest}

/-- Records a failure of an instance. -/
def fault (p : StepProgress G) (i : Instance G) (stage : Stage) (message : String) :
    StepProgress G where
  faulted := i.handle :: p.faulted
  report := { p.report with faults := p.report.faults ++ [⟨i.handle, i.name, stage, message⟩] }
  env := p.env.report (.faulted i.handle i.name stage p.report.iterations message)

/-- Delivers the queries of one instance. -/
def deliverOne (b : Behavior G) (info : StepInfo) (p : StepProgress G) (i : Instance G) :
    StepProgress G :=
  match QueryList.deliver b i.handle info p.env with
  | (⟨_, some message⟩, env) => { p with env := env }.fault i .queries message
  | (⟨n, none⟩, env) =>
    { p with
      report := { p.report with queryCallbacks := p.report.queryCallbacks + n }
      env := env }

/-- Calls one instance in a phase, unless it has failed in this step. -/
def callOne (b : Behavior G) (info : StepInfo) (phase : StepPhase) (p : StepProgress G)
    (i : Instance G) : StepProgress G :=
  if i.handle ∈ p.faulted then p
  else
    match i.runPhase b phase info p.env with
    | (.completed, env) =>
      { p with report := { p.report with phaseCalls := p.report.phaseCalls + 1 }, env := env }
    | (.skipped, env) => { p with env := env }
    | (.failed message, env) => { p with env := env }.fault i phase.stage message

end StepProgress

namespace Engine

variable {G : Guest} (b : Behavior G)

/-- Attaches a system under a handle. -/
def attachAs (e : Engine G) (handle : Handle) (attachment : Attachment G) (entity : Entity)
    (config : Payload) : Engine G :=
  let (i, env) := Instance.create b handle attachment entity config e.env
  let (i, env) := i.configure b none env
  let (i, env) := i.configureParameters b env
  ⟨{ e.scheduler with pending := e.scheduler.pending ++ [i] },
    env.report (.attached handle i.name entity i.capabilities i.degraded)⟩

/-- Attaches a system. -/
def attach (e : Engine G) (attachment : Attachment G) (entity : Entity) (config : Payload) :
    Handle × Engine G :=
  let (handle, env) := e.env.freshHandle
  (handle, { e with env := env }.attachAs b handle attachment entity config)

/-- Loads a plugin and attaches its system. -/
def loadAndAttach (e : Engine G) (spec : PluginSpec) : Except SystemError Handle × Engine G :=
  match b.load spec e.env with
  | (.ok attachment, env) =>
    let (handle, e) := { e with env := env }.attach b attachment spec.entity spec.config
    (.ok handle, e)
  | (.error cause, env) => (.error cause, { e with env := env })

/-- Takes an instance out and lets go of its system. -/
def dismiss (e : Engine G) (i : Instance G) : Engine G :=
  let env := e.env.setQueryList i.handle (e.env.queryList i.handle).clear
  { e with env := i.retire b (env.report (.detached i.handle i.name)) }

/-- Detaches a system. -/
def detach (e : Engine G) (handle : Handle) : Except SystemError (Engine G) :=
  match e.scheduler.instance? handle with
  | none => .error (.unknownHandle handle)
  | some i => .ok ({ e with scheduler := e.scheduler.erase handle }.dismiss b i)

/-- Configures a system anew; tells whether it is sound afterwards. -/
def reconfigure (e : Engine G) (handle : Handle) (config : Option Payload) :
    Except SystemError (Bool × Engine G) :=
  match e.scheduler.instance? handle with
  | none => .error (.unknownHandle handle)
  | some i =>
    let (i, env) := i.configure b config e.env
    .ok (!i.degraded, ⟨e.scheduler.replace handle i, env⟩)

/-- Detaches instances in the order of a list. -/
def retireAll (env : Environment G) : List (Instance G) → Environment G
  | [] => env
  | i :: rest =>
    let env := env.setQueryList i.handle (env.queryList i.handle).clear
    retireAll (i.retire b env) rest

/-- Detaches every system, the one attached last first. -/
def clear (e : Engine G) : Engine G :=
  ⟨.empty, retireAll b e.env e.scheduler.all.reverse⟩

/-- The end of an engine: every system is detached, and the queue is left to who can reach it. -/
def close (e : Engine G) : Engine G :=
  let e := e.clear b
  { e with env := b.tidy { e.env with orphaned := true } }

/-- Carries out one request; the detachment of an unknown handle is left alone. -/
def apply (e : Engine G) (command : Command G) : Engine G :=
  match command with
  | .attach handle attachment entity config => e.attachAs b handle attachment entity config
  | .detach handle =>
    match e.detach b handle with
    | .ok e => e
    | .error _ => e

/-- Carries out the requests queued so far; those queued meanwhile keep waiting. -/
def applyCommands (e : Engine G) : Engine G :=
  e.env.commands.foldl (fun e c => e.apply b c) { e with env := { e.env with commands := [] } }

/-- Carries out the requests queued so far and admits the waiting instances. -/
def beginStep (e : Engine G) : Engine G :=
  let e := e.applyCommands b
  { e with scheduler := e.scheduler.admitPending }

/-- Delivers queries and passes through the phases. -/
def passThrough (instances : List (Instance G)) (info : StepInfo) (env : Environment G) :
    StepProgress G :=
  let start : StepProgress G := ⟨[], ⟨info.iterations, [], 0, 0⟩, env⟩
  let delivered := instances.foldl (StepProgress.deliverOne b info) start
  StepPhase.all.foldl
    (fun p phase => instances.foldl (StepProgress.callOne b info phase) p) delivered

/-- Makes one step. -/
def runStep (e : Engine G) (info : StepInfo) : StepReport × Engine G :=
  let e := e.beginStep b
  let p := passThrough b e.scheduler.instances info e.env
  (p.report, { e with env := p.env })

end Engine
end SimEngine
