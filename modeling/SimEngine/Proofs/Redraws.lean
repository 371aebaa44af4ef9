import SimEngine.Engine.TickLoop
import SimEngine.Proofs.Turns

/-!
# Ticks beside a renderer

While a loop runs, a renderer may emit scene updates at any time between two
calls of systems.  A schedule tells how many it emits before each of them.  Both
ways to run a loop are cases of a run with a schedule: the schedule without
scene updates gives the run of the loop alone.

**Definitions.**
* `Behavior.redraw`: scene updates in a row.
* `Frames`: how many scene updates there are in a tick, and when.
* `TickLoop.tickBeside`, `TickLoop.runTicks`: a tick, and a run, with scene
  updates in between.
* `TickLoop.ticks`: the steps of a run of the loop alone.
* `TickLoop.runBeside`: a run with scene updates that detaches every system in
  the end.

**Results.**
* `foldl_amid`: a relation that scene updates and items preserve.
* `tickBeside_none`: a tick without scene updates is a tick.
* `runTicks_none`, `runBeside_none`: so are runs.
-/

namespace SimEngine

variable {G : Guest}

/-- Emits scene updates. -/
def Behavior.redraw (b : Behavior G) : Nat → Environment G → Environment G
  | 0, env => env
  | n + 1, env => redraw b n (b.emit .sceneUpdate env).2

/-- How many scene updates there are in a tick. -/
structure Frames where
  /-- Before the tick begins. -/
  before : Nat
  /-- Before each plugin that is loaded. -/
  amidLoads : Nat → Nat
  /-- Before each request that is carried out. -/
  amidCommands : Nat → Nat
  /-- Before each turn of an instance. -/
  amidTurns : Nat → Nat
  /-- After the last turn. -/
  after : Nat

/-- No scene update at all. -/
def Frames.none : Frames := ⟨0, fun _ => 0, fun _ => 0, fun _ => 0, 0⟩

/-- Goes through a list, with scene updates before each item. -/
def amid {σ ι : Type} (redraw : Nat → σ → σ) (f : σ → ι → σ) : (Nat → Nat) → σ → List ι → σ
  | _, s, [] => s
  | frames, s, x :: rest =>
    amid redraw f (fun k => frames (k + 1)) (f (redraw (frames 0) s) x) rest

/-- Emits scene updates. -/
def StepProgress.redraw (b : Behavior G) (n : Nat) (p : StepProgress G) : StepProgress G :=
  { p with env := b.redraw n p.env }

namespace Engine

variable (b : Behavior G)

/-- Emits scene updates. -/
def redraw (n : Nat) (e : Engine G) : Engine G :=
  { e with env := b.redraw n e.env }

/-- Makes one step, with scene updates in between. -/
def runStepBeside (frames : Frames) (e : Engine G) (info : StepInfo) : StepReport × Engine G :=
  let e := amid (redraw b) (apply b) frames.amidCommands
    { e with env := { e.env with commands := [] } } e.env.commands
  let e := { e with scheduler := e.scheduler.admitPending }
  let p := amid (StepProgress.redraw b) (StepProgress.advance b info) frames.amidTurns
    ⟨[], ⟨info.iterations, [], 0, 0⟩, e.env⟩ (slots e.scheduler.instances)
  (p.report, { e with env := b.redraw frames.after p.env })

end Engine

namespace TickLoop

variable (b : Behavior G)

/-- Emits scene updates. -/
def redraw (n : Nat) (t : TickLoop G) : TickLoop G :=
  { t with engine := t.engine.redraw b n }

/-- Loads and attaches the plugins requested so far, with scene updates in between. -/
def loadBeside (frames : Frames) (e : Engine G) : Engine G :=
  let flags := { e.env.loop with loadRequests := [] }
  amid (Engine.redraw b) (loadOne b) frames.amidLoads { e with env := { e.env with loop := flags } }
    e.env.loop.loadRequests

/-- Makes one tick, with scene updates in between; answers the time and the report of its step. -/
def tickBeside (frames : Frames) (t : TickLoop G) :
    Except TickError ((StepInfo × StepReport) × TickLoop G) :=
  match t.nextInfo with
  | .error cause => .error cause
  | .ok info =>
    let (report, e) := (loadBeside b frames t.engine).runStepBeside b frames info
    .ok ((info, report),
      { t with engine := e, last := some info, faults := t.faults + report.faults.length })

/--
Ticks until the loop is finished, but no more than `bound` times, with scene updates as a schedule
has them.  Answers the times and the reports of the steps besides.
-/
def runTicks (t : TickLoop G) (schedule : Nat → Frames) :
    Nat → List (StepInfo × StepReport) × RunEnd × TickLoop G
  | 0 => ([], .unfinished, t)
  | bound + 1 =>
    match (t.redraw b (schedule 0).before).tickBeside b (schedule 0) with
    | .error cause => ([], .failed cause, t.redraw b (schedule 0).before)
    | .ok (made, t) =>
      if t.isFinished then ([made], .finished, t)
      else
        let (ticks, left) := t.runTicks (fun k => schedule (k + 1)) bound
        (made :: ticks, left)

/-- The times and the reports of the steps of a run of the loop alone. -/
def ticks (t : TickLoop G) : Nat → List (StepInfo × StepReport)
  | 0 => []
  | bound + 1 =>
    match t.nextInfo, t.tick b with
    | .ok info, .ok (report, t) =>
      (info, report) :: if t.isFinished then [] else t.ticks bound
    | _, _ => []

/-- Runs the loop to its end beside a renderer, and detaches every system. -/
def runBeside (t : TickLoop G) (schedule : Nat → Frames) (bound : Nat) :
    List (StepInfo × StepReport) × RunEnd × TickLoop G :=
  match t.config.stepDuration?, t.config.renderInterval? with
  | none, _ => ([], .failed .rateOutOfRange, t)
  | some step, interval =>
    if step.nanos = 0 then ([], .failed .emptyPeriod, t)
    else if interval.isNone then ([], .failed .rateOutOfRange, t)
    else
      let ran := t.runTicks b schedule bound
      (ran.1, ran.2.1, if ran.2.1 = .finished then ran.2.2.clear b else ran.2.2)

end TickLoop

section Quiet

theorem amid_none
    {σ ι : Type} (redraw : Nat → σ → σ) (hredraw : ∀ s, redraw 0 s = s) (f : σ → ι → σ) (s : σ)
    (items : List ι) : amid redraw f (fun _ => 0) s items = items.foldl f s := by
  induction items generalizing s with
  | nil => rfl
  | cons x rest ih =>
      rw [amid, hredraw]
      exact ih _

/-- What scene updates and items preserve between two states holds after a list of items. -/
theorem foldl_amid
    {σ ι : Type} {R : σ → σ → Prop} {redraw : Nat → σ → σ} {f : σ → ι → σ}
    (hredraw : ∀ n {s s' : σ}, R s s' → R s (redraw n s'))
    (hstep : ∀ x {s s' : σ}, R s s' → R (f s x) (f s' x))
    (frames : Nat → Nat) {s s' : σ} (h : R s s') (items : List ι) :
    R (items.foldl f s) (amid redraw f frames s' items) := by
  induction items generalizing s s' frames with
  | nil => exact h
  | cons x rest ih => exact ih _ (hstep x (hredraw _ h))

variable (b : Behavior G)

theorem runStepBeside_none (e : Engine G) (info : StepInfo) :
    e.runStepBeside b .none info = e.runStep b info := by
  have hbegun : amid (Engine.redraw b) (Engine.apply b) (fun _ => 0)
      { e with env := { e.env with commands := [] } } e.env.commands = e.applyCommands b :=
    amid_none _ (fun _ => rfl) _ _ _
  have hturns : ∀ (instances : List (Instance G)) (env : Environment G),
      amid (StepProgress.redraw b) (StepProgress.advance b info) (fun _ => 0)
        ⟨[], ⟨info.iterations, [], 0, 0⟩, env⟩ (slots instances) =
      Engine.passThrough b instances info env := by
    intro instances env
    rw [amid_none _ (fun _ => rfl), passThrough_eq_foldl]
  simp only [Engine.runStepBeside, Frames.none, hbegun, hturns]
  rfl

/-- **A tick without scene updates is a tick.** -/
theorem tickBeside_none (t : TickLoop G) :
    t.tickBeside b .none =
      t.nextInfo.bind fun info => (t.tick b).map fun made => ((info, made.1), made.2) := by
  have hloaded : TickLoop.loadBeside b .none t.engine = TickLoop.loadRequested b t.engine :=
    amid_none _ (fun _ => rfl) _ _ _
  unfold TickLoop.tickBeside TickLoop.tick
  cases t.nextInfo with
  | error cause => rfl
  | ok info =>
      simp only [hloaded, runStepBeside_none]
      rfl

/-- **A run without scene updates is a run of the loop alone.** -/
theorem runTicks_none (t : TickLoop G) (bound : Nat) :
    t.runTicks b (fun _ => .none) bound = (t.ticks b bound, t.tickUntilFinished b bound) := by
  induction bound generalizing t with
  | zero => rfl
  | succ bound ih =>
      have hredraw : t.redraw b Frames.none.before = t := rfl
      have hagree : ∀ cause, t.nextInfo = .error cause → t.tick b = .error cause := by
        intro cause hinfo
        rw [TickLoop.tick, hinfo]
      simp only [TickLoop.runTicks, TickLoop.ticks, TickLoop.tickUntilFinished, hredraw,
        tickBeside_none]
      cases hinfo : t.nextInfo with
      | error cause =>
          rw [hagree cause hinfo]
          rfl
      | ok info =>
          cases t.tick b with
          | error cause => rfl
          | ok made =>
              obtain ⟨report, left⟩ := made
              simp only [Except.bind, Except.map]
              split
              · rfl
              · rw [ih left]

theorem runBeside_none (t : TickLoop G) (bound : Nat) :
    (t.runBeside b (fun _ => .none) bound).2 = t.runAsync b bound := by
  unfold TickLoop.runBeside TickLoop.runAsync
  cases t.config.stepDuration? with
  | none => rfl
  | some step =>
      simp only [runTicks_none]
      split
      · rfl
      · split
        · rfl
        · rcases t.tickUntilFinished b bound with ⟨_ | cause | _, left⟩ <;> rfl

end Quiet

/-- A run beside a renderer whose times can be told. -/
theorem runBeside_eq (b : Behavior G) {t : TickLoop G} {step interval : Duration}
    (hstep : t.config.stepDuration? = some step) (hpositive : 0 < step.nanos)
    (hinterval : t.config.renderInterval? = some interval) (schedule : Nat → Frames)
    (bound : Nat) :
    let ran := t.runTicks b schedule bound
    t.runBeside b schedule bound =
      (ran.1, ran.2.1, if ran.2.1 = .finished then ran.2.2.clear b else ran.2.2) := by
  rw [TickLoop.runBeside, hstep, hinterval]
  exact (if_neg (Nat.pos_iff_ne_zero.1 hpositive)).trans (if_neg Bool.false_ne_true)

end SimEngine
