import SimEngine.Proofs.BuiltinLoops

/-!
# Rendering does not change a simulation

A loop can be run alone, or beside a renderer that emits scene updates whenever
it likes.  If all its systems are built in, both runs make the same ticks, with
the same times and the same reports, and end in the same state but for what
clocks have shown.  The run beside the renderer detaches every system in the
end, so that no system is remembered, counted or subscribed to scene updates.

**Results.**
* `settled_clear`: a loop at rest is left without systems.
* `rendering_harmless`: the two ways to run a loop agree.
-/

namespace SimEngine

open Cast (behavior)

theorem config_loopOfConfig {further : List (String × Factory)} {config : EngineConfig}
    {t : TickLoop cast} (h : (Cast.loopOfConfig further config).1 = .ok t) :
    t.config = config.tick := by
  obtain ⟨operations, rfl⟩ := TickLoop.exists_course_ofConfig h
  exact (TickLoop.frame_operateAll _ _).1

namespace TickLoop.Beside

variable {t t' : TickLoop cast}

theorem settled (h : t.Beside t') (hsettled : Settled t.engine.attachments t.env) :
    Settled t'.engine.attachments t'.env := by
  have hsame := hsettled.beside h.env
  rw [h.rest]
  exact hsame

/-- Loops beside one another agree in what is asked of a loop in the end. -/
theorem agree (h : t.Beside t') :
    t'.tickId = t.tickId ∧ t'.faults = t.faults ∧ t'.env.world = t.env.world ∧
      t'.env.parameters = t.env.parameters ∧ t'.isPaused = t.isPaused := by
  refine ⟨?_, ?_, h.env.world, h.env.parameters, congrArg LoopFlags.paused h.env.loop⟩
  · rw [h.rest]
    rfl
  · rw [h.rest]

end TickLoop.Beside

/-- **Detaching everything leaves no system**, and the world as it was. -/
theorem settled_clear {t : TickLoop cast} (h : Settled t.engine.attachments t.env) :
    Settled [] (t.clear behavior).env ∧ (t.clear behavior).env.world = t.env.world ∧
      (t.clear behavior).env.parameters = t.env.parameters ∧
        (t.clear behavior).env.loop = t.env.loop := by
  have hreversed : Settled (t.engine.scheduler.all.reverse.map Instance.attachment) t.env := by
    refine h.perm ?_
    rw [List.map_reverse]
    exact (List.reverse_perm _).symm
  exact settled_retireAll hreversed

/-- So a loop is asked the same in the end whether everything is detached or not. -/
theorem agree_clear {t : TickLoop cast} (h : Settled t.engine.attachments t.env) :
    (t.clear behavior).tickId = t.tickId ∧ (t.clear behavior).faults = t.faults ∧
      (t.clear behavior).env.world = t.env.world ∧
        (t.clear behavior).env.parameters = t.env.parameters ∧
          (t.clear behavior).isPaused = t.isPaused := by
  obtain ⟨-, hworld, hparameters, hloop⟩ := settled_clear h
  exact ⟨rfl, rfl, hworld, hparameters, congrArg LoopFlags.paused hloop⟩

/--
**Rendering does not change a simulation of built-in systems.**  Take a loop made from a
configuration whose plugins are all built in, with a time between two steps and one between two
scene updates, and any schedule of scene updates.  A run beside the renderer makes the same ticks as
a run of the loop alone, which also is what the first one comes to without scene updates; it ends
alike, after as many ticks and faults, with the same world, parameters and pause flag.  Before
systems are detached, the two loops differ in what clocks have shown only.  If the run comes to its
end, then it leaves an empty scheduler, no system remembered, no plugin counted, and nobody
subscribed to scene updates.
-/
theorem rendering_harmless (further : List (String × Factory)) (config : EngineConfig)
    (hbuiltin : Cast.AllBuiltin further config) {step interval : Duration}
    (hstep : config.tick.stepDuration? = some step) (hpositive : 0 < step.nanos)
    (hinterval : config.tick.renderInterval? = some interval) {t : TickLoop cast}
    (hmade : (Cast.loopOfConfig further config).1 = .ok t) (schedule : Nat → Frames)
    (bound : Nat) :
    let plain := t.run behavior bound
    let beside := t.runBeside behavior schedule bound
    let left := (t.runTicks behavior schedule bound).2.2
    (t.runBeside behavior (fun _ => .none) bound).2 = t.runAsync behavior bound ∧
    beside.1 = t.ticks behavior bound ∧
    beside.2.1 = plain.1 ∧
    beside.2.2.tickId = plain.2.tickId ∧
    beside.2.2.faults = plain.2.faults ∧
    beside.2.2.env.world = plain.2.env.world ∧
    beside.2.2.env.parameters = plain.2.env.parameters ∧
    beside.2.2.isPaused = plain.2.isPaused ∧
    plain.2.Beside left ∧
    (beside.2.1 ≠ .finished → beside.2.2 = left) ∧
    (beside.2.1 = .finished →
      beside.2.2 = left.clear behavior ∧
      beside.2.2.engine.scheduler = .empty ∧
      (∀ system, beside.2.2.env.memory.role? system = none) ∧
      (∀ plugin, beside.2.2.env.loader.liveInstances plugin = 0) ∧
      beside.2.2.env.channels.connectionCount (.event .sceneUpdate) = 0) := by
  have hconfig := config_loopOfConfig hmade
  have hplain : t.run behavior bound = t.tickUntilFinished behavior bound := by
    rw [TickLoop.run, hconfig, hstep]
  have hbeside := runBeside_eq behavior (hconfig ▸ hstep) hpositive (hconfig ▸ hinterval)
    schedule bound
  have hself : t.Beside t := ⟨rfl, .refl t.env⟩
  have hagree := sameResult_runTicks hself (settled_loopOfConfig hbuiltin hmade) schedule bound
  simp only [hplain, hbeside]
  rw [runTicks_none] at hagree
  rcases hruns : t.runTicks behavior schedule bound with ⟨ticks, ending, left⟩
  rcases hplain : t.tickUntilFinished behavior bound with ⟨ending', plain⟩
  rw [hruns, hplain] at hagree
  obtain ⟨hticks, hending, hended, hsettled⟩ := hagree
  obtain rfl : ending = ending' := hending
  have hleft := hended.settled hsettled
  obtain ⟨hid, hfaults, hworld, hparameters, hpaused⟩ := hended.agree
  refine ⟨runBeside_none behavior t bound, ?_⟩
  by_cases hending : ending = .finished
  · obtain ⟨hid', hfaults', hworld', hparameters', hpaused'⟩ := agree_clear hleft
    rw [if_pos hending]
    exact ⟨hticks, rfl, hid'.trans hid, hfaults'.trans hfaults, hworld'.trans hworld,
      hparameters'.trans hparameters, hpaused'.trans hpaused, hended, fun h => absurd hending h,
      fun _ => ⟨rfl, rfl, (settled_clear hleft).1.nobody⟩⟩
  · rw [if_neg hending]
    exact ⟨hticks, rfl, hid, hfaults, hworld, hparameters, hpaused, hended, fun _ => rfl,
      fun h => absurd h hending⟩

namespace Cast

/-- Two ticks of a clock and of a system that pauses the simulation in the second one. -/
def clockConfig : EngineConfig where
  tick := ⟨60.0, 2, 30.0, false⟩
  entities := []
  systems :=
    [.ofName "sim_clock", ⟨"pause_after", .null, ⟨.ofMembers [("after", .ofNat 1)]⟩⟩]

/-- One scene update before each tick, two before each turn, and one after the last one. -/
def flickering : Nat → Frames :=
  fun _ => ⟨1, fun _ => 0, fun _ => 0, fun _ => 2, 1⟩

/-- How many scene updates the clock of a number was shown on. -/
def framesShown (number : Nat) (t : TickLoop cast) : Option Nat :=
  match t.env.memory.role? ⟨number⟩ with
  | some (.simClock c) => some c.frames
  | _ => none

end Cast

theorem rendering_harmless_flickering :
    ∃ t, (Cast.loopOfConfig [] Cast.clockConfig).1 = .ok t ∧
      (t.runBeside behavior Cast.flickering 3).2.1 = .finished ∧
      (t.runBeside behavior Cast.flickering 3).1 = t.ticks behavior 3 ∧
      (t.ticks behavior 3).length = 2 ∧
      (t.run behavior 3).2.isPaused = true ∧
      (t.runBeside behavior Cast.flickering 3).2.2.isPaused = true ∧
      Cast.framesShown 0 (t.run behavior 3).2 = some 0 ∧
      Cast.framesShown 0 (t.runTicks behavior Cast.flickering 3).2.2 = some 36 ∧
      (t.runBeside behavior Cast.flickering 3).2.2.engine.scheduler = .empty := by
  have hbuiltin : Cast.AllBuiltin [] Cast.clockConfig := by
    intro spec hspec
    rcases List.mem_pair.1 hspec with rfl | rfl
    · exact ⟨.simClock, rfl⟩
    · exact ⟨.pauseAfter, rfl⟩
  obtain ⟨t, hmade⟩ : ∃ t, (Cast.loopOfConfig [] Cast.clockConfig).1 = .ok t := ⟨_, rfl⟩
  have hstep : Cast.clockConfig.tick.stepDuration? = some .sixtieth := by decide +kernel
  obtain ⟨interval, hinterval⟩ := Option.isSome_iff_exists.1
    (show Cast.clockConfig.tick.renderInterval?.isSome = true by decide +kernel)
  obtain ⟨-, hticks, hend, -, -, -, -, hpaused, -, -, hfinished⟩ := rendering_harmless []
    Cast.clockConfig hbuiltin hstep (by decide) hinterval hmade Cast.flickering 3
  have hcourse : ((Cast.loopOfConfig [] Cast.clockConfig).1.toOption.map fun t =>
      ((t.run behavior 3).1, (t.ticks behavior 3).length, (t.run behavior 3).2.isPaused,
        Cast.framesShown 0 (t.run behavior 3).2,
        Cast.framesShown 0 (t.runTicks behavior Cast.flickering 3).2.2)) =
      some (.finished, 2, true, some 0, some 36) := by decide +kernel
  rw [hmade] at hcourse
  obtain ⟨hplain, hlength, hflag, hshown, hshown'⟩ :
      (t.run behavior 3).1 = .finished ∧ (t.ticks behavior 3).length = 2 ∧
        (t.run behavior 3).2.isPaused = true ∧ Cast.framesShown 0 (t.run behavior 3).2 = some 0 ∧
          Cast.framesShown 0 (t.runTicks behavior Cast.flickering 3).2.2 = some 36 := by
    simpa using Option.some.inj hcourse
  have hdone := hend.trans hplain
  exact ⟨t, hmade, hdone, hticks, hlength, hflag, hpaused.trans hflag, hshown, hshown',
    (hfinished hdone).2.1⟩

end SimEngine
