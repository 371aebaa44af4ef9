import SimEngine.Proofs.LoopCourses
import SimEngine.Proofs.Periods

/-!
# Ticks that cannot be made

A tick begins by finding out the time of its step.  There is none if the counter
of steps or the simulated time would run out of its range, or if no span of time
belongs to the rate; then the tick ends before it has done anything.  To say so,
a tick is taken apart: each of its parts works on the loop that the parts before
it have left, and a part that is refused leaves the loop as it found it.

**Definitions.**
* `Duration.Unmeasured`: the numbers of seconds that no span has.
* `TickLoop.Underway`, `TickLoop.Part`: a loop in the middle of a tick, and the
  parts of a tick.
* `TickLoop.inParts`: a tick, part by part.

**Results.**
* `Duration.ofSeconds?_eq_none_iff`: which numbers of seconds are no spans.
* `TickLoop.exists_refusal_iff`: when there is no time for a step.
* `refused_tick`: when a tick cannot be made, and that nothing comes of it then.
-/

namespace SimEngine

namespace Duration

/-- A number of seconds that no span has: no number, infinite, below zero, or `2 ^ 64` and more. -/
def Unmeasured (seconds : Float) : Prop :=
  seconds.isNaN = true ∨ seconds.isInf = true ∨
    ((Binary.ofFloat seconds).negative = true ∧ 0 < (Binary.ofFloat seconds).magnitude) ∨
    2 ^ 64 ≤ (Binary.ofFloat seconds).magnitude

theorem ofNanos?_eq_none_iff (n : Nat) : ofNanos? n = none ↔ 2 ^ 64 * 10 ^ 9 ≤ n := by
  unfold ofNanos?
  split
  · rename_i h
    simpa using Nat.not_le.2 h
  · rename_i h
    simpa using Nat.not_lt.1 h

/-- The mantissa of a double has 53 bits. -/
theorem mantissa_ofFloat_lt (x : Float) : (Binary.ofFloat x).mantissa < 2 ^ 53 := by
  have hfraction : x.toBits.toNat % Nat.pow 2 52 < 2 ^ 52 := Nat.mod_lt _ (by decide)
  unfold Binary.ofFloat
  dsimp only
  split
  · exact hfraction.trans (by decide)
  · calc Nat.pow 2 52 + x.toBits.toNat % Nat.pow 2 52 < 2 ^ 52 + 2 ^ 52 :=
        Nat.add_lt_add_left hfraction _
      _ = 2 ^ 53 := by decide

/-- Rounding to nanoseconds does not lead out of the range of spans. -/
theorem nanosOf_lt_iff {b : Binary} (hfits : b.mantissa < 2 ^ 53) :
    nanosOf b < 2 ^ 64 * 10 ^ 9 ↔ b.magnitude < 2 ^ 64 := by
  constructor
  · intro hlt
    by_contra hle
    have hlow : ((2 ^ 64 : Nat) : ℚ) ≤ b.magnitude := by
      push_cast
      exact not_lt.1 hle
    exact absurd (le_nanosOf b hlow) (Nat.not_le.2 hlt)
  · intro hlt
    rcases magnitude_cases b with ⟨hsign, hvalue⟩ | ⟨hsign, hvalue⟩
    · -- A whole number of seconds is not rounded.
      rw [hvalue] at hlt
      have hwhole : b.mantissa * 2 ^ b.exponent.toNat < 2 ^ 64 := by exact_mod_cast hlt
      rw [nanosOf, if_pos hsign]
      exact Nat.mul_lt_mul_of_pos_right hwhole (by decide)
    · -- A number with a fraction is below its mantissa, which is far below the limit.
      have hmantissa : b.magnitude ≤ b.mantissa := by
        rw [hvalue]
        refine div_le_self (Nat.cast_nonneg _) ?_
        exact_mod_cast Nat.one_le_two_pow
      calc nanosOf b ≤ b.mantissa * 10 ^ 9 := nanosOf_le b hmantissa
        _ < 2 ^ 64 * 10 ^ 9 :=
          Nat.mul_lt_mul_of_pos_right (hfits.trans (by decide)) (by decide)

/-- Seconds are rounded to nanoseconds, unless they are no number or below zero. -/
theorem ofSeconds?_eq_ite (x : Float) :
    ofSeconds? x =
      if x.isNaN = true ∨ x.isInf = true ∨
          ((Binary.ofFloat x).negative = true ∧ (Binary.ofFloat x).mantissa ≠ 0) then none
      else ofNanos? (nanosOf (Binary.ofFloat x)) := by
  rw [ofSeconds?]
  dsimp only
  rw [← apply_ite ofNanos?]
  cases x.isNaN <;> cases x.isInf <;> cases (Binary.ofFloat x).negative <;>
    simp only [Bool.false_or, Bool.true_or, Bool.or_true, Bool.true_and, Bool.false_and,
      decide_eq_true_eq, Bool.false_eq_true, false_or, true_or, or_true, false_and, true_and,
      if_true, if_false] <;> rfl

/-- **Which numbers of seconds are no spans.** -/
theorem ofSeconds?_eq_none_iff (x : Float) : ofSeconds? x = none ↔ Unmeasured x := by
  have hpositive : 0 < (Binary.ofFloat x).magnitude ↔ (Binary.ofFloat x).mantissa ≠ 0 := by
    rw [Binary.magnitude, dyadic, mul_pos_iff_of_pos_right (zpow_pos_two _), Nat.cast_pos,
      Nat.pos_iff_ne_zero]
  have hrange : ofNanos? (nanosOf (Binary.ofFloat x)) = none ↔
      2 ^ 64 ≤ (Binary.ofFloat x).magnitude := by
    rw [ofNanos?_eq_none_iff, ← not_lt, nanosOf_lt_iff (mantissa_ofFloat_lt x), not_lt]
  rw [ofSeconds?_eq_ite, ite_eq_left_iff, hrange, Unmeasured, hpositive]
  tauto

end Duration

namespace StepInfo

variable (info : StepInfo)

theorem endTime?_eq_none_iff :
    info.endTime? = none ↔
      info.paused = false ∧ 2 ^ 64 * 10 ^ 9 ≤ info.simTime.nanos + info.dt.nanos := by
  rw [endTime?, Duration.add?]
  cases info.paused with
  | true =>
      simp
  | false =>
      simp [Duration.ofNanos?_eq_none_iff]

/-- A step has no next one if it is the last that is counted, or if the time is over at its end. -/
theorem exists_last_iff (realTime : Duration) (paused : Bool) :
    (∃ cause, info.next realTime paused = .error cause) ↔
      info.iterations.toNat = 2 ^ 64 - 1 ∨
        (info.paused = false ∧ 2 ^ 64 * 10 ^ 9 ≤ info.simTime.nanos + info.dt.nanos) := by
  rw [← endTime?_eq_none_iff]
  have hcounter : info.iterations.toNat < 2 ^ 64 := info.iterations.toNat_lt
  have hpow : Nat.pow 2 64 = 2 ^ 64 := rfl
  unfold next
  cases info.endTime? with
  | none =>
      simp
  | some simTime =>
      simp only [reduceCtorEq, or_false]
      split
      · simp only [reduceCtorEq, exists_false, false_iff]
        omega
      · simp only [Except.error.injEq, exists_eq', true_iff]
        omega

end StepInfo

variable {G : Guest}

namespace TickLoop

/-- A loop in the middle of a tick: what has become of it, and what was done in the tick so far. -/
structure Underway (G : Guest) where
  loop : TickLoop G
  moments : List (Moment G)

/-- A part of a tick.  One that is refused leaves what the parts before it have done. -/
abbrev Part (G : Guest) (α : Type) : Type :=
  EStateM TickError (Underway G) α

/-- The part in which the time of the step is found out. -/
def tellTime : Part G StepInfo := do
  match (← get).loop.nextInfo with
  | .ok info => return info
  | .error cause => throw cause

variable (b : Behavior G)

/-- The part in which the plugins that were asked for are loaded and attached. -/
def serveRequests : Part G Unit :=
  modify fun u =>
    { loop := { u.loop with engine := loadRequested b u.loop.engine }
      moments := u.moments ++
        loadMoments b (takeRequests u.loop.engine) u.loop.env.loop.loadRequests }

/-- The part in which the scheduler makes the step. -/
def makeStep (info : StepInfo) : Part G StepReport :=
  modifyGet fun u =>
    let (report, e) := u.loop.engine.runStep b info
    (report,
      { loop := { u.loop with engine := e }
        moments := u.moments ++ u.loop.engine.momentsOf b (.step info) })

/-- The part in which the loop takes down what it has done. -/
def takeDown (info : StepInfo) (report : StepReport) : Part G Unit :=
  modify fun u =>
    { u with
      loop := { u.loop with last := some info, faults := u.loop.faults + report.faults.length } }

/-- A tick, part by part. -/
def inParts : Part G StepReport := do
  let info ← tellTime
  serveRequests b
  let report ← makeStep b info
  takeDown info report
  return report

variable (t : TickLoop G)

theorem exists_untimely_iff :
    (∃ cause, t.nextInfo = .error cause) ↔
      (∃ last, t.last = some last ∧ (last.iterations.toNat = 2 ^ 64 - 1 ∨
        (last.paused = false ∧ 2 ^ 64 * 10 ^ 9 ≤ last.simTime.nanos + last.dt.nanos))) ∨
      (t.last = none ∧ Duration.Unmeasured (1.0 / t.config.tickRate)) := by
  cases hlast : t.last with
  | none =>
      have hrate : t.config.stepDuration? = none ↔
          Duration.Unmeasured (1.0 / t.config.tickRate) := Duration.ofSeconds?_eq_none_iff _
      rw [t.nextInfo_of_fresh hlast, ← hrate]
      cases t.config.stepDuration? <;> simp
  | some last =>
      have hnext : t.nextInfo = (last.next .zero t.isPaused).mapError .clock := by
        unfold nextInfo
        rw [hlast]
      rw [hnext]
      simp only [Option.some.injEq, exists_eq_left', reduceCtorEq, false_and, or_false]
      rw [← last.exists_last_iff .zero t.isPaused]
      cases last.next .zero t.isPaused <;> simp [Except.mapError]

theorem exists_refusal_iff :
    (∃ cause, t.tick b = .error cause) ↔ ∃ cause, t.nextInfo = .error cause := by
  cases h : t.nextInfo with
  | ok info =>
      simp [(tick_of_nextInfo h).1]
  | error cause =>
      simp [(tick_of_error h).1]

theorem run_tellTime (u : Underway G) :
    tellTime.run u =
      match u.loop.nextInfo with
      | .ok info => .ok info u
      | .error cause => .error cause u := by
  have hread : tellTime.run u = (match u.loop.nextInfo with
      | .ok info => (pure info : Part G StepInfo)
      | .error cause => throw cause).run u := rfl
  rw [hread]
  cases u.loop.nextInfo <;> rfl

/-- **A tick is its parts**, and one that is refused is refused before anything was done. -/
theorem run_inParts :
    (inParts b).run ⟨t, []⟩ =
      match t.tick b with
      | .ok (report, left) => .ok report ⟨left, t.momentsOf b .tick⟩
      | .error cause => .error cause ⟨t, []⟩ := by
  have htold := run_tellTime ⟨t, []⟩
  cases h : t.nextInfo with
  | ok info =>
      obtain ⟨htick, hleft⟩ := tick_of_nextInfo (b := b) h
      simp only [h] at htold
      rw [htick, hleft, inParts, EStateM.run_bind, htold]
      simp only [momentsOf, h]
      rfl
  | error cause =>
      simp only [h] at htold
      rw [(tick_of_error h).1, inParts, EStateM.run_bind, htold]

end TickLoop

/--
**A tick that cannot be made does nothing.**  A tick is refused if and only if the step before it is
the last that the counter tells, or ran unpaused and ends beyond all spans of time, or if there is
no step before it and no span of time is the inverse of the rate.  If it is refused, the loop is
what it was, with its engine and the plugins it was asked to load, and nothing was done: no plugin
was loaded and no guest code run.
-/
theorem refused_tick (b : Behavior G) (t : TickLoop G) :
    ((∃ cause, t.tick b = .error cause) ↔
      (∃ last, t.last = some last ∧ (last.iterations.toNat = 2 ^ 64 - 1 ∨
        (last.paused = false ∧ 2 ^ 64 * 10 ^ 9 ≤ last.simTime.nanos + last.dt.nanos))) ∨
      (t.last = none ∧ Duration.Unmeasured (1.0 / t.config.tickRate))) ∧
    (TickLoop.inParts b).run ⟨t, []⟩ =
      match t.tick b with
      | .ok (report, left) => .ok report ⟨left, t.momentsOf b .tick⟩
      | .error cause => .error cause ⟨t, []⟩ :=
  ⟨(t.exists_refusal_iff b).trans t.exists_untimely_iff, t.run_inParts b⟩

end SimEngine
