import SimEngine.Proofs.LoopCourses
import SimEngine.Proofs.Puppets

/-!
# The times of ticks

The steps of a loop are numbered from zero and told how much time has been
simulated so far: the time of one step for each earlier step that was not
paused.  Whether a step is paused is settled when its tick begins, by whoever
wrote to the pause flag last; a pause that is asked for while a tick is made
bears on the ticks after it.

**Definitions.**
* `ticksIn`: how many ticks a course has made.
* `lastWritten`: what was written to the pause flag last.
* `runningTicks`: how many ticks began while the flag was not set.
* `TickLoop.Clocked`: the loop remembers its last step, after so many ticks.
* `TickLoop.Timed`: it does so as the marks tell it.

**Results.**
* `timed_operateAll`: a loop that nothing hinders is timed after every course.
* `tick_times`: the time of each tick of a loop.
-/

namespace SimEngine

variable {G : Guest}

/-- What a mark writes to the pause flag. -/
def Mark.written? : Mark → Option Bool
  | .tick => none
  | .setPaused paused => some paused
  | .signal told => told.pause?

/-- How many ticks there are among marks. -/
def ticksIn : List Mark → Nat
  | [] => 0
  | .tick :: rest => ticksIn rest + 1
  | _ :: rest => ticksIn rest

/-- What was written to the pause flag last, given what it was at first. -/
def lastWritten (paused : Bool) (marks : List Mark) : Bool :=
  (marks.filterMap Mark.written?).getLastD paused

/-- How many ticks begin while the pause flag is not set, given what it was at first. -/
def runningTicks (paused : Bool) : List Mark → Nat
  | [] => 0
  | .tick :: rest => (if paused then 0 else 1) + runningTicks paused rest
  | mark :: rest => runningTicks (mark.written?.getD paused) rest

section Marks

theorem ticksIn_append (first second : List Mark) :
    ticksIn (first ++ second) = ticksIn first + ticksIn second := by
  induction first with
  | nil =>
      exact (Nat.zero_add _).symm
  | cons mark rest ih =>
      cases mark <;> simp only [List.cons_append, ticksIn, ih]
      omega

theorem lastWritten_cons (paused : Bool) (mark : Mark) (rest : List Mark) :
    lastWritten paused (mark :: rest) = lastWritten (mark.written?.getD paused) rest := by
  unfold lastWritten
  cases h : mark.written? with
  | none =>
      rw [List.filterMap_cons_none h]
      rfl
  | some written =>
      rw [List.filterMap_cons_some h, List.getLastD_cons]
      rfl

theorem runningTicks_append (paused : Bool) (first second : List Mark) :
    runningTicks paused (first ++ second) =
      runningTicks paused first + runningTicks (lastWritten paused first) second := by
  induction first generalizing paused with
  | nil =>
      exact (Nat.zero_add _).symm
  | cons mark rest ih =>
      rw [lastWritten_cons]
      cases mark with
      | tick =>
          simp only [List.cons_append, runningTicks, ih, Mark.written?, Option.getD_none]
          omega
      | _ => exact ih _

/-- The pause flag is what was written to it last. -/
theorem paused_foldl_mark (flags : LoopFlags) (marks : List Mark) :
    (marks.foldl LoopFlags.mark flags).paused = lastWritten flags.paused marks := by
  induction marks generalizing flags with
  | nil =>
      rfl
  | cons mark rest ih =>
      rw [List.foldl_cons, ih, lastWritten_cons]
      congr 1
      cases mark with
      | signal signal => cases signal <;> rfl
      | _ => rfl

theorem ticksIn_signals (signals : List Signal) : ticksIn (signals.map .signal) = 0 := by
  induction signals with
  | nil => rfl
  | cons signal rest ih => exact ih

theorem runningTicks_signals (paused : Bool) (signals : List Signal) :
    runningTicks paused (signals.map .signal) = 0 := by
  induction signals generalizing paused with
  | nil => rfl
  | cons signal rest ih => exact ih _

end Marks

/-- The simulated time at the end of a step, if there is such a time. -/
theorem endTime?_eq_some_iff (info : StepInfo) (time : Duration) :
    info.endTime? = some time ↔
      info.simTime.nanos + (if info.paused then 0 else info.dt.nanos) = time.nanos := by
  obtain ⟨iterations, simTime, realTime, dt, paused⟩ := info
  have hext : ∀ a b : Duration, a = b ↔ a.nanos = b.nanos := by
    rintro ⟨a, ha⟩ ⟨b, hb⟩
    simp
  cases paused with
  | true =>
      simp [StepInfo.endTime?, hext]
  | false =>
      simp only [StepInfo.endTime?, Duration.add?, Duration.ofNanos?, if_neg Bool.false_ne_true]
      split
      · simp [hext]
      · rename_i hrange
        have := time.inRange
        simp only [reduceCtorEq, false_iff]
        omega

namespace TickLoop

variable {b : Behavior G}

/--
What a loop remembers of its last step after so many ticks: it covers the time `d`, and the time at
its end is `d` for each tick that was running.
-/
structure Clocked (t : TickLoop G) (d : Duration) (ticks running : Nat) : Prop where
  rate : t.config.stepDuration? = some d
  count : t.tickId = ticks
  began : t.last = none → running = 0
  elapsed : ∀ info, t.last = some info → info.dt = d ∧
    info.simTime.nanos + (if info.paused then 0 else info.dt.nanos) = d.nanos * running

namespace Clocked

variable {t : TickLoop G} {d : Duration} {ticks running : Nat}

/-- Nothing else of a loop bears on its time. -/
theorem congr (h : t.Clocked d ticks running) {t' : TickLoop G} (hconfig : t'.config = t.config)
    (hlast : t'.last = t.last) : t'.Clocked d ticks running := by
  refine ⟨hconfig ▸ h.rate, ?_, fun hnone => h.began (hlast ▸ hnone),
    fun info hinfo => h.elapsed info (hlast ▸ hinfo)⟩
  rw [← h.count, tickId, tickId, hlast]

/-- The time of the next step. -/
theorem next (h : t.Clocked d ticks running) {info : StepInfo} (hinfo : t.nextInfo = .ok info) :
    info.iterations.toNat = ticks ∧ info.dt = d ∧ info.paused = t.isPaused ∧
      info.simTime.nanos = d.nanos * running := by
  refine ⟨(iterations_of_nextInfo hinfo).trans h.count, ?_⟩
  cases hlast : t.last with
  | none =>
      rw [nextInfo_first hlast h.rate] at hinfo
      obtain rfl := Except.ok.inj hinfo
      refine ⟨rfl, rfl, ?_⟩
      rw [h.began hlast, Nat.mul_zero]
      rfl
  | some last =>
      obtain ⟨hdt, helapsed⟩ := h.elapsed last hlast
      simp only [nextInfo, hlast] at hinfo
      unfold StepInfo.next at hinfo
      split at hinfo
      · cases hinfo
      · rename_i simTime hend
        split at hinfo
        · obtain rfl := Except.ok.inj hinfo
          refine ⟨hdt, rfl, ?_⟩
          rw [← helapsed]
          exact ((endTime?_eq_some_iff last simTime).1 hend).symm
        · cases hinfo

/-- There is a next step as long as neither its number nor its time is out of range. -/
theorem exists_next (h : t.Clocked d ticks running) (hcount : ticks < 2 ^ 64)
    (htime : d.nanos * running < 2 ^ 64 * 10 ^ 9) : ∃ info, t.nextInfo = .ok info := by
  have hid := h.count
  unfold tickId at hid
  cases hlast : t.last with
  | none => exact ⟨_, nextInfo_first hlast h.rate⟩
  | some last =>
      obtain ⟨_, helapsed⟩ := h.elapsed last hlast
      simp only [nextInfo, hlast] at hid ⊢
      have hend : last.endTime? = some ⟨d.nanos * running, htime⟩ :=
        (endTime?_eq_some_iff last _).2 helapsed
      have hlt : last.iterations.toNat + 1 < Nat.pow 2 64 := by
        rw [hid]
        exact hcount
      simp only [StepInfo.next, hend, if_pos hlt]
      exact ⟨_, rfl⟩

/-- One more tick is made, and one more that is running unless the flag is set. -/
theorem tick (h : t.Clocked d ticks running) {info : StepInfo} (hinfo : t.nextInfo = .ok info) :
    (t.operate b .tick).Clocked d (ticks + 1) (running + if info.paused then 0 else 1) := by
  obtain ⟨hiterations, hdt, -, htime⟩ := h.next hinfo
  rw [(tick_of_nextInfo (b := b) hinfo).2]
  refine ⟨h.rate, congrArg (· + 1) hiterations, nofun, ?_⟩
  intro last hlast
  obtain rfl := Option.some.inj hlast
  refine ⟨hdt, ?_⟩
  rw [hdt, htime]
  cases info.paused with
  | true => rfl
  | false => exact (Nat.mul_succ _ _).symm

end Clocked

/--
A loop remembers its last step as its marks tell it: its number is that of the ticks made before, it
covers the time `d`, and the time at its end is `d` for each tick that was not paused.
-/
def Timed (t : TickLoop G) (d : Duration) (marks : List Mark) (paused : Bool) : Prop :=
  t.Clocked d (ticksIn marks) (runningTicks paused marks)

/-- A loop that is timed keeps its time over marks that are no ticks. -/
theorem Timed.later {t : TickLoop G} {d : Duration} {marks : List Mark} {paused : Bool}
    (h : t.Timed d marks paused) (t' : TickLoop G) (hconfig : t'.config = t.config)
    (hlast : t'.last = t.last) (more : List Mark) (hticks : ticksIn more = 0)
    (hrunning : ∀ p, runningTicks p more = 0) :
    t'.Timed d (marks ++ more) paused := by
  rw [Timed, ticksIn_append, hticks, runningTicks_append, hrunning]
  exact h.congr hconfig hlast

theorem timed_operate
    {t : TickLoop G} {d : Duration} {marks : List Mark} {paused : Bool}
    (h : t.Timed d marks paused) (hpaused : t.isPaused = lastWritten paused marks)
    (operation : LoopOperation G) :
    (t.operate b operation).Timed d (marks ++ t.marksOf b operation) paused := by
  cases operation with
  | tick =>
      cases hinfo : t.nextInfo with
      | ok info =>
          obtain ⟨-, -, hflag, -⟩ := h.next hinfo
          have hafter := h.tick (b := b) hinfo
          have hmarks : t.marksOf b .tick = .tick :: signalMarks b (t.momentsOf b .tick) := by
            rw [marksOf, hinfo]
          have hrunning : runningTicks paused (marks ++ t.marksOf b .tick) =
              runningTicks paused marks + (if info.paused then 0 else 1) := by
            rw [hmarks, runningTicks_append, runningTicks, ← hpaused, ← hflag, signalMarks,
              runningTicks_signals, Nat.add_zero]
          have hticks : ticksIn (marks ++ t.marksOf b .tick) = ticksIn marks + 1 := by
            rw [hmarks, ticksIn_append, ticksIn, signalMarks, ticksIn_signals]
          rwa [← hticks, ← hrunning] at hafter
      | error cause =>
          have hmarks : t.marksOf b .tick = [] := by
            rw [marksOf, hinfo]
          rw [(tick_of_error hinfo).2, hmarks, List.append_nil]
          exact h
  | setPaused flag =>
      exact h.later (t.setPaused flag) rfl rfl [.setPaused flag] rfl fun _ => rfl
  | host operation =>
      exact h.later (t.operate b (.host operation)) rfl rfl (signalMarks b _) (ticksIn_signals _)
        fun p => runningTicks_signals p _

/-- **A loop that nothing hinders is timed after every course**, and its flag is what was written
last. -/
theorem timed_operateAll
    {t : TickLoop G} (hlistens : t.Listens) {d : Duration} (h : t.Timed d [] t.isPaused)
    (operations : List (LoopOperation G))
    (hlog : Unhindered b t.subscriptions (t.log b operations)) :
    (t.operateAll b operations).Timed d (t.marks b operations) t.isPaused ∧
      (t.operateAll b operations).isPaused = lastWritten t.isPaused (t.marks b operations) := by
  have hpaused : (t.operateAll b operations).isPaused =
      lastWritten t.isPaused (t.marks b operations) := by
    have hloop := congrArg LoopFlags.paused (listens_operateAll hlistens operations hlog).2
    rw [paused_foldl_mark] at hloop
    exact hloop
  refine ⟨?_, hpaused⟩
  clear hpaused
  induction operations using List.reverseRecOn with
  | nil =>
      exact h
  | append_singleton operations last ih =>
      rw [log_append] at hlog
      have hbefore := (unhindered_append.1 hlog).1
      have hpaused := congrArg LoopFlags.paused
        (listens_operateAll hlistens operations hbefore).2
      rw [paused_foldl_mark] at hpaused
      have hlast := timed_operate (b := b) (ih hbefore) hpaused last
      have hmarks : (t.operateAll b operations).marks b [last] =
          (t.operateAll b operations).marksOf b last :=
        List.append_nil _
      rw [operateAll_append, marks_append, hmarks]
      exact hlast

end TickLoop

/--
**The time of each tick.**  Whatever the host and guest code have done with a loop since it was
made, so many ticks have been made as its `tickId` says, and it is paused as was written to the
pause flag last.  The next tick can be made unless its number or its time is out of range.  Its
step is told the number of the ticks before it, the time `d` that it covers, `d` for each of those
that began while the flag was not set as the time simulated so far, and that it is paused if the
flag is set as it begins; what is written to the flag while it is made comes after its mark.

A callback that notifies the event that it is told of is outside the contract of events: the tick
in which it did so would never come to its end.
-/
theorem tick_times (b : Behavior G) (config : TickConfig) {d : Duration}
    (hduration : config.stepDuration? = some d) {start : Engine G} (hstart : start.Unattended)
    {past : List (LoopOperation G)} {channels : List ChannelKey}
    (hdepth : channels.length ≤ b.depth)
    (hchannels : emitted ((TickLoop.create config start).log b past) ⊆ channels)
    (hkept : ∀ o ∈ (TickLoop.create config start).log b past,
      ∀ c ∈ (TickLoop.create config start).subscriptions, o.request ≠ .disconnect c)
    {t : TickLoop G} (ht : (TickLoop.create config start).operateAll b past = t)
    {marks : List Mark} (hmarks : (TickLoop.create config start).marks b past = marks) :
    t.tickId = ticksIn marks ∧
    t.isPaused = lastWritten config.startPaused marks ∧
    (ticksIn marks < 2 ^ 64 →
      d.nanos * runningTicks config.startPaused marks < 2 ^ 64 * 10 ^ 9 →
      ∃ info report t', t.tick b = .ok (report, t') ∧
        (report, t'.engine) = (TickLoop.loadRequested b t.engine).runStep b info ∧
        t'.last = some info ∧
        info.iterations.toNat = ticksIn marks ∧
        info.dt = d ∧
        info.paused = lastWritten config.startPaused marks ∧
        info.simTime.nanos = d.nanos * runningTicks config.startPaused marks ∧
        t.marksOf b .tick = .tick :: TickLoop.signalMarks b (t.momentsOf b .tick)) := by
  subst ht hmarks
  have hlog := unhindered_of_emitted hdepth hchannels hkept
  have hmade : (TickLoop.create config start).Timed d []
      (TickLoop.create config start).isPaused :=
    ⟨hduration, rfl, fun _ => rfl, nofun⟩
  obtain ⟨htimed, hpaused⟩ :=
    TickLoop.timed_operateAll (TickLoop.listens_create config hstart) hmade past hlog
  refine ⟨htimed.count, hpaused, fun hcount htime => ?_⟩
  obtain ⟨info, hinfo⟩ := htimed.exists_next hcount htime
  obtain ⟨hiterations, hdt, hflag, hsim⟩ := htimed.next hinfo
  obtain ⟨htick, hafter⟩ := TickLoop.tick_of_nextInfo (b := b) hinfo
  refine ⟨info, _, _, htick, ?_, ?_, hiterations, hdt, hflag.trans hpaused, hsim, ?_⟩
  · rw [hafter]
  · rw [hafter]
  · rw [TickLoop.marksOf, hinfo]

namespace Puppets

/-- Every system asks for a pause in the first step. -/
def dozers : Behavior puppets :=
  { idle with
    phase := fun phase _ info =>
      if phase = .update ∧ info.iterations = 0 then
        (Program.emit (.pause true)).bind fun _ => .done ()
      else
        .done () }

/-- A system is attached, and the host ends its pause after one paused step. -/
def dozing : List (LoopOperation puppets) :=
  [.host (.attach ⟨(1 : Nat), .shared⟩ .null ⟨.null⟩), .tick, .tick, .setPaused false, .tick]

/-- A loop of sixty steps per second that nothing is attached to. -/
def sleepless : TickLoop puppets :=
  .create .default (.fresh (0 : Nat))

end Puppets

theorem tick_times_dozing :
    TickConfig.default.stepDuration? = some .sixtieth ∧
    (Puppets.sleepless.operateAll Puppets.dozers Puppets.dozing).tickId = 3 ∧
    ∃ info report t',
      (Puppets.sleepless.operateAll Puppets.dozers Puppets.dozing).tick Puppets.dozers =
        .ok (report, t') ∧
      info.iterations.toNat = 3 ∧ info.simTime.nanos = 2 * 16666667 ∧ info.paused = false ∧
      t'.last = some info := by
  have hduration := TickConfig.stepDuration?_default
  have hmarks : Puppets.sleepless.marks Puppets.dozers Puppets.dozing =
      [.tick, .signal (.pause true), .tick, .setPaused false, .tick] := rfl
  have hkept : ∀ o ∈ Puppets.sleepless.log Puppets.dozers Puppets.dozing,
      ∀ c ∈ Puppets.sleepless.subscriptions, o.request ≠ .disconnect c := by
    intro o ho c _
    obtain rfl := List.mem_singleton.1 ho
    exact nofun
  obtain ⟨hid, _, htick⟩ := tick_times Puppets.dozers .default hduration
    (Engine.Unattended.fresh (G := puppets) (0 : Nat))
    (show [ChannelKey.event .pause].length ≤ 4 by decide)
    (show emitted (Puppets.sleepless.log Puppets.dozers Puppets.dozing) ⊆ [.event .pause] from
      fun _ hkey => hkey) hkept rfl hmarks
  obtain ⟨info, report, t', hmade, _, hlast, hiterations, _, hpaused, htime, _⟩ :=
    htick (by decide) (by decide)
  exact ⟨hduration, hid, info, report, t', hmade, hiterations, htime, hpaused, hlast⟩

end SimEngine
