import SimEngine.Proofs.Pauses

/-!
# Calls of a system that pauses the simulation

Such a system is called once in each step, be it by an engine or by somebody
else, and with whatever environment.  It is told the number of the step only.  So
the number of the first step it is called in and what it was made from tell what
each call comes to: in one step it pauses the simulation, and some steps later
it stops it, unless it is to do both in one step: then it never stops it.  It
counts with numbers of 64 bits, and from the step after the pause on every call
panics if the step of the stop has none.

**Definitions.**
* `Program.sent`: the signals that a program sends out itself.
* `PauseAfter.replies`: what calls come to, one after the other.
* `PauseAfter.pausesFrom`, `PauseAfter.stopsFrom?`, `PauseAfter.overflowsFrom`:
  the steps in which the system pauses and stops the simulation, and whether the
  latter has no number.
* `PauseAfter.Answers`: what the call in the step of a number comes to.

**Results.**
* `PauseAfter.answers_called`, `PauseAfter.left_called`: one call.
* `PauseAfter.answers_replies`, `PauseAfter.sent_replies`: a row of calls.
* `pause_calls`: the calls of any system that a payload describes.
* `pause_calls_astray`: systems that do not stop the simulation, and panic.
-/

namespace SimEngine

open Cast (behavior)

section Signals

variable {G : Guest}

/-- The signal that a request sends out, if it does. -/
def Request.signal? : Request G → Option Signal
  | .emit signal => some signal
  | _ => none

/-- The signals that a program sends out itself in a run. -/
def Program.sent (b : Behavior G) (access : Access) {α : Type} :
    Program G α → Environment G → List Signal
  | .ask r next, env =>
    let (answer, left) := r.perform b.emit access env
    r.signal?.toList ++ (next answer).sent b access (b.tidy left)
  | _, _ => []

end Signals

/-- A call before an update: the step, and what is met there. -/
structure PauseCall where
  info : StepInfo
  env : Environment cast

/-- The number of the step of a call. -/
def PauseCall.number (c : PauseCall) : Nat :=
  c.info.iterations.toNat

/-- What a call comes to: how it ends, and the signals sent out. -/
structure PauseReply where
  result : Except String Unit
  sent : List Signal

namespace PauseAfter

variable (b : Behavior cast) (p : PauseAfter)

/-- How a call ends. -/
def outcome (c : PauseCall) : Outcome PauseAfter :=
  (b.run .full (p.preUpdate c.info) c.env).1

/-- What a call comes to. -/
def reply (c : PauseCall) : PauseReply where
  result := (p.outcome b c).toExcept.map fun _ => ()
  sent := (p.preUpdate c.info).sent b .full c.env

/-- The system after a call; one that does not return leaves it as it is. -/
def left (c : PauseCall) : PauseAfter :=
  match p.outcome b c with
  | .done next => next
  | _ => p

/-- What calls come to, one after the other. -/
def replies : PauseAfter → List PauseCall → List PauseReply
  | _, [] => []
  | p, c :: rest => p.reply b c :: replies (p.left b c) rest

/-- The step in which the system pauses the simulation, if it is called from a step on. -/
def pausesFrom (first : Nat) : Nat :=
  max first p.after.toNat

/-- The step in which the system stops the simulation, if it is called from a step on. -/
def stopsFrom? (first : Nat) : Option Nat :=
  match p.stopAfter with
  | none => none
  | some steps => if 0 < steps.toNat then some (p.pausesFrom first + steps.toNat) else none

/-- Whether the step in which to stop the simulation has no number. -/
def overflowsFrom (first : Nat) : Prop :=
  ∃ steps, p.stopAfter = some steps ∧ 2 ^ 64 ≤ p.pausesFrom first + steps.toNat

/-- What the call in the step of a number comes to, if the system is called from a step on. -/
structure Answers (first k : Nat) (r : PauseReply) : Prop where
  pause : k = p.pausesFrom first → r = ⟨.ok (), [.pause true]⟩
  overflow : p.pausesFrom first < k → p.overflowsFrom first →
    r = ⟨.error "panicked: attempt to add with overflow", []⟩
  stop : p.stopsFrom? first = some k → r = ⟨.ok (), [.stop]⟩
  quiet : k ≠ p.pausesFrom first → p.stopsFrom? first ≠ some k →
    ¬ (p.pausesFrom first < k ∧ p.overflowsFrom first) → r = ⟨.ok (), []⟩

/-- The system before the call in the step of a number, if it is called from a step on. -/
def called (first k : Nat) : PauseAfter :=
  { p with
    pausedAt :=
      if p.pausesFrom first < k then some (UInt64.ofNat (p.pausesFrom first)) else none }

end PauseAfter

section Calls

variable {b : Behavior cast} {p : PauseAfter} {c : PauseCall} {first k : Nat}

namespace PauseAfter

theorem outcome_eq (p : PauseAfter) (c : PauseCall) :
    p.outcome b c =
      match p.decide c.info with
      | .wait => .done p
      | .overflow => .panicked .addOverflow
      | .pause => .done { p with pausedAt := some c.info.iterations }
      | .stop => .done p := by
  rw [outcome, preUpdate]
  cases p.decide c.info <;> rfl

theorem sent_eq (p : PauseAfter) (c : PauseCall) :
    (p.preUpdate c.info).sent b .full c.env =
      match p.decide c.info with
      | .pause => [.pause true]
      | .stop => [.stop]
      | _ => [] := by
  rw [preUpdate]
  cases p.decide c.info <;> rfl

/-- What a call comes to is what the system decides. -/
theorem reply_eq (p : PauseAfter) (c : PauseCall) :
    p.reply b c =
      match p.decide c.info with
      | .wait => ⟨.ok (), []⟩
      | .overflow => ⟨.error "panicked: attempt to add with overflow", []⟩
      | .pause => ⟨.ok (), [.pause true]⟩
      | .stop => ⟨.ok (), [.stop]⟩ := by
  rw [reply, outcome_eq, sent_eq]
  cases p.decide c.info <;> rfl

theorem left_eq (p : PauseAfter) (c : PauseCall) : p.left b c = p.advance c.info := by
  rw [left, outcome_eq, advance]
  cases p.decide c.info <;> rfl

/-- What the system decides in the step of a number, if it is called from a step on. -/
theorem decide_called (hfirst : first ≤ k) (hnumber : c.number = k) :
    (p.called first k).decide c.info =
      if k < p.pausesFrom first then .wait
      else if k = p.pausesFrom first then .pause
      else
        match p.stopAfter with
        | none => .wait
        | some steps =>
          if 2 ^ 64 ≤ p.pausesFrom first + steps.toNat then .overflow
          else if k = p.pausesFrom first + steps.toNat then .stop
          else .wait := by
  have hrange : k < 2 ^ 64 := hnumber ▸ c.info.iterations.toNat_lt
  have hdue : p.after ≤ c.info.iterations ↔ p.after.toNat ≤ k := by
    rw [UInt64.le_iff_toNat_le, ← hnumber, PauseCall.number]
  have hstart : p.pausesFrom first ≤ k ↔ p.after.toNat ≤ k := by
    rw [pausesFrom]
    omega
  by_cases hpaused : p.pausesFrom first < k
  · -- The simulation is paused, and the system counts from then on.
    rw [if_neg (by omega), if_neg (by omega)]
    simp only [called, decide, if_pos hpaused]
    cases p.stopAfter with
    | none => rfl
    | some steps =>
        have hwhen : (UInt64.ofNat (p.pausesFrom first)).toNat = p.pausesFrom first :=
          UInt64.toNat_ofNat_of_lt' (Nat.lt_trans hpaused hrange)
        simp only [hwhen]
        by_cases hover : 2 ^ 64 ≤ p.pausesFrom first + steps.toNat
        · rw [if_pos hover]
          exact if_pos hover
        · have hstep : c.info.iterations = UInt64.ofNat (p.pausesFrom first) + steps ↔
              k = p.pausesFrom first + steps.toNat := by
            rw [← UInt64.toNat_inj, UInt64.toNat_add, hwhen, Nat.mod_eq_of_lt (by omega), ← hnumber,
              PauseCall.number]
          simp only [hstep, if_neg hover]
          exact if_neg hover
  · simp only [called, decide, if_neg hpaused, hdue, ← hstart]
    by_cases hnow : p.pausesFrom first ≤ k
    · rw [if_pos hnow, if_neg (by omega), if_pos (by omega)]
    · rw [if_neg hnow, if_pos (by omega)]

theorem decide_called_eq_pause_iff (hfirst : first ≤ k) (hnumber : c.number = k) :
    (p.called first k).decide c.info = .pause ↔ k = p.pausesFrom first := by
  rw [decide_called hfirst hnumber]
  grind

theorem stopsFrom?_eq_some_iff :
    p.stopsFrom? first = some k ↔
      ∃ steps, p.stopAfter = some steps ∧ 0 < steps.toNat ∧
        p.pausesFrom first + steps.toNat = k := by
  rw [stopsFrom?]
  cases p.stopAfter with
  | none => simp
  | some steps => simp

theorem lt_of_stopsFrom? (h : p.stopsFrom? first = some k) : p.pausesFrom first < k := by
  obtain ⟨steps, -, hlater, hnow⟩ := stopsFrom?_eq_some_iff.1 h
  omega

/-- **What the call in the step of a number comes to.** -/
theorem answers_called (hfirst : first ≤ k) (hnumber : c.number = k) :
    p.Answers first k ((p.called first k).reply b c) := by
  have hrange : k < 2 ^ 64 := hnumber ▸ c.info.iterations.toNat_lt
  rw [reply_eq, decide_called hfirst hnumber]
  constructor
  case pause =>
    intro hpause
    rw [if_neg (by omega), if_pos hpause]
  case overflow =>
    rintro hpaused ⟨steps, hsteps, hover⟩
    rw [if_neg (by omega), if_neg (by omega)]
    simp only [hsteps, if_pos hover]
  case stop =>
    intro hstop
    obtain ⟨steps, hsteps, hlater, hnow⟩ := stopsFrom?_eq_some_iff.1 hstop
    have hover : ¬ 2 ^ 64 ≤ p.pausesFrom first + steps.toNat := by omega
    rw [if_neg (by omega), if_neg (by omega)]
    simp only [hsteps, if_neg hover, if_pos hnow.symm]
  case quiet =>
    intro hpause hstop hover
    by_cases hwaiting : k < p.pausesFrom first
    · rw [if_pos hwaiting]
    · rw [if_neg hwaiting, if_neg hpause]
      have hpaused : p.pausesFrom first < k := by omega
      cases hsteps : p.stopAfter with
      | none => rfl
      | some steps =>
          have hsmall : ¬ 2 ^ 64 ≤ p.pausesFrom first + steps.toNat :=
            fun hlarge => hover ⟨hpaused, steps, hsteps, hlarge⟩
          have hother : k ≠ p.pausesFrom first + steps.toNat := fun hnow =>
            hstop (stopsFrom?_eq_some_iff.2 ⟨steps, hsteps, by omega, hnow.symm⟩)
          simp only [if_neg hsmall, if_neg hother]

/-- **What the call in the step of a number leaves.** -/
theorem left_called (hfirst : first ≤ k) (hnumber : c.number = k) :
    (p.called first k).left b c = p.called first (k + 1) := by
  rw [left_eq, advance]
  by_cases hpause : k = p.pausesFrom first
  · have hnow : c.info.iterations = UInt64.ofNat (p.pausesFrom first) := by
      rw [← hpause, ← hnumber, PauseCall.number, UInt64.ofNat_toNat]
    have hstarts : p.pausesFrom first < k + 1 := by omega
    rw [(decide_called_eq_pause_iff hfirst hnumber).2 hpause]
    simp only [called, hnow, if_pos hstarts]
  · have hiff : p.pausesFrom first < k + 1 ↔ p.pausesFrom first < k := by omega
    have hother := mt (decide_called_eq_pause_iff hfirst hnumber).1 hpause
    split
    · contradiction
    · simp only [called, hiff]

/-- What a call sends out, if it is as it should be. -/
theorem Answers.sent_eq {r : PauseReply} (h : p.Answers first k r) :
    r.sent = (if k = p.pausesFrom first then [.pause true] else []) ++
      if p.stopsFrom? first = some k then [.stop] else [] := by
  by_cases hstop : p.stopsFrom? first = some k
  · have hother : k ≠ p.pausesFrom first := Nat.ne_of_gt (lt_of_stopsFrom? hstop)
    rw [h.stop hstop, if_neg hother, if_pos hstop, List.nil_append]
  · rw [if_neg hstop, List.append_nil]
    by_cases hpause : k = p.pausesFrom first
    · rw [h.pause hpause, if_pos hpause]
    · rw [if_neg hpause]
      by_cases hover : p.pausesFrom first < k ∧ p.overflowsFrom first
      · rw [h.overflow hover.1 hover.2]
      · rw [h.quiet hpause hstop hover]

/-- A call panics if it comes after the pause, and the step of the stop has no number. -/
theorem Answers.result_eq_ok_iff {r : PauseReply} (h : p.Answers first k r) :
    r.result = .ok () ↔ ¬ (p.pausesFrom first < k ∧ p.overflowsFrom first) := by
  by_cases hover : p.pausesFrom first < k ∧ p.overflowsFrom first
  · rw [h.overflow hover.1 hover.2]
    exact iff_of_false nofun (not_not_intro hover)
  · refine iff_of_true ?_ hover
    by_cases hpause : k = p.pausesFrom first
    · rw [h.pause hpause]
    · by_cases hstop : p.stopsFrom? first = some k
      · rw [h.stop hstop]
      · rw [h.quiet hpause hstop hover]

end PauseAfter

end Calls

section Rows

variable {b : Behavior cast} {p : PauseAfter} {calls past : List PauseCall} {first : Nat}

namespace PauseAfter

theorem replies_concat (p : PauseAfter) (past : List PauseCall) (c : PauseCall) :
    p.replies b (past ++ [c]) = p.replies b past ++ [(past.foldl (left b) p).reply b c] := by
  induction past generalizing p with
  | nil => rfl
  | cons head rest ih =>
      rw [List.cons_append, replies, ih]
      rfl

theorem length_replies (p : PauseAfter) (calls : List PauseCall) :
    (p.replies b calls).length = calls.length := by
  induction calls generalizing p with
  | nil => rfl
  | cons c rest ih => rw [replies, List.length_cons, ih, List.length_cons]

/-- The numbers of the steps of a row of calls, and of the last one. -/
theorem numbers_concat {c : PauseCall}
    (h : (past ++ [c]).map PauseCall.number = List.range' first (past ++ [c]).length) :
    past.map PauseCall.number = List.range' first past.length ∧
      c.number = first + past.length := by
  rw [List.map_append, List.length_append, List.length_singleton, List.range'_1_concat] at h
  obtain ⟨hpast, hlast⟩ := List.append_inj' h rfl
  exact ⟨hpast, List.singleton_inj.1 hlast⟩

/-- The system after a row of calls, by induction on those calls. -/
theorem left_calls (h : calls.map PauseCall.number = List.range' first calls.length) :
    calls.foldl (left b) (p.called first first) = p.called first (first + calls.length) := by
  induction calls using List.reverseRecOn with
  | nil => rfl
  | append_singleton past c ih =>
      obtain ⟨hpast, hlast⟩ := numbers_concat h
      rw [List.foldl_append, ih hpast, List.length_append]
      exact left_called (Nat.le_add_right first _) hlast

/-- **What each call of a row comes to**, by induction on those calls. -/
theorem answers_replies (h : calls.map PauseCall.number = List.range' first calls.length)
    {i : Nat} {r : PauseReply} (hr : ((p.called first first).replies b calls)[i]? = some r) :
    p.Answers first (first + i) r := by
  induction calls using List.reverseRecOn with
  | nil => cases hr
  | append_singleton past c ih =>
      obtain ⟨hpast, hlast⟩ := numbers_concat h
      rw [replies_concat, left_calls hpast, List.getElem?_append, length_replies] at hr
      split at hr
      · exact ih hpast hr
      · rename_i hi
        have hlt := (List.getElem?_eq_some_iff.1 hr).1
        obtain rfl : i = past.length := by
          rw [List.length_singleton] at hlt
          omega
        rw [Nat.sub_self] at hr
        rw [← Option.some.inj hr]
        exact answers_called (Nat.le_add_right first _) hlast

/-- **What a row of calls sends out**, by induction on those calls. -/
theorem sent_replies (h : calls.map PauseCall.number = List.range' first calls.length) :
    ((p.called first first).replies b calls).flatMap PauseReply.sent =
      (if p.pausesFrom first < first + calls.length then [.pause true] else []) ++
        if (p.stopsFrom? first).any (· < first + calls.length) then [.stop] else [] := by
  have hstart : first ≤ p.pausesFrom first := Nat.le_max_left _ _
  induction calls using List.reverseRecOn with
  | nil =>
      have hpause : ¬ p.pausesFrom first < first + 0 := by omega
      have hstop : (p.stopsFrom? first).any (· < first + 0) = false := by
        rw [Option.any_eq_false]
        intro t ht
        have hlater := lt_of_stopsFrom? ht
        exact decide_eq_false (by omega)
      simp only [List.length_nil, if_neg hpause, hstop]
      rfl
  | append_singleton past c ih =>
      obtain ⟨hpast, hlast⟩ := numbers_concat h
      have hanswers : p.Answers first (first + past.length)
          ((p.called first (first + past.length)).reply b c) :=
        answers_called (Nat.le_add_right first _) hlast
      rw [replies_concat, left_calls hpast, List.flatMap_append, ih hpast, List.flatMap_singleton,
        hanswers.sent_eq, List.length_append, List.length_singleton]
      cases hstop : p.stopsFrom? first with
      | none =>
          simp only [Option.any_none, reduceCtorEq, if_false, Bool.false_eq_true, List.append_nil]
          split_ifs <;> first | rfl | omega
      | some t =>
          have hlater := lt_of_stopsFrom? hstop
          simp only [Option.any_some, decide_eq_true_eq, Option.some.injEq]
          split_ifs <;> first | rfl | omega

end PauseAfter

end Rows

/--
**What the calls of a system come to that a payload describes.**  It waits for some step, step 1 at
the earliest.  Let it be called in steps of successive numbers, and let `start` be the first of
them, or the step it waits for if that comes later.  The call in step `start` pauses the simulation,
and no other call does.  If the system is to stop it `steps` later, the call in step `start + steps`
does so, unless `steps` is zero, and no other call does.  If that sum is no number of 64 bits, then
all calls after step `start` panic.  Every other call returns and sends out nothing.
-/
theorem pause_calls {config : Payload} {p : PauseAfter}
    (hmade : PauseAfter.ofPayload config = .ok p)
    (b : Behavior cast) {calls : List PauseCall} {first : Nat}
    (hnumbers : calls.map PauseCall.number = List.range' first calls.length) :
    1 ≤ p.after.toNat ∧
    (p.replies b calls).length = calls.length ∧
    (∀ i r, (p.replies b calls)[i]? = some r → p.Answers first (first + i) r) ∧
    (p.replies b calls).flatMap PauseReply.sent =
      (if p.pausesFrom first < first + calls.length then [.pause true] else []) ++
        (if (p.stopsFrom? first).any (· < first + calls.length) then [.stop] else []) ∧
    ((∀ r ∈ p.replies b calls, r.result = .ok ()) ↔
      ¬ (p.pausesFrom first + 1 < first + calls.length ∧ p.overflowsFrom first)) := by
  obtain ⟨hfresh, hpositive⟩ := PauseAfter.of_ofPayload hmade
  have hstart : first ≤ p.pausesFrom first := Nat.le_max_left _ _
  have hbefore : p.called first first = p := by
    rw [PauseAfter.called, if_neg (Nat.not_lt.2 hstart), ← hfresh]
  have hlength := p.length_replies (b := b) calls
  have hanswers : ∀ i r, (p.replies b calls)[i]? = some r → p.Answers first (first + i) r := by
    intro i r hr
    rw [← hbefore] at hr
    exact PauseAfter.answers_replies hnumbers hr
  have hsent := PauseAfter.sent_replies (b := b) (p := p) hnumbers
  rw [hbefore] at hsent
  refine ⟨hpositive, hlength, hanswers, hsent, ?_⟩
  constructor
  · rintro hcalm ⟨hreached, hover⟩
    -- The call after the one that pauses the simulation is the first one to panic.
    let i := p.pausesFrom first + 1 - first
    have hi : i < (p.replies b calls).length := by omega
    have hr := List.getElem?_eq_getElem hi
    have hcall := hanswers i _ hr
    have hlater : p.pausesFrom first < first + i := by omega
    exact hcall.result_eq_ok_iff.1 (hcalm _ (List.getElem_mem hi)) ⟨hlater, hover⟩
  · intro hcalm r hr
    obtain ⟨i, hi⟩ := List.mem_iff_getElem?.1 hr
    have hlt := (List.getElem?_eq_some_iff.1 hi).1
    refine (hanswers i r hi).result_eq_ok_iff.2 fun hover => hcalm ⟨?_, hover.2⟩
    omega

namespace PauseCalls

/-- The calls in the steps from a number on, in an engine without systems. -/
def inSteps (numbers : List UInt64) : List PauseCall :=
  numbers.map fun k => ⟨{ StepInfo.first .zero with iterations := k }, (Cast.engine []).env⟩

/-- A payload with both entries. -/
def entries (after stopAfter : Nat) : Payload :=
  ⟨.ofMembers [("after", .ofNat after), ("stop_after", .ofNat stopAfter)]⟩

end PauseCalls

/-- A system that is called late pauses the simulation at once, and stops it two steps later. -/
theorem pause_calls_late :
    ∃ p, PauseAfter.ofPayload (PauseCalls.entries 3 2) = .ok p ∧
      (PauseCalls.inSteps [5, 6, 7, 8]).map PauseCall.number = List.range' 5 4 ∧
      p.Answers 5 7 ⟨.ok (), [.stop]⟩ ∧
      (p.replies behavior (PauseCalls.inSteps [5, 6, 7, 8])).flatMap PauseReply.sent =
        [.pause true, .stop] := by
  let p : PauseAfter := ⟨3, some 2, none⟩
  have hmade : PauseAfter.ofPayload (PauseCalls.entries 3 2) = .ok p := rfl
  have hnumbers : (PauseCalls.inSteps [5, 6, 7, 8]).map PauseCall.number = List.range' 5 4 := rfl
  obtain ⟨-, -, hanswers, hsent, -⟩ := pause_calls hmade behavior hnumbers
  exact ⟨p, hmade, hnumbers, hanswers 2 _ rfl, hsent⟩

/--
A system that is to stop the simulation in the step in which it pauses it never does; one whose
step of the stop has no number panics.
-/
theorem pause_calls_astray :
    (∃ p, PauseAfter.ofPayload (PauseCalls.entries 1 0) = .ok p ∧
      p.replies behavior (PauseCalls.inSteps [0, 1, 2]) =
        [⟨.ok (), []⟩, ⟨.ok (), [.pause true]⟩, ⟨.ok (), []⟩]) ∧
    ∃ p, PauseAfter.ofPayload (PauseCalls.entries 1 18446744073709551615) = .ok p ∧
      p.replies behavior (PauseCalls.inSteps [0, 1, 2]) =
        [⟨.ok (), []⟩, ⟨.ok (), [.pause true]⟩,
          ⟨.error "panicked: attempt to add with overflow", []⟩] := by
  constructor
  · exact ⟨⟨1, some 0, none⟩, rfl, rfl⟩
  · exact ⟨⟨1, some 18446744073709551615, none⟩, rfl, rfl⟩

end SimEngine
