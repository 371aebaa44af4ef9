import SimEngine.Proofs.Puppets
import SimEngine.Proofs.Reachable

/-!
# Steps of reached engines

**Results.**
* `step_turns`: which calls a step of a reached engine makes, in which order,
  and with what.
-/

namespace SimEngine

variable {G : Guest}

/--
**Which calls a step makes.**  Once the queue is carried out and the waiting instances are
admitted, the turns of a step go pass by pass, and in each pass over the instances in the order
in which they were made.  An instance is called in each delivery, and in a phase if and only if
the phase is among the interfaces looked up when it was made, is still offered, and none of its
earlier turns in the step failed.  Each call gets the time of the step and the environment that
the turn before it left; a turn without a call changes nothing but the journal.  The last phase
leaves the world as it is, and which instances are degraded makes no difference.
-/
theorem step_turns
    (b : Behavior G) {log : List Wrapping} {e : Engine G} (hreached : Engine.Reached b log e)
    (info : StepInfo) :
    ∃ turns : List (Turn G),
      turns.map Turn.slot = slots (e.beginStep b).scheduler.instances ∧
      ((e.beginStep b).scheduler.instances.map Instance.wrapping).Sublist
        (log ++ e.stepWrappings b) ∧
      ((log ++ e.stepWrappings b).map Wrapping.handle).Nodup ∧
      Linked Turn.before Turn.after (e.beginStep b).env turns (e.runStep b info).2.env ∧
      (∀ past t rest, turns = past ++ t :: rest →
        (t.called = true ↔ t.Due b past) ∧ t.Faithful b info) ∧
      (∀ t ∈ turns, t.pass = .phase .postUpdate → t.after.world = t.before.world) ∧
      (e.runStep b info).2.scheduler = (e.beginStep b).scheduler ∧
      ∀ degraded : Instance G → Bool,
        Engine.passThrough b ((e.beginStep b).scheduler.instances.map fun i =>
            { i with degraded := degraded i }) info (e.beginStep b).env =
          Engine.passThrough b (e.beginStep b).scheduler.instances info (e.beginStep b).env := by
  have hsound := hreached.sound.beginStep (b := b)
  have hlinked := linked_turns b info []
    (slots (e.beginStep b).scheduler.instances) (e.beginStep b).env
  generalize hturns : b.turns info [] (slots (e.beginStep b).scheduler.instances)
    (e.beginStep b).env = turns at hlinked
  have henv : (e.runStep b info).2.env = lastOf Turn.after (e.beginStep b).env turns := by
    rw [← hturns, Engine.runStep, passThrough_eq]
  have hstepping : ((e.beginStep b).scheduler.instances.map Instance.wrapping).Sublist
      ((e.beginStep b).scheduler.all.map Instance.wrapping) :=
    (List.sublist_append_left _ _).map _
  refine ⟨turns, ?_, hstepping.trans hsound.wrapped, (List.nodup_append.1 hsound.distinct).1, ?_,
    ?_, ?_, rfl, fun degraded => passThrough_degraded b degraded _ info _⟩
  · rw [← hturns, map_slot_turns]
  · rw [henv]
    exact hlinked
  · intro past t rest hsplit
    have ht := eq_turn_of_split b info (hturns.trans hsplit)
    refine ⟨called_iff_due b info (hturns.trans hsplit), ?_⟩
    rw [ht]
    exact faithful_turn b info _ t.slot t.before
  · intro t ht hpass
    obtain ⟨past, rest, hsplit⟩ := List.append_of_mem ht
    have hturn := eq_turn_of_split b info (hturns.trans hsplit)
    have hslot : t.slot = (.phase .postUpdate, t.inst) := by
      rw [Turn.slot, hpass]
    have halive := alive_before_turn b info hsound.alive (hturns.trans hsplit)
    have hworld := world_postUpdate b info halive (past.foldl markFault []) t.inst
    rw [← hslot, ← hturn] at hworld
    exact hworld

namespace Puppets

/-- The first system fails when it is updated. -/
def troupe : Behavior puppets :=
  { idle with
    phase := fun phase system _ =>
      match phase, system with
      | .update, 1 => .fail (.ofMessage "out of step")
      | _, _ => .done () }

/-- An engine with two systems. -/
def staged : Engine puppets :=
  let e : Engine puppets := ⟨.empty, .initial (0 : Nat)⟩
  let e := e.operate troupe (.attach ⟨(1 : Nat), .shared⟩ .null ⟨.null⟩)
  e.operate troupe (.attach ⟨(2 : Nat), .shared⟩ .null ⟨.null⟩)

end Puppets

theorem step_turns_troupe :
    (∃ log, Engine.Reached Puppets.troupe log Puppets.staged) ∧
      (Puppets.staged.runStep Puppets.troupe (.first .zero)).1.phaseCalls = 4 ∧
      ∃ turns : List (Turn puppets),
        (turns.map fun t => (t.pass, t.inst.handle.number)) =
          [(.queries, 1), (.queries, 2), (.phase .preUpdate, 1), (.phase .preUpdate, 2),
            (.phase .update, 1), (.phase .update, 2),
            (.phase .postUpdate, 1), (.phase .postUpdate, 2)] ∧
        ∀ past t rest, turns = past ++ t :: rest →
          (t.called = true ↔ t.Due Puppets.troupe past) := by
  have hreached := Engine.Reached.next (Engine.Reached.next
    (Engine.Reached.fresh (b := Puppets.troupe) (0 : Nat))
    (.attach ⟨(1 : Nat), .shared⟩ .null ⟨.null⟩)) (.attach ⟨(2 : Nat), .shared⟩ .null ⟨.null⟩)
  obtain ⟨turns, hslots, _, _, _, hlawful, _⟩ :=
    step_turns Puppets.troupe hreached (.first .zero)
  refine ⟨⟨_, hreached⟩, rfl, turns, ?_, fun past t rest hsplit => (hlawful past t rest hsplit).1⟩
  have hmap : (turns.map fun t => (t.pass, t.inst.handle.number)) =
      (turns.map Turn.slot).map fun slot => (slot.1, slot.2.handle.number) := by
    rw [List.map_map]
    rfl
  rw [hmap, hslots]
  rfl

end SimEngine
