import SimEngine.Proofs.Configurations
import SimEngine.Proofs.Departures

/-!
# Batches

Guest code queues attachments and detachments at any time.  A step begins with
those that are queued by then; what is queued while it lasts waits for the next
one.

**Definitions.**
* `requestedIn`: the commands that guest code queues at moments.
* `carriedOutIn`: the commands of the queue that are carried out at moments.
* `Fleeting`: an instance comes and goes.

**Results.**
* `commandLaw`: guest code puts the commands that it queues behind the others.
* `conservation`: what was queued was carried out, or is still in the queue.
* `requests_carried_out`: each command is carried out once, in its turn, by the
  first step that begins after it was queued.
-/

namespace SimEngine

variable {G : Guest}

/--
The command that a request puts into the queue, if it puts any: an attachment goes there under the
handle that the request is answered with.
-/
def Occurrence.command? (b : Behavior G) (o : Occurrence G) : Option (Command G) :=
  match o.request with
  | .queueAttach attachment entity config =>
    let handle : Handle :=
      (b.performAt o.spot (.queueAttach attachment entity config) o.env).1
    some (.attach handle attachment entity config)
  | .queueDetach handle => some (.detach handle)
  | _ => none

/-- The commands that guest code queues at moments, in their order. -/
def requestedIn (b : Behavior G) (moments : List (Moment G)) : List (Command G) :=
  (moments.flatMap (Moment.log b)).filterMap (Occurrence.command? b)

/-- The command of the queue that an act carries out, if it does. -/
def Act.fromQueue? : Act G → Option (Command G)
  | .carryOut .queue command => some command
  | _ => none

/-- The commands of the queue that are carried out at moments, in their order. -/
def carriedOutIn (moments : List (Moment G)) : List (Command G) :=
  moments.filterMap fun m => m.act.fromQueue?

/--
A command of the queue attaches a system: it is configured if it offers that, may then have to
declare its parameters, and nothing else is run.
-/
def Moment.Attaches (b : Behavior G) (m : Moment G) (handle : Handle) (attachment : Attachment G)
    (entity : Entity) (config : Payload) : Prop :=
  m.act = .carryOut .queue (.attach handle attachment entity config) ∧
    ∃ (i : Instance G) (env : Environment G) (declared : List (GuestRun G)),
      m.guestRuns b =
        (if b.offers attachment.system m.before.env.memory .configure then
          [⟨.configure i, env⟩] else []) ++ declared ∧
      i.context = (attachment.system, ⟨handle, entity, config⟩) ∧
      ∀ s ∈ declared, ∃ j, s.purpose = .configureParameters j ∧ j.context = i.context

/-- A command of the queue detaches the instance of a handle, and just its system is let go of. -/
def Moment.LetsGo (b : Behavior G) (m : Moment G) (handle : Handle)
    (attachment : Attachment G) : Prop :=
  m.act = .carryOut .queue (.detach handle) ∧
    ∃ i env, m.departure? = some (i, env) ∧ i.handle = handle ∧
      m.guestRuns b = b.releasing attachment env

/-- An instance comes and goes, and nothing is called for it in between, before or after. -/
def Fleeting (b : Behavior G) (moments : List (Moment G)) (handle : Handle)
    (attachment : Attachment G) (entity : Entity) (config : Payload) : Prop :=
  ∃ before m between m' after, moments = before ++ m :: (between ++ m' :: after) ∧
    m.Attaches b handle attachment entity config ∧ m'.LetsGo b handle attachment ∧
    ∀ other ∈ before ++ (between ++ m' :: after), ∀ s ∈ other.guestRuns b,
      ¬ s.purpose.IsFor handle

/-- Guest code puts the commands that it queues behind the others. -/
theorem commandLaw (b : Behavior G) :
    TraceLaw b fun env L env' =>
      env'.commands = env.commands ++ L.filterMap (Occurrence.command? b) where
  refl := fun env => (List.append_nil env.commands).symm
  trans := by
    intro e₁ L₁ e₂ L₂ e₃ h₁ h₂
    rw [h₂, h₁, List.filterMap_append, List.append_assoc]
  request := by
    intro spot r env hr
    obtain ⟨_, _, hafter⟩ := performAt_eq b spot r env hr
    rw [hafter]
    cases r with
    | queueAttach attachment entity config => rfl
    | queueDetach handle => rfl
    | _ => exact (List.append_nil env.commands).symm
  emit := fun _ _ env => (List.append_nil env.commands).symm
  ensure := fun _ env => (List.append_nil env.commands).symm
  tell := by
    intro signal env
    cases signal <;> exact (List.append_nil env.commands).symm
  report := fun _ env => (List.append_nil env.commands).symm
  turnTo := fun _ _ env => (List.append_nil env.commands).symm

section Queue

variable {b : Behavior G}

theorem requestedIn_append (first second : List (Moment G)) :
    requestedIn b (first ++ second) = requestedIn b first ++ requestedIn b second := by
  rw [requestedIn, List.flatMap_append, List.filterMap_append]
  rfl

theorem carriedOutIn_append (first second : List (Moment G)) :
    carriedOutIn (first ++ second) = carriedOutIn first ++ carriedOutIn second :=
  List.filterMap_append

theorem carriedOutIn_moments (e : Engine G) (acts : List (Act G)) :
    carriedOutIn (e.moments b acts) = acts.filterMap Act.fromQueue? := by
  have hmap := congrArg (List.filterMap Act.fromQueue?) (map_act_moments b e acts)
  rwa [List.filterMap_map] at hmap

theorem commands_after (m : Moment G) (halive : m.before.env.orphaned = false) :
    (m.after b).env.commands = m.ready.commands ++ requestedIn b [m] := by
  have hready : m.ready.orphaned = false := by
    unfold Moment.ready
    split <;> exact halive
  have hlaw := ((commandLaw b).of_threaded
    (fun hstill => hstill.commands.trans (List.append_nil _).symm)
    (accounted_moment (b := b) m halive) hready).1
  rw [hlaw, requestedIn, List.flatMap_singleton]
  rfl

/-- Where the queue is not emptied, it grows by what is queued. -/
theorem commands_foldl
    {acts : List (Act G)} (hacts : ∀ act ∈ acts, act ≠ .collect) {e : Engine G}
    (halive : e.env.orphaned = false) :
    (acts.foldl (Engine.perform b) e).env.commands =
      e.env.commands ++ requestedIn b (e.moments b acts) := by
  induction acts generalizing e with
  | nil =>
      exact (List.append_nil e.env.commands).symm
  | cons act rest ih =>
      have hkept : (Moment.ready ⟨e, act⟩).commands = e.env.commands := by
        cases act with
        | collect => exact absurd rfl (hacts .collect List.mem_cons_self)
        | _ => rfl
      have hfirst := commands_after (b := b) ⟨e, act⟩ halive
      have hrest := ih (fun other hother => hacts other (List.mem_cons_of_mem act hother))
        (alive_after (b := b) ⟨e, act⟩ halive)
      rw [List.foldl_cons]
      show (rest.foldl (Engine.perform b) (Moment.after b ⟨e, act⟩)).env.commands = _
      rw [hrest, hfirst, hkept, List.append_assoc, ← requestedIn_append]
      rfl

/-- The turns of a step are no other acts. -/
theorem eq_turn_of_mem_turnActs
    {info : StepInfo} {failed : List Handle} {slots : List (Pass × Instance G)}
    {env : Environment G} {act : Act G} (h : act ∈ Engine.turnActs b info failed slots env) :
    ∃ failed slot, act = .turn info failed slot := by
  induction slots generalizing failed env with
  | nil =>
      cases h
  | cons slot rest ih =>
      rcases List.mem_cons.1 h with rfl | h
      · exact ⟨failed, slot, rfl⟩
      · exact ih h

/-- **A step begins with the queue**, and then admits the waiting instances and has its turns. -/
theorem stepActs_eq (e : Engine G) (info : StepInfo) :
    ∃ turns : List (Act G), e.stepActs b info =
        .collect :: (e.env.commands.map (.carryOut .queue) ++ .admitAll :: turns) ∧
      ∀ act ∈ turns, ∃ failed slot, act = .turn info failed slot :=
  ⟨_, rfl, fun _ => eq_turn_of_mem_turnActs⟩

theorem carriedOutIn_step (e : Engine G) (info : StepInfo) :
    carriedOutIn (e.momentsOf b (.step info)) = e.env.commands := by
  obtain ⟨turns, hacts, hturns⟩ := stepActs_eq (b := b) e info
  have hbatch : (e.env.commands.map (Act.carryOut .queue)).filterMap Act.fromQueue? =
      e.env.commands := by
    rw [List.filterMap_map]
    exact List.filterMap_some
  have hrest : turns.filterMap Act.fromQueue? = [] := by
    rw [List.filterMap_eq_nil_iff]
    intro act hact
    obtain ⟨failed, slot, rfl⟩ := hturns act hact
    rfl
  rw [Engine.momentsOf, carriedOutIn_moments]
  show (e.stepActs b info).filterMap Act.fromQueue? = _
  rw [hacts]
  show (e.env.commands.map (Act.carryOut .queue) ++ .admitAll :: turns).filterMap _ = _
  rw [List.filterMap_append, hbatch]
  show e.env.commands ++ turns.filterMap Act.fromQueue? = _
  rw [hrest, List.append_nil]

theorem commands_step
    {e : Engine G} (halive : e.env.orphaned = false) (info : StepInfo) :
    (e.operate b (.step info)).env.commands = requestedIn b (e.momentsOf b (.step info)) := by
  obtain ⟨turns, hacts, hturns⟩ := stepActs_eq (b := b) e info
  have hlater : ∀ act ∈ e.env.commands.map (Act.carryOut .queue) ++ .admitAll :: turns,
      act ≠ .collect := by
    rintro act hact rfl
    rcases List.mem_append.1 hact with hcommand | hturn
    · obtain ⟨command, _, heq⟩ := List.mem_map.1 hcommand
      cases heq
    · rcases List.mem_cons.1 hturn with heq | hturn
      · cases heq
      · obtain ⟨failed, slot, heq⟩ := hturns _ hturn
        cases heq
  have hcommands := commands_foldl (b := b) hlater
    (e := { e with env := { e.env with commands := [] } }) halive
  rw [← operate_eq_foldl, Engine.momentsOf]
  show ((e.stepActs b info).foldl (Engine.perform b) e).env.commands =
    requestedIn b (e.moments b (e.stepActs b info))
  rw [hacts]
  exact hcommands

/-- The acts of an operation that is no step neither empty the queue nor carry it out. -/
theorem actsOf_other
    {e : Engine G} {operation : Operation G} (h : ∀ info, operation ≠ .step info)
    {act : Act G} (hact : act ∈ e.actsOf b operation) :
    act ≠ .collect ∧ act.fromQueue? = none := by
  have hattach : ∀ {handle : Handle} {attachment : Attachment G} {entity : Entity}
      {config : Payload}, act ∈ Engine.attachActs handle attachment entity config →
        act ≠ .collect ∧ act.fromQueue? = none := by
    intro handle attachment entity config hmem
    rcases List.mem_pair.1 hmem with rfl | rfl <;> exact ⟨nofun, rfl⟩
  cases operation with
  | attach attachment entity config =>
      exact hattach hact
  | loadAndAttach spec =>
      rcases List.mem_cons.1 hact with rfl | hact
      · exact ⟨nofun, rfl⟩
      · split at hact
        · exact hattach hact
        · cases hact
  | step info =>
      exact absurd rfl (h info)
  | clear =>
      rw [(List.mem_replicate.1 hact).2]
      exact ⟨nofun, rfl⟩
  | _ =>
      rw [List.mem_singleton.1 hact]
      exact ⟨nofun, rfl⟩

/-- What a host does at one stroke, as an operation. -/
def Act.stroke? : Act G → Option (Operation G)
  | .reconfigure handle config => some (.reconfigure handle config)
  | .run access program => some (.run access program)
  | .arrange arrangement => some (.arrange arrangement)
  | _ => none

/-- What a host does at one stroke is an operation of its own. -/
theorem eq_of_stroke?
    {e : Engine G} {operation stroke : Operation G} {act : Act G}
    (hact : act ∈ e.actsOf b operation) (hstroke : act.stroke? = some stroke) :
    operation = stroke := by
  have hattach : ∀ {handle : Handle} {attachment : Attachment G} {entity : Entity}
      {config : Payload}, act ∉ Engine.attachActs handle attachment entity config := by
    intro handle attachment entity config hmem
    rcases List.mem_pair.1 hmem with rfl | rfl <;> cases hstroke
  cases operation with
  | attach attachment entity config =>
      exact absurd hact hattach
  | loadAndAttach spec =>
      rcases List.mem_cons.1 hact with rfl | hact
      · cases hstroke
      · split at hact
        · exact absurd hact hattach
        · cases hact
  | detach handle =>
      rw [List.mem_singleton.1 hact] at hstroke
      cases hstroke
  | step info =>
      obtain ⟨turns, hacts, hturns⟩ := stepActs_eq (b := b) e info
      change act ∈ e.stepActs b info at hact
      rw [hacts] at hact
      rcases List.mem_cons.1 hact with rfl | hact
      · cases hstroke
      · rcases List.mem_append.1 hact with hcommand | hact
        · obtain ⟨command, -, rfl⟩ := List.mem_map.1 hcommand
          cases hstroke
        · rcases List.mem_cons.1 hact with rfl | hturn
          · cases hstroke
          · obtain ⟨failed, slot, rfl⟩ := hturns _ hturn
            cases hstroke
  | clear =>
      rw [(List.mem_replicate.1 hact).2] at hstroke
      cases hstroke
  | _ =>
      obtain rfl := List.mem_singleton.1 hact
      exact Option.some.inj hstroke

theorem carriedOutIn_other
    {e : Engine G} {operation : Operation G} (h : ∀ info, operation ≠ .step info) :
    carriedOutIn (e.momentsOf b operation) = [] := by
  rw [Engine.momentsOf, carriedOutIn_moments, List.filterMap_eq_nil_iff]
  exact fun act hact => (actsOf_other h hact).2

/-- **What was queued was carried out, or is still in the queue**, each in its turn. -/
theorem conservation
    {e : Engine G} (halive : e.env.orphaned = false) (operations : List (Operation G)) :
    e.env.commands ++ requestedIn b (e.history b operations) =
      carriedOutIn (e.history b operations) ++ (e.operateAll b operations).env.commands := by
  induction operations generalizing e with
  | nil =>
      exact List.append_nil e.env.commands
  | cons operation rest ih =>
      have halive' := (accounts_operation (b := b) e halive operation).2
      have hrest := ih halive'
      have hfirst : e.env.commands ++ requestedIn b (e.momentsOf b operation) =
          carriedOutIn (e.momentsOf b operation) ++ (e.operate b operation).env.commands := by
        by_cases hstep : ∃ info, operation = .step info
        · obtain ⟨info, rfl⟩ := hstep
          rw [carriedOutIn_step, commands_step halive]
        · have hother : ∀ info, operation ≠ .step info := fun info h => hstep ⟨info, h⟩
          rw [carriedOutIn_other hother, List.nil_append, ← operate_eq_foldl]
          exact (commands_foldl (fun act hact => (actsOf_other hother hact).1) halive).symm
      calc
        e.env.commands ++ requestedIn b (e.history b (operation :: rest)) =
            e.env.commands ++ requestedIn b (e.momentsOf b operation) ++
              requestedIn b ((e.operate b operation).history b rest) := by
          rw [Engine.history, requestedIn_append, List.append_assoc]
        _ = carriedOutIn (e.momentsOf b operation) ++ ((e.operate b operation).env.commands ++
              requestedIn b ((e.operate b operation).history b rest)) := by
          rw [hfirst, List.append_assoc]
        _ = carriedOutIn (e.history b (operation :: rest)) ++
              (e.operateAll b (operation :: rest)).env.commands := by
          rw [hrest, Engine.history, carriedOutIn_append, List.append_assoc]
          rfl

end Queue

section Batches

variable {b : Behavior G}

theorem moments_append_cons
    (e : Engine G) (first : List (Act G)) (act : Act G) (second : List (Act G)) :
    e.moments b (first ++ act :: second) =
      e.moments b first ++ ⟨first.foldl (Engine.perform b) e, act⟩ ::
        ((first.foldl (Engine.perform b) e).perform b act).moments b second :=
  moments_append b e first (act :: second)

theorem mem_acts_of_mem_moments
    {e : Engine G} {acts : List (Act G)} {m : Moment G} (h : m ∈ e.moments b acts) :
    m.act ∈ acts := by
  rw [← map_act_moments b e acts]
  exact List.mem_map_of_mem h

/-- Commands of the queue leave an instance alone, unless they detach it. -/
theorem mem_handles_foldl
    {commands : List (Command G)} {handle : Handle} (hcommands : .detach handle ∉ commands)
    {e : Engine G} (h : handle ∈ e.scheduler.handles) :
    handle ∈ ((commands.map (.carryOut .queue)).foldl (Engine.perform b) e).scheduler.handles := by
  induction commands generalizing e with
  | nil =>
      exact h
  | cons command rest ih =>
      refine ih (mt (List.mem_cons_of_mem command) hcommands) ?_
      rw [handles_perform]
      cases command with
      | attach other attachment entity config =>
          exact List.mem_append_left _ h
      | detach other =>
          have hother : handle ≠ other := by
            rintro rfl
            exact hcommands List.mem_cons_self
          exact (List.mem_erase_of_ne hother).2 h

/-- Where the moments of an attachment and of its detachment are in a step. -/
theorem exists_batch_split
    {e : Engine G} (info : StepInfo) {first rest : List (Command G)} {handle : Handle}
    {attachment : Attachment G} {entity : Entity} {config : Payload}
    (hcommands : e.env.commands = first ++ .attach handle attachment entity config :: rest)
    (hdetach : .detach handle ∈ rest) :
    ∃ before m between m' after,
      e.momentsOf b (.step info) = before ++ m :: (between ++ m' :: after) ∧
      m.act = .carryOut .queue (.attach handle attachment entity config) ∧
      (∀ other ∈ between, ∃ command, other.act = .carryOut .queue command) ∧
      m'.act = .carryOut .queue (.detach handle) ∧
      handle ∈ m'.before.scheduler.handles := by
  -- The detachment that counts is the first one behind the attachment.
  obtain ⟨middle, behind, rfl, hmiddle⟩ := List.eq_append_cons_of_mem hdetach
  obtain ⟨turns, hacts, _⟩ := stepActs_eq (b := b) e info
  have hsplit : e.stepActs b info =
      (.collect :: first.map (.carryOut .queue)) ++
        .carryOut .queue (.attach handle attachment entity config) ::
          (middle.map (.carryOut .queue) ++ .carryOut .queue (.detach handle) ::
            (behind.map (.carryOut .queue) ++ .admitAll :: turns)) := by
    rw [hacts, hcommands]
    simp
  have hmoments : e.momentsOf b (.step info) = e.moments b (e.stepActs b info) := rfl
  rw [hsplit, moments_append_cons, moments_append_cons] at hmoments
  refine ⟨_, _, _, _, _, hmoments, rfl, ?_, rfl, ?_⟩
  · intro other hother
    obtain ⟨command, _, hcommand⟩ := List.mem_map.1 (mem_acts_of_mem_moments hother)
    exact ⟨command, hcommand.symm⟩
  · refine mem_handles_foldl hmiddle ?_
    rw [handles_perform]
    exact List.mem_append_right _ (List.mem_singleton_self handle)

/-- Once an instance is attached, further commands of the queue do not call it. -/
theorem silent_between
    {past : List (Moment G)} {m : Moment G} {between after : List (Moment G)} {last : Engine G}
    (h : Chronicle b (past ++ m :: (between ++ after)) last) {handle : Handle}
    (hattached : m.act.attached? = some handle)
    (hbetween : ∀ other ∈ between, ∃ command, other.act = .carryOut .queue command) :
    ∀ other ∈ between, ∀ s ∈ other.guestRuns b, ¬ s.purpose.IsFor handle := by
  rintro other hother s hs ⟨i, stage, hcall, rfl⟩
  obtain ⟨command, hcommand⟩ := hbetween other hother
  obtain ⟨first, second, rfl⟩ := List.append_of_mem hother
  rw [List.append_assoc, List.cons_append] at h
  have hproper := h.split_later.2.1
  rcases call_cases hs hcall with
    ⟨_, _, _, _, hnow⟩ | ⟨_, _, hnow, _⟩ | ⟨_, _, _, hnow, _⟩
  · exact hproper.not_mem (congrArg Act.attached? hnow) (mem_attachedIn hattached)
  · rw [hnow] at hcommand
    cases hcommand
  · rw [hnow] at hcommand
    cases hcommand

theorem attaches_of_act
    {m : Moment G} {handle : Handle} {attachment : Attachment G} {entity : Entity}
    {config : Payload}
    (hact : m.act = .carryOut .queue (.attach handle attachment entity config)) :
    m.Attaches b handle attachment entity config := by
  obtain ⟨i, j, env, env', hguestRuns, hi, hj, _, _⟩ := guestRuns_attach (b := b) hact rfl
  refine ⟨hact, i, env, j.declaring b env', hguestRuns, hi, ?_⟩
  intro s hs
  rw [eq_of_mem_declaring hs]
  exact ⟨j, rfl, hj.trans hi.symm⟩

/-- **An instance whose detachment is in the batch of its attachment comes and goes.** -/
theorem fleeting_of_batch
    {past : List (Moment G)} {e last : Engine G} {info : StepInfo}
    (h : Chronicle b (past ++ e.momentsOf b (.step info)) last) {first rest : List (Command G)}
    {handle : Handle} {attachment : Attachment G} {entity : Entity} {config : Payload}
    (hcommands : e.env.commands = first ++ .attach handle attachment entity config :: rest)
    (hdetach : .detach handle ∈ rest) :
    Fleeting b (e.momentsOf b (.step info)) handle attachment entity config := by
  obtain ⟨before, m, between, m', after, hmoments, hact, hbetween, hact', hthere⟩ :=
    exists_batch_split (b := b) info hcommands hdetach
  rw [hmoments, ← List.append_assoc] at h
  have hlast := h
  rw [← List.cons_append, ← List.append_assoc] at hlast
  have hattached : m.act.attached? = some handle := congrArg Act.attached? hact
  have hdeparts := departs_of_detach hact' hthere
  obtain ⟨i, env, hdeparture, hhandle⟩ := id hdeparts
  obtain ⟨_, _, hreleased⟩ := env_after_departure (b := b) hdeparture
  have hattachment := (hlast.split.1.charter hact (mem_of_departure hdeparture) hhandle).1
  refine ⟨before, m, between, m', after, hmoments, attaches_of_act hact,
    ⟨hact', i, env, hdeparture, hhandle, hattachment ▸ hreleased⟩, ?_⟩
  intro other hother
  rcases List.mem_append.1 hother with hearlier | hother
  · exact h.silent_before hattached other (List.mem_append_right _ hearlier)
  rcases List.mem_append.1 hother with hmiddle | hother
  · exact silent_between h hattached hbetween other hmiddle
  rcases List.mem_cons.1 hother with rfl | hlater
  · rintro s hs ⟨j, stage, hcall, _⟩
    rw [hreleased] at hs
    rw [call?_of_mem_releasing hs] at hcall
    cases hcall
  · exact (hlast.silent_of_departs hdeparts).uncalled other hlater

end Batches

/--
**Each command of the queue is carried out once, in its turn, by the first step that begins after
it was queued.**  Whatever guest code has queued so far was carried out, or is still in the queue,
in the order in which it was queued; nothing but a step carries anything out.  A step begins with
the queue, before the waiting instances are admitted and have their turns; then all has been
carried out that was queued before it, and the queue holds what was queued meanwhile.  An
attachment is carried out under the handle that its request was answered with, the detachment of
an unknown handle changes nothing, and an instance whose detachment is in the batch of its
attachment is configured and let go of without any other call.  No other guest code is run in a
past than in its runs, for they account for what has become of the engine.
-/
theorem requests_carried_out (b : Behavior G) (c : Course G) :
    requestedIn b (c.past b) = carriedOutIn (c.past b) ++ (c.engine b).env.commands ∧
    (∀ operation, (∀ info, operation ≠ .step info) →
      carriedOutIn ((c.engine b).momentsOf b operation) = []) ∧
    (∀ info, ∃ turns : List (Act G),
      ((c.engine b).momentsOf b (.step info)).map Moment.act =
        .collect :: ((c.engine b).env.commands.map (.carryOut .queue) ++ .admitAll :: turns) ∧
      (∀ act ∈ turns, ∃ failed slot, act = .turn info failed slot) ∧
      carriedOutIn (c.past b ++ (c.engine b).momentsOf b (.step info)) =
        requestedIn b (c.past b) ∧
      ((c.engine b).operate b (.step info)).env.commands =
        requestedIn b ((c.engine b).momentsOf b (.step info))) ∧
    (∀ m ∈ c.past b, ∀ handle attachment entity config,
      m.act = .carryOut .queue (.attach handle attachment entity config) →
        ∃ i, (m.after b).scheduler.instances = m.before.scheduler.instances ∧
          (m.after b).scheduler.pending = m.before.scheduler.pending ++ [i] ∧
          i.handle = handle ∧ i.attachment = attachment ∧ i.entity = entity ∧
          i.config = config) ∧
    (∀ m ∈ c.past b, ∀ handle, m.act = .carryOut .queue (.detach handle) →
      handle ∉ m.before.scheduler.handles → m.after b = m.before ∧ m.guestRuns b = []) ∧
    (∀ info first rest handle attachment entity config,
      (c.engine b).env.commands = first ++ .attach handle attachment entity config :: rest →
        .detach handle ∈ rest →
          Fleeting b ((c.engine b).momentsOf b (.step info)) handle attachment entity config) ∧
    Accounts b (.fresh c.memory) (c.past b) (c.engine b) := by
  have halive := (c.accounts b).2
  have hconserved : requestedIn b (c.past b) =
      carriedOutIn (c.past b) ++ (c.engine b).env.commands :=
    conservation (e := .fresh c.memory) rfl c.operations
  refine ⟨hconserved, fun _ => carriedOutIn_other, ?_, ?_, ?_, ?_, (c.accounts b).1⟩
  · intro info
    obtain ⟨turns, hacts, hturns⟩ := stepActs_eq (b := b) (c.engine b) info
    refine ⟨turns, ?_, hturns, ?_, commands_step halive info⟩
    · rw [Engine.momentsOf, map_act_moments]
      exact hacts
    · rw [carriedOutIn_append, carriedOutIn_step, hconserved]
  · intro m _ handle attachment entity config hact
    obtain ⟨degraded, hrecruit⟩ := exists_recruit_eq b m.before handle attachment entity config
    refine ⟨_, ?_, ?_, congrArg Instance.handle hrecruit, congrArg Instance.attachment hrecruit,
      congrArg Instance.entity hrecruit, congrArg Instance.config hrecruit⟩
    · rw [Moment.after, hact]
      rfl
    · rw [Moment.after, hact]
      rfl
  · intro m _ handle hact habsent
    refine after_of_no_departure ?_ (Or.inl ⟨.queue, handle, hact⟩)
    simp only [Moment.departure?, hact, (m.before.scheduler.instance?_eq_none_iff handle).2 habsent,
      Option.map_none]
  · intro info first rest handle attachment entity config hcommands hdetach
    have hchronicle := (c.go [.step info]).chronicle b
    rw [c.past_go, Engine.history, Engine.history, List.append_nil] at hchronicle
    exact fleeting_of_batch hchronicle hcommands hdetach

namespace Puppets

/-- Every system offers all interfaces, and queues an attachment whenever it is updated. -/
def recruiters : Behavior puppets :=
  { idle with
    offers := fun _ _ _ => true
    phase := fun phase _ _ =>
      match phase with
      | .update => (Program.queueAttach ⟨(7 : Nat), .shared⟩ .null ⟨.null⟩).bind fun _ => .done ()
      | _ => .done () }

/-- A system is attached, and the host queues the attachment of another and its detachment. -/
def recruiting : Course puppets where
  memory := (0 : Nat)
  operations :=
    [.attach ⟨(1 : Nat), .shared⟩ .null ⟨.null⟩,
      .run .none ((Program.queueAttach ⟨(2 : Nat), .shared⟩ .null ⟨.null⟩).bind fun handle =>
        (Program.queueDetach handle).bind fun _ => .done ())]

end Puppets

theorem requests_carried_out_recruiting :
    Fleeting Puppets.recruiters ((Puppets.recruiting.engine Puppets.recruiters).momentsOf
      Puppets.recruiters (.step (.first .zero))) ⟨2⟩ ⟨(2 : Nat), .shared⟩ .null ⟨.null⟩ ∧
    ((Puppets.recruiting.engine Puppets.recruiters).operate
      Puppets.recruiters (.step (.first .zero))).env.commands =
        [.attach ⟨3⟩ ⟨(7 : Nat), .shared⟩ .null ⟨.null⟩] := by
  obtain ⟨_, _, hstep, _, _, hfleeting, _⟩ :=
    requests_carried_out Puppets.recruiters Puppets.recruiting
  obtain ⟨_, _, _, _, hqueue⟩ := hstep (.first .zero)
  refine ⟨hfleeting _ [] [.detach ⟨2⟩] _ _ _ _ rfl (List.mem_singleton_self _), ?_⟩
  rw [hqueue]
  rfl

end SimEngine
