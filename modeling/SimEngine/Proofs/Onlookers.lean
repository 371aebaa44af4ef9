import SimEngine.Proofs.Bystanders

/-!
# Onlookers

The loop may not be the only one who has subscribed to pauses and stops.  An
onlooker looks about when it hears of one, reports, and takes notes; it asks for
nothing that a later step depends on.  So it does not matter how many onlookers
there are, which of them fail, and where among them the loop stands: an order
has the effect that it has on the loop alone.

**Definitions.**
* `Request.Notes`, `Listener.LooksOn`: what an onlooker asks for, and who is one.
* `Channels.TellLoop`: the loop hears of pauses and stops, and so do onlookers at
  most.
* `Noted`: what onlookers leave as it is.
* `Heard`: what those leave who are told of an order.
* `Environment.Deaf`: the loop is not among those who are told.

**Results.**
* `noted_run`: a program that takes notes.
* `heard_notifyAll`: the turns of those who are told.
* `emit_order`: an order reaches the loop.
-/

namespace SimEngine

open Cast (behavior)

/-- A request of someone who looks about and takes notes. -/
def Request.Notes : Request cast → Prop
  | .revise f => ∀ m, (f m).members = m.members
  | .consult | .report _ | .isAlive _ | .find _ | .hasType _ _ | .read _ _ | .isConnected _
  | .connectionCount _ | .queryCount _ | .commandCount | .declare _ _ | .setParameter _ _
  | .getParameter _ => True
  | _ => False

/-- The loop, or guest code that looks about and takes notes when it hears of an order. -/
def Listener.LooksOn : Listener Callback → Prop
  | .guest callback => ∀ signal : Signal, signal.IsOrder →
      (behavior.onSignal callback signal).Confined Request.Notes fun _ => True
  | .loop => True

/-- The loop hears of pauses and stops, and everyone else who does looks on. -/
def Channels.TellLoop (channels : Channels (Listener Callback)) : Prop :=
  ∀ signal : Signal, signal.IsOrder →
    (∃ s ∈ (channels.get signal.channel).subscribers, s.callback = .loop ∧
      (channels.get signal.channel).isSilenced s.id = false) ∧
    ∀ s ∈ (channels.get signal.channel).subscribers, s.callback.LooksOn

/-- What onlookers leave as it is. -/
structure Noted (env left : Environment cast) : Prop where
  orphaned : left.orphaned = env.orphaned
  commands : left.commands = env.commands
  queries : left.queries = env.queries
  members : left.memory.members = env.memory.members
  subscribers : ∀ key, (left.channels.get key).subscribers = (env.channels.get key).subscribers
  silenced : ∀ key, (left.channels.get key).silenced = (env.channels.get key).silenced

/-- What those leave who are told of an order: the loop has heeded it, or they are deaf to it. -/
structure Heard (signal : Signal) (deaf : Prop) (env left : Environment cast) : Prop where
  noted : Noted env left
  loop : left.loop = env.loop.tell signal ∨ left.loop = env.loop ∧ deaf

/-- The loop is not among those who are told, or the mark of its subscription is set. -/
def Environment.Deaf (env : Environment cast) (key : ChannelKey) (snapshot : Snapshot cast) :
    Prop :=
  ∀ s ∈ snapshot, s.callback = .loop → env.channels.isSilenced ⟨key, s.id⟩ = true

variable {env between left : Environment cast}

namespace Noted

theorem refl (env : Environment cast) : Noted env env :=
  ⟨rfl, rfl, rfl, rfl, fun _ => rfl, fun _ => rfl⟩

theorem trans (h : Noted env between) (h' : Noted between left) : Noted env left where
  orphaned := h'.orphaned.trans h.orphaned
  commands := h'.commands.trans h.commands
  queries := h'.queries.trans h.queries
  members := h'.members.trans h.members
  subscribers key := (h'.subscribers key).trans (h.subscribers key)
  silenced key := (h'.silenced key).trans (h.silenced key)

theorem turnTo (env : Environment cast) (key : ChannelKey) (current : Option Nat) :
    Noted env (env.turnTo key current) where
  orphaned := rfl
  commands := rfl
  queries := rfl
  members := rfl
  subscribers other := by
    rw [Environment.turnTo, Channels.get_turnTo]
    split <;> simp_all [Channel.turnTo]
  silenced other := by
    rw [Environment.turnTo, Channels.get_turnTo]
    split <;> simp_all [Channel.turnTo]

theorem isSilenced (h : Noted env left) (c : Connection) :
    left.channels.isSilenced c = env.channels.isSilenced c := by
  rw [Channels.isSilenced, Channels.isSilenced, Channel.isSilenced, Channel.isSilenced, h.silenced]

/-- The loop still hears. -/
theorem tellLoop (h : Noted env left) (hheard : env.channels.TellLoop) :
    left.channels.TellLoop := by
  intro signal hsignal
  simpa only [h.subscribers, Channel.isSilenced, h.silenced] using hheard signal hsignal

theorem role? (h : Noted env left) (system : SystemId) :
    left.memory.role? system = env.memory.role? system :=
  Memory.role?_of_members h.members system

theorem queryList (h : Noted env left) (list : Handle) :
    left.queryList list = env.queryList list := by
  rw [Environment.queryList, Environment.queryList, h.queries]

end Noted

section Programs

variable {emit : Signal → Environment cast → Nat × Environment cast}
variable {tidy : Environment cast → Environment cast} {access : Access}

/-- The answer to an onlooker changes what it knows and the parameters at most. -/
theorem noted_perform {r : Request cast} (hr : r.Notes) :
    Noted env (r.perform emit access env).2 ∧ (r.perform emit access env).2.loop = env.loop := by
  cases r with
  | revise f => exact ⟨{ Noted.refl env with members := hr env.memory }, rfl⟩
  | report notice => exact ⟨{ Noted.refl env with }, rfl⟩
  | declare name value =>
      simp only [Request.perform]
      split <;> exact ⟨{ Noted.refl env with }, rfl⟩
  | setParameter name value =>
      simp only [Request.perform]
      split <;> exact ⟨{ Noted.refl env with }, rfl⟩
  | write e kind value => exact hr.elim
  | emit signal => exact hr.elim
  | connect key callback => exact hr.elim
  | disconnect c => exact hr.elim
  | register list signature callback => exact hr.elim
  | cancel list query => exact hr.elim
  | clearQueries list => exact hr.elim
  | queueAttach a entity config => exact hr.elim
  | queueDetach handle => exact hr.elim
  | _ => exact ⟨.refl env, rfl⟩

/-- **A program that takes notes** leaves everything else as it is. -/
theorem noted_run {α : Type} {results : α → Prop}
    (htidy : ∀ env, env.orphaned = false → tidy env = env) {p : Deed α}
    (hp : p.Confined Request.Notes results) (halive : env.orphaned = false) :
    Noted env (p.run emit tidy access env).2 ∧
      (p.run emit tidy access env).2.loop = env.loop := by
  let kept (env left : Environment cast) : Prop := Noted env left ∧ left.loop = env.loop
  have hrefl : ∀ {env}, env.orphaned = false → kept env env := fun _ => ⟨.refl _, rfl⟩
  have htrans : ∀ {env between left}, kept env between → kept between left → kept env left :=
    fun h h' => ⟨h.1.trans h'.1, h'.2.trans h.2⟩
  have hasked : ∀ {env} {r : Request cast}, env.orphaned = false → r.Notes →
      kept env (r.perform emit access env).2 := fun _ hr => noted_perform hr
  exact hp.keeps hrefl htrans (fun halive h => h.1.orphaned.trans halive) htidy hasked halive

end Programs

section Notifications

variable {signal : Signal}

/-- It does not matter whether an order is heard once or twice. -/
theorem LoopFlags.tell_tell (hsignal : signal.IsOrder) (flags : LoopFlags) :
    (flags.tell signal).tell signal = flags.tell signal := by
  cases signal with
  | pause paused => rfl
  | stop => rfl
  | _ => exact hsignal.elim

namespace Heard

variable {deaf deaf' : Prop}

/-- Nobody has heard of the order. -/
theorem of_noted (h : Noted env left) (hloop : left.loop = env.loop) (hdeaf : deaf) :
    Heard signal deaf env left :=
  ⟨h, .inr ⟨hloop, hdeaf⟩⟩

theorem trans (hsignal : signal.IsOrder) (h : Heard signal deaf env between)
    (h' : Heard signal deaf' between left) : Heard signal (deaf ∧ deaf') env left where
  noted := h.noted.trans h'.noted
  loop := by
    rcases h.loop with hheeds | ⟨hsame, hdeaf⟩ <;> rcases h'.loop with hheeds' | ⟨hsame', hdeaf'⟩
    · left
      rw [hheeds', hheeds, LoopFlags.tell_tell hsignal]
    · left
      rw [hsame', hheeds]
    · left
      rw [hheeds', hsame]
    · right
      exact ⟨hsame'.trans hsame, hdeaf, hdeaf'⟩

theorem mono (h : Heard signal deaf env left) (hdeaf : deaf → deaf') :
    Heard signal deaf' env left :=
  ⟨h.noted, h.loop.imp_right fun hsame => ⟨hsame.1, hdeaf hsame.2⟩⟩

end Heard

variable (room : Nat) (busy : List ChannelKey) (held : List (Snapshot cast))

/-- One who is told of an order: the loop heeds it, an onlooker takes notes. -/
theorem heard_caller (hsignal : signal.IsOrder) {listener : Listener Callback}
    (hlooks : listener.LooksOn) (halive : env.orphaned = false) :
    Heard signal (listener ≠ .loop) env (behavior.caller room busy signal held listener env).2 := by
  cases listener with
  | guest callback =>
      let emit := behavior.notify room busy held
      let tidy := behavior.tidyWith emit held
      have htidy : ∀ env, env.orphaned = false → tidy env = env := fun env =>
        behavior.tidyWith_of_not_orphaned
      let answer := (behavior.onSignal callback signal).run emit tidy .none env
      obtain ⟨hnoted, hloop⟩ : Noted env answer.2 ∧ answer.2.loop = env.loop :=
        noted_run htidy (hlooks signal hsignal) halive
      exact .of_noted hnoted hloop nofun
  | loop =>
      refine ⟨?_, .inl (tellLoop_loop env signal)⟩
      cases signal with
      | pause paused => exact { Noted.refl env with }
      | stop => exact { Noted.refl env with }
      | _ => exact hsignal.elim

/-- **Those who have subscribed take their turns**, by induction on the snapshot. -/
theorem heard_notifyAll (hsignal : signal.IsOrder) {snapshot : Snapshot cast}
    (hlooks : ∀ s ∈ snapshot, s.callback.LooksOn) (halive : env.orphaned = false) :
    Heard signal (env.Deaf signal.channel snapshot) env
      (notifyAll (behavior.caller room busy signal)
        (fun held => behavior.tidyWith (behavior.notify room busy held) held) held signal.channel
        snapshot env).2 := by
  induction snapshot generalizing env with
  | nil => exact .of_noted (.refl env) rfl (List.forall_mem_nil _)
  | cons s rest ih =>
      have hrest : ∀ s ∈ rest, s.callback.LooksOn := fun s hs =>
        hlooks s (List.mem_cons_of_mem _ hs)
      simp only [notifyAll]
      split
      · -- The mark of this one is set.
        rename_i hsilenced
        rw [behavior.tidyWith_of_not_orphaned halive]
        exact (ih hrest halive).mono fun hmarks =>
          List.forall_mem_cons.2 ⟨fun _ => hsilenced, hmarks⟩
      · have hturned : Heard signal True env (env.turnTo signal.channel (some s.id)) :=
          .of_noted (.turnTo env _ _) rfl trivial
        have hcalled := hturned.trans hsignal
          (heard_caller room busy ((s :: rest) :: held) hsignal (hlooks s List.mem_cons_self)
            halive)
        -- However the call ends, the turn is over, and the others take theirs.
        have hlater : ∀ {between ended : Environment cast},
            Heard signal (True ∧ s.callback ≠ .loop) env between → Noted between ended →
            ended.loop = between.loop →
            Heard signal (env.Deaf signal.channel (s :: rest)) env
              (notifyAll (behavior.caller room busy signal)
                (fun held => behavior.tidyWith (behavior.notify room busy held) held) held
                signal.channel rest ended).2 := by
          intro between ended hbefore hended hloop
          have hover := hbefore.trans hsignal (.of_noted hended hloop trivial)
          have hothers := ih hrest (hover.noted.orphaned.trans halive)
          refine (hover.trans hsignal hothers).mono fun hdeaf => ?_
          obtain ⟨⟨⟨-, hguest⟩, -⟩, hmarks⟩ := hdeaf
          refine List.forall_mem_cons.2 ⟨fun hloop => absurd hloop hguest, ?_⟩
          intro other hother hloop
          rw [← hover.noted.isSilenced]
          exact hmarks other hother hloop
        rcases hanswer : behavior.caller room busy signal ((s :: rest) :: held) s.callback
          (env.turnTo signal.channel (some s.id)) with ⟨reason | ⟨⟩, between⟩
        all_goals rw [hanswer] at hcalled
        · have hended : Noted between ((between.turnTo signal.channel none).report
              (.subscriberPanicked signal.channel.name s.id reason)) :=
            { Noted.turnTo between signal.channel none with }
          simp only
          rw [behavior.tidyWith_of_not_orphaned
            ((hcalled.noted.trans hended).orphaned.trans halive)]
          exact hlater hcalled hended rfl
        · have hended := Noted.turnTo between signal.channel none
          simp only
          rw [behavior.tidyWith_of_not_orphaned
            ((hcalled.noted.trans hended).orphaned.trans halive)]
          exact hlater hcalled hended rfl

/-- **An order reaches the loop**, and nobody else does anything about it. -/
theorem emit_order (halive : env.orphaned = false) (hheard : env.channels.TellLoop)
    (hsignal : signal.IsOrder) :
    Noted env (behavior.emit signal env).2 ∧
      (behavior.emit signal env).2.loop = env.loop.tell signal := by
  have hnotify : behavior.emit signal env = _ :=
    notify_succ behavior 5 [] [] signal env List.not_mem_nil
  have hensured : Noted env { env with channels := env.channels.ensure signal.channel } :=
    { Noted.refl env with
      subscribers := fun key => by rw [Channels.get_ensure]
      silenced := fun key => by rw [Channels.get_ensure] }
  obtain ⟨⟨s, hs, hloop, hawake⟩, hlooks⟩ := hensured.tellLoop hheard signal hsignal
  obtain ⟨hnoted, hheeds⟩ := heard_notifyAll 5 [signal.channel] [] hsignal hlooks
    (hensured.orphaned.trans halive)
  rw [hnotify]
  refine ⟨hensured.trans hnoted, hheeds.resolve_right fun hdeaf => ?_⟩
  exact Bool.false_ne_true (hawake.symm.trans (hdeaf.2 s hs hloop))

end Notifications

end SimEngine
