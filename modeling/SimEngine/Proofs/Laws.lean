import SimEngine.Proofs.Runs

/-!
# Laws of runs

A fact about a whole run, with all the notifications within it, follows from
the same fact about its smallest steps: single requests, and what a notification
does around the turns of its subscribers.  A `RunLaw` says so for facts that
depend on which notifications are in progress, a `TraceLaw` for those that do
not.

Everything here is about a living engine, one that is not `orphaned`: only the
queue of an engine that is gone is let go of between two requests.

**Definitions.**
* `Request.onWorld`, `Request.onChannels`, …: what a request does to each part
  of an environment.

**Results.**
* `performAt_eq`: what a request changes that notifies nobody.
* `RunLaw.run`: a law of the smallest steps is a law of runs.
* `TraceLaw.before`: it also holds up to each request within a run.
* `TraceLaw.between`: and from each request to each later point.
* `emitAt_eq`: a notification is the sequence of the turns of its snapshot.
* `runAt_orphaned`: a run leaves a living engine alive.
-/

namespace SimEngine

variable {G : Guest}

/--
A relation between the environments at both ends of a run and the requests in between that the
smallest steps of runs respect.
-/
structure RunLaw (b : Behavior G)
    (P : Spot G → Environment G → List (Occurrence G) → Environment G → Prop) : Prop where
  refl : ∀ spot env, P spot env [] env
  trans : ∀ {spot e₁ L₁ e₂ L₂ e₃}, P spot e₁ L₁ e₂ → P spot e₂ L₂ e₃ → P spot e₁ (L₁ ++ L₂) e₃
  /-- A request that notifies nobody. -/
  request : ∀ spot r env, (∀ signal, r ≠ .emit signal) →
    P spot env [⟨spot, r, env⟩] (b.performAt spot r env).2
  /-- The request for a notification, with the notification. -/
  emit : ∀ {spot signal env}, P spot env (b.nested spot signal env) (b.emitAt spot signal env).2 →
    P spot env (⟨spot, .emit signal, env⟩ :: b.nested spot signal env)
      (b.emitAt spot signal env).2
  /-- A channel is taken into use. -/
  ensure : ∀ spot key (env : Environment G),
    P spot env [] { env with channels := env.channels.ensure key }
  /-- The loop is told. -/
  tell : ∀ spot signal env, P spot env [] (env.tellLoop signal)
  /-- A panic of a subscriber is reported. -/
  report : ∀ spot notice env, P spot env [] (env.report notice)
  /-- A subscriber has its turn. -/
  turn : ∀ {spot : Spot G} {key remaining id env L env'}, key ∉ spot.busy →
    P (spot.inside key remaining) (env.turnTo key (some id)) L env' →
    P spot env L (env'.turnTo key none)

namespace Request

/-- What a request does to the world, if the call may write to it. -/
def onWorld (access : Access) : Request G → World G.components → World G.components
  | .write e kind value, world =>
    if access = .full then (world.set? e kind value).getD world else world
  | _, world => world

/-- What a request does to the parameters; one that is refused leaves them as they are. -/
def onParameters : Request G → Parameters → Parameters
  | .declare name value, parameters =>
    match parameters.declare name value with
    | .ok changed => changed
    | .error _ => parameters
  | .setParameter name value, parameters =>
    match parameters.set name value with
    | .ok changed => changed
    | .error _ => parameters
  | _, parameters => parameters

/-- What a request that notifies nobody does to the channels. -/
def onChannels : Request G → Channels (Listener G.Callback) → Channels (Listener G.Callback)
  | .connect key callback, cs => (cs.connect key (.guest callback)).2
  | .disconnect c, cs => cs.disconnect c
  | _, cs => cs

/-- What a request does to the query lists. -/
def onQueries :
    Request G → OrderedMap Handle (QueryList G.Callback) → OrderedMap Handle (QueryList G.Callback)
  | .register list signature callback, queries =>
    queries.insert list (((queries.find? list).getD .empty).register signature callback)
  | .cancel list query, queries =>
    queries.insert list (((queries.find? list).getD .empty).cancel query).2
  | .clearQueries list, queries => queries.insert list ((queries.find? list).getD .empty).clear
  | _, queries => queries

/-- What a request does to the queue, given the number of the next handle. -/
def onCommands (next : Nat) : Request G → List (Command G) → List (Command G)
  | .queueAttach attachment entity config, commands =>
    commands ++ [.attach ⟨next⟩ attachment entity config]
  | .queueDetach handle, commands => commands ++ [.detach handle]
  | _, commands => commands

/-- How many handles a request is answered with. -/
def handlesTaken : Request G → Nat
  | .queueAttach _ _ _ => 1
  | _ => 0

end Request

/--
**What a request changes that notifies nobody**: the flags of the loop, the loader and whether the
engine is gone are none of it.
-/
theorem performAt_eq
    (b : Behavior G) (spot : Spot G) (r : Request G) (env : Environment G)
    (hr : ∀ signal, r ≠ .emit signal) :
    ∃ journal memory, (b.performAt spot r env).2 =
      { env with
        world := r.onWorld spot.access env.world
        parameters := r.onParameters env.parameters
        channels := r.onChannels env.channels
        queries := r.onQueries env.queries
        commands := r.onCommands env.nextHandle env.commands
        nextHandle := env.nextHandle + r.handlesTaken
        journal := journal
        memory := memory } := by
  cases r with
  | emit signal =>
      exact absurd rfl (hr signal)
  | write e kind value =>
      refine ⟨env.journal, env.memory, ?_⟩
      simp only [Behavior.performAt, Request.perform, Environment.write, Request.onWorld]
      split
      · cases env.world.set? e kind value <;> rfl
      · rfl
  | declare name value =>
      refine ⟨env.journal, env.memory, ?_⟩
      simp only [Behavior.performAt, Request.perform, Request.onParameters]
      cases env.parameters.declare name value <;> rfl
  | setParameter name value =>
      refine ⟨env.journal, env.memory, ?_⟩
      simp only [Behavior.performAt, Request.perform, Request.onParameters]
      cases env.parameters.set name value <;> rfl
  | _ => exact ⟨_, _, rfl⟩

theorem performAt_orphaned
    (b : Behavior G) (spot : Spot G) (r : Request G) (env : Environment G)
    (hr : ∀ signal, r ≠ .emit signal) :
    (b.performAt spot r env).2.orphaned = env.orphaned := by
  obtain ⟨_, _, hafter⟩ := performAt_eq b spot r env hr
  rw [hafter]

/-- A run goes on with the answer to its first request. -/
theorem runAt_ask
    (b : Behavior G) (spot : Spot G) (r : Request G) {α : Type} (next : r.Answer → Program G α)
    {env : Environment G} (halive : (b.performAt spot r env).2.orphaned = false) :
    b.runAt spot (.ask r next) env =
      b.runAt spot (next (b.performAt spot r env).1) (b.performAt spot r env).2 := by
  have htidy : b.tidyAt spot (b.performAt spot r env).2 = (b.performAt spot r env).2 :=
    b.tidyWith_of_not_orphaned halive
  show (next _).run _ _ _ (b.tidyAt spot (b.performAt spot r env).2) = _
  rw [htidy]
  rfl

variable {b : Behavior G} {P : Spot G → Environment G → List (Occurrence G) → Environment G → Prop}

/-- The notifications that begin at a spot obey a law and leave a living engine alive. -/
def Keeps
    (b : Behavior G)
    (P : Spot G → Environment G → List (Occurrence G) → Environment G → Prop)
    (spot : Spot G) : Prop :=
  ∀ signal env, env.orphaned = false →
    P spot env (b.nested spot signal env) (b.emitAt spot signal env).2 ∧
      (b.emitAt spot signal env).2.orphaned = false

theorem RunLaw.of_keeps (law : RunLaw b P) {spot : Spot G} (hkeeps : Keeps b P spot)
    {α : Type} (p : Program G α) {env : Environment G} (halive : env.orphaned = false) :
    P spot env (b.occurrences spot p env) (b.runAt spot p env).2 ∧
      (b.runAt spot p env).2.orphaned = false := by
  induction p generalizing env with
  | done a =>
      exact ⟨law.refl spot env, halive⟩
  | fail f =>
      exact ⟨law.refl spot env, halive⟩
  | panic m =>
      exact ⟨law.refl spot env, halive⟩
  | ask r next ih =>
      have hstep : P spot env (⟨spot, r, env⟩ :: r.within (b.nested spot) env)
            (b.performAt spot r env).2 ∧
          (b.performAt spot r env).2.orphaned = false := by
        by_cases hr : ∃ signal, r = .emit signal
        · obtain ⟨signal, rfl⟩ := hr
          obtain ⟨h, halive'⟩ := hkeeps signal env halive
          exact ⟨law.emit h, halive'⟩
        · have hr' : ∀ signal, r ≠ .emit signal := fun signal h => hr ⟨signal, h⟩
          have hwithin : r.within (b.nested spot) env = [] := by
            cases r with
            | emit signal => exact absurd rfl (hr' signal)
            | _ => rfl
          rw [hwithin, performAt_orphaned b spot r env hr']
          exact ⟨law.request spot r env hr', halive⟩
      obtain ⟨hstep, halive'⟩ := hstep
      obtain ⟨hrest, hend⟩ := ih (b.performAt spot r env).1 halive'
      rw [runAt_ask b spot r next halive']
      exact ⟨law.trans hstep hrest, hend⟩

/-- The requests made within a notification are those of its turns, one turn after the other. -/
theorem nested_eq
    (b : Behavior G) {spot : Spot G} {signal : Signal} (env : Environment G)
    (hroom : spot.stack.length < b.depth) (hfree : signal.channel ∉ spot.busy) :
    b.nested spot signal env =
      (b.hearings spot signal env).flatMap fun h => h.occurrences b spot signal := by
  obtain ⟨room, hroom'⟩ : ∃ room, b.depth - spot.stack.length = room + 1 :=
    ⟨b.depth - spot.stack.length - 1, by omega⟩
  have hinner : ∀ remaining,
      b.nested (spot.inside signal.channel remaining) =
        b.occurrencesIn room (spot.inside signal.channel remaining) := by
    intro remaining
    have hlen : b.depth - (spot.inside signal.channel remaining).stack.length = room := by
      show b.depth - (spot.stack.length + 1) = room
      omega
    rw [Behavior.nested, hlen]
  rw [Behavior.nested, hroom', Behavior.occurrencesIn, if_neg hfree]
  congr 1
  funext h
  unfold Hearing.occurrences Hearing.occurrencesWith
  cases h.called with
  | false => rfl
  | true =>
      cases h.subscriber.callback with
      | loop => rfl
      | guest callback => simp only [hinner]

/-- Calls a listener within the notification of `signal`, given the snapshots held. -/
def Behavior.caller (b : Behavior G) (room : Nat) (busy : List ChannelKey) (signal : Signal)
    (held : List (Snapshot G)) (listener : Listener G.Callback) (env : Environment G) :
    Except String Unit × Environment G :=
  match listener with
  | .guest callback =>
    let (outcome, env) := (b.onSignal callback signal).run (b.notify room busy held)
      (b.tidyWith (b.notify room busy held) held) .none env
    (outcome.ofCallback, env)
  | .loop => (.ok (), env.tellLoop signal)

theorem notify_succ
    (b : Behavior G) (room : Nat) (busy : List ChannelKey) (held : List (Snapshot G))
    (signal : Signal) (env : Environment G) (hfree : signal.channel ∉ busy) :
    b.notify (room + 1) busy held signal env =
      notifyAll (b.caller room (signal.channel :: busy) signal)
        (fun held => b.tidyWith (b.notify room (signal.channel :: busy) held) held)
        held signal.channel
        ((env.channels.ensure signal.channel).get signal.channel).subscribers
        { env with channels := env.channels.ensure signal.channel } := by
  rw [Behavior.notify, if_neg hfree]
  rfl

theorem caller_eq_hear
    (b : Behavior G) {spot : Spot G} {signal : Signal} {room : Nat}
    (hroom : b.depth - spot.stack.length = room + 1)
    (remaining : Snapshot G) (listener : Listener G.Callback) (env : Environment G) :
    b.caller room (signal.channel :: spot.busy) signal (remaining :: spot.held) listener env =
      b.hear (spot.inside signal.channel remaining) signal listener env := by
  have hlen : b.depth - (spot.inside signal.channel remaining).stack.length = room := by
    show b.depth - (spot.stack.length + 1) = room
    omega
  cases listener with
  | loop => rfl
  | guest callback =>
      simp only [Behavior.caller, Behavior.hear, Behavior.runAt, Behavior.tidyAt,
        Behavior.emitAt, hlen]
      rfl

theorem hearing_of_silenced
    (b : Behavior G) (spot : Spot G) (signal : Signal)
    (s : Subscriber (Listener G.Callback)) (rest : Snapshot G) {env : Environment G}
    (hmark : env.channels.isSilenced ⟨signal.channel, s.id⟩ = true) :
    b.hearing spot signal s rest env = ⟨s, rest, env, none, env⟩ := by
  simp [Behavior.hearing, hmark]

theorem hearing_of_not_silenced
    (b : Behavior G) (spot : Spot G) (signal : Signal)
    (s : Subscriber (Listener G.Callback)) (rest : Snapshot G) {env : Environment G}
    (hmark : ¬ env.channels.isSilenced ⟨signal.channel, s.id⟩ = true)
    {result : Except String Unit} {env' : Environment G}
    (hanswer : b.hear (spot.inside signal.channel (s :: rest)) signal s.callback
      (env.turnTo signal.channel (some s.id)) = (result, env')) :
    b.hearing spot signal s rest env =
      ⟨s, rest, env, some result, Behavior.heard signal s.id (result, env')⟩ := by
  simp [Behavior.hearing, hmark, hanswer]

theorem RunLaw.of_hear (law : RunLaw b P) {spot : Spot G} (hkeeps : Keeps b P spot)
    (signal : Signal) (listener : Listener G.Callback) {env : Environment G}
    (halive : env.orphaned = false) :
    P spot env
        (match listener with
          | .guest callback => b.occurrences spot (b.onSignal callback signal) env
          | .loop => [])
        (b.hear spot signal listener env).2 ∧
      (b.hear spot signal listener env).2.orphaned = false := by
  cases listener with
  | guest callback =>
      exact law.of_keeps hkeeps (b.onSignal callback signal) halive
  | loop =>
      refine ⟨law.tell spot signal env, ?_⟩
      show (env.tellLoop signal).orphaned = false
      cases signal <;> exact halive

theorem RunLaw.of_hearing (law : RunLaw b P) {spot : Spot G} {signal : Signal}
    (hfree : signal.channel ∉ spot.busy)
    (hkeeps : ∀ remaining, Keeps b P (spot.inside signal.channel remaining))
    (s : Subscriber (Listener G.Callback)) (rest : Snapshot G) {env : Environment G}
    (halive : env.orphaned = false) :
    P spot env ((b.hearing spot signal s rest env).occurrences b spot signal)
        (b.hearing spot signal s rest env).after ∧
      (b.hearing spot signal s rest env).after.orphaned = false := by
  by_cases hmark : env.channels.isSilenced ⟨signal.channel, s.id⟩ = true
  · rw [hearing_of_silenced b spot signal s rest hmark]
    exact ⟨law.refl spot env, halive⟩
  · have halive₁ : (env.turnTo signal.channel (some s.id)).orphaned = false := halive
    obtain ⟨hcall, halive'⟩ := law.of_hear (hkeeps (s :: rest)) signal s.callback halive₁
    have hturn := law.turn hfree hcall
    rcases hanswer : b.hear (spot.inside signal.channel (s :: rest)) signal s.callback
      (env.turnTo signal.channel (some s.id)) with ⟨result, env'⟩
    rw [hearing_of_not_silenced b spot signal s rest hmark hanswer]
    rw [hanswer] at hturn halive'
    have hocc : ∀ after, (Hearing.mk s rest env (some result) after).occurrences b spot signal =
        (match s.callback with
          | .guest callback =>
            b.occurrences (spot.inside signal.channel (s :: rest)) (b.onSignal callback signal)
              (env.turnTo signal.channel (some s.id))
          | .loop => []) := by
      intro after
      cases hback : s.callback <;> simp [Hearing.occurrences, Hearing.occurrencesWith,
        Hearing.called, hback, Behavior.occurrences]
    rw [hocc]
    cases result with
    | ok _ =>
        exact ⟨hturn, halive'⟩
    | error reason =>
        have hreport := law.report spot (.subscriberPanicked signal.channel.name s.id reason)
          (env'.turnTo signal.channel none)
        have htotal := law.trans hturn hreport
        rw [List.append_nil] at htotal
        exact ⟨htotal, halive'⟩

theorem RunLaw.of_turns (law : RunLaw b P) {spot : Spot G} {signal : Signal} {room : Nat}
    (hroom : b.depth - spot.stack.length = room + 1) (hfree : signal.channel ∉ spot.busy)
    (hkeeps : ∀ remaining, Keeps b P (spot.inside signal.channel remaining))
    (snapshot : Snapshot G) {env : Environment G} (halive : env.orphaned = false) :
    notifyAll (b.caller room (signal.channel :: spot.busy) signal)
        (fun held => b.tidyWith (b.notify room (signal.channel :: spot.busy) held) held)
        spot.held signal.channel snapshot env =
      ((b.hearingsOf spot signal snapshot env).countP Hearing.returned,
        lastOf Hearing.after env (b.hearingsOf spot signal snapshot env)) ∧
    P spot env
      ((b.hearingsOf spot signal snapshot env).flatMap fun h => h.occurrences b spot signal)
      (lastOf Hearing.after env (b.hearingsOf spot signal snapshot env)) ∧
    (lastOf Hearing.after env (b.hearingsOf spot signal snapshot env)).orphaned = false := by
  induction snapshot generalizing env with
  | nil =>
      exact ⟨rfl, law.refl spot env, halive⟩
  | cons s rest ih =>
      obtain ⟨hlaw, halive'⟩ := law.of_hearing hfree hkeeps s rest halive
      obtain ⟨hnotify, hrest, hend⟩ := ih halive'
      refine ⟨?_, law.trans hlaw hrest, hend⟩
      simp only [Behavior.hearingsOf, List.countP_cons, lastOf]
      rw [notifyAll]
      by_cases hmark : env.channels.isSilenced ⟨signal.channel, s.id⟩ = true
      · rw [hearing_of_silenced b spot signal s rest hmark] at hnotify ⊢
        rw [if_pos hmark, b.tidyWith_of_not_orphaned halive, hnotify]
        rfl
      · rw [if_neg hmark, caller_eq_hear b hroom]
        rcases hanswer : b.hear (spot.inside signal.channel (s :: rest)) signal s.callback
          (env.turnTo signal.channel (some s.id)) with ⟨result, env'⟩
        rw [hearing_of_not_silenced b spot signal s rest hmark hanswer] at hnotify halive' ⊢
        cases result with
        | ok _ =>
            have halive'' : (env'.turnTo signal.channel none).orphaned = false := halive'
            simp only [Behavior.heard] at hnotify ⊢
            simp only [b.tidyWith_of_not_orphaned halive'', hnotify]
            rfl
        | error reason =>
            have halive'' : ((env'.turnTo signal.channel none).report
              (.subscriberPanicked signal.channel.name s.id reason)).orphaned = false := halive'
            simp only [Behavior.heard] at hnotify ⊢
            simp only [b.tidyWith_of_not_orphaned halive'', hnotify]
            rfl

theorem RunLaw.of_notification (law : RunLaw b P) (spot : Spot G) : Keeps b P spot := by
  -- The induction is on how many notifications may still begin.
  generalize hroom : b.depth - spot.stack.length = room
  induction room generalizing spot with
  | zero =>
      intro signal env halive
      rw [Behavior.nested, Behavior.emitAt, hroom]
      exact ⟨law.refl spot env, halive⟩
  | succ room ih =>
      intro signal env halive
      by_cases hfree : signal.channel ∈ spot.busy
      · rw [Behavior.nested, Behavior.emitAt, hroom, Behavior.occurrencesIn, Behavior.notify,
          if_pos hfree, if_pos hfree]
        exact ⟨law.refl spot env, halive⟩
      · have hkeeps : ∀ remaining, Keeps b P (spot.inside signal.channel remaining) := by
          intro remaining
          apply ih
          show b.depth - (spot.stack.length + 1) = room
          omega
        have halive' : ({ env with channels := env.channels.ensure signal.channel } :
            Environment G).orphaned = false := halive
        obtain ⟨hnotify, hturns, hend⟩ := law.of_turns hroom hfree hkeeps
          ((env.channels.ensure signal.channel).get signal.channel).subscribers halive'
        rw [nested_eq b env (by omega) hfree, Behavior.emitAt, hroom,
          notify_succ b room spot.busy spot.held signal env hfree, hnotify]
        exact ⟨law.trans (law.ensure spot signal.channel env) hturns, hend⟩

/-- **A law of the smallest steps is a law of runs.** -/
theorem RunLaw.run (law : RunLaw b P) (spot : Spot G) {α : Type} (p : Program G α)
    {env : Environment G} (halive : env.orphaned = false) :
    P spot env (b.occurrences spot p env) (b.runAt spot p env).2 :=
  (law.of_keeps (law.of_notification spot) p halive).1

/-- What is asked of nothing holds of every run. -/
theorem RunLaw.trivial (b : Behavior G) : RunLaw b fun _ _ _ _ => True where
  refl := fun _ _ => True.intro
  trans := fun _ _ => True.intro
  request := fun _ _ _ _ => True.intro
  emit := fun _ => True.intro
  ensure := fun _ _ _ => True.intro
  tell := fun _ _ _ => True.intro
  report := fun _ _ _ => True.intro
  turn := fun _ _ => True.intro

theorem runAt_orphaned
    (b : Behavior G) (spot : Spot G) {α : Type} (p : Program G α)
    {env : Environment G} (halive : env.orphaned = false) :
    (b.runAt spot p env).2.orphaned = false :=
  ((RunLaw.trivial b).of_keeps ((RunLaw.trivial b).of_notification spot) p halive).2

/-- A request, notifications included, leaves a living engine alive. -/
theorem alive_performAt
    (b : Behavior G) (spot : Spot G) (r : Request G) {env : Environment G}
    (halive : env.orphaned = false) : (b.performAt spot r env).2.orphaned = false := by
  by_cases hr : ∃ signal, r = .emit signal
  · obtain ⟨signal, rfl⟩ := hr
    exact ((RunLaw.trivial b).of_notification spot signal env halive).2
  · rw [performAt_orphaned b spot r env fun signal h => hr ⟨signal, h⟩]
    exact halive

/-- **A notification is the sequence of the turns of its snapshot.** -/
theorem emitAt_eq
    (b : Behavior G) {spot : Spot G} {signal : Signal} {env : Environment G}
    (halive : env.orphaned = false) (hfree : signal.channel ∉ spot.busy)
    (hroom : spot.stack.length < b.depth) :
    b.emitAt spot signal env =
      ((b.hearings spot signal env).countP Hearing.returned,
        lastOf Hearing.after { env with channels := env.channels.ensure signal.channel }
          (b.hearings spot signal env)) := by
  obtain ⟨room, hroom'⟩ : ∃ room, b.depth - spot.stack.length = room + 1 :=
    ⟨b.depth - spot.stack.length - 1, by omega⟩
  have hkeeps := fun remaining =>
    (RunLaw.trivial b).of_notification (spot.inside signal.channel remaining)
  have halive' : ({ env with channels := env.channels.ensure signal.channel } :
      Environment G).orphaned = false := halive
  rw [Behavior.emitAt, hroom', notify_succ b room spot.busy spot.held signal env hfree,
    ((RunLaw.trivial b).of_turns hroom' hfree hkeeps _ halive').1]
  rfl

theorem map_subscriber_hearingsOf
    (b : Behavior G) (spot : Spot G) (signal : Signal) (snapshot : Snapshot G)
    (env : Environment G) :
    (b.hearingsOf spot signal snapshot env).map Hearing.subscriber = snapshot := by
  induction snapshot generalizing env with
  | nil =>
      rfl
  | cons s rest ih =>
      have hs : (b.hearing spot signal s rest env).subscriber = s := by
        unfold Behavior.hearing
        split <;> rfl
      rw [Behavior.hearingsOf, List.map_cons, hs, ih]

theorem linked_hearingsOf
    (b : Behavior G) (spot : Spot G) (signal : Signal) (snapshot : Snapshot G)
    (env : Environment G) :
    Linked Hearing.before Hearing.after env (b.hearingsOf spot signal snapshot env)
      (lastOf Hearing.after env (b.hearingsOf spot signal snapshot env)) := by
  induction snapshot generalizing env with
  | nil =>
      rfl
  | cons s rest ih =>
      refine ⟨?_, ih _⟩
      unfold Behavior.hearing
      split <;> rfl

/--
A relation between the environments at both ends of a run and the requests in between that does
not depend on where they are made, and that the smallest steps of runs respect.
-/
structure TraceLaw (b : Behavior G)
    (R : Environment G → List (Occurrence G) → Environment G → Prop) : Prop where
  refl : ∀ env, R env [] env
  trans : ∀ {e₁ L₁ e₂ L₂ e₃}, R e₁ L₁ e₂ → R e₂ L₂ e₃ → R e₁ (L₁ ++ L₂) e₃
  request : ∀ spot r env, (∀ signal, r ≠ .emit signal) →
    R env [⟨spot, r, env⟩] (b.performAt spot r env).2
  emit : ∀ spot signal env, R env [⟨spot, .emit signal, env⟩] env
  ensure : ∀ key (env : Environment G),
    R env [] { env with channels := env.channels.ensure key }
  tell : ∀ signal env, R env [] (env.tellLoop signal)
  report : ∀ notice env, R env [] (env.report notice)
  turnTo : ∀ key current env, R env [] (env.turnTo key current)

theorem singleton_split
    {ι : Type} {x y : ι} {pre post : List ι} (h : [x] = pre ++ y :: post) :
    pre = [] ∧ y = x := by
  cases pre with
  | nil =>
      exact ⟨rfl, (List.cons.inj h).1.symm⟩
  | cons z rest =>
      simp at h

section Traces

variable {R : Environment G → List (Occurrence G) → Environment G → Prop}

theorem TraceLaw.toRunLaw (law : TraceLaw b R) : RunLaw b fun _ => R where
  refl := fun _ => law.refl
  trans := law.trans
  request := law.request
  emit := fun hnested => law.trans (law.emit _ _ _) hnested
  ensure := fun _ => law.ensure
  tell := fun _ => law.tell
  report := fun _ => law.report
  turn := by
    intro spot key remaining id env L env' _ hturn
    have hbefore := law.trans (law.turnTo key (some id) env) hturn
    have htotal := law.trans hbefore (law.turnTo key none env')
    rwa [List.append_nil] at htotal

theorem TraceLaw.run (law : TraceLaw b R) (spot : Spot G) {α : Type} (p : Program G α)
    {env : Environment G} (halive : env.orphaned = false) :
    R env (b.occurrences spot p env) (b.runAt spot p env).2 :=
  law.toRunLaw.run spot p halive

/-- A law that holds from the beginning of a run up to each request of it. -/
theorem TraceLaw.upTo (law : TraceLaw b R) :
    TraceLaw b fun env L env' =>
      R env L env' ∧ ∀ pre o post, L = pre ++ o :: post → R env pre o.env where
  refl := by
    intro env
    refine ⟨law.refl env, ?_⟩
    intro pre o post hL
    simp at hL
  trans := by
    rintro e₁ L₁ e₂ L₂ e₃ ⟨h₁, hpre₁⟩ ⟨h₂, hpre₂⟩
    refine ⟨law.trans h₁ h₂, ?_⟩
    intro pre o post hL
    rcases append_split hL with ⟨mid, hL₁, -⟩ | ⟨mid, hpre, hL₂⟩
    · exact hpre₁ pre o mid hL₁
    · rw [hpre]
      exact law.trans h₁ (hpre₂ mid o post hL₂)
  request := by
    intro spot r env hr
    refine ⟨law.request spot r env hr, ?_⟩
    intro pre o post hL
    obtain ⟨rfl, rfl⟩ := singleton_split hL
    exact law.refl env
  emit := by
    intro spot signal env
    refine ⟨law.emit spot signal env, ?_⟩
    intro pre o post hL
    obtain ⟨rfl, rfl⟩ := singleton_split hL
    exact law.refl env
  ensure := fun key env => ⟨law.ensure key env, fun pre o post hL => by simp at hL⟩
  tell := fun signal env => ⟨law.tell signal env, fun pre o post hL => by simp at hL⟩
  report := fun notice env => ⟨law.report notice env, fun pre o post hL => by simp at hL⟩
  turnTo := fun key current env =>
    ⟨law.turnTo key current env, fun pre o post hL => by simp at hL⟩

/-- **A law of the smallest steps holds up to each request of a run.** -/
theorem TraceLaw.before (law : TraceLaw b R) (spot : Spot G) {α : Type} (p : Program G α)
    {env : Environment G} (halive : env.orphaned = false)
    {pre post : List (Occurrence G)} {o : Occurrence G}
    (hlog : b.occurrences spot p env = pre ++ o :: post) :
    R env pre o.env :=
  (law.upTo.run spot p halive).2 pre o post hlog

/-- A law that holds from each request of a run to its end. -/
theorem TraceLaw.since (law : TraceLaw b R) :
    TraceLaw b fun env L env' =>
      R env L env' ∧ ∀ pre o post, L = pre ++ o :: post → R o.env (o :: post) env' where
  refl := by
    intro env
    refine ⟨law.refl env, ?_⟩
    intro pre o post hL
    simp at hL
  trans := by
    rintro e₁ L₁ e₂ L₂ e₃ ⟨h₁, hpost₁⟩ ⟨h₂, hpost₂⟩
    refine ⟨law.trans h₁ h₂, ?_⟩
    intro pre o post hL
    rcases append_split hL with ⟨mid, hL₁, rfl⟩ | ⟨mid, -, hL₂⟩
    · exact law.trans (hpost₁ pre o mid hL₁) h₂
    · exact hpost₂ mid o post hL₂
  request := by
    intro spot r env hr
    refine ⟨law.request spot r env hr, ?_⟩
    intro pre o post hL
    obtain ⟨rfl, rfl⟩ := singleton_split hL
    obtain rfl : post = [] := by simpa using hL
    exact law.request spot r env hr
  emit := by
    intro spot signal env
    refine ⟨law.emit spot signal env, ?_⟩
    intro pre o post hL
    obtain ⟨rfl, rfl⟩ := singleton_split hL
    obtain rfl : post = [] := by simpa using hL
    exact law.emit spot signal env
  ensure := fun key env => ⟨law.ensure key env, fun pre o post hL => by simp at hL⟩
  tell := fun signal env => ⟨law.tell signal env, fun pre o post hL => by simp at hL⟩
  report := fun notice env => ⟨law.report notice env, fun pre o post hL => by simp at hL⟩
  turnTo := fun key current env =>
    ⟨law.turnTo key current env, fun pre o post hL => by simp at hL⟩

end Traces

/-- A point of a run: what was requested before, and the environment. -/
inductive Point (b : Behavior G) (spot : Spot G) {α : Type} (p : Program G α)
    (env : Environment G) : List (Occurrence G) → Environment G → Prop
  | request
      {past post : List (Occurrence G)} {o : Occurrence G}
      (h : b.occurrences spot p env = past ++ o :: post) : Point b spot p env past o.env
  | finish :
      Point b spot p env (b.occurrences spot p env) (b.runAt spot p env).2

section Points

variable {R : Environment G → List (Occurrence G) → Environment G → Prop}
variable {spot : Spot G} {α : Type} {p : Program G α} {env now : Environment G}
variable {past : List (Occurrence G)}

theorem Point.isPrefix (h : Point b spot p env past now) : past <+: b.occurrences spot p env := by
  cases h with
  | request h => exact ⟨_, h.symm⟩
  | finish => exact List.prefix_refl _

/-- **A law of the smallest steps holds at each point of a run.** -/
theorem TraceLaw.at_point (law : TraceLaw b R) (halive : env.orphaned = false)
    (h : Point b spot p env past now) : R env past now := by
  cases h with
  | request h => exact law.before spot p halive h
  | finish => exact law.run spot p halive

/-- **A law of the smallest steps holds from each request to each later point.** -/
theorem TraceLaw.between (law : TraceLaw b R) (halive : env.orphaned = false)
    {o : Occurrence G} {mid : List (Occurrence G)}
    (h : Point b spot p env (past ++ o :: mid) now) : R o.env (o :: mid) now :=
  (law.since.at_point halive h).2 past o mid rfl

end Points
end SimEngine
