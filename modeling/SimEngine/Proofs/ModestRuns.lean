import SimEngine.Proofs.Laws
import SimEngine.Proofs.RenderStates

/-!
# Modest programs beside a renderer

A modest program cannot tell two environments apart that are beside one
another: in both it comes to the same result, and leaves them beside one another
again.  Its notifications reach the loop alone, since nobody else subscribes to
pauses and stops.  A scene update, in its turn, reaches the clocks alone, and
leaves an environment that is beside the one it found.

**Definitions.**
* `Unison`: the same result in environments beside one another, with little
  done.

**Results.**
* `unison_run`: modest programs end alike.
* `beside_redraw`: scene updates change nothing that matters.
-/

namespace SimEngine

open Cast (behavior)

/-- Two results, the same in environments beside one another, and a modest program before them. -/
structure Unison {α : Type} (env : Environment cast) (x x' : α × Environment cast) : Prop where
  result : x'.1 = x.1
  beside : x.2.Beside x'.2
  calm : Calm env x.2

variable {attachments : List (Attachment cast)} {env env' left : Environment cast} {α : Type}

section Turns

/-- The signals by which a built-in system tells the loop something. -/
def Signal.IsOrder : Signal → Prop
  | .pause _ | .stop => True
  | _ => False

theorem Calm.tellLoop {signal : Signal} (hsignal : signal.IsOrder) (env : Environment cast) :
    Calm env (env.tellLoop signal) := by
  cases signal with
  | pause paused => exact ⟨rfl, rfl, rfl, rfl, rfl, rfl, fun _ => rfl⟩
  | stop => exact ⟨rfl, rfl, rfl, rfl, rfl, rfl, fun _ => rfl⟩
  | _ => exact hsignal.elim

theorem Environment.Beside.turnTo (h : env.Beside env') (key : ChannelKey)
    (current : Option Nat) : (env.turnTo key current).Beside (env'.turnTo key current) :=
  { h with
    channels := fun other => by
      simp only [Environment.turnTo, Channels.get_turnTo, h.channels] }

theorem Environment.Beside.ensure (h : env.Beside env') (key : ChannelKey) :
    Environment.Beside { env with channels := env.channels.ensure key }
      { env' with channels := env'.channels.ensure key } :=
  { h with
    channels := fun other => by simp only [Channels.get_ensure, h.channels] }

/-- A turn that is over has left the channels as they were. -/
theorem get_turnTo_turnTo {channels between : Channels (Listener Callback)} {key : ChannelKey}
    (hresting : (channels.get key).current = none) {current : Option Nat}
    (hbetween : ∀ other, between.get other = (channels.turnTo key current).get other)
    (other : ChannelKey) : (between.turnTo key none).get other = channels.get other := by
  rw [Channels.get_turnTo]
  split
  · rename_i heq
    subst heq
    rw [hbetween, Channels.get_turnTo, if_pos rfl]
    have hself : ((channels.get other).turnTo current).turnTo none =
        { channels.get other with current := none } := rfl
    rw [hself, ← hresting]
  · rename_i hne
    rw [hbetween, Channels.get_turnTo, if_neg hne]

/-- The loop hears the same in environments beside one another. -/
theorem unison_notifyAll (room : Nat) (busy : List ChannelKey) (held : List (Snapshot cast))
    {signal : Signal} (hsignal : signal.IsOrder) {snapshot : Snapshot cast}
    (hloop : ∀ s ∈ snapshot, s.callback = .loop) (hbeside : env.Beside env')
    (halive : env.orphaned = false) (hresting : (env.channels.get signal.channel).current = none) :
    let hear := notifyAll (behavior.caller room busy signal)
      (fun held => behavior.tidyWith (behavior.notify room busy held) held) held signal.channel
      snapshot
    Unison env (hear env) (hear env') := by
  induction snapshot generalizing env env' with
  | nil => exact ⟨rfl, hbeside, .refl env⟩
  | cons s rest ih =>
      have hrest : ∀ s ∈ rest, s.callback = .loop := fun s hs => hloop s (List.mem_cons_of_mem _ hs)
      have halive' : env'.orphaned = false := hbeside.orphaned.trans halive
      simp only [notifyAll, hbeside.isSilenced]
      split
      · rw [behavior.tidyWith_of_not_orphaned halive, behavior.tidyWith_of_not_orphaned halive']
        exact ih hrest hbeside halive hresting
      · -- The turn of the loop, in both environments.
        let heard (env : Environment cast) : Environment cast :=
          ((env.turnTo signal.channel (some s.id)).tellLoop signal).turnTo signal.channel none
        have hcall : ∀ held (env : Environment cast),
            behavior.caller room busy signal held s.callback env =
              (.ok (), env.tellLoop signal) := by
          intro held env
          rw [hloop s List.mem_cons_self]
          rfl
        have hcalm : Calm env (heard env) := by
          have htold := Calm.tellLoop hsignal (env.turnTo signal.channel (some s.id))
          exact { htold with
            channels := get_turnTo_turnTo hresting fun other => htold.channels other }
        have hheard : (heard env).Beside (heard env') :=
          ((hbeside.turnTo _ _).tellLoop signal).turnTo _ _
        have hended := ih hrest hheard (hcalm.orphaned.trans halive)
          ((congrArg Channel.current (hcalm.channels _)).trans hresting)
        simp only [hcall]
        rw [behavior.tidyWith_of_not_orphaned (show (heard env).orphaned = false from
            hcalm.orphaned.trans halive),
          behavior.tidyWith_of_not_orphaned (show (heard env').orphaned = false from
            hheard.orphaned.trans (hcalm.orphaned.trans halive))]
        exact ⟨congrArg (· + 1) hended.result, hended.beside, hcalm.trans hended.calm⟩

/-- Orders have the same effect in environments beside one another. -/
theorem unison_emit (hsettled : Settled attachments env) (hbeside : env.Beside env')
    {signal : Signal} (hsignal : signal.IsOrder) :
    Unison env (behavior.emit signal env) (behavior.emit signal env') := by
  have hloop : ∀ s ∈ (env.channels.get signal.channel).subscribers, s.callback = .loop := by
    cases signal with
    | pause paused => exact hsettled.pauses
    | stop => exact hsettled.stops
    | _ => exact hsignal.elim
  have hnotify : ∀ env : Environment cast, behavior.emit signal env = _ := fun env =>
    notify_succ behavior 5 [] [] signal env List.not_mem_nil
  rw [hnotify, hnotify, Channels.get_ensure, Channels.get_ensure, hbeside.channels]
  have hresting : ((env.channels.ensure signal.channel).get signal.channel).current = none := by
    rw [Channels.get_ensure]
    exact hsettled.resting _
  have hheard := unison_notifyAll 5 [signal.channel] [] hsignal hloop
    (hbeside.ensure signal.channel) hsettled.alive hresting
  have hcalm : Calm env { env with channels := env.channels.ensure signal.channel } :=
    ⟨rfl, rfl, rfl, rfl, rfl, rfl, fun other => Channels.get_ensure _ _ other⟩
  exact ⟨hheard.result, hheard.beside, hcalm.trans hheard.calm⟩

end Turns

section Programs

/-- A modest request is answered alike. -/
theorem unison_perform (hsettled : Settled attachments env) (hbeside : env.Beside env')
    {r : Request cast} (hr : r.Modest) (access : Access) :
    Unison env (r.perform behavior.emit access env) (r.perform behavior.emit access env') := by
  cases r with
  | report notice => exact ⟨rfl, hbeside.report notice, .report env notice⟩
  | isAlive e =>
      exact ⟨congrArg (fun w : Scene => access ≠ .none && w.contains e) hbeside.world, hbeside,
        .refl env⟩
  | find s =>
      exact ⟨congrArg (fun w : Scene => if access = .none then [] else w.query s) hbeside.world,
        hbeside, .refl env⟩
  | hasType e type =>
      exact ⟨congrArg (fun w : Scene => access ≠ .none && w.hasType e type) hbeside.world, hbeside,
        .refl env⟩
  | read e kind =>
      exact ⟨congrArg (fun w : Scene => if access = .none then none else w.get? e kind)
        hbeside.world, hbeside, .refl env⟩
  | write e kind value =>
      simp only [Request.perform, Environment.write, hbeside.world]
      split
      · split
        · exact ⟨rfl, { hbeside with world := rfl }, ⟨rfl, rfl, rfl, rfl, rfl, rfl, fun _ => rfl⟩⟩
        · exact ⟨rfl, hbeside, .refl env⟩
      · exact ⟨rfl, hbeside, .refl env⟩
  | emit signal =>
      refine unison_emit hsettled hbeside ?_
      cases signal with
      | pause paused => trivial
      | stop => trivial
      | _ => exact hr.elim
  | declare name value =>
      simp only [Request.perform, hbeside.parameters]
      split
      · exact ⟨rfl, { hbeside with parameters := rfl },
          ⟨rfl, rfl, rfl, rfl, rfl, rfl, fun _ => rfl⟩⟩
      · exact ⟨rfl, hbeside, .refl env⟩
  | setParameter name value =>
      simp only [Request.perform, hbeside.parameters]
      split
      · exact ⟨rfl, { hbeside with parameters := rfl },
          ⟨rfl, rfl, rfl, rfl, rfl, rfl, fun _ => rfl⟩⟩
      · exact ⟨rfl, hbeside, .refl env⟩
  | getParameter name =>
      exact ⟨congrArg (·.get? name) hbeside.parameters, hbeside, .refl env⟩
  | _ => exact hr.elim

/-- **Modest programs end alike in environments beside one another.** -/
theorem unison_run {results : α → Prop} {p : Deed α} (hp : p.Confined Request.Modest results)
    (hsettled : Settled attachments env) (hbeside : env.Beside env') (access : Access) :
    Unison env (behavior.run access p env) (behavior.run access p env') := by
  induction p generalizing env env' with
  | done a => exact ⟨rfl, hbeside, .refl env⟩
  | fail f => exact ⟨rfl, hbeside, .refl env⟩
  | panic m => exact ⟨rfl, hbeside, .refl env⟩
  | ask r next ih =>
      obtain ⟨hr, hnext⟩ := hp
      have hasked := unison_perform hsettled hbeside hr access
      have hsettled' := hsettled.of_calm hasked.calm
      rw [run_ask behavior access r next hsettled'.alive,
        run_ask behavior access r next (hsettled'.beside hasked.beside).alive, hasked.result]
      have hended := ih (r.perform behavior.emit access env).1 (hnext _) hsettled' hasked.beside
      exact ⟨hended.result, hended.beside, hasked.calm.trans hended.calm⟩

end Programs

section Tending

variable {emit : Signal → Environment cast → Nat × Environment cast}
  {tidy : Environment cast → Environment cast} {access : Access} {system : SystemId}
  {conduct : Role → Deed (Option Role)}

/-- A system does what its role does, and is remembered as what comes out. -/
theorem run_tending (htidy : tidy env = env) :
    (Cast.tending system conduct).run emit tidy access env =
      match env.memory.role? system with
      | none => (.done (), env)
      | some role =>
        match (conduct role).run emit tidy access env with
        | (.done none, left) => (.done (), left)
        | (.done (some next), left) =>
          (.done (), tidy { left with memory := left.memory.revise system fun _ => next })
        | (.failed f, left) => (.failed f, left)
        | (.panicked m, left) => (.panicked m, left) := by
  have hconsult : (Cast.tending system conduct).run emit tidy access env =
      (match env.memory.role? system with
        | none => Program.done ()
        | some role => (conduct role).bind fun next =>
          match next with
          | none => Program.done ()
          | some role => Program.revise fun m => m.revise system fun _ => role).run emit tidy access
        (tidy env) := rfl
  rw [hconsult, htidy]
  cases env.memory.role? system with
  | none => rfl
  | some role =>
      simp only [run_bind]
      rcases (conduct role).run emit tidy access env with ⟨(_ | next) | f | m, left⟩ <;> rfl

/--
What tending to a system leaves: what the conduct of its role does, with the role that comes out
remembered.
-/
theorem tending_leaves {Left : Environment cast → Prop}
    (htidy : ∀ env, env.orphaned = false → tidy env = env) (halive : env.orphaned = false)
    (hsame : Left env)
    (hleft : ∀ role, env.memory.role? system = some role →
      Left ((conduct role).run emit tidy access env).2)
    (hrevised : ∀ role next left, env.memory.role? system = some role →
      (conduct role).run emit tidy access env = (.done (some next), left) →
      left.orphaned = false ∧
        Left { left with memory := left.memory.revise system fun _ => next }) :
    Left ((Cast.tending system conduct).run emit tidy access env).2 := by
  rw [run_tending (htidy env halive)]
  cases hrole : env.memory.role? system with
  | none => exact hsame
  | some role =>
      have hdone := hleft role hrole
      simp only
      rcases hrun : (conduct role).run emit tidy access env with ⟨(_ | next) | f | m, left⟩
      all_goals rw [hrun] at hdone
      · exact hdone
      · obtain ⟨halive', hremembered⟩ := hrevised role next left hrole hrun
        let remembered := { left with memory := left.memory.revise system fun _ => next }
        have htidied : tidy remembered = remembered := htidy remembered halive'
        show Left (tidy remembered)
        rw [htidied]
        exact hremembered
      · exact hdone
      · exact hdone

/-- A clock is shown: it remembers so, and may report it. -/
theorem run_display (htidy : ∀ env : Environment cast, env.orphaned = false → tidy env = env)
    (halive : env.orphaned = false) {c : SimClock}
    (hrole : env.memory.role? system = some (.simClock c)) :
    ∃ notices : List Notice, (∀ notice ∈ notices, notice.isFrame = true) ∧
      (behavior.onSignal (.clock system) .sceneUpdate).run emit tidy access env =
        (.done (), { env with
          journal := notices ++ env.journal
          memory := env.memory.revise system fun _ => .simClock c.refresh }) := by
  have hshown : ∃ notices : List Notice, (∀ notice ∈ notices, notice.isFrame = true) ∧
      (c.display).run emit tidy access env =
        (.done c.refresh, { env with journal := notices ++ env.journal }) := by
    simp only [SimClock.display]
    split
    · refine ⟨[.renderFrame c.refresh.frames c.refresh.iterations c.refresh.paused], ?_, ?_⟩
      · intro notice hnotice
        rw [List.mem_singleton.1 hnotice]
        rfl
      · exact congrArg (Prod.mk _) (htidy _ halive)
    · exact ⟨[], List.forall_mem_nil _, rfl⟩
  obtain ⟨notices, hframes, hrun⟩ := hshown
  refine ⟨notices, hframes, (run_tending (htidy env halive)).trans ?_⟩
  have hconduct : ∀ env : Environment cast,
      (show Deed (Option Role) from do return some (.simClock (← c.display))).run
        emit tidy access env = _ := fun env => run_bind emit tidy access c.display _ env
  rw [hrole]
  simp only [hconduct, hrun]
  exact congrArg (Prod.mk _) (htidy _ halive)

end Tending

section Redraws

/-- A clock is shown in its turn, and then those behind it. -/
theorem notifyAll_clock (room : Nat) (busy : List ChannelKey) (held : List (Snapshot cast))
    {s : Subscriber (Listener Callback)} (rest : Snapshot cast) (halive : env.orphaned = false)
    (hheard : env.channels.isSilenced ⟨.event .sceneUpdate, s.id⟩ = false)
    (hown : s.callback = .guest (.clock system)) {c : SimClock}
    (hrole : env.memory.role? system = some (.simClock c)) :
    let hear := notifyAll (behavior.caller room busy .sceneUpdate)
      (fun held => behavior.tidyWith (behavior.notify room busy held) held) held
      (.event .sceneUpdate)
    ∃ notices : List Notice, (∀ notice ∈ notices, notice.isFrame = true) ∧
      (hear (s :: rest) env).2 = (hear rest { env with
        channels := (env.channels.turnTo (.event .sceneUpdate) (some s.id)).turnTo
          (.event .sceneUpdate) none
        journal := notices ++ env.journal
        memory := env.memory.revise system fun _ => .simClock c.refresh }).2 := by
  obtain ⟨notices, hframes, hrun⟩ := run_display
    (fun _ h => behavior.tidyWith_of_not_orphaned h)
    (show (env.turnTo (.event .sceneUpdate) (some s.id)).orphaned = false from halive) hrole
  let shown : Environment cast :=
    { env.turnTo (.event .sceneUpdate) (some s.id) with
      journal := notices ++ env.journal
      memory := env.memory.revise system fun _ => .simClock c.refresh }
  have hcall : behavior.caller room busy .sceneUpdate ((s :: rest) :: held) s.callback
      (env.turnTo (.event .sceneUpdate) (some s.id)) = (.ok (), shown) := by
    rw [hown]
    exact congrArg (fun x : Outcome Unit × Environment cast => (x.1.ofCallback, x.2)) hrun
  refine ⟨notices, hframes, ?_⟩
  simp only [notifyAll, hheard, Bool.false_eq_true, if_false, hcall]
  rw [behavior.tidyWith_of_not_orphaned
    (show (shown.turnTo (.event .sceneUpdate) none).orphaned = false from halive)]
  rfl

/-- The clocks of a snapshot are shown, and nothing that matters changes. -/
theorem beside_notifyAll {room : Nat} {busy : List ChannelKey} {held : List (Snapshot cast)}
    {snapshot : Snapshot cast} (halive : env.orphaned = false)
    (hresting : (env.channels.get (.event .sceneUpdate)).current = none)
    (hclocks : ∀ s ∈ snapshot, env.IsClock s) :
    env.Beside (notifyAll (behavior.caller room busy .sceneUpdate)
      (fun held => behavior.tidyWith (behavior.notify room busy held) held) held
      (.event .sceneUpdate) snapshot env).2 := by
  induction snapshot generalizing env with
  | nil => exact .refl env
  | cons s rest ih =>
      have hrest := fun (s : Subscriber (Listener Callback)) (hs : s ∈ rest) =>
        hclocks s (List.mem_cons_of_mem _ hs)
      cases hmark : env.channels.isSilenced ⟨.event .sceneUpdate, s.id⟩ with
      | true =>
          simp only [notifyAll, hmark, if_true]
          rw [behavior.tidyWith_of_not_orphaned halive]
          exact ih halive hresting hrest
      | false =>
          obtain ⟨system, role, hcallback, hrole, htoken⟩ := hclocks s List.mem_cons_self
          obtain ⟨c, rfl⟩ : ∃ c, role = .simClock c := by
            cases role with
            | simClock c => exact ⟨c, rfl⟩
            | _ => cases htoken
          obtain ⟨notices, hframes, hnotified⟩ :=
            notifyAll_clock room busy held rest halive hmark hcallback hrole
          rw [hnotified]
          have hbeside : env.Beside { env with
              channels := (env.channels.turnTo (.event .sceneUpdate) (some s.id)).turnTo
                (.event .sceneUpdate) none
              journal := notices ++ env.journal
              memory := env.memory.revise system fun _ => .simClock c.refresh } :=
            { Environment.Beside.refl env with
              channels := get_turnTo_turnTo hresting fun _ => rfl
              journal := by
                have hnone : notices.filter (!·.isFrame) = [] :=
                  List.filter_eq_nil_iff.2 fun notice hnotice => by simp [hframes notice hnotice]
                rw [List.filter_append, hnone, List.nil_append]
              memory := .of_shown hrole rfl }
          refine hbeside.trans (ih halive ?_ fun s hs => hbeside.isClock (hrest s hs))
          exact (congrArg Channel.current (hbeside.channels _)).trans hresting

/-- A scene update changes nothing that matters. -/
theorem beside_emit (hsettled : Settled attachments env) :
    env.Beside (behavior.emit .sceneUpdate env).2 := by
  have hensure : env.Beside
      { env with channels := env.channels.ensure (.event .sceneUpdate) } :=
    { Environment.Beside.refl env with channels := fun other => Channels.get_ensure _ _ other }
  have hnotify : behavior.emit .sceneUpdate env = _ :=
    notify_succ behavior 5 [] [] .sceneUpdate env List.not_mem_nil
  rw [hnotify, Channels.get_ensure]
  have hended := hsettled.beside hensure
  exact hensure.trans (beside_notifyAll hended.alive (hended.resting _) hsettled.clocks)

/-- **Scene updates change nothing that matters.** -/
theorem beside_redraw (n : Nat) (hsettled : Settled attachments env) :
    env.Beside (behavior.redraw n env) := by
  induction n generalizing env with
  | zero => exact .refl env
  | succ n ih =>
      have hshown := beside_emit hsettled
      exact hshown.trans (ih (hsettled.beside hshown))

end Redraws

end SimEngine
