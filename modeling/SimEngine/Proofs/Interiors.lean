import SimEngine.Proofs.Deliveries

/-!
# Interiors

What belongs to one instance alone: a part of what guest code remembers, and
possibly the query list of the instance.  Two environments that differ there
and in the journal only look alike from outside, and so they do after code has
run in both that does not depend on the interior.

**Definitions.**
* `Interior`: what belongs to one instance.
* `Interior.Agree`: two environments agree outside of an interior.
* `Interior.Alike`: two programs do the same outside of an interior, whatever
  is inside.

**Results.**
* `Interior.blind_of_injective`: what hides nothing is in nobody's way.
* `Interior.run_alike`: programs that are alike end alike and leave
  environments that agree, notifications included.
-/

namespace SimEngine

variable {G : Guest}

/-- What belongs to one instance: what `view` leaves out of the memory, and maybe its queries. -/
structure Interior (G : Guest) where
  owner : Handle
  View : Type
  view : G.Memory → View
  ownsList : Prop

namespace Interior

variable (S : Interior G)

/-- Whether a query list is inside. -/
def Hides (list : Handle) : Prop :=
  list = S.owner ∧ S.ownsList

/-- Two environments agree outside of the interior and of the journal. -/
structure Agree (env env' : Environment G) : Prop where
  world : env'.world = env.world
  parameters : env'.parameters = env.parameters
  channels : env'.channels = env.channels
  lists : ∀ list, ¬ S.Hides list → env'.queryList list = env.queryList list
  commands : env'.commands = env.commands
  orphaned : env'.orphaned = env.orphaned
  loader : env'.loader = env.loader
  loop : env'.loop = env.loop
  nextHandle : env'.nextHandle = env.nextHandle
  memory : S.view env'.memory = S.view env.memory

/-- A request that has nothing to do with the interior. -/
def Public : Request G → Prop
  | .consult => False
  | .revise _ => False
  | .register list _ _ => ¬ S.Hides list
  | .cancel list _ => ¬ S.Hides list
  | .clearQueries list => ¬ S.Hides list
  | .queryCount list => ¬ S.Hides list
  | _ => True

/-- A request about a query list inside. -/
def Secret : Request G → Prop
  | .register list _ _ => S.Hides list
  | .cancel list _ => S.Hides list
  | .clearQueries list => S.Hides list
  | .queryCount list => S.Hides list
  | _ => False

/-- Two programs do the same outside of the interior, whatever they find inside. -/
inductive Alike {α : Type} : Program G α → Program G α → Prop
  | done
      (result : α) :
      Alike (.done result) (.done result)
  | fail
      (failure : Failure) :
      Alike (.fail failure) (.fail failure)
  | panic
      (panic : Panic) :
      Alike (.panic panic) (.panic panic)
  | consult
      {next next' : G.Memory → Program G α}
      (h : ∀ m m', S.view m' = S.view m → Alike (next m) (next' m')) :
      Alike (.ask .consult next) (.ask .consult next')
  | revise
      {f f' : G.Memory → G.Memory} {next next' : Unit → Program G α}
      (hf : ∀ m m', S.view m' = S.view m → S.view (f' m') = S.view (f m))
      (h : Alike (next ()) (next' ())) :
      Alike (.ask (.revise f) next) (.ask (.revise f') next')
  | outside
      {r : Request G} {next next' : r.Answer → Program G α}
      (hr : S.Public r) (h : ∀ answer, Alike (next answer) (next' answer)) :
      Alike (.ask r next) (.ask r next')
  | inside
      {r : Request G} {next next' : r.Answer → Program G α}
      (hr : S.Secret r) (h : ∀ answer answer', Alike (next answer) (next' answer')) :
      Alike (.ask r next) (.ask r next')

/-- What a program does outside of the interior does not depend on it. -/
def Blind {α : Type} (p : Program G α) : Prop :=
  S.Alike p p

/-- Nothing depends on an interior that hides nothing. -/
theorem blind_of_injective
    (hview : Function.Injective S.view) (hlist : ¬ S.ownsList) {α : Type} (p : Program G α) :
    S.Blind p := by
  have hopen : ∀ list, ¬ S.Hides list := fun list h => hlist h.2
  induction p with
  | done result =>
      exact .done result
  | fail failure =>
      exact .fail failure
  | panic panic =>
      exact .panic panic
  | ask r next ih =>
      cases r with
      | consult =>
          refine .consult fun m m' h => ?_
          rw [hview h]
          exact ih m
      | revise f =>
          refine .revise (fun m m' h => ?_) (ih ())
          rw [hview h]
      | register list signature callback =>
          exact .outside (hopen list) ih
      | cancel list query =>
          exact .outside (hopen list) ih
      | clearQueries list =>
          exact .outside (hopen list) ih
      | queryCount list =>
          exact .outside (hopen list) ih
      | _ =>
          exact .outside trivial ih

/-- Two answers are the same and leave environments that agree. -/
def Concur {α : Type} (answer answer' : α × Environment G) : Prop :=
  answer'.1 = answer.1 ∧ S.Agree answer.2 answer'.2

theorem Concur.of_eq
    {S : Interior G} {α : Type} {x x' y y' : α × Environment G} (hx : x = y) (hx' : x' = y')
    (h : S.Concur y y') : S.Concur x x' := by
  rw [hx, hx']
  exact h

namespace Agree

variable {S} {env env' : Environment G}

theorem refl (env : Environment G) : S.Agree env env :=
  ⟨rfl, rfl, rfl, fun _ _ => rfl, rfl, rfl, rfl, rfl, rfl, rfl⟩

theorem symm (h : S.Agree env env') : S.Agree env' env :=
  ⟨h.world.symm, h.parameters.symm, h.channels.symm, fun list hlist => (h.lists list hlist).symm,
    h.commands.symm, h.orphaned.symm, h.loader.symm, h.loop.symm, h.nextHandle.symm,
    h.memory.symm⟩

theorem trans {e₁ e₂ e₃ : Environment G} (h₁ : S.Agree e₁ e₂) (h₂ : S.Agree e₂ e₃) :
    S.Agree e₁ e₃ :=
  ⟨h₂.world.trans h₁.world, h₂.parameters.trans h₁.parameters, h₂.channels.trans h₁.channels,
    fun list hlist => (h₂.lists list hlist).trans (h₁.lists list hlist),
    h₂.commands.trans h₁.commands, h₂.orphaned.trans h₁.orphaned, h₂.loader.trans h₁.loader,
    h₂.loop.trans h₁.loop, h₂.nextHandle.trans h₁.nextHandle, h₂.memory.trans h₁.memory⟩

theorem report (h : S.Agree env env') (notice notice' : Notice) :
    S.Agree (env.report notice) (env'.report notice') :=
  { h with }

theorem report_right (env : Environment G) (notice : Notice) : S.Agree env (env.report notice) :=
  { refl env with }

theorem withChannels (h : S.Agree env env') (channels : Channels (Listener G.Callback)) :
    S.Agree { env with channels := channels } { env' with channels := channels } :=
  { h with channels := rfl }

theorem turnTo (h : S.Agree env env') (key : ChannelKey) (current : Option Nat) :
    S.Agree (env.turnTo key current) (env'.turnTo key current) :=
  { h with channels := by simp only [Environment.turnTo, h.channels] }

theorem setQueryList
    (h : S.Agree env env') {list : Handle} {l l' : QueryList G.Callback}
    (hl : ¬ S.Hides list → l' = l) :
    S.Agree (env.setQueryList list l) (env'.setQueryList list l') :=
  { h with
    lists := by
      intro other hother
      rw [queryList_setQueryList, queryList_setQueryList]
      split
      · rename_i heq
        exact hl (heq ▸ hother)
      · exact h.lists other hother }

theorem tellLoop (h : S.Agree env env') (signal : Signal) :
    S.Agree (env.tellLoop signal) (env'.tellLoop signal) := by
  cases signal with
  | pause paused =>
      exact { h with loop := by simp [Environment.tellLoop, Environment.report, h.loop] }
  | stop =>
      exact { h with loop := by simp [Environment.tellLoop, h.loop] }
  | loadPlugins entity specs =>
      exact { h with loop := by simp [Environment.tellLoop, h.loop] }
  | sceneUpdate =>
      exact h
  | custom value =>
      exact h
  | standalone number value =>
      exact h

/-- A request that has nothing to do with the interior is answered alike. -/
theorem performAt
    (h : S.Agree env env') (b : Behavior G) (spot : Spot G) {r : Request G} (hr : S.Public r)
    (hemit : ∀ signal, r ≠ .emit signal) :
    S.Concur (b.performAt spot r env) (b.performAt spot r env') := by
  cases r with
  | consult =>
      exact hr.elim
  | revise f =>
      exact hr.elim
  | report notice =>
      exact ⟨rfl, h.report notice notice⟩
  | isAlive e =>
      simp only [Behavior.performAt, Request.perform, h.world]
      exact ⟨rfl, h⟩
  | find s =>
      exact ⟨by simp only [Behavior.performAt, Request.perform, h.world], h⟩
  | hasType e type =>
      simp only [Behavior.performAt, Request.perform, h.world]
      exact ⟨rfl, h⟩
  | read e kind =>
      exact ⟨by simp only [Behavior.performAt, Request.perform, h.world], h⟩
  | write e kind value =>
      simp only [Behavior.performAt, Request.perform, Environment.write, h.world]
      split
      · split
        · exact ⟨rfl, { h with world := rfl }⟩
        · exact ⟨rfl, h⟩
      · exact ⟨rfl, h⟩
  | emit signal =>
      exact absurd rfl (hemit signal)
  | connect key callback =>
      simp only [Behavior.performAt, Request.perform, h.channels]
      exact ⟨rfl, h.withChannels _⟩
  | disconnect c =>
      simp only [Behavior.performAt, Request.perform, h.channels]
      exact ⟨rfl, h.withChannels _⟩
  | isConnected c =>
      simp only [Behavior.performAt, Request.perform, h.channels]
      exact ⟨rfl, h⟩
  | connectionCount key =>
      simp only [Behavior.performAt, Request.perform, h.channels]
      exact ⟨rfl, h⟩
  | register list signature callback =>
      simp only [Behavior.performAt, Request.perform, h.lists list hr]
      exact ⟨rfl, h.setQueryList fun _ => rfl⟩
  | cancel list query =>
      simp only [Behavior.performAt, Request.perform, h.lists list hr]
      exact ⟨rfl, h.setQueryList fun _ => rfl⟩
  | clearQueries list =>
      simp only [Behavior.performAt, Request.perform, h.lists list hr]
      exact ⟨rfl, h.setQueryList fun _ => rfl⟩
  | queryCount list =>
      simp only [Behavior.performAt, Request.perform, h.lists list hr]
      exact ⟨rfl, h⟩
  | queueAttach attachment entity config =>
      simp only [Behavior.performAt, Request.perform, Environment.queueAttach,
        Environment.freshHandle, h.nextHandle, h.commands]
      exact ⟨rfl, { h with commands := rfl, nextHandle := rfl }⟩
  | queueDetach handle =>
      refine ⟨rfl, { h with commands := ?_ }⟩
      simp only [Behavior.performAt, Request.perform, Environment.queueDetach, h.commands]
  | commandCount =>
      simp only [Behavior.performAt, Request.perform, h.commands]
      exact ⟨rfl, h⟩
  | declare name value =>
      simp only [Behavior.performAt, Request.perform, h.parameters]
      split
      · exact ⟨rfl, { h with parameters := rfl }⟩
      · exact ⟨rfl, h⟩
  | setParameter name value =>
      simp only [Behavior.performAt, Request.perform, h.parameters]
      split
      · exact ⟨rfl, { h with parameters := rfl }⟩
      · exact ⟨rfl, h⟩
  | getParameter name =>
      simp only [Behavior.performAt, Request.perform, h.parameters]
      exact ⟨rfl, h⟩

/-- A request about a query list inside changes nothing outside. -/
theorem performAt_secret
    (h : S.Agree env env') (b : Behavior G) (spot : Spot G) {r : Request G} (hr : S.Secret r) :
    S.Agree (b.performAt spot r env).2 (b.performAt spot r env').2 := by
  cases r with
  | register list signature callback =>
      exact h.setQueryList fun hlist => absurd hr hlist
  | cancel list query =>
      exact h.setQueryList fun hlist => absurd hr hlist
  | clearQueries list =>
      exact h.setQueryList fun hlist => absurd hr hlist
  | queryCount list =>
      exact h
  | _ =>
      exact hr.elim

end Agree

/-- What a notification at a spot does outside of the interior does not depend on it. -/
def Simulates (b : Behavior G) (spot : Spot G) : Prop :=
  ∀ signal env env', env.orphaned = false → S.Agree env env' →
    S.Concur (b.emitAt spot signal env) (b.emitAt spot signal env')

section Runs

variable {S} {b : Behavior G}

theorem Alike.runAt_of_simulates
    {spot : Spot G} (hemit : S.Simulates b spot) {α : Type} {p p' : Program G α}
    (halike : S.Alike p p') {env env' : Environment G} (halive : env.orphaned = false)
    (hagree : S.Agree env env') :
    S.Concur (b.runAt spot p env) (b.runAt spot p' env') := by
  have halive' : env'.orphaned = false := hagree.orphaned.trans halive
  induction halike generalizing env env' with
  | done result =>
      exact ⟨rfl, hagree⟩
  | fail failure =>
      exact ⟨rfl, hagree⟩
  | panic panic =>
      exact ⟨rfl, hagree⟩
  | consult _ ih =>
      exact Concur.of_eq (runAt_ask b spot .consult _ halive) (runAt_ask b spot .consult _ halive')
        (ih env.memory env'.memory hagree.memory halive hagree halive')
  | @revise f f' _ _ hf _ ih =>
      have hrevised : S.Agree { env with memory := f env.memory }
          { env' with memory := f' env'.memory } :=
        { hagree with memory := hf env.memory env'.memory hagree.memory }
      exact Concur.of_eq (runAt_ask b spot (.revise f) _ halive)
        (runAt_ask b spot (.revise f') _ halive') (ih halive hrevised halive')
  | @outside r _ _ hr _ ih =>
      have hperform : S.Concur (b.performAt spot r env) (b.performAt spot r env') := by
        by_cases hsignal : ∃ signal, r = .emit signal
        · obtain ⟨signal, rfl⟩ := hsignal
          exact hemit signal env env' halive hagree
        · exact hagree.performAt b spot hr fun signal h => hsignal ⟨signal, h⟩
      have hafter := alive_performAt b spot r halive
      have hafter' := alive_performAt b spot r halive'
      rw [runAt_ask b spot r _ hafter, runAt_ask b spot r _ hafter', hperform.1]
      exact ih _ hafter hperform.2 hafter'
  | @inside r _ _ hr _ ih =>
      have hperform := hagree.performAt_secret b spot hr
      have hafter := alive_performAt b spot r halive
      have hafter' := alive_performAt b spot r halive'
      rw [runAt_ask b spot r _ hafter, runAt_ask b spot r _ hafter']
      exact ih _ _ hafter hperform hafter'

variable (hblind : ∀ callback signal, S.Blind (b.onSignal callback signal))

include hblind

theorem hear_of_simulates
    {spot : Spot G} (hemit : S.Simulates b spot) (signal : Signal)
    (listener : Listener G.Callback) {env env' : Environment G} (halive : env.orphaned = false)
    (hagree : S.Agree env env') :
    S.Concur (b.hear spot signal listener env) (b.hear spot signal listener env') := by
  cases listener with
  | guest callback =>
      obtain ⟨houtcome, hleft⟩ :=
        (hblind callback signal).runAt_of_simulates hemit halive hagree
      refine ⟨?_, hleft⟩
      simp only [Behavior.hear, houtcome]
  | loop =>
      exact ⟨rfl, hagree.tellLoop signal⟩

theorem hearing_of_simulates
    {spot : Spot G} {signal : Signal}
    (hemit : ∀ remaining, S.Simulates b (spot.inside signal.channel remaining))
    (s : Subscriber (Listener G.Callback)) (rest : Snapshot G) {env env' : Environment G}
    (halive : env.orphaned = false) (hagree : S.Agree env env') :
    (b.hearing spot signal s rest env').result = (b.hearing spot signal s rest env).result ∧
      S.Agree (b.hearing spot signal s rest env).after
        (b.hearing spot signal s rest env').after := by
  by_cases hmark : env.channels.isSilenced ⟨signal.channel, s.id⟩ = true
  · have hmark' : env'.channels.isSilenced ⟨signal.channel, s.id⟩ = true := by
      rw [hagree.channels, hmark]
    rw [hearing_of_silenced b spot signal s rest hmark,
      hearing_of_silenced b spot signal s rest hmark']
    exact ⟨rfl, hagree⟩
  · have hmark' : ¬ env'.channels.isSilenced ⟨signal.channel, s.id⟩ = true := by
      rw [hagree.channels]
      exact hmark
    have halive₁ : (env.turnTo signal.channel (some s.id)).orphaned = false := halive
    obtain ⟨hresult, hleft⟩ := hear_of_simulates hblind (hemit (s :: rest)) signal s.callback
      halive₁ (hagree.turnTo signal.channel (some s.id))
    rcases hanswer : b.hear (spot.inside signal.channel (s :: rest)) signal s.callback
      (env.turnTo signal.channel (some s.id)) with ⟨result, left⟩
    rcases hanswer' : b.hear (spot.inside signal.channel (s :: rest)) signal s.callback
      (env'.turnTo signal.channel (some s.id)) with ⟨result', left'⟩
    rw [hanswer, hanswer'] at hresult hleft
    have hsame : result' = result := hresult
    subst hsame
    rw [hearing_of_not_silenced b spot signal s rest hmark hanswer,
      hearing_of_not_silenced b spot signal s rest hmark' hanswer']
    refine ⟨rfl, ?_⟩
    have hturned := hleft.turnTo signal.channel none
    cases result' with
    | ok _ =>
        exact hturned
    | error reason =>
        exact hturned.report _ _

theorem hearingsOf_of_simulates
    {spot : Spot G} {signal : Signal} (hfree : signal.channel ∉ spot.busy)
    (hemit : ∀ remaining, S.Simulates b (spot.inside signal.channel remaining))
    (snapshot : Snapshot G) {env env' : Environment G}
    (halive : env.orphaned = false) (hagree : S.Agree env env') :
    (b.hearingsOf spot signal snapshot env').countP Hearing.returned =
        (b.hearingsOf spot signal snapshot env).countP Hearing.returned ∧
      S.Agree (lastOf Hearing.after env (b.hearingsOf spot signal snapshot env))
        (lastOf Hearing.after env' (b.hearingsOf spot signal snapshot env')) := by
  induction snapshot generalizing env env' with
  | nil =>
      exact ⟨rfl, hagree⟩
  | cons s rest ih =>
      obtain ⟨hresult, hafter⟩ := hearing_of_simulates hblind hemit s rest halive hagree
      have halive' : (b.hearing spot signal s rest env).after.orphaned = false :=
        ((RunLaw.trivial b).of_hearing hfree
          (fun remaining => (RunLaw.trivial b).of_notification _) s rest halive).2
      obtain ⟨hcount, hlast⟩ := ih halive' hafter
      have hreturned : (b.hearing spot signal s rest env').returned =
          (b.hearing spot signal s rest env).returned := by
        simp only [Hearing.returned, hresult]
      refine ⟨?_, hlast⟩
      simp only [Behavior.hearingsOf, List.countP_cons, hcount, hreturned]

/-- No notification depends on the interior if no subscriber does. -/
theorem simulates (spot : Spot G) : S.Simulates b spot := by
  -- The induction is on how many notifications may still begin.
  generalize hroom : b.depth - spot.stack.length = room
  induction room generalizing spot with
  | zero =>
      intro signal env env' _ hagree
      rw [Behavior.emitAt, hroom]
      exact ⟨rfl, hagree⟩
  | succ room ih =>
      intro signal env env' halive hagree
      by_cases hfree : signal.channel ∈ spot.busy
      · rw [Behavior.emitAt, hroom, Behavior.notify, Behavior.notify, if_pos hfree,
          if_pos hfree]
        exact ⟨rfl, hagree⟩
      · have hinner : ∀ remaining, S.Simulates b (spot.inside signal.channel remaining) := by
          intro remaining
          apply ih
          show b.depth - (spot.stack.length + 1) = room
          omega
        have hsnapshot : ((env'.channels.ensure signal.channel).get signal.channel) =
            (env.channels.ensure signal.channel).get signal.channel := by
          rw [hagree.channels]
        have hensured : S.Agree { env with channels := env.channels.ensure signal.channel }
            { env' with channels := env'.channels.ensure signal.channel } :=
          { hagree with channels := by rw [hagree.channels] }
        have halive' : env'.orphaned = false := hagree.orphaned.trans halive
        rw [emitAt_eq b halive hfree (by omega), emitAt_eq b halive' hfree (by omega)]
        simp only [Behavior.hearings, hsnapshot]
        exact hearingsOf_of_simulates hblind hfree hinner _ halive hensured

/-- **Programs that are alike end alike and leave environments that agree.** -/
theorem run_alike
    {α : Type} {p p' : Program G α} (halike : S.Alike p p') (access : Access)
    {env env' : Environment G} (halive : env.orphaned = false) (hagree : S.Agree env env') :
    S.Concur (b.run access p env) (b.run access p' env') :=
  halike.runAt_of_simulates (simulates hblind (.top access)) halive hagree

end Runs

end Interior
end SimEngine
