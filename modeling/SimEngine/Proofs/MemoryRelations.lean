import SimEngine.Proofs.Channels
import SimEngine.Proofs.Deliveries

/-!
# Relations of memories

Two runs of the same code may remember different things.  The code looks at its
memory only in ways that do not tell the two memories apart, and subscribes,
registers and queues only what it may name.  Then all that is not remembered
stays the same in both runs.

**Definitions.**
* `MemoryRelation`: which memories may differ, and what code may name.
* `MemoryRelation.Admits`, `MemoryRelation.Allows`: what may be queued, and what
  may be asked for.
* `MemoryRelation.Agree`: two environments that are the same, but for the memory
  and the journal.
* `MemoryRelation.Alike`: two programs that do the same, whatever they remember.

**Results.**
* `MemoryRelation.Agree.performAt`: requests are answered alike.
* `MemoryRelation.run_alike`: programs that are alike end alike and leave
  environments that agree, notifications included.
-/

namespace SimEngine

variable {G : Guest}

/-- A query that waits after a cancellation waited before it. -/
theorem QueryList.mem_queries_of_cancel {κ : Type} {l : QueryList κ} {id : Nat}
    {q : PendingQuery κ} (hq : q ∈ (l.cancel id).2.queries) : q ∈ l.queries := by
  unfold QueryList.cancel at hq
  split at hq
  · exact List.mem_of_mem_eraseP hq
  · split at hq <;> exact hq

/-- Which memories may differ between two runs, and what code may name in them. -/
structure MemoryRelation (G : Guest) where
  memories : G.Memory → G.Memory → Prop
  /-- What may be subscribed or registered. -/
  callbacks : G.Callback → Prop
  /-- The handles that code may name. -/
  handles : Handle → Prop
  /-- The systems that code may name. -/
  systems : G.System → Prop
  /-- New handles are numbered from here, and may be named. -/
  first : Nat
  fresh : ∀ handle : Handle, first ≤ handle.number → handles handle

namespace MemoryRelation

variable (S : MemoryRelation G)

/-- A request for the next step that names only what may be named. -/
def Admits : Command G → Prop
  | .attach handle attachment _ _ => S.handles handle ∧ S.systems attachment.system
  | .detach handle => S.handles handle

/-- Two environments that are the same but for the memory and the journal, and name nothing else. -/
structure Agree (env env' : Environment G) : Prop where
  world : env'.world = env.world
  parameters : env'.parameters = env.parameters
  channels : env'.channels = env.channels
  lists : ∀ list, env'.queryList list = env.queryList list
  requests : env'.commands = env.commands
  alive : env.orphaned = false
  orphaned : env'.orphaned = env.orphaned
  loader : env'.loader = env.loader
  loop : env'.loop = env.loop
  nextHandle : env'.nextHandle = env.nextHandle
  memory : S.memories env.memory env'.memory
  heard : ∀ key, ∀ s ∈ (env.channels.get key).subscribers, ∀ callback,
    s.callback = .guest callback → S.callbacks callback
  asked : ∀ list, ∀ q ∈ (env.queryList list).queries, S.handles list ∧ S.callbacks q.callback
  queued : ∀ c ∈ env.commands, S.Admits c
  first : S.first ≤ env.nextHandle

/-- A request that names only what may be named, whatever is remembered. -/
def Allows : Request G → Prop
  | .consult => False
  | .revise _ => False
  | .connect _ callback => S.callbacks callback
  | .register list _ callback => S.handles list ∧ S.callbacks callback
  | .queueAttach attachment _ _ => S.systems attachment.system
  | .queueDetach handle => S.handles handle
  | _ => True

/-- What is known of an answer: a new handle is not one of the old ones. -/
def Expects : (r : Request G) → r.Answer → Prop
  | .queueAttach _ _ _, handle => S.first ≤ Handle.number handle
  | _, _ => True

/-- Two programs do the same, whatever they remember, and name only what may be named. -/
inductive Alike {α : Type} (results : α → Prop) : Program G α → Program G α → Prop
  | done
      {result : α} (h : results result) :
      Alike results (.done result) (.done result)
  | fail
      (failure : Failure) :
      Alike results (.fail failure) (.fail failure)
  | panic
      (panic : Panic) :
      Alike results (.panic panic) (.panic panic)
  | consult
      {next next' : G.Memory → Program G α}
      (h : ∀ m m', S.memories m m' → Alike results (next m) (next' m')) :
      Alike results (.ask .consult next) (.ask .consult next')
  | revise
      {f f' : G.Memory → G.Memory} {next next' : Unit → Program G α}
      (hf : ∀ m m', S.memories m m' → S.memories (f m) (f' m'))
      (h : Alike results (next ()) (next' ())) :
      Alike results (.ask (.revise f) next) (.ask (.revise f') next')
  | ask
      {r : Request G} {next next' : r.Answer → Program G α}
      (hr : S.Allows r)
      (h : ∀ answer, S.Expects r answer → Alike results (next answer) (next' answer)) :
      Alike results (.ask r next) (.ask r next')

/-- Two answers are the same and leave environments that agree. -/
structure Concur {α : Type} (expected : α → Prop) (x x' : α × Environment G) : Prop where
  result : x'.1 = x.1
  expected : expected x.1
  agree : S.Agree x.2 x'.2

theorem Concur.of_eq {S : MemoryRelation G} {α : Type} {expected : α → Prop}
    {x x' y y' : α × Environment G} (hx : x = y) (hx' : x' = y') (h : S.Concur expected y y') :
    S.Concur expected x x' := by
  rw [hx, hx']
  exact h

/-- The program that has come to a result came to one that was expected. -/
def Meets {α : Type} (results : α → Prop) : Outcome α → Prop
  | .done a => results a
  | _ => True

variable {S} {α β : Type} {env env' : Environment G}

namespace Alike

variable {results : α → Prop} {p p' : Program G α}

theorem bind (h : S.Alike results p p') {results' : β → Prop} {next next' : α → Program G β}
    (hnext : ∀ a, results a → S.Alike results' (next a) (next' a)) :
    S.Alike results' (p.bind next) (p'.bind next') := by
  induction h with
  | done hresult => exact hnext _ hresult
  | fail failure => exact .fail failure
  | panic panic => exact .panic panic
  | consult _ ih => exact .consult ih
  | revise hf _ ih => exact .revise hf ih
  | ask hr _ ih => exact .ask hr ih

theorem mono (h : S.Alike results p p') {results' : α → Prop}
    (hresults : ∀ a, results a → results' a) : S.Alike results' p p' := by
  induction h with
  | done hresult => exact .done (hresults _ hresult)
  | fail failure => exact .fail failure
  | panic panic => exact .panic panic
  | consult _ ih => exact .consult ih
  | revise hf _ ih => exact .revise hf ih
  | ask hr _ ih => exact .ask hr ih

theorem request {r : Request G} (hr : S.Allows r) :
    S.Alike (S.Expects r) (Program.request r) (Program.request r) :=
  .ask hr fun _ hanswer => .done hanswer

theorem asked {r : Request G} {next next' : r.Answer → Program G α} (hr : S.Allows r)
    (h : ∀ answer, S.Expects r answer → S.Alike results (next answer) (next' answer)) :
    S.Alike results ((Program.request r).bind next) ((Program.request r).bind next') :=
  .ask hr h

theorem consulted {next next' : G.Memory → Program G α}
    (h : ∀ m m', S.memories m m' → S.Alike results (next m) (next' m')) :
    S.Alike results (Program.consult.bind next) (Program.consult.bind next') :=
  .consult h

theorem revised {f f' : G.Memory → G.Memory} {next next' : Unit → Program G α}
    (hf : ∀ m m', S.memories m m' → S.memories (f m) (f' m'))
    (h : S.Alike results (next ()) (next' ())) :
    S.Alike results ((Program.revise f).bind next) ((Program.revise f').bind next') :=
  .revise hf h

/-- A program that asks only for what is allowed does the same, whatever it remembers. -/
theorem of_confined {p : Program G α} {requests : Request G → Prop}
    (h : p.Confined requests results) (hrequests : ∀ r, requests r → S.Allows r) :
    S.Alike results p p := by
  induction p with
  | done a => exact .done h
  | fail failure => exact .fail failure
  | panic panic => exact .panic panic
  | ask r next ih => exact .ask (hrequests r h.1) fun answer _ => ih answer (h.2 answer)

theorem ofExcept {result : Except Failure α} (h : ∀ a, result = .ok a → results a) :
    S.Alike results (.ofExcept result : Program G α) (.ofExcept result) := by
  cases result with
  | ok a => exact .done (h a rfl)
  | error failure => exact .fail failure

theorem forEach {ι : Type} {items : List ι} {body : ι → Program G Unit}
    (h : ∀ x ∈ items, S.Alike (fun _ => True) (body x) (body x)) :
    S.Alike (fun _ => True) (Program.forEach items body) (Program.forEach items body) := by
  induction items with
  | nil => exact .done trivial
  | cons x rest ih =>
      exact (h x List.mem_cons_self).bind fun _ _ =>
        ih fun y hy => h y (List.mem_cons_of_mem x hy)

end Alike

namespace Agree

theorem alive' (h : S.Agree env env') : env'.orphaned = false :=
  h.orphaned.trans h.alive

theorem report (h : S.Agree env env') (notice notice' : Notice) :
    S.Agree (env.report notice) (env'.report notice') :=
  { h with }

theorem withChannels (h : S.Agree env env') {channels : Channels (Listener G.Callback)}
    (hheard : ∀ key, ∀ s ∈ (channels.get key).subscribers, ∀ callback,
      s.callback = .guest callback → S.callbacks callback) :
    S.Agree { env with channels := channels } { env' with channels := channels } :=
  { h with channels := rfl, heard := hheard }

theorem turnTo (h : S.Agree env env') (key : ChannelKey) (current : Option Nat) :
    S.Agree (env.turnTo key current) (env'.turnTo key current) := by
  have hturned : env'.turnTo key current =
      { env' with channels := env.channels.turnTo key current } := by
    rw [Environment.turnTo, h.channels]
  rw [hturned]
  refine h.withChannels fun other s hs => ?_
  rw [Channels.get_turnTo] at hs
  split at hs
  · exact h.heard key s hs
  · exact h.heard other s hs

theorem ensure (h : S.Agree env env') (key : ChannelKey) :
    S.Agree { env with channels := env.channels.ensure key }
      { env' with channels := env'.channels.ensure key } := by
  rw [h.channels]
  refine h.withChannels fun other s hs => ?_
  rw [Channels.get_ensure] at hs
  exact h.heard other s hs

theorem setQueryList (h : S.Agree env env') {list : Handle} {l l' : QueryList G.Callback}
    (hl : l' = l) (hasked : ∀ q ∈ l.queries, S.handles list ∧ S.callbacks q.callback) :
    S.Agree (env.setQueryList list l) (env'.setQueryList list l') :=
  { h with
    lists := by
      intro other
      rw [queryList_setQueryList, queryList_setQueryList]
      split
      · exact hl
      · exact h.lists other
    asked := by
      intro other q hq
      rw [queryList_setQueryList] at hq
      split at hq
      · rename_i heq
        exact heq ▸ hasked q hq
      · exact h.asked other q hq }

theorem remember (h : S.Agree env env') {m m' : G.Memory} (hmemory : S.memories m m') :
    S.Agree { env with memory := m } { env' with memory := m' } :=
  { h with memory := hmemory }

theorem tellLoop (h : S.Agree env env') (signal : Signal) :
    S.Agree (env.tellLoop signal) (env'.tellLoop signal) := by
  cases signal with
  | pause paused =>
      exact { h with loop := by simp [Environment.tellLoop, Environment.report, h.loop] }
  | stop => exact { h with loop := by simp [Environment.tellLoop, h.loop] }
  | loadPlugins entity specs => exact { h with loop := by simp [Environment.tellLoop, h.loop] }
  | _ => exact h

theorem enqueue (h : S.Agree env env') {c : Command G} (hc : S.Admits c) {next : Nat}
    (hnext : env.nextHandle ≤ next) :
    S.Agree { env with commands := env.commands ++ [c], nextHandle := next }
      { env' with commands := env.commands ++ [c], nextHandle := next } :=
  { h with
    requests := rfl
    nextHandle := rfl
    queued := by
      intro c' hc'
      rcases List.mem_append.1 hc' with hold | hnew
      · exact h.queued c' hold
      · exact List.mem_singleton.1 hnew ▸ hc
    first := Nat.le_trans h.first hnext }

/-- **A request that is allowed is answered alike.** -/
theorem performAt (h : S.Agree env env') (b : Behavior G) (spot : Spot G) {r : Request G}
    (hr : S.Allows r) (hemit : ∀ signal, r ≠ .emit signal) :
    S.Concur (S.Expects r) (b.performAt spot r env) (b.performAt spot r env') := by
  cases r with
  | consult => exact hr.elim
  | revise f => exact hr.elim
  | report notice => exact ⟨rfl, trivial, h.report notice notice⟩
  | isAlive e =>
      simp only [Behavior.performAt, Request.perform, h.world]
      exact ⟨rfl, trivial, h⟩
  | find s => exact ⟨by simp only [Behavior.performAt, Request.perform, h.world], trivial, h⟩
  | hasType e type =>
      simp only [Behavior.performAt, Request.perform, h.world]
      exact ⟨rfl, trivial, h⟩
  | read e kind =>
      exact ⟨by simp only [Behavior.performAt, Request.perform, h.world], trivial, h⟩
  | write e kind value =>
      simp only [Behavior.performAt, Request.perform, Environment.write, h.world]
      split
      · split
        · exact ⟨rfl, trivial, { h with world := rfl }⟩
        · exact ⟨rfl, trivial, h⟩
      · exact ⟨rfl, trivial, h⟩
  | emit signal => exact absurd rfl (hemit signal)
  | connect key callback =>
      simp only [Behavior.performAt, Request.perform, h.channels]
      refine ⟨rfl, trivial, h.withChannels fun other s hs other hother => ?_⟩
      rcases Channels.mem_subscribers_connect hs with hs | ⟨-, rfl⟩
      · exact h.heard _ s hs other hother
      · exact Listener.guest.inj hother ▸ hr
  | disconnect c =>
      simp only [Behavior.performAt, Request.perform, h.channels]
      refine ⟨rfl, trivial, h.withChannels fun key s hs => ?_⟩
      exact h.heard key s (Channels.mem_subscribers_disconnect hs).1
  | isConnected c =>
      simp only [Behavior.performAt, Request.perform, h.channels]
      exact ⟨rfl, trivial, h⟩
  | connectionCount key =>
      simp only [Behavior.performAt, Request.perform, h.channels]
      exact ⟨rfl, trivial, h⟩
  | register list signature callback =>
      simp only [Behavior.performAt, Request.perform, h.lists list]
      refine ⟨rfl, trivial, h.setQueryList rfl fun q hq => ?_⟩
      rcases List.mem_append.1 hq with hold | hnew
      · exact h.asked list q hold
      · obtain rfl := List.mem_singleton.1 hnew
        exact hr
  | cancel list query =>
      simp only [Behavior.performAt, Request.perform, h.lists list]
      refine ⟨rfl, trivial, h.setQueryList rfl fun q hq => ?_⟩
      exact h.asked list q (QueryList.mem_queries_of_cancel hq)
  | clearQueries list =>
      simp only [Behavior.performAt, Request.perform, h.lists list]
      exact ⟨rfl, trivial, h.setQueryList rfl fun q hq => absurd hq List.not_mem_nil⟩
  | queryCount list =>
      simp only [Behavior.performAt, Request.perform, h.lists list]
      exact ⟨rfl, trivial, h⟩
  | queueAttach attachment entity config =>
      simp only [Behavior.performAt, Request.perform, Environment.queueAttach,
        Environment.freshHandle, h.nextHandle, h.requests]
      exact ⟨rfl, h.first, h.enqueue (c := .attach _ attachment _ _) ⟨S.fresh _ h.first, hr⟩
        (Nat.le_succ _)⟩
  | queueDetach handle =>
      simp only [Behavior.performAt, Request.perform, Environment.queueDetach, h.requests]
      refine ⟨rfl, trivial, ?_⟩
      have hqueued := h.enqueue (c := .detach handle) hr (Nat.le_refl _)
      exact { hqueued with nextHandle := h.nextHandle }
  | commandCount =>
      simp only [Behavior.performAt, Request.perform, h.requests]
      exact ⟨rfl, trivial, h⟩
  | declare name value =>
      simp only [Behavior.performAt, Request.perform, h.parameters]
      split
      · exact ⟨rfl, trivial, { h with parameters := rfl }⟩
      · exact ⟨rfl, trivial, h⟩
  | setParameter name value =>
      simp only [Behavior.performAt, Request.perform, h.parameters]
      split
      · exact ⟨rfl, trivial, { h with parameters := rfl }⟩
      · exact ⟨rfl, trivial, h⟩
  | getParameter name =>
      simp only [Behavior.performAt, Request.perform, h.parameters]
      exact ⟨rfl, trivial, h⟩

end Agree

/-- A notification at a spot is answered alike. -/
def Simulates (S : MemoryRelation G) (b : Behavior G) (spot : Spot G) : Prop :=
  ∀ signal env env', S.Agree env env' →
    S.Concur (fun _ => True) (b.emitAt spot signal env) (b.emitAt spot signal env')

section Runs

variable {b : Behavior G}

theorem Alike.runAt_of_simulates {spot : Spot G} (hemit : S.Simulates b spot) {results : α → Prop}
    {p p' : Program G α} (halike : S.Alike results p p') (hagree : S.Agree env env') :
    S.Concur (Meets results) (b.runAt spot p env) (b.runAt spot p' env') := by
  induction halike generalizing env env' with
  | done hresult => exact ⟨rfl, hresult, hagree⟩
  | fail failure => exact ⟨rfl, trivial, hagree⟩
  | panic panic => exact ⟨rfl, trivial, hagree⟩
  | consult _ ih =>
      exact .of_eq (runAt_ask b spot .consult _ hagree.alive)
        (runAt_ask b spot .consult _ hagree.alive') (ih _ _ hagree.memory hagree)
  | @revise f f' _ _ hf _ ih =>
      exact .of_eq (runAt_ask b spot (.revise f) _ hagree.alive)
        (runAt_ask b spot (.revise f') _ hagree.alive')
        (ih (hagree.remember (hf _ _ hagree.memory)))
  | @ask r _ _ hr _ ih =>
      have hperform :
          S.Concur (S.Expects r) (b.performAt spot r env) (b.performAt spot r env') := by
        by_cases hsignal : ∃ signal, r = .emit signal
        · obtain ⟨signal, rfl⟩ := hsignal
          exact hemit signal env env' hagree
        · exact hagree.performAt b spot hr fun signal h => hsignal ⟨signal, h⟩
      rw [runAt_ask b spot r _ hperform.agree.alive,
        runAt_ask b spot r _ hperform.agree.alive', hperform.result]
      exact ih _ hperform.expected hperform.agree

/-- Whoever may subscribe does the same when it is called back, whatever it remembers. -/
def CallbacksAlike (S : MemoryRelation G) (b : Behavior G) : Prop :=
  ∀ callback, S.callbacks callback → ∀ signal,
    S.Alike (fun _ => True) (b.onSignal callback signal) (b.onSignal callback signal)

variable (hcallbacks : S.CallbacksAlike b)

include hcallbacks

theorem hear_of_simulates {spot : Spot G} (hemit : S.Simulates b spot) (signal : Signal)
    {listener : Listener G.Callback}
    (hlistener : ∀ callback, listener = .guest callback → S.callbacks callback)
    (hagree : S.Agree env env') :
    S.Concur (fun _ => True) (b.hear spot signal listener env)
      (b.hear spot signal listener env') := by
  cases listener with
  | guest callback =>
      have hrun := (hcallbacks callback (hlistener callback rfl) signal).runAt_of_simulates hemit
        hagree
      refine ⟨?_, trivial, hrun.agree⟩
      simp only [Behavior.hear, hrun.result]
  | loop => exact ⟨rfl, trivial, hagree.tellLoop signal⟩

theorem hearing_of_simulates {spot : Spot G} {signal : Signal}
    (hemit : ∀ remaining, S.Simulates b (spot.inside signal.channel remaining))
    {s : Subscriber (Listener G.Callback)}
    (hs : ∀ callback, s.callback = .guest callback → S.callbacks callback) (rest : Snapshot G)
    (hagree : S.Agree env env') :
    (b.hearing spot signal s rest env').result = (b.hearing spot signal s rest env).result ∧
      S.Agree (b.hearing spot signal s rest env).after
        (b.hearing spot signal s rest env').after := by
  by_cases hmark : env.channels.isSilenced ⟨signal.channel, s.id⟩ = true
  · have hmark' : env'.channels.isSilenced ⟨signal.channel, s.id⟩ = true := by
      rw [hagree.channels, hmark]
    rw [hearing_of_silenced b spot signal s rest hmark,
      hearing_of_silenced b spot signal s rest hmark']
    exact ⟨rfl, hagree⟩
  · have hmark' : ¬ env'.channels.isSilenced ⟨signal.channel, s.id⟩ = true := by
      rw [hagree.channels]
      exact hmark
    have hheard := hear_of_simulates hcallbacks (hemit (s :: rest)) signal hs
      (hagree.turnTo signal.channel (some s.id))
    rcases hanswer : b.hear (spot.inside signal.channel (s :: rest)) signal s.callback
      (env.turnTo signal.channel (some s.id)) with ⟨result, left⟩
    rcases hanswer' : b.hear (spot.inside signal.channel (s :: rest)) signal s.callback
      (env'.turnTo signal.channel (some s.id)) with ⟨result', left'⟩
    rw [hanswer, hanswer'] at hheard
    obtain rfl : result' = result := hheard.result
    rw [hearing_of_not_silenced b spot signal s rest hmark hanswer,
      hearing_of_not_silenced b spot signal s rest hmark' hanswer']
    have hturned := hheard.agree.turnTo signal.channel none
    cases result' with
    | ok _ => exact ⟨rfl, hturned⟩
    | error reason => exact ⟨rfl, hturned.report _ _⟩

theorem hearingsOf_of_simulates {spot : Spot G} {signal : Signal}
    (hemit : ∀ remaining, S.Simulates b (spot.inside signal.channel remaining))
    {snapshot : Snapshot G}
    (hsnapshot : ∀ s ∈ snapshot, ∀ callback, s.callback = .guest callback → S.callbacks callback)
    (hagree : S.Agree env env') :
    (b.hearingsOf spot signal snapshot env').countP Hearing.returned =
        (b.hearingsOf spot signal snapshot env).countP Hearing.returned ∧
      S.Agree (lastOf Hearing.after env (b.hearingsOf spot signal snapshot env))
        (lastOf Hearing.after env' (b.hearingsOf spot signal snapshot env')) := by
  induction snapshot generalizing env env' with
  | nil => exact ⟨rfl, hagree⟩
  | cons s rest ih =>
      obtain ⟨hresult, hafter⟩ :=
        hearing_of_simulates hcallbacks hemit (hsnapshot s List.mem_cons_self) rest hagree
      obtain ⟨hcount, hlast⟩ := ih (fun t ht => hsnapshot t (List.mem_cons_of_mem s ht)) hafter
      have hreturned : (b.hearing spot signal s rest env').returned =
          (b.hearing spot signal s rest env).returned := by
        simp only [Hearing.returned, hresult]
      refine ⟨?_, hlast⟩
      simp only [Behavior.hearingsOf, List.countP_cons, hcount, hreturned]

/-- Notifications are answered alike if every subscriber does the same. -/
theorem simulates (spot : Spot G) : S.Simulates b spot := by
  -- The induction is on how many notifications may still begin.
  generalize hroom : b.depth - spot.stack.length = room
  induction room generalizing spot with
  | zero =>
      intro signal env env' hagree
      rw [Behavior.emitAt, hroom]
      exact ⟨rfl, trivial, hagree⟩
  | succ room ih =>
      intro signal env env' hagree
      by_cases hfree : signal.channel ∈ spot.busy
      · rw [Behavior.emitAt, hroom, Behavior.notify, Behavior.notify, if_pos hfree,
          if_pos hfree]
        exact ⟨rfl, trivial, hagree⟩
      · have hinner : ∀ remaining, S.Simulates b (spot.inside signal.channel remaining) := by
          intro remaining
          apply ih
          show b.depth - (spot.stack.length + 1) = room
          omega
        have hsnapshot : ((env'.channels.ensure signal.channel).get signal.channel) =
            (env.channels.ensure signal.channel).get signal.channel := by
          rw [hagree.channels]
        have hensured := hagree.ensure signal.channel
        rw [emitAt_eq b hagree.alive hfree (by omega),
          emitAt_eq b hagree.alive' hfree (by omega)]
        simp only [Behavior.hearings, hsnapshot]
        obtain ⟨hcount, hlast⟩ := hearingsOf_of_simulates hcallbacks hinner
          (fun s hs => hensured.heard signal.channel s hs) hensured
        exact ⟨hcount, trivial, hlast⟩

/-- **Programs that are alike end alike and leave environments that agree.** -/
theorem run_alike {results : α → Prop} {p p' : Program G α} (halike : S.Alike results p p')
    (access : Access) (hagree : S.Agree env env') :
    S.Concur (Meets results) (b.run access p env) (b.run access p' env') :=
  halike.runAt_of_simulates (simulates hcallbacks (.top access)) hagree

end Runs

end MemoryRelation
end SimEngine
