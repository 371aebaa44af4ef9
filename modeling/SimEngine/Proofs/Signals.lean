import SimEngine.Proofs.Histories
import SimEngine.Proofs.Notifications

/-!
# What the loop is told

The loop that drives a simulation listens to three events.  Guest code notifies
them from wherever it is called, from within the notifications of other events
too, and the flags of the loop change each time.  This module reads the flags
after a run off the list of its requests.

**Definitions.**
* `LoopFlags.tell`, `LoopFlags.tellAll`: what the loop makes of notifications.
* `signalsOf`: the notifications that begin in a list of requests.
* `NoReentry`: no channel is notified while it is being notified.
* `Attentive`: the loop is subscribed once to each of its events.
* `Heeds`: the flags are those of before, changed by the notifications in their
  order.

**Results.**
* `heeds_run`: a run changes the flags by the notifications that begin in it.
* `heeds_moment`: so does every act of an engine.
-/

namespace SimEngine

variable {G : Guest}

/-- The pause that a notification asks for. -/
def Signal.pause? : Signal → Option Bool
  | .pause paused => some paused
  | _ => none

/-- The plugins that a notification asks for, each for the entity that it names. -/
def Signal.requested : Signal → List PluginSpec
  | .loadPlugins entity specs => specs.map fun spec => { spec with entity := entity }
  | _ => []

namespace LoopFlags

/-- What the loop makes of a notification. -/
def tell (flags : LoopFlags) : Signal → LoopFlags
  | .pause paused => { flags with paused := paused }
  | .stop => { flags with stopRequested := true }
  | .loadPlugins entity specs =>
    { flags with
      loadRequests := flags.loadRequests ++ (Signal.loadPlugins entity specs).requested }
  | _ => flags

/-- What the loop makes of notifications, one after the other. -/
def tellAll (flags : LoopFlags) (signals : List Signal) : LoopFlags :=
  signals.foldl tell flags

@[simp] theorem tellAll_nil (flags : LoopFlags) : flags.tellAll [] = flags :=
  rfl

@[simp] theorem tellAll_cons (flags : LoopFlags) (signal : Signal) (rest : List Signal) :
    flags.tellAll (signal :: rest) = (flags.tell signal).tellAll rest :=
  rfl

@[simp] theorem tellAll_append (flags : LoopFlags) (first second : List Signal) :
    flags.tellAll (first ++ second) = (flags.tellAll first).tellAll second :=
  List.foldl_append

/-- Notifications of different events change different flags. -/
theorem tell_comm (flags : LoopFlags) {signal other : Signal}
    (hne : signal.channel ≠ other.channel) :
    (flags.tell signal).tell other = (flags.tell other).tell signal := by
  cases signal <;> cases other <;> first | rfl | exact absurd rfl hne

theorem tellAll_tell (flags : LoopFlags) {signal : Signal} {signals : List Signal}
    (hne : ∀ other ∈ signals, signal.channel ≠ other.channel) :
    (flags.tell signal).tellAll signals = (flags.tellAll signals).tell signal := by
  induction signals generalizing flags with
  | nil =>
      rfl
  | cons other rest ih =>
      have hrest : ∀ next ∈ rest, signal.channel ≠ next.channel :=
        fun next hnext => hne next (List.mem_cons_of_mem other hnext)
      rw [tellAll_cons, tell_comm flags (hne other List.mem_cons_self), ih _ hrest, tellAll_cons]

theorem tellAll_replicate (flags : LoopFlags) {signal : Signal} {signals : List Signal}
    (hne : ∀ other ∈ signals, signal.channel ≠ other.channel) (n : Nat) :
    (flags.tellAll signals).tellAll (List.replicate n signal) =
      (flags.tellAll (List.replicate n signal)).tellAll signals := by
  induction n generalizing flags with
  | zero =>
      rfl
  | succ n ih =>
      rw [List.replicate_succ, tellAll_cons, tellAll_cons, ← tellAll_tell flags hne, ih]

/-- The plugins asked for stand behind those that were asked for before. -/
theorem loadRequests_tellAll (flags : LoopFlags) (signals : List Signal) :
    (flags.tellAll signals).loadRequests =
      flags.loadRequests ++ signals.flatMap Signal.requested := by
  induction signals generalizing flags with
  | nil =>
      exact (List.append_nil _).symm
  | cons signal rest ih =>
      rw [tellAll_cons, ih, List.flatMap_cons]
      cases signal with
      | loadPlugins entity specs =>
          exact List.append_assoc _ _ _
      | _ => rfl

end LoopFlags

theorem tellLoop_loop (env : Environment G) (signal : Signal) :
    (env.tellLoop signal).loop = env.loop.tell signal := by
  cases signal <;> rfl

theorem tellLoop_orphaned (env : Environment G) (signal : Signal) :
    (env.tellLoop signal).orphaned = env.orphaned := by
  cases signal <;> rfl

/-- The notification that a request begins: one of a channel that is not being notified. -/
def Occurrence.signal? (o : Occurrence G) : Option Signal :=
  match o.request with
  | .emit signal => if signal.channel ∈ o.spot.busy then none else some signal
  | _ => none

/-- The notifications that begin in a list of requests, in their order. -/
def signalsOf (log : List (Occurrence G)) : List Signal :=
  log.filterMap Occurrence.signal?

@[simp] theorem signalsOf_nil : signalsOf ([] : List (Occurrence G)) = [] :=
  rfl

@[simp] theorem signalsOf_append (first second : List (Occurrence G)) :
    signalsOf (first ++ second) = signalsOf first ++ signalsOf second :=
  List.filterMap_append

theorem signal?_eq_some {o : Occurrence G} {signal : Signal} (h : o.signal? = some signal) :
    o.request = .emit signal ∧ signal.channel ∉ o.spot.busy := by
  obtain ⟨spot, request, env⟩ := o
  cases request with
  | emit other =>
      simp only [Occurrence.signal?] at h
      split at h
      · cases h
      · rename_i hfree
        obtain rfl := Option.some.inj h
        exact ⟨rfl, hfree⟩
  | _ => cases h

/--
No request notifies a channel that is being notified. The contract of events forbids it, since such
a notification would wait for its own end.
-/
def NoReentry (log : List (Occurrence G)) : Prop :=
  ∀ o ∈ log, ∀ signal, o.request = .emit signal → signal.channel ∉ o.spot.busy

/-- Within a turn of a channel no notification of it begins. -/
theorem busyLaw (b : Behavior G) :
    RunLaw b fun spot _ log _ => ∀ o ∈ log, ∀ key ∈ spot.busy, key ∈ o.spot.busy where
  refl := by
    intro spot env o ho
    cases ho
  trans := by
    intro spot e₁ L₁ e₂ L₂ e₃ h₁ h₂ o ho
    exact (List.mem_append.1 ho).elim (h₁ o) (h₂ o)
  request := by
    intro spot r env _ o ho key hkey
    rw [List.mem_singleton.1 ho]
    exact hkey
  emit := by
    intro spot signal env h o ho
    rcases List.mem_cons.1 ho with rfl | ho
    · exact fun _ hkey => hkey
    · exact h o ho
  ensure := by
    intro spot key env o ho
    cases ho
  tell := by
    intro spot signal env o ho
    cases ho
  report := by
    intro spot notice env o ho
    cases ho
  turn := by
    intro spot key remaining id env L env' _ h o ho other hother
    exact h o ho other (List.mem_cons_of_mem key hother)

theorem busy_of_mem_hearing
    (b : Behavior G) {spot : Spot G} {signal : Signal}
    (s : Subscriber (Listener G.Callback)) (rest : Snapshot G) {env : Environment G}
    (halive : env.orphaned = false) {o : Occurrence G}
    (ho : o ∈ (b.hearing spot signal s rest env).occurrences b spot signal) :
    signal.channel ∈ o.spot.busy := by
  unfold Hearing.occurrences Hearing.occurrencesWith at ho
  split at ho
  · have hbefore : ((b.hearing spot signal s rest env).before.turnTo signal.channel
        (some (b.hearing spot signal s rest env).subscriber.id)).orphaned = false := by
      unfold Behavior.hearing
      split <;> exact halive
    exact (busyLaw b).run _ _ hbefore o ho signal.channel List.mem_cons_self
  · cases ho

/-- Whether it is the loop that is called. -/
def Subscriber.tellsLoop {κ : Type} (s : Subscriber (Listener κ)) : Bool :=
  match s.callback with
  | .guest _ => false
  | .loop => true

/-- The numbers of the subscribers through which a channel tells the loop. -/
def Channel.loopIds {κ : Type} (c : Channel (Listener κ)) : List Nat :=
  (c.subscribers.filter Subscriber.tellsLoop).map Subscriber.id

namespace Channel

variable {κ : Type}

@[simp] theorem loopIds_turnTo (c : Channel (Listener κ)) (current : Option Nat) :
    (c.turnTo current).loopIds = c.loopIds :=
  rfl

theorem loopIds_connect_guest (c : Channel (Listener κ)) (callback : κ) :
    (c.connect (.guest callback)).loopIds = c.loopIds := by
  have hguest : (⟨c.nextId, .guest callback⟩ : Subscriber (Listener κ)).tellsLoop = false := rfl
  simp [loopIds, connect, hguest]

theorem loopIds_connect_loop (c : Channel (Listener κ)) :
    (c.connect .loop).loopIds = c.loopIds ++ [c.nextId] := by
  have hloop : (⟨c.nextId, .loop⟩ : Subscriber (Listener κ)).tellsLoop = true := rfl
  simp [loopIds, connect, hloop]

theorem loopIds_disconnect (c : Channel (Listener κ)) {id : Nat} (h : id ∉ c.loopIds) :
    (c.disconnect id).loopIds = c.loopIds := by
  unfold disconnect
  split
  · simp only [loopIds, List.filter_filter] at h ⊢
    congr 1
    refine List.filter_congr fun s hs => ?_
    cases hloop : s.tellsLoop with
    | false =>
        rfl
    | true =>
        have hne : s.id ≠ id := by
          rintro rfl
          exact h (List.mem_map_of_mem (List.mem_filter.2 ⟨hs, hloop⟩))
        simp [hne]
  · rfl

end Channel

/-- The events that the loop listens to. -/
def loopChannels : List ChannelKey :=
  [.event .pause, .event .stop, .event .loadPlugins]

/-- The channels are in order, and the loop is subscribed to each of its events once. -/
structure Attentive {κ : Type} (subscriptions : List Connection)
    (cs : Channels (Listener κ)) : Prop where
  whole : subscriptions.map Connection.channel = loopChannels
  orderly : ∀ key, (cs.get key).Orderly
  told : ∀ key, (cs.get key).loopIds =
    (subscriptions.filter fun c => c.channel = key).map Connection.id

namespace Attentive

variable {κ : Type} {subscriptions : List Connection} {cs cs' : Channels (Listener κ)}

theorem of_get (h : Attentive subscriptions cs)
    (horderly : ∀ key, (cs'.get key).Orderly)
    (hloop : ∀ key, (cs'.get key).loopIds = (cs.get key).loopIds) :
    Attentive subscriptions cs' :=
  ⟨h.whole, horderly, fun key => (hloop key).trans (h.told key)⟩

theorem ensure (h : Attentive subscriptions cs) (key : ChannelKey) :
    Attentive subscriptions (cs.ensure key) := by
  refine h.of_get (fun other => ?_) (fun other => ?_)
  · rw [Channels.get_ensure]
    exact h.orderly other
  · rw [Channels.get_ensure]

theorem turnTo (h : Attentive subscriptions cs) (key : ChannelKey) (current : Option Nat) :
    Attentive subscriptions (cs.turnTo key current) := by
  refine h.of_get (fun other => ?_) (fun other => ?_)
  · rw [Channels.get_turnTo]
    split
    · exact (h.orderly key).turnTo current
    · exact h.orderly other
  · rw [Channels.get_turnTo]
    split
    · rename_i heq
      rw [heq, Channel.loopIds_turnTo]
    · rfl

theorem mem_loopIds_iff (h : Attentive subscriptions cs) (c : Connection) :
    c.id ∈ (cs.get c.channel).loopIds ↔ c ∈ subscriptions := by
  rw [h.told, List.mem_map]
  constructor
  · rintro ⟨d, hd, hid⟩
    obtain ⟨hmem, hchannel⟩ := List.mem_filter.1 hd
    cases c
    cases d
    simp_all
  · intro hc
    exact ⟨c, List.mem_filter.2 ⟨hc, by simp⟩, rfl⟩

theorem onChannels {cs : Channels (Listener G.Callback)} (h : Attentive subscriptions cs)
    (r : Request G) (hkept : ∀ c ∈ subscriptions, r ≠ .disconnect c) :
    Attentive subscriptions (r.onChannels cs) := by
  refine h.of_get (orderly_onChannels r h.orderly) fun key => ?_
  cases r with
  | connect channel callback =>
      simp only [Request.onChannels, Channels.get_connect]
      split
      · rename_i heq
        rw [heq, Channel.loopIds_connect_guest]
      · rfl
  | disconnect c =>
      simp only [Request.onChannels, Channels.get_disconnect]
      split
      · rename_i heq
        rw [heq]
        exact Channel.loopIds_disconnect _ fun hid => hkept c ((h.mem_loopIds_iff c).1 hid) rfl
      · rfl
  | _ => rfl

/-- A notification reaches the loop once if the loop listens to its channel, or not at all. -/
theorem tellAll_replicate_count (h : Attentive subscriptions cs) (signal : Signal)
    (flags : LoopFlags) :
    flags.tellAll (List.replicate (cs.get signal.channel).loopIds.length signal) =
      flags.tell signal := by
  have hcount : (cs.get signal.channel).loopIds.length =
      loopChannels.countP (· = signal.channel) := by
    rw [h.told, List.length_map, ← List.countP_eq_length_filter, ← h.whole, List.countP_map]
    rfl
  rw [hcount]
  cases signal <;> rfl

end Attentive

/--
No request drops a subscription of the loop, and whenever a notification begins fewer of them are
in progress than may be.
-/
structure Unhindered (b : Behavior G) (subscriptions : List Connection)
    (log : List (Occurrence G)) : Prop where
  kept : ∀ o ∈ log, ∀ c ∈ subscriptions, o.request ≠ .disconnect c
  room : ∀ o ∈ log, ∀ signal, o.signal? = some signal → o.spot.stack.length < b.depth

section Heeding

variable {b : Behavior G} {subscriptions : List Connection}

theorem unhindered_append {first second : List (Occurrence G)} :
    Unhindered b subscriptions (first ++ second) ↔
      Unhindered b subscriptions first ∧ Unhindered b subscriptions second := by
  constructor
  · intro h
    exact ⟨⟨fun o ho => h.kept o (List.mem_append_left _ ho),
        fun o ho => h.room o (List.mem_append_left _ ho)⟩,
      ⟨fun o ho => h.kept o (List.mem_append_right _ ho),
        fun o ho => h.room o (List.mem_append_right _ ho)⟩⟩
  · rintro ⟨h₁, h₂⟩
    exact ⟨fun o ho => (List.mem_append.1 ho).elim (h₁.kept o) (h₂.kept o),
      fun o ho => (List.mem_append.1 ho).elim (h₁.room o) (h₂.room o)⟩

/--
If the engine is alive, the loop listens, and nothing hinders it, then it listens afterwards, and
its flags are those of before, changed by the notifications of the log in their order.
-/
def Heeds (b : Behavior G) (subscriptions : List Connection) (env : Environment G)
    (log : List (Occurrence G)) (env' : Environment G) : Prop :=
  env.orphaned = false → Attentive subscriptions env.channels → Unhindered b subscriptions log →
    env'.orphaned = false ∧ Attentive subscriptions env'.channels ∧
      env'.loop = env.loop.tellAll (signalsOf log)

namespace Heeds

theorem of_eq {env env' : Environment G} (horphaned : env'.orphaned = env.orphaned)
    (hchannels : Attentive subscriptions env.channels → Attentive subscriptions env'.channels)
    (hloop : env'.loop = env.loop) : Heeds b subscriptions env [] env' :=
  fun halive hattentive _ => ⟨horphaned.trans halive, hchannels hattentive, hloop⟩

theorem refl (env : Environment G) : Heeds b subscriptions env [] env :=
  of_eq rfl id rfl

theorem trans {e₁ e₂ e₃ : Environment G} {L₁ L₂ : List (Occurrence G)}
    (h₁ : Heeds b subscriptions e₁ L₁ e₂) (h₂ : Heeds b subscriptions e₂ L₂ e₃) :
    Heeds b subscriptions e₁ (L₁ ++ L₂) e₃ := by
  intro halive hattentive hlog
  obtain ⟨hlog₁, hlog₂⟩ := unhindered_append.1 hlog
  obtain ⟨halive', hattentive', hloop₁⟩ := h₁ halive hattentive hlog₁
  obtain ⟨halive'', hattentive'', hloop₂⟩ := h₂ halive' hattentive' hlog₂
  refine ⟨halive'', hattentive'', ?_⟩
  rw [hloop₂, hloop₁, signalsOf_append, LoopFlags.tellAll_append]

theorem later {e₁ e₂ e₃ : Environment G} {log : List (Occurrence G)}
    (h₁ : Heeds b subscriptions e₁ log e₂) (h₂ : Heeds b subscriptions e₂ [] e₃) :
    Heeds b subscriptions e₁ log e₃ := by
  have h := h₁.trans h₂
  rwa [List.append_nil] at h

theorem turnTo (env : Environment G) (key : ChannelKey) (current : Option Nat) :
    Heeds b subscriptions env [] (env.turnTo key current) :=
  of_eq rfl (fun h => h.turnTo key current) rfl

theorem report (env : Environment G) (notice : Notice) :
    Heeds b subscriptions env [] (env.report notice) :=
  of_eq rfl id rfl

theorem of_still {env env' : Environment G} (h : env.Still env') :
    Heeds b subscriptions env [] env' :=
  of_eq h.orphaned (fun hattentive => h.channels ▸ hattentive) h.loop

end Heeds

theorem performAt_loop
    (spot : Spot G) (r : Request G) (env : Environment G) (hr : ∀ signal, r ≠ .emit signal) :
    (b.performAt spot r env).2.loop = env.loop := by
  obtain ⟨_, _, hafter⟩ := performAt_eq b spot r env hr
  rw [hafter]

theorem heeds_request
    (spot : Spot G) (r : Request G) (env : Environment G) (hr : ∀ signal, r ≠ .emit signal) :
    Heeds b subscriptions env [⟨spot, r, env⟩] (b.performAt spot r env).2 := by
  intro halive hattentive hlog
  have hsilent : signalsOf [(⟨spot, r, env⟩ : Occurrence G)] = [] := by
    cases r with
    | emit signal => exact absurd rfl (hr signal)
    | _ => rfl
  refine ⟨(performAt_orphaned b spot r env hr).trans halive, ?_, ?_⟩
  · rw [performAt_channels b spot r env hr]
    exact hattentive.onChannels r (hlog.kept _ (List.mem_singleton_self _))
  · rw [performAt_loop spot r env hr, hsilent, LoopFlags.tellAll_nil]

/-- The loop heeds every notification that may begin at a spot. -/
def Heedful (b : Behavior G) (subscriptions : List Connection) (spot : Spot G) : Prop :=
  ∀ signal env, Heeds b subscriptions env
    (⟨spot, .emit signal, env⟩ :: b.nested spot signal env) (b.emitAt spot signal env).2

theorem heeds_of_heedful {spot : Spot G} (hspot : Heedful b subscriptions spot) {α : Type}
    (p : Program G α) (env : Environment G) :
    Heeds b subscriptions env (b.occurrences spot p env) (b.runAt spot p env).2 := by
  induction p generalizing env with
  | done a =>
      exact Heeds.refl env
  | fail f =>
      exact Heeds.refl env
  | panic m =>
      exact Heeds.refl env
  | ask r next ih =>
      intro halive
      have hstep : Heeds b subscriptions env (⟨spot, r, env⟩ :: r.within (b.nested spot) env)
          (b.performAt spot r env).2 := by
        by_cases hr : ∃ signal, r = .emit signal
        · obtain ⟨signal, rfl⟩ := hr
          exact hspot signal env
        · have hr' : ∀ signal, r ≠ .emit signal := fun signal h => hr ⟨signal, h⟩
          have hwithin : r.within (b.nested spot) env = [] := by
            cases r with
            | emit signal => exact absurd rfl (hr' signal)
            | _ => rfl
          rw [hwithin]
          exact heeds_request spot r env hr'
      rw [runAt_ask b spot r next (alive_performAt b spot r halive)]
      exact (hstep.trans (ih _ _)) halive

/-- A turn of guest code is heeded. -/
theorem heeds_hearing_guest
    {spot : Spot G} {signal : Signal}
    (hinside : ∀ remaining, Heedful b subscriptions (spot.inside signal.channel remaining))
    {s : Subscriber (Listener G.Callback)} (hs : s.tellsLoop = false) (rest : Snapshot G)
    (env : Environment G) :
    Heeds b subscriptions env ((b.hearing spot signal s rest env).occurrences b spot signal)
      (b.hearing spot signal s rest env).after := by
  obtain ⟨id, listener⟩ := s
  cases listener with
  | loop =>
      cases hs
  | guest callback =>
      by_cases hmark : env.channels.isSilenced ⟨signal.channel, id⟩ = true
      · rw [hearing_of_silenced b spot signal _ rest hmark]
        exact Heeds.refl env
      · have hrun := (Heeds.turnTo env signal.channel (some id)).trans (heeds_of_heedful
          (hinside (⟨id, .guest callback⟩ :: rest)) (b.onSignal callback signal)
          (env.turnTo signal.channel (some id)))
        rw [hearing_of_not_silenced b spot signal _ rest hmark rfl]
        have hended := hrun.later (Heeds.turnTo _ signal.channel none)
        simp only [Behavior.heard]
        split
        · exact hended
        · exact hended.later (Heeds.report _ _)

/-- The loop has its turn, since it is subscribed. -/
theorem heeds_hearing_loop
    (spot : Spot G) (signal : Signal) {s : Subscriber (Listener G.Callback)}
    (hs : s.tellsLoop = true) (rest : Snapshot G) {env : Environment G}
    (halive : env.orphaned = false) (hattentive : Attentive subscriptions env.channels)
    (hsubscribed : (⟨signal.channel, s.id⟩ : Connection) ∈ subscriptions) :
    (b.hearing spot signal s rest env).occurrences b spot signal = [] ∧
      (b.hearing spot signal s rest env).after.orphaned = false ∧
      Attentive subscriptions (b.hearing spot signal s rest env).after.channels ∧
      (b.hearing spot signal s rest env).after.loop = env.loop.tell signal := by
  obtain ⟨id, listener⟩ := s
  cases listener with
  | guest callback =>
      cases hs
  | loop =>
      have hmark : ¬ env.channels.isSilenced ⟨signal.channel, id⟩ = true := by
        intro hmark
        obtain ⟨s, hs, hid⟩ := List.mem_map.1 ((hattentive.mem_loopIds_iff _).2 hsubscribed)
        refine (hattentive.orderly signal.channel).listed_heard s (List.mem_filter.1 hs).1 ?_
        rw [hid]
        exact (Channel.isSilenced_iff _ _).1 hmark
      rw [hearing_of_not_silenced b spot signal _ rest hmark rfl]
      refine ⟨rfl, ?_, ?_, ?_⟩
      · exact (tellLoop_orphaned (env.turnTo signal.channel (some id)) signal).trans halive
      · refine Attentive.turnTo ?_ _ _
        rw [tellLoop_channels]
        exact hattentive.turnTo _ _
      · exact tellLoop_loop (env.turnTo signal.channel (some id)) signal

/-- The turns of a snapshot change the flags once for each of the loop's, and as heeded. -/
theorem heeds_hearings
    {spot : Spot G} {signal : Signal}
    (hinside : ∀ remaining, Heedful b subscriptions (spot.inside signal.channel remaining))
    (snapshot : Snapshot G) {env : Environment G} (halive : env.orphaned = false)
    (hattentive : Attentive subscriptions env.channels)
    (hsubscribed : ∀ s ∈ snapshot, s.tellsLoop = true →
      (⟨signal.channel, s.id⟩ : Connection) ∈ subscriptions)
    {turns : List (Hearing G)} (hturns : b.hearingsOf spot signal snapshot env = turns)
    {log : List (Occurrence G)} (hlog : (turns.flatMap fun h => h.occurrences b spot signal) = log)
    (hunhindered : Unhindered b subscriptions log) :
    (lastOf Hearing.after env turns).orphaned = false ∧
      Attentive subscriptions (lastOf Hearing.after env turns).channels ∧
      (lastOf Hearing.after env turns).loop =
        (env.loop.tellAll
          (List.replicate (snapshot.filter Subscriber.tellsLoop).length signal)).tellAll
            (signalsOf log) := by
  subst hturns hlog
  induction snapshot generalizing env with
  | nil =>
      exact ⟨halive, hattentive, rfl⟩
  | cons s rest ih =>
      have hrest : ∀ other ∈ rest, other.tellsLoop = true →
          (⟨signal.channel, other.id⟩ : Connection) ∈ subscriptions :=
        fun other hother => hsubscribed other (List.mem_cons_of_mem s hother)
      simp only [Behavior.hearingsOf, List.flatMap_cons, lastOf] at hunhindered ⊢
      obtain ⟨hlog₁, hlog₂⟩ := unhindered_append.1 hunhindered
      cases hs : s.tellsLoop with
      | true =>
          obtain ⟨hnone, halive', hattentive', htold⟩ := heeds_hearing_loop (b := b) spot signal hs
            rest halive hattentive (hsubscribed s List.mem_cons_self hs)
          obtain ⟨hend, hends, hflags⟩ := ih halive' hattentive' hrest hlog₂
          refine ⟨hend, hends, ?_⟩
          rw [hflags, htold, hnone, List.filter_cons_of_pos hs, List.length_cons,
            List.replicate_succ, LoopFlags.tellAll_cons, List.nil_append]
      | false =>
          obtain ⟨halive', hattentive', hflags₁⟩ :=
            heeds_hearing_guest hinside hs rest env halive hattentive hlog₁
          obtain ⟨hend, hends, hflags₂⟩ := ih halive' hattentive' hrest hlog₂
          refine ⟨hend, hends, ?_⟩
          -- No notification of the channel begins in the turn, so the loop's turns may come first.
          have hother : ∀ other ∈ signalsOf
              ((b.hearing spot signal s rest env).occurrences b spot signal),
              signal.channel ≠ other.channel := by
            intro other hother heq
            obtain ⟨o, ho, hsignal⟩ := List.mem_filterMap.1 hother
            exact (signal?_eq_some hsignal).2 (heq ▸ busy_of_mem_hearing b s rest halive ho)
          rw [hflags₂, hflags₁, List.filter_cons_of_neg (by simp [hs]),
            LoopFlags.tellAll_replicate _ hother, signalsOf_append, LoopFlags.tellAll_append]

theorem heeds_notification
    {spot : Spot G} {signal : Signal}
    (hinside : ∀ remaining, Heedful b subscriptions (spot.inside signal.channel remaining))
    (env : Environment G) :
    Heeds b subscriptions env (⟨spot, .emit signal, env⟩ :: b.nested spot signal env)
      (b.emitAt spot signal env).2 := by
  intro halive hattentive hlog
  by_cases hfree : signal.channel ∈ spot.busy
  · have hnested : b.nested spot signal env = [] := by
      unfold Behavior.nested
      cases b.depth - spot.stack.length with
      | zero => rfl
      | succ room => exact if_pos hfree
    have hemit : (b.emitAt spot signal env).2 = env := by
      unfold Behavior.emitAt
      cases b.depth - spot.stack.length with
      | zero => rfl
      | succ room => rw [Behavior.notify, if_pos hfree]
    have hsilent : signalsOf [(⟨spot, .emit signal, env⟩ : Occurrence G)] = [] := by
      simp [signalsOf, Occurrence.signal?, hfree]
    rw [hnested, hemit, hsilent]
    exact ⟨halive, hattentive, rfl⟩
  · have hsignal : (⟨spot, .emit signal, env⟩ : Occurrence G).signal? = some signal := if_neg hfree
    have hroom : spot.stack.length < b.depth := hlog.room _ List.mem_cons_self signal hsignal
    have hensured := hattentive.ensure signal.channel
    have hlisted : ∀ s ∈ ((env.channels.ensure signal.channel).get signal.channel).subscribers,
        s.tellsLoop = true → (⟨signal.channel, s.id⟩ : Connection) ∈ subscriptions := by
      intro s hs hloop
      exact (hensured.mem_loopIds_iff ⟨signal.channel, s.id⟩).1
        (List.mem_map_of_mem (List.mem_filter.2 ⟨hs, hloop⟩))
    have hnested : (b.hearings spot signal env).flatMap (fun h => h.occurrences b spot signal) =
        b.nested spot signal env := (nested_eq b env hroom hfree).symm
    rw [← List.singleton_append] at hlog ⊢
    have halive' : ({ env with channels := env.channels.ensure signal.channel } :
        Environment G).orphaned = false := halive
    obtain ⟨hend, hends, hflags⟩ := heeds_hearings hinside _ halive' hensured hlisted rfl hnested
      (unhindered_append.1 hlog).2
    rw [emitAt_eq b halive hfree hroom]
    refine ⟨hend, hends, ?_⟩
    have honce := hensured.tellAll_replicate_count signal env.loop
    rw [Channel.loopIds, List.length_map] at honce
    have hhead : signalsOf [(⟨spot, .emit signal, env⟩ : Occurrence G)] = [signal] :=
      List.filterMap_cons_some hsignal
    rw [signalsOf_append, LoopFlags.tellAll_append, hhead, LoopFlags.tellAll_cons,
      LoopFlags.tellAll_nil, ← honce]
    exact hflags

theorem heedful (b : Behavior G) (subscriptions : List Connection) (spot : Spot G) :
    Heedful b subscriptions spot := by
  -- The induction is on how many notifications may still begin.
  generalize hroom : b.depth - spot.stack.length = room
  induction room generalizing spot with
  | zero =>
      intro signal env halive hattentive hlog
      have hnested : b.nested spot signal env = [] := by
        rw [Behavior.nested, hroom]
        rfl
      have hemit : (b.emitAt spot signal env).2 = env := by
        rw [Behavior.emitAt, hroom]
        rfl
      have hsilent : signalsOf [(⟨spot, .emit signal, env⟩ : Occurrence G)] = [] := by
        rw [signalsOf, List.filterMap_eq_nil_iff]
        intro o ho
        rw [Option.eq_none_iff_forall_ne_some]
        intro other hother
        obtain rfl := List.mem_singleton.1 ho
        have hlt : spot.stack.length < b.depth := hlog.room _ List.mem_cons_self other hother
        omega
      rw [hnested, hemit, hsilent]
      exact ⟨halive, hattentive, rfl⟩
  | succ room ih =>
      intro signal env
      refine heeds_notification (fun remaining => ih _ ?_) env
      show b.depth - (spot.stack.length + 1) = room
      omega

/-- There is room for the notifications of a run if it notifies few enough channels. -/
theorem room_of_guestRun
    (b : Behavior G) {channels : List ChannelKey} (hdepth : channels.length ≤ b.depth)
    {s : GuestRun G} (hchannels : emitted (s.log b) ⊆ channels) {o : Occurrence G}
    (ho : o ∈ s.log b) {signal : Signal} (hsignal : o.signal? = some signal) :
    o.spot.stack.length < b.depth := by
  obtain ⟨hrequest, hfree⟩ := signal?_eq_some hsignal
  obtain ⟨spot, request, env⟩ := o
  obtain rfl : request = _ := hrequest
  obtain ⟨purpose, before⟩ := s
  cases purpose <;> exact room_of_emitted b _ _ _ hdepth hchannels ho hfree

/-- Nothing hinders the loop in moments that notify few enough channels and drop none of its
subscriptions. -/
theorem unhindered_of_emitted
    {channels : List ChannelKey} (hdepth : channels.length ≤ b.depth)
    {moments : List (Moment G)} (hchannels : emitted (moments.flatMap (Moment.log b)) ⊆ channels)
    (hkept : ∀ o ∈ moments.flatMap (Moment.log b), ∀ c ∈ subscriptions,
      o.request ≠ .disconnect c) :
    Unhindered b subscriptions (moments.flatMap (Moment.log b)) := by
  refine ⟨hkept, fun o ho signal hsignal => ?_⟩
  obtain ⟨m, hm, ho⟩ := List.mem_flatMap.1 ho
  obtain ⟨s, hs, ho⟩ := List.mem_flatMap.1 ho
  refine room_of_guestRun b hdepth (fun key hkey => hchannels ?_) ho hsignal
  obtain ⟨o', ho', hkey⟩ := List.mem_filterMap.1 hkey
  exact List.mem_filterMap.2
    ⟨o', List.mem_flatMap.2 ⟨m, hm, List.mem_flatMap.2 ⟨s, hs, ho'⟩⟩, hkey⟩

/-- **A run changes the flags of the loop by the notifications that begin in it.** -/
theorem heeds_run (spot : Spot G) {α : Type} (p : Program G α) (env : Environment G) :
    Heeds b subscriptions env (b.occurrences spot p env) (b.runAt spot p env).2 :=
  heeds_of_heedful (heedful b subscriptions spot) p env

theorem heeds_guestRun (s : GuestRun G) : Heeds b subscriptions s.before (s.log b) (s.after b) := by
  obtain ⟨purpose, before⟩ := s
  cases purpose <;> exact heeds_run _ _ _

theorem heeds_accounted
    {env env' : Environment G} {guestRuns : List (GuestRun G)}
    (h : Engine.Accounted b env guestRuns env') :
    Heeds b subscriptions env (guestRuns.flatMap (GuestRun.log b)) env' := by
  induction guestRuns generalizing env with
  | nil =>
      exact Heeds.of_still h
  | cons s rest ih =>
      exact ((Heeds.of_still h.1).trans (heeds_guestRun s)).trans (ih h.2)

/-- **Every act changes the flags of the loop by the notifications that begin in it.** -/
theorem heeds_moment
    {m : Moment G} (h : Engine.Accounted b m.ready (m.guestRuns b) (m.after b).env)
    (hready : ∀ a, m.act = .arrange a →
      a.channels = m.before.env.channels ∧ a.loop = m.before.env.loop) :
    Heeds b subscriptions m.before.env (m.log b) (m.after b).env := by
  have hgap : Heeds b subscriptions m.before.env [] m.ready := by
    unfold Moment.ready
    split
    · exact Heeds.of_eq rfl id rfl
    · exact Heeds.of_eq rfl id rfl
    · rename_i a hact
      obtain ⟨hchannels, hloop⟩ := hready a hact
      refine Heeds.of_eq rfl (fun hattentive => ?_) hloop
      show Attentive subscriptions a.channels
      rwa [hchannels]
    · exact Heeds.refl _
  exact hgap.trans (heeds_accounted h)

/-- A row of acts changes the flags of the loop by the notifications that begin in it. -/
theorem heeds_accounts
    {e e' : Engine G} {moments : List (Moment G)} (h : Accounts b e moments e')
    (hready : ∀ m ∈ moments, ∀ a, m.act = .arrange a →
      a.channels = m.before.env.channels ∧ a.loop = m.before.env.loop) :
    Heeds b subscriptions e.env (moments.flatMap (Moment.log b)) e'.env :=
  Linked.relate (R := fun e log e' => Heeds b subscriptions e.env log e'.env)
    (fun e => Heeds.refl e.env) Heeds.trans h.linked
    fun m hm => heeds_moment (h.accounted m hm) (hready m hm)

end Heeding
end SimEngine
