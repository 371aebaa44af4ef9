import SimEngine.Proofs.Channels
import SimEngine.Proofs.Puppets
import SimEngine.Proofs.Queues

/-!
# Notifications

A history is a program: it connects callbacks, drops connections and notifies
channels, and so do the callbacks it runs into.  The list of its requests tells,
for each notification in it, who is called.

**Definitions.**
* `Request.channelChange`: what a request does to the subscribers of a channel.
* `connectedAfter`: the subscribers of a channel after a list of requests.
* `Hearing.Faithful`: a turn is the one call of its subscriber, or no call.

**Results.**
* `room_of_emitted`: there is room for a notification if as many may be in
  progress at once as a history notifies channels.
* `notification_turns`: each notification of a history gives a turn to the
  subscribers that are connected at its beginning, in the order in which they
  were connected, and calls those not dropped when their turn comes.
-/

namespace SimEngine

variable {G : Guest}

/-- What a request does to the subscribers of a channel. -/
def Request.channelChange (key : ChannelKey) :
    Request G → Option (Roll.Change (Listener G.Callback))
  | .connect channel callback =>
    if channel = key then some (.enter (.guest callback)) else none
  | .disconnect c => if c.channel = key then some (.leave c.id) else none
  | _ => none

/-- What a list of requests does to the subscribers of a channel. -/
def channelChanges (key : ChannelKey) (log : List (Occurrence G)) :
    List (Roll.Change (Listener G.Callback)) :=
  log.filterMap fun o => o.request.channelChange key

/--
The subscribers of a channel after a list of requests: those of before who were not dropped,
in their order, and behind them those who were connected meanwhile and not dropped since.
-/
def connectedAfter (channel : Channel (Listener G.Callback)) (key : ChannelKey)
    (log : List (Occurrence G)) : List (Subscriber (Listener G.Callback)) :=
  Roll.kept Subscriber.id channel.subscribers (channelChanges key log)
    ++ Roll.entered Subscriber.mk channel.nextId (channelChanges key log)

theorem performAt_channels
    (b : Behavior G) (spot : Spot G) (r : Request G) (env : Environment G)
    (hr : ∀ signal, r ≠ .emit signal) :
    (b.performAt spot r env).2.channels = r.onChannels env.channels := by
  obtain ⟨_, _, hafter⟩ := performAt_eq b spot r env hr
  rw [hafter]

@[simp] theorem tellLoop_channels (env : Environment G) (signal : Signal) :
    (env.tellLoop signal).channels = env.channels := by
  cases signal <;> rfl

theorem roll_onChannels
    (r : Request G) (cs : Channels (Listener G.Callback)) (key : ChannelKey) :
    ((r.onChannels cs).get key).roll =
      (r.channelChange key).toList.foldl (Roll.step Subscriber.id Subscriber.mk)
        (cs.get key).roll := by
  cases r with
  | connect channel callback =>
      simp only [Request.onChannels, Request.channelChange, Channels.get_connect]
      by_cases hkey : channel = key
      · subst hkey
        simp [Channel.roll_connect]
      · have hkey' : key ≠ channel := fun h => hkey h.symm
        simp [hkey, hkey']
  | disconnect c =>
      simp only [Request.onChannels, Request.channelChange, Channels.get_disconnect]
      by_cases hkey : c.channel = key
      · subst hkey
        simp [Channel.roll_disconnect]
      · have hkey' : key ≠ c.channel := fun h => hkey h.symm
        simp [hkey, hkey']
  | _ => rfl

theorem orderly_onChannels
    (r : Request G) {cs : Channels (Listener G.Callback)}
    (h : ∀ key, (cs.get key).Orderly) (key : ChannelKey) :
    ((r.onChannels cs).get key).Orderly := by
  cases r with
  | connect channel callback =>
      simp only [Request.onChannels, Channels.get_connect]
      split
      · exact (h channel).connect _
      · exact h key
  | disconnect c =>
      simp only [Request.onChannels, Channels.get_disconnect]
      split
      · exact (h key).disconnect c.id
      · exact h key
  | _ => exact h key

theorem knows_onChannels
    (r : Request G) {cs : Channels (Listener G.Callback)} {key : ChannelKey} {id : Nat}
    (hturn : (cs.get key).current ≠ some id) (h : (cs.get key).Knows id) :
    ((r.onChannels cs).get key).Knows id := by
  cases r with
  | connect channel callback =>
      simp only [Request.onChannels, Channels.get_connect]
      split
      · rename_i heq
        subst heq
        exact h.connect _
      · exact h
  | disconnect c =>
      simp only [Request.onChannels, Channels.get_disconnect]
      split
      · exact h.disconnect hturn c.id
      · exact h
  | _ => exact h

theorem current_onChannels
    (r : Request G) (cs : Channels (Listener G.Callback)) (key : ChannelKey) :
    ((r.onChannels cs).get key).current = (cs.get key).current := by
  cases r with
  | connect channel callback =>
      simp only [Request.onChannels, Channels.get_connect]
      split
      · rename_i heq
        subst heq
        rfl
      · rfl
  | disconnect c =>
      simp only [Request.onChannels, Channels.get_disconnect]
      split
      · exact Channel.current_disconnect _ c.id
      · rfl
  | _ => rfl

@[simp] theorem channelChanges_append (key : ChannelKey) (first second : List (Occurrence G)) :
    channelChanges key (first ++ second) = channelChanges key first ++ channelChanges key second :=
  List.filterMap_append

/-- No request of a list drops a subscriber if and only if no change does. -/
theorem dropsAny_channelChanges (c : Connection) (log : List (Occurrence G)) :
    Roll.dropsAny (channelChanges c.channel log) c.id = false ↔
      ∀ o ∈ log, o.request ≠ .disconnect c := by
  induction log with
  | nil =>
      simp [channelChanges]
  | cons o log ih =>
      have hsplit : channelChanges c.channel (o :: log) =
          (o.request.channelChange c.channel).toList ++ channelChanges c.channel log := by
        cases h : o.request.channelChange c.channel <;> simp [channelChanges, h]
      have hhead : Roll.dropsAny (o.request.channelChange c.channel).toList c.id = false ↔
          o.request ≠ .disconnect c := by
        cases o.request with
        | connect channel callback =>
            by_cases hkey : channel = c.channel <;>
              simp [Request.channelChange, hkey, Roll.Change.drops]
        | disconnect d =>
            by_cases hkey : d.channel = c.channel
            · cases c
              cases d
              simp_all [Request.channelChange, Roll.Change.drops]
            · have hne : d ≠ c := fun h => hkey (h ▸ rfl)
              simp [Request.channelChange, hkey, hne]
        | _ => simp [Request.channelChange]
      rw [hsplit, Roll.dropsAny_append, Bool.or_eq_false_iff, hhead, ih, List.forall_mem_cons]

section Laws

variable (b : Behavior G)

theorem rollLaw :
    TraceLaw b fun env L env' => ∀ key,
      (env'.channels.get key).roll =
        (channelChanges key L).foldl (Roll.step Subscriber.id Subscriber.mk)
          (env.channels.get key).roll where
  refl := fun _ _ => rfl
  trans := by
    intro e₁ L₁ e₂ L₂ e₃ h₁ h₂ key
    rw [h₂ key, h₁ key, channelChanges_append, List.foldl_append]
  request := by
    intro spot r env hr key
    rw [performAt_channels b spot r env hr, roll_onChannels]
    cases h : r.channelChange key <;> simp [channelChanges, h]
  emit := fun _ _ _ _ => rfl
  ensure := by
    intro key env other
    simp [channelChanges]
  tell := by
    intro signal env key
    simp [channelChanges]
  report := fun _ _ _ => rfl
  turnTo := by
    intro key current env other
    show ((env.channels.turnTo key current).get other).roll = _
    rw [Channels.get_turnTo]
    split
    · rename_i heq
      subst heq
      rfl
    · rfl

theorem orderlyLaw :
    TraceLaw b fun env _ env' =>
      (∀ key, (env.channels.get key).Orderly) → ∀ key, (env'.channels.get key).Orderly where
  refl := fun _ h => h
  trans := fun h₁ h₂ h => h₂ (h₁ h)
  request := by
    intro spot r env hr h key
    rw [performAt_channels b spot r env hr]
    exact orderly_onChannels r h key
  emit := fun _ _ _ h => h
  ensure := by
    intro key env h other
    show ((env.channels.ensure key).get other).Orderly
    rw [Channels.get_ensure]
    exact h other
  tell := by
    intro signal env h key
    rw [tellLoop_channels]
    exact h key
  report := fun _ _ h => h
  turnTo := by
    intro key current env h other
    show ((env.channels.turnTo key current).get other).Orderly
    rw [Channels.get_turnTo]
    split
    · exact (h key).turnTo current
    · exact h other

/--
A channel whose notification is in progress keeps the turn it has given, and forgets none of its
subscribers but the one whose turn it is.
-/
theorem turnLaw :
    RunLaw b fun spot env _ env' => ∀ key ∈ spot.busy,
      (env'.channels.get key).current = (env.channels.get key).current ∧
        ∀ id, (env.channels.get key).current ≠ some id →
          (env.channels.get key).Knows id → (env'.channels.get key).Knows id where
  refl := fun _ _ _ _ => ⟨rfl, fun _ _ h => h⟩
  trans := by
    intro spot e₁ L₁ e₂ L₂ e₃ h₁ h₂ key hkey
    obtain ⟨hcurrent₁, hknows₁⟩ := h₁ key hkey
    obtain ⟨hcurrent₂, hknows₂⟩ := h₂ key hkey
    refine ⟨hcurrent₂.trans hcurrent₁, ?_⟩
    intro id hturn h
    exact hknows₂ id (hcurrent₁ ▸ hturn) (hknows₁ id hturn h)
  request := by
    intro spot r env hr key _
    rw [performAt_channels b spot r env hr]
    exact ⟨current_onChannels r env.channels key, fun id hturn => knows_onChannels r hturn⟩
  emit := fun h => h
  ensure := by
    intro spot key env other _
    simp
  tell := by
    intro spot signal env key _
    simp
  report := fun _ _ _ _ _ => ⟨rfl, fun _ _ h => h⟩
  turn := by
    intro spot key remaining id env L env' hfree hturn other hother
    -- The turn is that of another channel.
    have hne : other ≠ key := fun h => hfree (h ▸ hother)
    have h := hturn other (List.mem_cons_of_mem key hother)
    have hbefore : (env.turnTo key (some id)).channels.get other = env.channels.get other := by
      show (env.channels.turnTo key (some id)).get other = _
      rw [Channels.get_turnTo, if_neg hne]
    have hafter : (env'.turnTo key none).channels.get other = env'.channels.get other := by
      show (env'.channels.turnTo key none).get other = _
      rw [Channels.get_turnTo, if_neg hne]
    rw [hbefore] at h
    rw [hafter]
    exact h

/-- The requests that a notification makes follow the request for it. -/
theorem nestedLaw :
    RunLaw b fun _ _ L _ => ∀ pre spot signal env post,
      L = pre ++ ⟨spot, .emit signal, env⟩ :: post → b.nested spot signal env <+: post where
  refl := by
    intro spot env pre spot' signal env' post hL
    simp at hL
  trans := by
    intro spot e₁ L₁ e₂ L₂ e₃ h₁ h₂ pre spot' signal env post hL
    rcases append_split hL with ⟨mid, hL₁, rfl⟩ | ⟨mid, -, hL₂⟩
    · exact (h₁ pre spot' signal env mid hL₁).trans (List.prefix_append mid L₂)
    · exact h₂ mid spot' signal env post hL₂
  request := by
    intro spot r env hr pre spot' signal env' post hL
    obtain ⟨_, ho⟩ := singleton_split hL
    injection ho with _ hrequest _
    exact absurd hrequest.symm (hr signal)
  emit := by
    intro spot signal env h pre spot' signal' env' post hL
    cases pre with
    | nil =>
        injection hL with ho hpost
        injection ho with hspot hrequest henv
        injection hrequest with hsignal
        subst hspot hsignal henv hpost
        exact List.prefix_refl _
    | cons o pre =>
        injection hL with _ hL
        exact h pre spot' signal' env' post hL
  ensure := by
    intro spot key env pre spot' signal env' post hL
    simp at hL
  tell := by
    intro spot signal env pre spot' signal' env' post hL
    simp at hL
  report := by
    intro spot notice env pre spot' signal env' post hL
    simp at hL
  turn := fun _ h => h

end Laws

/--
A turn is the call of its subscriber with what the notification carries, or it is no call and
leaves everything as it is.
-/
def Hearing.Faithful (b : Behavior G) (spot : Spot G) (signal : Signal) (h : Hearing G) : Prop :=
  match h.result with
  | none => h.after = h.before
  | some result => ∃ env,
      b.hear (spot.inside signal.channel (h.subscriber :: h.rest)) signal h.subscriber.callback
          (h.before.turnTo signal.channel (some h.subscriber.id)) = (result, env) ∧
        h.after = Behavior.heard signal h.subscriber.id (result, env)

theorem faithful_hearing
    (b : Behavior G) (spot : Spot G) (signal : Signal)
    (s : Subscriber (Listener G.Callback)) (rest : Snapshot G) (env : Environment G) :
    (b.hearing spot signal s rest env).Faithful b spot signal := by
  by_cases hmark : env.channels.isSilenced ⟨signal.channel, s.id⟩ = true
  · rw [hearing_of_silenced b spot signal s rest hmark]
    exact rfl
  · rw [hearing_of_not_silenced b spot signal s rest hmark rfl]
    exact ⟨_, rfl, rfl⟩

theorem eq_hearing_of_mem
    (b : Behavior G) (spot : Spot G) (signal : Signal) {snapshot : Snapshot G}
    {env : Environment G} {t : Hearing G} (ht : t ∈ b.hearingsOf spot signal snapshot env) :
    t = b.hearing spot signal t.subscriber t.rest t.before := by
  induction snapshot generalizing env with
  | nil =>
      simp [Behavior.hearingsOf] at ht
  | cons s rest ih =>
      rcases List.mem_cons.1 ht with rfl | ht
      · by_cases hmark : env.channels.isSilenced ⟨signal.channel, s.id⟩ = true
        · simp only [hearing_of_silenced b spot signal s rest hmark]
        · simp only [hearing_of_not_silenced b spot signal s rest hmark rfl]
      · exact ih ht

theorem called_hearing
    (b : Behavior G) (spot : Spot G) (signal : Signal)
    (s : Subscriber (Listener G.Callback)) (rest : Snapshot G) (env : Environment G) :
    (b.hearing spot signal s rest env).called = true ↔
      (env.channels.get signal.channel).isSilenced s.id = false := by
  by_cases hmark : env.channels.isSilenced ⟨signal.channel, s.id⟩ = true
  · have hmark' : (env.channels.get signal.channel).isSilenced s.id = true := hmark
    simp [hearing_of_silenced b spot signal s rest hmark, Hearing.called, hmark']
  · have hmark' : (env.channels.get signal.channel).isSilenced s.id = false :=
      Bool.eq_false_iff.2 hmark
    simp [hearing_of_not_silenced b spot signal s rest hmark rfl, Hearing.called, hmark']

/-- The turn of a subscriber makes its channel forget no other subscriber. -/
theorem knows_after_hearing
    (b : Behavior G) {spot : Spot G} {signal : Signal}
    (s : Subscriber (Listener G.Callback)) (rest : Snapshot G) {env : Environment G}
    (halive : env.orphaned = false) {id : Nat} (hne : id ≠ s.id)
    (hknows : (env.channels.get signal.channel).Knows id) :
    ((b.hearing spot signal s rest env).after.channels.get signal.channel).Knows id := by
  by_cases hmark : env.channels.isSilenced ⟨signal.channel, s.id⟩ = true
  · rw [hearing_of_silenced b spot signal s rest hmark]
    exact hknows
  · have halive' : (env.turnTo signal.channel (some s.id)).orphaned = false := halive
    have hbusy : signal.channel ∈ (spot.inside signal.channel (s :: rest)).busy :=
      List.mem_cons_self
    have hturned : (env.turnTo signal.channel (some s.id)).channels.get signal.channel =
        (env.channels.get signal.channel).turnTo (some s.id) := by
      show (env.channels.turnTo signal.channel (some s.id)).get signal.channel = _
      rw [Channels.get_turnTo, if_pos rfl]
    rcases hanswer : b.hear (spot.inside signal.channel (s :: rest)) signal s.callback
      (env.turnTo signal.channel (some s.id)) with ⟨result, env'⟩
    -- During the turn of `s` the channel forgets `s` at most.
    have hduring : (env'.channels.get signal.channel).Knows id := by
      have hlaw := ((turnLaw b).of_hear
        ((turnLaw b).of_notification (spot.inside signal.channel (s :: rest)))
        signal s.callback halive').1 signal.channel hbusy
      rw [hturned, hanswer] at hlaw
      refine hlaw.2 id ?_ hknows
      intro hturn
      exact hne (Option.some.inj hturn).symm
    rw [hearing_of_not_silenced b spot signal s rest hmark hanswer]
    have hended : ((env'.turnTo signal.channel none).channels.get signal.channel).Knows id := by
      show ((env'.channels.turnTo signal.channel none).get signal.channel).Knows id
      rw [Channels.get_turnTo, if_pos rfl]
      exact hduring
    cases result with
    | ok _ => exact hended
    | error reason => exact hended

/-- What the turns before one's own come to, for a subscriber whose turn is still to come. -/
def Awaits (key : ChannelKey) (id : Nat) (env : Environment G) (L : List (Occurrence G))
    (env' : Environment G) : Prop :=
  env.orphaned = false → (∀ key, (env.channels.get key).Orderly) →
    (env.channels.get key).Knows id →
    env'.orphaned = false ∧ (∀ key, (env'.channels.get key).Orderly) ∧
      (env'.channels.get key).Knows id ∧
      (env'.channels.get key).roll =
        (channelChanges key L).foldl (Roll.step Subscriber.id Subscriber.mk)
          (env.channels.get key).roll

theorem Awaits.refl (key : ChannelKey) (id : Nat) (env : Environment G) :
    Awaits key id env [] env :=
  fun halive horderly hknows => ⟨halive, horderly, hknows, rfl⟩

theorem Awaits.trans
    {key : ChannelKey} {id : Nat} {e₁ e₂ e₃ : Environment G} {L₁ L₂ : List (Occurrence G)}
    (h₁ : Awaits key id e₁ L₁ e₂) (h₂ : Awaits key id e₂ L₂ e₃) :
    Awaits key id e₁ (L₁ ++ L₂) e₃ := by
  intro halive horderly hknows
  obtain ⟨halive₂, horderly₂, hknows₂, hroll₂⟩ := h₁ halive horderly hknows
  obtain ⟨halive₃, horderly₃, hknows₃, hroll₃⟩ := h₂ halive₂ horderly₂ hknows₂
  refine ⟨halive₃, horderly₃, hknows₃, ?_⟩
  rw [hroll₃, hroll₂, channelChanges_append, List.foldl_append]

theorem awaits_hearing
    (b : Behavior G) {spot : Spot G} {signal : Signal} (hfree : signal.channel ∉ spot.busy)
    (s : Subscriber (Listener G.Callback)) (rest : Snapshot G) (env : Environment G)
    {id : Nat} (hne : id ≠ s.id) :
    Awaits signal.channel id env ((b.hearing spot signal s rest env).occurrences b spot signal)
      (b.hearing spot signal s rest env).after := by
  intro halive horderly hknows
  have hrolls := (rollLaw b).toRunLaw.of_hearing hfree
    (fun _ => (rollLaw b).toRunLaw.of_notification _) s rest halive
  have horders := (orderlyLaw b).toRunLaw.of_hearing hfree
    (fun _ => (orderlyLaw b).toRunLaw.of_notification _) s rest halive
  exact ⟨hrolls.2, horders.1 horderly, knows_after_hearing b s rest halive hne hknows,
    hrolls.1 signal.channel⟩

section Awaiting

variable (b : Behavior G) {spot : Spot G} {signal : Signal} {env last : Environment G}
variable {past rest : List (Hearing G)} {t : Hearing G}

/-- What the turns before one's own come to. -/
theorem awaits_past (hfree : signal.channel ∉ spot.busy)
    (hlinked : Linked Hearing.before Hearing.after env (past ++ t :: rest) last)
    (hturn : ∀ u ∈ past ++ t :: rest, u = b.hearing spot signal u.subscriber u.rest u.before)
    (hne : ∀ u ∈ past, t.subscriber.id ≠ u.subscriber.id) :
    Awaits signal.channel t.subscriber.id env
      (past.flatMap fun u => u.occurrences b spot signal) t.before := by
  refine Linked.relate (Awaits.refl _ _) Awaits.trans hlinked.split.1 ?_
  intro u hu
  have hu' := hturn u (List.mem_append_left _ hu)
  have hawaits := awaits_hearing b hfree u.subscriber u.rest u.before (hne u hu)
  rw [← hu'] at hawaits
  exact hawaits

/-- A subscriber that is connected at first is called if it is connected when its turn comes. -/
theorem called_iff_connected (hfree : signal.channel ∉ spot.busy) (halive : env.orphaned = false)
    (horderly : ∀ key, (env.channels.get key).Orderly)
    (hlinked : Linked Hearing.before Hearing.after env (past ++ t :: rest) last)
    (hturn : ∀ u ∈ past ++ t :: rest, u = b.hearing spot signal u.subscriber u.rest u.before)
    (hlisted : t.subscriber ∈ (env.channels.get signal.channel).subscribers)
    (hne : ∀ u ∈ past, t.subscriber.id ≠ u.subscriber.id) :
    t.called = true ↔
      (t.before.channels.get signal.channel).isConnected t.subscriber.id = true := by
  have hknows : (env.channels.get signal.channel).Knows t.subscriber.id :=
    Or.inl ((Channel.isConnected_iff _ _).2 ⟨t.subscriber, hlisted, rfl⟩)
  obtain ⟨_, horderly', hknows', _⟩ :=
    awaits_past b hfree hlinked hturn hne halive horderly hknows
  have hcalled := called_hearing b spot signal t.subscriber t.rest t.before
  rw [← hturn t (by simp)] at hcalled
  rw [hcalled]
  exact (horderly' signal.channel).isSilenced_eq_false_iff hknows'

/-- A subscriber that is connected at first is called unless an earlier turn drops it. -/
theorem called_iff_not_dropped (hfree : signal.channel ∉ spot.busy) (halive : env.orphaned = false)
    (horderly : ∀ key, (env.channels.get key).Orderly)
    (hlinked : Linked Hearing.before Hearing.after env (past ++ t :: rest) last)
    (hturn : ∀ u ∈ past ++ t :: rest, u = b.hearing spot signal u.subscriber u.rest u.before)
    (hlisted : t.subscriber ∈ (env.channels.get signal.channel).subscribers)
    (hne : ∀ u ∈ past, t.subscriber.id ≠ u.subscriber.id) :
    t.called = true ↔ ∀ o ∈ past.flatMap fun u => u.occurrences b spot signal,
      o.request ≠ .disconnect ⟨signal.channel, t.subscriber.id⟩ := by
  have hknows : (env.channels.get signal.channel).Knows t.subscriber.id :=
    Or.inl ((Channel.isConnected_iff _ _).2 ⟨t.subscriber, hlisted, rfl⟩)
  obtain ⟨_, _, _, hroll⟩ := awaits_past b hfree hlinked hturn hne halive horderly hknows
  have hlt : t.subscriber.id < (env.channels.get signal.channel).nextId :=
    (horderly signal.channel).listed_lt t.subscriber hlisted
  have hsubscribers := congrArg Prod.snd hroll
  calc t.called = true
      ↔ (t.before.channels.get signal.channel).isConnected t.subscriber.id = true :=
        called_iff_connected b hfree halive horderly hlinked hturn hlisted hne
    _ ↔ ∃ s ∈ (t.before.channels.get signal.channel).subscribers, s.id = t.subscriber.id :=
        Channel.isConnected_iff _ _
    _ ↔ Roll.dropsAny (channelChanges signal.channel
          (past.flatMap fun u => u.occurrences b spot signal)) t.subscriber.id = false := by
        have hmem : (t.before.channels.get signal.channel).subscribers = _ := hsubscribers
        rw [hmem, Channel.roll, Roll.mem_foldl_step_iff (fun _ _ => rfl) hlt]
        exact ⟨And.right, fun h => ⟨⟨t.subscriber, hlisted, rfl⟩, h⟩⟩
    _ ↔ _ := dropsAny_channelChanges ⟨signal.channel, t.subscriber.id⟩ _

end Awaiting

/-- The channels that requests notify. -/
def emitted (log : List (Occurrence G)) : List ChannelKey :=
  log.filterMap fun o =>
    match o.request with
    | .emit signal => some signal.channel
    | _ => none

/--
At each request the notifications in progress are of different channels, each one of `base` or
notified by one of the requests.
-/
structure Rooted (base : List ChannelKey) (log : List (Occurrence G)) : Prop where
  nodup : ∀ o ∈ log, o.spot.busy.Nodup
  rooted : ∀ o ∈ log, ∀ key ∈ o.spot.busy, key ∈ base ∨ key ∈ emitted log

namespace Rooted

variable {base : List ChannelKey}

theorem nil : Rooted base ([] : List (Occurrence G)) := by
  constructor
  · intro o ho
    cases ho
  · intro o ho
    cases ho

theorem append
    {first second : List (Occurrence G)} (h₁ : Rooted base first) (h₂ : Rooted base second) :
    Rooted base (first ++ second) := by
  have hemitted : emitted (first ++ second) = emitted first ++ emitted second :=
    List.filterMap_append
  constructor
  · intro o ho
    exact (List.mem_append.1 ho).elim (h₁.nodup o) (h₂.nodup o)
  · intro o ho key hkey
    rw [hemitted, List.mem_append]
    rcases List.mem_append.1 ho with ho | ho
    · exact (h₁.rooted o ho key hkey).imp_right Or.inl
    · exact (h₂.rooted o ho key hkey).imp_right Or.inr

theorem flatMap
    {ι : Type} {items : List ι} {log : ι → List (Occurrence G)}
    (h : ∀ x ∈ items, Rooted base (log x)) : Rooted base (items.flatMap log) := by
  induction items with
  | nil =>
      exact nil
  | cons x rest ih =>
      exact (h x List.mem_cons_self).append (ih fun y hy => h y (List.mem_cons_of_mem x hy))

theorem request {spot : Spot G} (hnodup : spot.busy.Nodup) (r : Request G) (env : Environment G) :
    Rooted spot.busy [⟨spot, r, env⟩] := by
  constructor
  · intro o ho
    rw [List.mem_singleton.1 ho]
    exact hnodup
  · intro o ho key hkey
    rw [List.mem_singleton.1 ho] at hkey
    exact Or.inl hkey

theorem emit
    {spot : Spot G} (hnodup : spot.busy.Nodup) {signal : Signal} {env : Environment G}
    {log : List (Occurrence G)} (h : Rooted (signal.channel :: spot.busy) log) :
    Rooted spot.busy (⟨spot, .emit signal, env⟩ :: log) := by
  constructor
  · intro o ho
    rcases List.mem_cons.1 ho with rfl | ho
    · exact hnodup
    · exact h.nodup o ho
  · intro o ho key hkey
    rcases List.mem_cons.1 ho with rfl | ho
    · exact Or.inl hkey
    · have hemitted : emitted (⟨spot, .emit signal, env⟩ :: log) =
          signal.channel :: emitted log := rfl
      rw [hemitted, List.mem_cons]
      rcases h.rooted o ho key hkey with hbase | hlog
      · rcases List.mem_cons.1 hbase with hnotified | hbase
        · exact Or.inr (Or.inl hnotified)
        · exact Or.inl hbase
      · exact Or.inr (Or.inr hlog)

end Rooted

theorem rooted_occurrencesWith
    (b : Behavior G) {spot : Spot G} (hnodup : spot.busy.Nodup)
    {nested : Signal → Environment G → List (Occurrence G)}
    (hnested : ∀ signal env, Rooted (signal.channel :: spot.busy) (nested signal env))
    {α : Type} (p : Program G α) (env : Environment G) :
    Rooted spot.busy (p.occurrencesWith b spot nested env) := by
  induction p generalizing env with
  | done a =>
      exact .nil
  | fail f =>
      exact .nil
  | panic m =>
      exact .nil
  | ask r next ih =>
      have hhead : Rooted spot.busy (⟨spot, r, env⟩ :: r.within nested env) := by
        cases r with
        | emit signal =>
            exact .emit hnodup (hnested signal env)
        | _ => exact .request hnodup _ env
      exact hhead.append (ih _ _)

theorem rooted_occurrencesIn
    (b : Behavior G) (room : Nat) {spot : Spot G} (hnodup : spot.busy.Nodup) (signal : Signal)
    (env : Environment G) :
    Rooted (signal.channel :: spot.busy) (b.occurrencesIn room spot signal env) := by
  induction room generalizing spot signal env with
  | zero =>
      exact .nil
  | succ room ih =>
      rw [Behavior.occurrencesIn]
      split
      · exact .nil
      · rename_i hfree
        refine Rooted.flatMap fun h _ => ?_
        have hinside : ∀ remaining, (spot.inside signal.channel remaining).busy.Nodup :=
          fun remaining => List.nodup_cons.2 ⟨hfree, hnodup⟩
        unfold Hearing.occurrencesWith
        split
        · exact rooted_occurrencesWith b (hinside _) (fun signal env => ih (hinside _) signal env)
            _ _
        · exact .nil

/--
**There is room for a notification** of a channel that is not being notified, if as many may be
in progress at once as the history notifies channels.
-/
theorem room_of_emitted
    (b : Behavior G) {α : Type} (p : Program G α) (access : Access) (env : Environment G)
    {channels : List ChannelKey} (hdepth : channels.length ≤ b.depth)
    (hchannels : emitted (b.occurrences (.top access) p env) ⊆ channels)
    {spot : Spot G} {signal : Signal} {start : Environment G}
    (hemit : ⟨spot, .emit signal, start⟩ ∈ b.occurrences (.top access) p env)
    (hfree : signal.channel ∉ spot.busy) : spot.stack.length < b.depth := by
  have htop : (Spot.top access : Spot G).busy.Nodup := List.nodup_nil
  have hrooted : Rooted [] (b.occurrences (.top access) p env) :=
    rooted_occurrencesWith b htop (fun signal env => rooted_occurrencesIn b _ htop signal env) p env
  have hnodup : (signal.channel :: spot.busy).Nodup :=
    List.nodup_cons.2 ⟨hfree, hrooted.nodup _ hemit⟩
  have hsubset : signal.channel :: spot.busy ⊆ channels := by
    refine List.cons_subset.2 ⟨hchannels (List.mem_filterMap.2 ⟨_, hemit, rfl⟩), ?_⟩
    intro key hkey
    rcases hrooted.rooted _ hemit key hkey with hnone | hkey
    · cases hnone
    · exact hchannels hkey
  have hlength := hnodup.length_le_of_subset hsubset
  rw [List.length_cons, Spot.busy, List.length_map] at hlength
  omega

/--
**Who is called in a notification.**  Let as many notifications be possible at once as a history
notifies channels.  Wherever it makes a notification that does not run into one of the same
channel, the turns go to the subscribers connected before, each once and in the order in which
they were connected; one is called if and only if no request of an earlier turn drops it; and the
answer is the number of those that returned normally.
-/
theorem notification_turns
    (b : Behavior G) {α : Type} (p : Program G α) (access : Access) {env : Environment G}
    (halive : env.orphaned = false) (hformed : env.channels.Formed)
    {channels : List ChannelKey} (hdepth : channels.length ≤ b.depth)
    (hchannels : emitted (b.occurrences (.top access) p env) ⊆ channels)
    {pre post : List (Occurrence G)} {spot : Spot G} {signal : Signal} {start : Environment G}
    (hlog : b.occurrences (.top access) p env = pre ++ ⟨spot, .emit signal, start⟩ :: post)
    (hfree : signal.channel ∉ spot.busy) :
    ∃ turns : List (Hearing G),
      turns.map Hearing.subscriber =
        connectedAfter (env.channels.get signal.channel) signal.channel pre ∧
      (turns.map fun t => t.subscriber.id).Pairwise (· < ·) ∧
      Linked Hearing.before Hearing.after
        { start with channels := start.channels.ensure signal.channel } turns
        (b.performAt spot (.emit signal) start).2 ∧
      (turns.flatMap fun t => t.occurrences b spot signal) <+: post ∧
      (b.performAt spot (.emit signal) start).1 = turns.countP Hearing.returned ∧
      ∀ past t rest, turns = past ++ t :: rest →
        t.Faithful b spot signal ∧
        (t.called = true ↔ ∀ o ∈ past.flatMap fun u => u.occurrences b spot signal,
          o.request ≠ .disconnect ⟨signal.channel, t.subscriber.id⟩) := by
  have hemit : (⟨spot, .emit signal, start⟩ : Occurrence G) ∈
      b.occurrences (.top access) p env := by
    rw [hlog]
    simp
  have hroom : spot.stack.length < b.depth :=
    room_of_emitted b p access env hdepth hchannels hemit hfree
  have halive' : start.orphaned = false :=
    ((growLaw b).before (.top access) p halive hlog).alive halive
  have horderly : ∀ key, (start.channels.get key).Orderly :=
    (orderlyLaw b).before (.top access) p halive hlog hformed.orderly
  have hroll := (rollLaw b).before (.top access) p halive hlog signal.channel
  have hanswer := emitAt_eq b halive' hfree hroom
  generalize hstart : ({ start with channels := start.channels.ensure signal.channel } :
    Environment G) = start' at hanswer ⊢
  have halive'' : start'.orphaned = false := by
    rw [← hstart]
    exact halive'
  have hget : ∀ key, start'.channels.get key = start.channels.get key := by
    intro key
    rw [← hstart]
    exact Channels.get_ensure start.channels signal.channel key
  have horderly' : ∀ key, (start'.channels.get key).Orderly := by
    intro key
    rw [hget key]
    exact horderly key
  have hturns : b.hearings spot signal start = b.hearingsOf spot signal
      (start'.channels.get signal.channel).subscribers start' := by
    rw [← hstart]
    rfl
  have hsubscribers : (b.hearings spot signal start).map Hearing.subscriber =
      (start.channels.get signal.channel).subscribers := by
    rw [hturns, map_subscriber_hearingsOf, hget]
  have hlinked : Linked Hearing.before Hearing.after start' (b.hearings spot signal start)
      (lastOf Hearing.after start' (b.hearings spot signal start)) := by
    rw [hturns]
    exact linked_hearingsOf b spot signal _ start'
  have hascending : ((b.hearings spot signal start).map fun t => t.subscriber.id).Pairwise
      (· < ·) := by
    have := (horderly signal.channel).ascending
    rw [← hsubscribers, List.map_map] at this
    exact this
  refine ⟨b.hearings spot signal start, ?_, hascending, ?_, ?_, ?_, ?_⟩
  · rw [hsubscribers]
    exact (congrArg Prod.snd hroll).trans (Roll.foldl_step (fun _ _ => rfl) _ _ _)
  · show Linked _ _ _ _ (b.emitAt spot signal start).2
    rw [hanswer]
    exact hlinked
  · rw [← nested_eq b start hroom hfree]
    exact (nestedLaw b).run (.top access) p halive pre spot signal start post hlog
  · show (b.emitAt spot signal start).1 = _
    rw [hanswer]
  · intro past t rest hsplit
    have hturn : ∀ u ∈ past ++ t :: rest,
        u = b.hearing spot signal u.subscriber u.rest u.before := by
      intro u hu
      rw [← hsplit, hturns] at hu
      exact eq_hearing_of_mem b spot signal hu
    have ht := hturn t (by simp)
    constructor
    · rw [ht]
      exact faithful_hearing b spot signal t.subscriber t.rest t.before
    · have hlisted : t.subscriber ∈ (start'.channels.get signal.channel).subscribers := by
        rw [hget, ← hsubscribers, hsplit]
        exact List.mem_map_of_mem (by simp)
      have hlate : ∀ u ∈ past, t.subscriber.id ≠ u.subscriber.id := by
        intro u hu
        rw [hsplit, List.map_append, List.pairwise_append] at hascending
        have hlt : u.subscriber.id < t.subscriber.id :=
          hascending.2.2 _ (List.mem_map_of_mem hu) _ List.mem_cons_self
        omega
      rw [hsplit] at hlinked
      exact called_iff_not_dropped b hfree halive'' horderly' hlinked hturn hlisted hlate

namespace Puppets

/-- The first callback drops the second subscriber of a channel, the second one panics. -/
def bells : Behavior puppets :=
  { idle with
    onSignal := fun callback signal =>
      match callback with
      | 0 => Program.disconnect ⟨signal.channel, 2⟩
      | 1 => .panic .other
      | _ => .done () }

/-- Connects three callbacks and notifies them. -/
def ring : Program puppets Nat := do
  let _ ← Program.connect (.standalone 0) 0
  let _ ← Program.connect (.standalone 0) 2
  let _ ← Program.connect (.standalone 0) 1
  Program.emit (.standalone 0 7)

/-- The requests up to the notification. -/
def rung : List (Occurrence puppets) :=
  (bells.occurrences (.top .none) ring (.initial 0)).take 3

/-- The environment in which the notification begins. -/
def ringing : Environment puppets :=
  (bells.runAt (.top .none) (do
    let _ ← Program.connect (.standalone 0) 0
    let _ ← Program.connect (.standalone 0) 2
    Program.connect (.standalone 0) 1) (.initial 0)).2

end Puppets

theorem notification_turns_bells :
    (Environment.initial 0 : Environment puppets).orphaned = false ∧
      ∃ turns : List (Hearing puppets),
        turns.map Hearing.subscriber =
          [⟨1, .guest (0 : Nat)⟩, ⟨2, .guest (2 : Nat)⟩, ⟨3, .guest (1 : Nat)⟩] ∧
        turns.countP Hearing.returned = 1 := by
  obtain ⟨turns, hsubscribers, _, _, _, hcount, _⟩ :=
    notification_turns Puppets.bells Puppets.ring .none rfl .unused
      (show [ChannelKey.standalone 0].length ≤ 4 by decide)
      (show emitted (Puppets.bells.occurrences (.top .none) Puppets.ring (.initial 0)) ⊆
        [ChannelKey.standalone 0] from fun _ hkey => hkey)
      (show Puppets.bells.occurrences (.top .none) Puppets.ring (.initial 0) =
        Puppets.rung ++ ⟨.top .none, .emit (.standalone 0 7), Puppets.ringing⟩ ::
          [⟨_, _, _⟩] from rfl)
      (by decide)
  have hanswer :
      (Puppets.bells.performAt (.top .none) (.emit (.standalone 0 7)) Puppets.ringing).1 =
        (1 : Nat) := rfl
  exact ⟨rfl, turns, hsubscribers, hcount.symm.trans hanswer⟩

end SimEngine
