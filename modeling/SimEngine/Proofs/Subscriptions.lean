import SimEngine.Proofs.Notifications

/-!
# Subscriptions

A history connects callbacks to channels, drops connections and notifies, and
so do the callbacks that it runs into, notifications within notifications.
The channels keep no more than what stands: a subscription that was made and not
dropped since.  Whoever has dropped one is not called on its behalf again, even
if it did so during its own turn, when its mark could not be set.

**Definitions.**
* `Subscription`, `Occurrence.made?`: what a request to connect makes.
* `standing`: the subscriptions that a list of requests makes and does not drop.
* `DroppedIn`: a connection is made and dropped later.
* `Subscribed`: channels in which nothing but what stands is subscribed.

**Results.**
* `standingLaw`: the subscribers of a channel are what stands there.
* `numberingLaw`: the subscriptions of a channel are numbered in their order.
* `apartLaw`: what is done to other channels leaves a channel as it is.
* `not_standing_of_dropped`: what was dropped never stands again.
* `called_iff_standing`: who has a turn is called if its subscription still stands.
* `subscriptions_stand`: all this at every point of a history.
-/

namespace SimEngine

variable {G : Guest}

/-- A subscription: its connection, and who is called. -/
structure Subscription (G : Guest) where
  connection : Connection
  callback : G.Callback

/-- The subscriber that a channel has for a subscription. -/
def Subscription.subscriber (s : Subscription G) : Subscriber (Listener G.Callback) :=
  ⟨s.connection.id, .guest s.callback⟩

/-- Whether a subscription is to a channel. -/
def Subscription.isTo (key : ChannelKey) (s : Subscription G) : Bool :=
  s.connection.channel = key

/-- Whether a request drops a connection. -/
def Request.drops (c : Connection) : Request G → Bool
  | .disconnect other => other = c
  | _ => false

/-- Whether a list of requests drops a connection. -/
def dropsIn (log : List (Occurrence G)) (c : Connection) : Bool :=
  log.any fun o => o.request.drops c

/-- The subscription that a request makes. -/
def Occurrence.made? (o : Occurrence G) : Option (Subscription G) :=
  match o.request with
  | .connect key callback => some ⟨(o.env.channels.connect key (.guest callback)).1, callback⟩
  | _ => none

/-- The subscriptions that a list of requests makes, the first one first. -/
def madeIn (log : List (Occurrence G)) : List (Subscription G) :=
  log.filterMap Occurrence.made?

/-- The subscriptions that a list of requests makes and does not drop since, in their order. -/
def standing : List (Occurrence G) → List (Subscription G)
  | [] => []
  | o :: rest => o.made?.toList.filter (fun s => !dropsIn rest s.connection) ++ standing rest

/-- The subscribers of a channel, if nothing but what stands is subscribed. -/
def standingOn (key : ChannelKey) (log : List (Occurrence G)) :
    List (Subscriber (Listener G.Callback)) :=
  ((standing log).filter (·.isTo key)).map Subscription.subscriber

/-- The numbers of the subscriptions to a channel that a list of requests makes. -/
def numbersOn (key : ChannelKey) (log : List (Occurrence G)) : List Nat :=
  ((madeIn log).filter (·.isTo key)).map (·.connection.id)

/-- A list of requests makes a connection and drops it later. -/
def DroppedIn (log : List (Occurrence G)) (c : Connection) : Prop :=
  ∃ past o rest s, log = past ++ o :: rest ∧ s ∈ madeIn past ∧ s.connection = c ∧
    o.request = .disconnect c

/--
Nothing but what stands is subscribed: the connections of a channel are counted and listed in the
order in which they were made, no two with one number, and those are connected that stand.
-/
structure Subscribed (log : List (Occurrence G)) (cs : Channels (Listener G.Callback)) :
    Prop where
  listed : ∀ key, (cs.get key).subscribers = standingOn key log
  counted : ∀ key, cs.connectionCount key = (standing log).countP (·.isTo key)
  connected : ∀ c, cs.isConnected c = true ↔ ∃ s ∈ standing log, s.connection = c
  ascending : ∀ key, (((standing log).filter (·.isTo key)).map (·.connection.id)).Pairwise (· < ·)

section Standing

@[simp] theorem dropsIn_append (first second : List (Occurrence G)) (c : Connection) :
    dropsIn (first ++ second) c = (dropsIn first c || dropsIn second c) :=
  List.any_append

theorem standing_append (first second : List (Occurrence G)) :
    standing (first ++ second) =
      (standing first).filter (fun s => !dropsIn second s.connection) ++ standing second := by
  induction first with
  | nil =>
      rfl
  | cons o rest ih =>
      rw [List.cons_append, standing, standing, ih, List.filter_append, List.filter_filter,
        List.append_assoc]
      simp only [dropsIn_append, Bool.not_or, Bool.and_comm]

theorem standingOn_append (key : ChannelKey) (first second : List (Occurrence G)) :
    standingOn key (first ++ second) =
      (standingOn key first).filter (fun s => !dropsIn second ⟨key, s.id⟩) ++
        standingOn key second := by
  rw [standingOn, standing_append, List.filter_append, List.map_append]
  refine congrArg (· ++ standingOn key second) ?_
  rw [standingOn, List.filter_map, List.filter_filter, List.filter_filter]
  refine congrArg (List.map Subscription.subscriber) (List.filter_congr fun s _ => ?_)
  cases hto : s.isTo key with
  | false =>
      simp
  | true =>
      have hkey : s.connection.channel = key := of_decide_eq_true hto
      have hconnection : s.connection = ⟨key, s.connection.id⟩ := by rw [← hkey]
      rw [Bool.true_and, Bool.and_true, hconnection]
      rfl

theorem mem_madeIn_of_mem_standing {log : List (Occurrence G)} {s : Subscription G}
    (h : s ∈ standing log) : s ∈ madeIn log := by
  induction log with
  | nil =>
      cases h
  | cons o rest ih =>
      rw [standing, List.mem_append, List.mem_filter, Option.mem_toList] at h
      rw [madeIn, List.filterMap_cons]
      rcases h with ⟨hmade, -⟩ | hlater
      · rw [hmade]
        exact List.mem_cons_self
      · have hmem := ih hlater
        split
        · exact hmem
        · exact List.mem_cons_of_mem _ hmem

theorem numbersOn_append (key : ChannelKey) (first second : List (Occurrence G)) :
    numbersOn key (first ++ second) = numbersOn key first ++ numbersOn key second := by
  rw [numbersOn, madeIn, List.filterMap_append, List.filter_append, List.map_append]
  rfl

theorem mem_numbersOn {log : List (Occurrence G)} {s : Subscription G} (h : s ∈ madeIn log) :
    s.connection.id ∈ numbersOn s.connection.channel log :=
  List.mem_map_of_mem (List.mem_filter.2 ⟨h, decide_eq_true rfl⟩)

end Standing

section Laws

variable (b : Behavior G)

/-- **The subscribers of a channel are those of before who were not dropped, and what stands.** -/
theorem standingLaw :
    TraceLaw b fun env L env' => ∀ key,
      (env'.channels.get key).subscribers =
        (env.channels.get key).subscribers.filter (fun s => !dropsIn L ⟨key, s.id⟩) ++
          standingOn key L where
  refl := by
    intro env key
    simp [dropsIn, standingOn, standing]
  trans := by
    intro e₁ L₁ e₂ L₂ e₃ h₁ h₂ key
    rw [h₂ key, h₁ key, standingOn_append, List.filter_append, List.filter_filter,
      List.append_assoc]
    simp only [dropsIn_append, Bool.not_or, Bool.and_comm]
  request := by
    intro spot r env hr key
    rw [performAt_channels b spot r env hr]
    cases r with
    | connect channel callback =>
        rw [Request.onChannels, Channels.get_connect]
        by_cases hkey : key = channel
        · subst hkey
          simp [Channel.connect, Channels.connect, dropsIn, Request.drops, standingOn, standing,
            Occurrence.made?, Subscription.isTo, Subscription.subscriber]
        · have hkey' : channel ≠ key := fun h => hkey h.symm
          simp [Channels.connect, dropsIn, Request.drops, standingOn, standing,
            Occurrence.made?, Subscription.isTo, hkey, hkey']
    | disconnect c =>
        rw [Request.onChannels, Channels.get_disconnect]
        by_cases hkey : key = c.channel
        · subst hkey
          have hfilter := congrArg Prod.snd
            (Channel.roll_disconnect (env.channels.get c.channel) c.id)
          simp only [Channel.roll, Roll.step] at hfilter
          rw [if_pos rfl, hfilter]
          simp only [standingOn, standing, Occurrence.made?, Option.toList_none, List.filter_nil,
            List.append_nil, List.map_nil]
          refine List.filter_congr fun s _ => ?_
          have hsame : c = ⟨c.channel, s.id⟩ ↔ s.id = c.id :=
            ⟨fun h => (congrArg Connection.id h).symm, fun h => by rw [h]⟩
          simp [dropsIn, Request.drops, hsame, bne, beq_eq_decide]
        · have hne : ∀ s : Subscriber (Listener G.Callback), c ≠ ⟨key, s.id⟩ :=
            fun s h => hkey (h ▸ rfl)
          simp [hkey, dropsIn, Request.drops, standingOn, standing, Occurrence.made?, hne]
    | _ => simp [Request.onChannels, dropsIn, Request.drops, standingOn, standing, Occurrence.made?]
  emit := by
    intro spot signal env key
    simp [dropsIn, Request.drops, standingOn, standing, Occurrence.made?]
  ensure := by
    intro key env other
    simp [dropsIn, standingOn, standing]
  tell := by
    intro signal env key
    simp [dropsIn, standingOn, standing]
  report := by
    intro notice env key
    simp [Environment.report, dropsIn, standingOn, standing]
  turnTo := by
    intro key current env other
    have hsame := congrArg Prod.snd ((rollLaw b).turnTo key current env other)
    simp only [channelChanges, List.filterMap_nil, List.foldl_nil, Channel.roll] at hsame
    rw [hsame]
    simp [dropsIn, standingOn, standing]

/-- **The subscriptions of a channel are numbered in the order in which they are made.** -/
theorem numberingLaw :
    TraceLaw b fun env L env' => ∀ key,
      numbersOn key L = List.range' (env.channels.get key).nextId (numbersOn key L).length ∧
        (env'.channels.get key).nextId =
          (env.channels.get key).nextId + (numbersOn key L).length where
  refl := fun _ _ => ⟨rfl, rfl⟩
  trans := by
    intro e₁ L₁ e₂ L₂ e₃ h₁ h₂ key
    obtain ⟨hnumbers₁, hnext₁⟩ := h₁ key
    obtain ⟨hnumbers₂, hnext₂⟩ := h₂ key
    rw [hnext₁] at hnumbers₂ hnext₂
    rw [numbersOn_append, List.length_append]
    refine ⟨?_, by rw [hnext₂, Nat.add_assoc]⟩
    rw [← List.range'_append_1, ← hnumbers₁, ← hnumbers₂]
  request := by
    intro spot r env hr key
    rw [performAt_channels b spot r env hr]
    cases r with
    | connect channel callback =>
        rw [Request.onChannels, Channels.get_connect]
        by_cases hkey : key = channel
        · subst hkey
          simp [numbersOn, madeIn, Occurrence.made?, Subscription.isTo, Channels.connect,
            Channel.connect, List.range'_one]
        · have hkey' : channel ≠ key := fun h => hkey h.symm
          simp [numbersOn, madeIn, Occurrence.made?, Subscription.isTo, Channels.connect, hkey,
            hkey']
    | disconnect c =>
        have hnext := congrArg Prod.fst (roll_onChannels (.disconnect c) env.channels key)
        refine ⟨rfl, ?_⟩
        show _ = (env.channels.get key).nextId + 0
        by_cases hkey : c.channel = key <;>
          simpa [Request.channelChange, hkey, Channel.roll, Roll.step] using hnext
    | _ => exact ⟨rfl, rfl⟩
  emit := fun _ _ _ _ => ⟨rfl, rfl⟩
  ensure := by
    intro key env other
    simp [numbersOn, madeIn]
  tell := by
    intro signal env key
    simp [numbersOn, madeIn]
  report := fun _ _ _ => ⟨rfl, rfl⟩
  turnTo := by
    intro key current env other
    have hsame := congrArg Prod.fst ((rollLaw b).turnTo key current env other)
    simp only [channelChanges, List.filterMap_nil, List.foldl_nil, Channel.roll] at hsame
    rw [hsame]
    exact ⟨rfl, rfl⟩

/--
**What is done to other channels leaves a channel as it is**: its subscribers, their order, their
marks and the next number.
-/
theorem apartLaw :
    TraceLaw b fun env L env' => ∀ key, channelChanges key L = [] →
      (env'.channels.get key).turnTo none = (env.channels.get key).turnTo none where
  refl := fun _ _ _ => rfl
  trans := by
    intro e₁ L₁ e₂ L₂ e₃ h₁ h₂ key hnone
    rw [channelChanges_append, List.append_eq_nil_iff] at hnone
    rw [h₂ key hnone.2, h₁ key hnone.1]
  request := by
    intro spot r env hr key hnone
    rw [performAt_channels b spot r env hr]
    cases r with
    | connect channel callback =>
        have hkey : key ≠ channel := by
          rintro rfl
          simp [channelChanges, Request.channelChange] at hnone
        rw [Request.onChannels, Channels.get_connect, if_neg hkey]
    | disconnect c =>
        have hkey : key ≠ c.channel := by
          rintro rfl
          simp [channelChanges, Request.channelChange] at hnone
        rw [Request.onChannels, Channels.get_disconnect, if_neg hkey]
    | _ => rfl
  emit := fun _ _ _ _ _ => rfl
  ensure := by
    intro key env other _
    simp
  tell := by
    intro signal env key _
    simp
  report := fun _ _ _ _ => rfl
  turnTo := by
    intro key current env other _
    show ((env.channels.turnTo key current).get other).turnTo none = _
    rw [Channels.get_turnTo]
    split
    · rename_i heq
      subst heq
      rfl
    · rfl

end Laws

section Points

variable {b : Behavior G} {α : Type} {p : Program G α} {access : Access}
variable {env : Environment G}

/-- A connection stands if and only if it is connected. -/
theorem connected_iff_listed (cs : Channels (Listener G.Callback)) (c : Connection) :
    cs.isConnected c = true ↔ ∃ s ∈ (cs.get c.channel).subscribers, s.id = c.id := by
  rw [← Channel.isConnected_iff]
  unfold Channels.isConnected Channels.get
  cases OrderedMap.find? cs c.channel with
  | none =>
      rfl
  | some channel =>
      rfl

theorem exists_standingOn_iff (log : List (Occurrence G)) (c : Connection) :
    (∃ s ∈ standingOn c.channel log, s.id = c.id) ↔ ∃ s ∈ standing log, s.connection = c := by
  constructor
  · rintro ⟨subscriber, hmem, hid⟩
    obtain ⟨s, hs, rfl⟩ := List.mem_map.1 hmem
    obtain ⟨hstands, hto⟩ := List.mem_filter.1 hs
    have hchannel : s.connection.channel = c.channel := of_decide_eq_true hto
    refine ⟨s, hstands, ?_⟩
    cases c
    rw [Connection.mk.injEq]
    exact ⟨hchannel, hid⟩
  · rintro ⟨s, hstands, rfl⟩
    exact ⟨s.subscriber, List.mem_map_of_mem
      (List.mem_filter.2 ⟨hstands, decide_eq_true rfl⟩), rfl⟩

/-- What stands is what is subscribed, and nothing else. -/
theorem subscribed_of_listed {log : List (Occurrence G)} {cs : Channels (Listener G.Callback)}
    (hlisted : ∀ key, (cs.get key).subscribers = standingOn key log)
    (horderly : ∀ key, (cs.get key).Orderly) : Subscribed log cs where
  listed := hlisted
  counted key := by
    rw [Channels.connectionCount, hlisted, standingOn, List.length_map,
      List.countP_eq_length_filter]
  connected c := by
    rw [connected_iff_listed, hlisted, exists_standingOn_iff]
  ascending key := by
    have hascending := (horderly key).ascending
    rwa [hlisted, standingOn, List.map_map] at hascending

variable {past : List (Occurrence G)} {now : Environment G}

theorem subscribed_at_point (halive : env.orphaned = false) (hunused : env.channels = ∅)
    (h : Point b (.top access) p env past now) : Subscribed past now.channels := by
  have hformed : env.channels.Formed := by
    rw [hunused]
    exact .unused
  refine subscribed_of_listed (fun key => ?_)
    ((orderlyLaw b).at_point halive h hformed.orderly)
  have hlisted := (standingLaw b).at_point halive h key
  rwa [hunused, Channels.get_unused, Channel.empty, List.filter_nil, List.nil_append] at hlisted

/-- The subscriptions to a channel that a history makes are numbered from one. -/
theorem numbersOn_at_point (halive : env.orphaned = false) (hunused : env.channels = ∅)
    (h : Point b (.top access) p env past now) (key : ChannelKey) :
    numbersOn key past = List.range' 1 (numbersOn key past).length := by
  have hnumbers := ((numberingLaw b).at_point halive h key).1
  rwa [hunused, Channels.get_unused] at hnumbers

/-- No number is given out twice on a channel. -/
theorem nodup_numbersOn (halive : env.orphaned = false) (hunused : env.channels = ∅)
    (h : past <+: b.occurrences (.top access) p env) (key : ChannelKey) :
    (numbersOn key past).Nodup := by
  obtain ⟨rest, hlog⟩ := h
  have hall : (numbersOn key (b.occurrences (.top access) p env)).Nodup := by
    rw [numbersOn_at_point halive hunused .finish key]
    exact List.nodup_range'
  rw [← hlog, numbersOn_append] at hall
  exact (List.nodup_append.1 hall).1

end Points

/-- **What was dropped never stands again.** -/
theorem not_standing_of_dropped {log : List (Occurrence G)}
    (hnumbers : ∀ key, (numbersOn key log).Nodup) {c : Connection} (h : DroppedIn log c)
    {s : Subscription G} (hs : s ∈ standing log) : s.connection ≠ c := by
  rintro rfl
  obtain ⟨past, o, rest, t, rfl, hmade, hsame, hdrop⟩ := h
  rw [standing_append] at hs
  rcases List.mem_append.1 hs with hbefore | hlater
  · -- It was made before it was dropped.
    have hlasting := (List.mem_filter.1 hbefore).2
    simp [dropsIn, Request.drops, hdrop] at hlasting
  · -- Its number is not given out again.
    have hfresh := hnumbers s.connection.channel
    rw [numbersOn_append, List.nodup_append] at hfresh
    have hbefore := mem_numbersOn hmade
    rw [hsame] at hbefore
    exact hfresh.2.2 _ hbefore _ (mem_numbersOn (mem_madeIn_of_mem_standing hlater)) rfl

section Notifications

variable (b : Behavior G) {spot : Spot G} {signal : Signal} {start : Environment G}

/-- The turns of a notification follow one another. -/
theorem linked_hearings (spot : Spot G) (signal : Signal) (start : Environment G) :
    Linked Hearing.before Hearing.after
      { start with channels := start.channels.ensure signal.channel }
      (b.hearings spot signal start)
      (lastOf Hearing.after { start with channels := start.channels.ensure signal.channel }
        (b.hearings spot signal start)) :=
  linked_hearingsOf b spot signal _ _

/--
The turns of a notification go to those who are subscribed before, one after the other, and one is
called if and only if it is connected when its turn comes.
-/
theorem turns_of_room (halive : start.orphaned = false)
    (horderly : ∀ key, (start.channels.get key).Orderly) (hfree : signal.channel ∉ spot.busy)
    (hroom : spot.stack.length < b.depth) :
    (b.hearings spot signal start).map Hearing.subscriber =
        (start.channels.get signal.channel).subscribers ∧
      Linked Hearing.before Hearing.after
        { start with channels := start.channels.ensure signal.channel }
        (b.hearings spot signal start) (b.performAt spot (.emit signal) start).2 ∧
      ∀ past t rest, b.hearings spot signal start = past ++ t :: rest →
        t.Faithful b spot signal ∧
        (t.called = true ↔
          (t.before.channels.get signal.channel).isConnected t.subscriber.id = true) := by
  have hanswer : (b.performAt spot (.emit signal) start).2 =
      lastOf Hearing.after { start with channels := start.channels.ensure signal.channel }
        (b.hearings spot signal start) :=
    congrArg Prod.snd (emitAt_eq b halive hfree hroom)
  rw [hanswer]
  have hget : ∀ key, (start.channels.ensure signal.channel).get key = start.channels.get key :=
    fun key => Channels.get_ensure start.channels signal.channel key
  have hsubscribers : (b.hearings spot signal start).map Hearing.subscriber =
      (start.channels.get signal.channel).subscribers := by
    rw [Behavior.hearings, map_subscriber_hearingsOf, hget]
  have hlinked := linked_hearings b spot signal start
  refine ⟨hsubscribers, hlinked, fun past t rest hsplit => ?_⟩
  have hturn : ∀ u ∈ past ++ t :: rest,
      u = b.hearing spot signal u.subscriber u.rest u.before :=
    fun u hu => eq_hearing_of_mem b spot signal (hsplit ▸ hu)
  have hlisted : t.subscriber ∈ (start.channels.get signal.channel).subscribers := by
    rw [← hsubscribers, hsplit]
    exact List.mem_map_of_mem (by simp)
  have hlate : ∀ u ∈ past, t.subscriber.id ≠ u.subscriber.id := by
    intro u hu
    have hascending := (horderly signal.channel).ascending
    rw [← hsubscribers, hsplit, List.map_map, List.map_append, List.pairwise_append] at hascending
    exact Nat.ne_of_gt (hascending.2.2 _ (List.mem_map_of_mem hu) _ List.mem_cons_self)
  constructor
  · rw [hturn t (by simp)]
    exact faithful_hearing b spot signal t.subscriber t.rest t.before
  · rw [hsplit] at hlinked
    rw [← hget] at hlisted
    have halive' : ({ start with channels := start.channels.ensure signal.channel } :
        Environment G).orphaned = false := halive
    refine called_iff_connected b hfree halive' (fun key => ?_) hlinked hturn hlisted hlate
    exact (hget key).symm ▸ horderly key

/-- A law holds from the request for a notification to each turn in it. -/
theorem TraceLaw.of_past_turns {R : Environment G → List (Occurrence G) → Environment G → Prop}
    (law : TraceLaw b R) (halive : start.orphaned = false) (hfree : signal.channel ∉ spot.busy)
    {past rest : List (Hearing G)} {t : Hearing G}
    (hsplit : b.hearings spot signal start = past ++ t :: rest) :
    R start (⟨spot, .emit signal, start⟩ :: past.flatMap fun u => u.occurrences b spot signal)
      t.before := by
  have hlinked := linked_hearings b spot signal start
  rw [hsplit] at hlinked
  have hpast : start.orphaned = false →
      R { start with channels := start.channels.ensure signal.channel }
        (past.flatMap fun u => u.occurrences b spot signal) t.before ∧
        t.before.orphaned = false := by
    refine Linked.relate (R := fun s L s' => s.orphaned = false → R s L s' ∧ s'.orphaned = false)
      (fun s halive => ⟨law.refl s, halive⟩) ?_ hlinked.split.1 ?_
    · intro s₁ L₁ s₂ L₂ s₃ h₁ h₂ halive
      obtain ⟨hlaw₁, halive₂⟩ := h₁ halive
      obtain ⟨hlaw₂, halive₃⟩ := h₂ halive₂
      exact ⟨law.trans hlaw₁ hlaw₂, halive₃⟩
    · intro u hu halive
      have hturn : u = b.hearing spot signal u.subscriber u.rest u.before :=
        eq_hearing_of_mem b spot signal (hsplit ▸ List.mem_append_left _ hu)
      have hlaw := law.toRunLaw.of_hearing hfree (fun _ => law.toRunLaw.of_notification _)
        u.subscriber u.rest halive
      rwa [← hturn] at hlaw
  exact law.trans (law.emit spot signal start)
    (law.trans (law.ensure signal.channel start) (hpast halive).1)

end Notifications

section Deliveries

variable (b : Behavior G) {α : Type} (p : Program G α) (access : Access) {env : Environment G}
variable {pre post : List (Occurrence G)} {spot : Spot G} {signal : Signal}
variable {start : Environment G}

/-- A turn is a call if and only if the subscription stands when its turn comes. -/
theorem called_iff_standing (halive : env.orphaned = false) (hunused : env.channels = ∅)
    (hlog : b.occurrences (.top access) p env = pre ++ ⟨spot, .emit signal, start⟩ :: post)
    (hfree : signal.channel ∉ spot.busy) (hroom : spot.stack.length < b.depth)
    {past rest : List (Hearing G)} {t : Hearing G}
    (hsplit : b.hearings spot signal start = past ++ t :: rest) :
    t.called = true ↔
      ∃ s ∈ standing (pre ++ ⟨spot, .emit signal, start⟩ ::
        past.flatMap fun u => u.occurrences b spot signal),
        s.connection = ⟨signal.channel, t.subscriber.id⟩ := by
  have hpoint : Point b (.top access) p env pre start := .request hlog
  have halive' : start.orphaned = false := ((growLaw b).at_point halive hpoint).alive halive
  have hformed : env.channels.Formed := hunused ▸ .unused
  have horderly : ∀ key, (start.channels.get key).Orderly :=
    (orderlyLaw b).at_point halive hpoint hformed.orderly
  obtain ⟨_, _, hcalls⟩ := turns_of_room b halive' horderly hfree hroom
  have hthen := (standingLaw b).trans ((standingLaw b).at_point halive hpoint)
    ((standingLaw b).of_past_turns b halive' hfree hsplit) signal.channel
  rw [hunused, Channels.get_unused, Channel.empty, List.filter_nil, List.nil_append] at hthen
  rw [(hcalls past t rest hsplit).2, Channel.isConnected_iff, hthen]
  exact exists_standingOn_iff _ ⟨signal.channel, t.subscriber.id⟩

/-- What was requested up to a turn is what a history begins with. -/
theorem prefix_of_turn (halive : env.orphaned = false)
    (hlog : b.occurrences (.top access) p env = pre ++ ⟨spot, .emit signal, start⟩ :: post)
    (hfree : signal.channel ∉ spot.busy) (hroom : spot.stack.length < b.depth)
    {past rest : List (Hearing G)} (hsplit : b.hearings spot signal start = past ++ rest) :
    pre ++ ⟨spot, .emit signal, start⟩ :: (past.flatMap fun u => u.occurrences b spot signal) <+:
      b.occurrences (.top access) p env := by
  have hnested := (nestedLaw b).run (.top access) p halive pre spot signal start post hlog
  rw [nested_eq b start hroom hfree, hsplit, List.flatMap_append] at hnested
  rw [hlog, List.prefix_append_right_inj, List.cons_prefix_cons]
  exact ⟨rfl, (List.prefix_append _ _).trans hnested⟩

end Deliveries

/--
**What stands, at every point of a history.**  Let a history begin with unused channels, and let as
many notifications be possible at once as it notifies channels.  The subscriptions to a channel are
numbered from one in the order in which they are made, and at every point nothing but what stands is
subscribed; what was dropped stands never again.  From a request to a later point a channel does
not change unless a request in between connects to it or drops a connection of it.  A notification
gives a turn to what stands on its channel when it begins, in that order, and calls what still
stands when its turn comes, so that nothing is called once it was dropped.
-/
theorem subscriptions_stand
    (b : Behavior G) {α : Type} (p : Program G α) (access : Access) {env : Environment G}
    (halive : env.orphaned = false) (hunused : env.channels = ∅)
    {channels : List ChannelKey} (hdepth : channels.length ≤ b.depth)
    (hchannels : emitted (b.occurrences (.top access) p env) ⊆ channels) :
    (∀ past now, Point b (.top access) p env past now →
      (∀ key, numbersOn key past = List.range' 1 (numbersOn key past).length) ∧
      Subscribed past now.channels ∧
      ∀ c, DroppedIn past c → now.channels.isConnected c = false) ∧
    (∀ past o rest now key, Point b (.top access) p env (past ++ o :: rest) now →
      channelChanges key (o :: rest) = [] →
      (now.channels.get key).turnTo none = (o.env.channels.get key).turnTo none) ∧
    ∀ pre spot signal start post,
      b.occurrences (.top access) p env = pre ++ ⟨spot, .emit signal, start⟩ :: post →
      signal.channel ∉ spot.busy →
      ∃ turns : List (Hearing G),
        turns.map Hearing.subscriber = standingOn signal.channel pre ∧
        Linked Hearing.before Hearing.after
          { start with channels := start.channels.ensure signal.channel } turns
          (b.performAt spot (.emit signal) start).2 ∧
        ∀ past t rest, turns = past ++ t :: rest →
          let log := pre ++ ⟨spot, .emit signal, start⟩ ::
            past.flatMap fun u => u.occurrences b spot signal
          log <+: b.occurrences (.top access) p env ∧
          t.Faithful b spot signal ∧
          (t.called = true ↔
            ∃ s ∈ standing log, s.connection = ⟨signal.channel, t.subscriber.id⟩) ∧
          (DroppedIn log ⟨signal.channel, t.subscriber.id⟩ → t.called = false) := by
  refine ⟨fun past now h => ?_, fun past o rest now key h => (apartLaw b).between halive h key, ?_⟩
  · have hsubscribed := subscribed_at_point halive hunused h
    refine ⟨numbersOn_at_point halive hunused h, hsubscribed, fun c hdropped => ?_⟩
    rw [Bool.eq_false_iff, ne_eq, hsubscribed.connected]
    rintro ⟨s, hs, hsame⟩
    exact not_standing_of_dropped (nodup_numbersOn halive hunused h.isPrefix) hdropped hs hsame
  · intro pre spot signal start post hlog hfree
    have hpoint : Point b (.top access) p env pre start := .request hlog
    have hemit : (⟨spot, .emit signal, start⟩ : Occurrence G) ∈
        b.occurrences (.top access) p env := by
      rw [hlog]
      simp
    have hroom : spot.stack.length < b.depth :=
      room_of_emitted b p access env hdepth hchannels hemit hfree
    have halive' : start.orphaned = false := ((growLaw b).at_point halive hpoint).alive halive
    have hformed : env.channels.Formed := hunused ▸ .unused
    have horderly : ∀ key, (start.channels.get key).Orderly :=
      (orderlyLaw b).at_point halive hpoint hformed.orderly
    obtain ⟨hturns, hlinked, hcalls⟩ := turns_of_room b halive' horderly hfree hroom
    have hlisted := (subscribed_at_point halive hunused hpoint).listed signal.channel
    refine ⟨_, hturns.trans hlisted, hlinked, fun past t rest hsplit => ?_⟩
    have hcalled := called_iff_standing b p access halive hunused hlog hfree hroom hsplit
    have hpast := prefix_of_turn b p access halive hlog hfree hroom hsplit
    refine ⟨hpast, (hcalls past t rest hsplit).1, hcalled, fun hdropped => ?_⟩
    rw [Bool.eq_false_iff, ne_eq, hcalled]
    rintro ⟨s, hs, hsame⟩
    exact not_standing_of_dropped (nodup_numbersOn halive hunused hpast) hdropped hs hsame

namespace Puppets

/-- The first callback drops its own connection. -/
def leavers : Behavior puppets :=
  { idle with
    onSignal := fun callback signal =>
      match callback with
      | 0 => Program.disconnect ⟨signal.channel, 1⟩
      | _ => .done () }

/-- Connects two callbacks and notifies them. -/
def summons : Program puppets Nat := do
  let _ ← Program.connect (.standalone 0) 0
  let _ ← Program.connect (.standalone 0) 1
  Program.emit (.standalone 0 7)

/-- The requests of the history. -/
def summoned : List (Occurrence puppets) :=
  leavers.occurrences (.top .none) summons (.initial 0)

/-- The environment in which the notification begins. -/
def summoning : Environment puppets :=
  (leavers.runAt (.top .none) (do
    let _ ← Program.connect (.standalone 0) 0
    Program.connect (.standalone 0) 1) (.initial 0)).2

end Puppets

/-- Both have their turn, and the one that drops its own connection then is connected no more. -/
theorem subscriptions_stand_leavers :
    (Environment.initial 0 : Environment puppets).orphaned = false ∧
      (Environment.initial 0 : Environment puppets).channels = ∅ ∧
      (∃ turns : List (Hearing puppets),
        turns.map Hearing.subscriber = [⟨1, .guest (0 : Nat)⟩, ⟨2, .guest (1 : Nat)⟩]) ∧
      (Puppets.leavers.runAt (.top .none) Puppets.summons (.initial 0)).2.channels.isConnected
        ⟨.standalone 0, 1⟩ = false := by
  have halive : (Environment.initial 0 : Environment puppets).orphaned = false := rfl
  have hunused : (Environment.initial 0 : Environment puppets).channels = ∅ := rfl
  have hlog : Puppets.summoned =
      Puppets.summoned.take 2 ++ ⟨.top .none, .emit (.standalone 0 7), Puppets.summoning⟩ ::
        Puppets.summoned.drop 3 := rfl
  have hemitted : emitted Puppets.summoned = [.standalone 0] := rfl
  have hdropped : DroppedIn Puppets.summoned ⟨.standalone 0, 1⟩ :=
    ⟨Puppets.summoned.take 3, _, [], ⟨⟨.standalone 0, 1⟩, (0 : Nat)⟩, rfl, List.mem_cons_self, rfl,
      rfl⟩
  have hstanding : standingOn (.standalone 0) (Puppets.summoned.take 2) =
      [⟨1, .guest (0 : Nat)⟩, ⟨2, .guest (1 : Nat)⟩] := rfl
  obtain ⟨hpoints, _, hnotifications⟩ :=
    subscriptions_stand Puppets.leavers Puppets.summons .none halive hunused
      (show [ChannelKey.standalone 0].length ≤ 4 by decide)
      (show emitted Puppets.summoned ⊆ _ from hemitted ▸ List.Subset.refl _)
  obtain ⟨turns, hturns, _⟩ := hnotifications _ _ _ _ _ hlog (by decide)
  obtain ⟨_, _, hgone⟩ := hpoints _ _ .finish
  exact ⟨halive, hunused, ⟨turns, hturns.trans hstanding⟩, hgone _ hdropped⟩

end SimEngine
