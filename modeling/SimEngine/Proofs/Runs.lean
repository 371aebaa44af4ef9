import SimEngine.Engine.Environment

/-!
# Runs of guest code

Guest code is a tree of requests; running it answers them one after the other.
A notification runs the code of its subscribers, which may notify other
channels in turn.  This module lists the requests that a run makes, those of
nested notifications included, each with the environment that it meets.

**Definitions.**
* `Spot`: where guest code stands, with the notifications in progress.
* `Behavior.hearings`: the turns of the subscribers in one notification.
* `Behavior.occurrences`: the requests that a run makes, in their order.
* `Program.Confined`: a program that makes requests of one kind only, and whose
  results are of a kind.

**Results.**
* `Program.Confined.bind`: confined programs in a row are confined.
* `run_bind`, `run_ask`: a run goes on with the result of its first part.
-/

namespace SimEngine

variable {G : Guest}

/-- The items of a list follow one another: each starts with what the one before it left. -/
def Linked {ι σ : Type} (before after : ι → σ) : σ → List ι → σ → Prop
  | s, [], t => s = t
  | s, x :: rest, t => before x = s ∧ Linked before after (after x) rest t

/-- What the last item of a list leaves. -/
def lastOf {ι σ : Type} (after : ι → σ) : σ → List ι → σ
  | s, [] => s
  | _, x :: rest => lastOf after (after x) rest

/-- What the items do one by one, they do in a row. -/
theorem Linked.relate
    {ι σ ω : Type} {before after : ι → σ} {R : σ → List ω → σ → Prop} {trace : ι → List ω}
    (hrefl : ∀ s, R s [] s)
    (htrans : ∀ {s₁ L₁ s₂ L₂ s₃}, R s₁ L₁ s₂ → R s₂ L₂ s₃ → R s₁ (L₁ ++ L₂) s₃)
    {s t : σ} {items : List ι} (h : Linked before after s items t)
    (hitem : ∀ x ∈ items, R (before x) (trace x) (after x)) :
    R s (items.flatMap trace) t := by
  induction items generalizing s with
  | nil =>
      have hst : s = t := h
      rw [hst]
      exact hrefl t
  | cons x rest ih =>
      obtain ⟨rfl, hrest⟩ := h
      exact htrans (hitem x List.mem_cons_self)
        (ih hrest fun y hy => hitem y (List.mem_cons_of_mem x hy))

/-- What each item keeps, they keep in a row. -/
theorem Linked.keep
    {ι σ : Type} {before after : ι → σ} {I : σ → Prop} {s t : σ} {items : List ι}
    (h : Linked before after s items t) (hitem : ∀ x ∈ items, I (before x) → I (after x))
    (hs : I s) : I t := by
  induction items generalizing s with
  | nil =>
      have hst : s = t := h
      rwa [hst] at hs
  | cons x rest ih =>
      obtain ⟨rfl, hrest⟩ := h
      exact ih hrest (fun y hy => hitem y (List.mem_cons_of_mem x hy))
        (hitem x List.mem_cons_self hs)

theorem Linked.split
    {ι σ : Type} {before after : ι → σ} {s t : σ} {past : List ι} {x : ι} {rest : List ι}
    (h : Linked before after s (past ++ x :: rest) t) :
    Linked before after s past (before x) ∧ Linked before after (after x) rest t := by
  induction past generalizing s with
  | nil =>
      exact ⟨h.1.symm, h.2⟩
  | cons y past ih =>
      obtain ⟨hy, hrest⟩ := h
      exact ⟨⟨hy, (ih hrest).1⟩, (ih hrest).2⟩

/-- The end of a row is what its last item leaves. -/
theorem Linked.lastOf_eq
    {ι σ : Type} {before after : ι → σ} {s t : σ} {items : List ι}
    (h : Linked before after s items t) : lastOf after s items = t := by
  induction items generalizing s with
  | nil =>
      exact h
  | cons x rest ih =>
      exact ih h.2

theorem lastOf_append
    {ι σ : Type} (after : ι → σ) (s : σ) (first second : List ι) :
    lastOf after s (first ++ second) = lastOf after (lastOf after s first) second := by
  induction first generalizing s with
  | nil =>
      rfl
  | cons x first ih =>
      exact ih (after x)

/-- An item of two lists in a row stands in the first or in the second. -/
theorem append_split
    {ι : Type} {first second past : List ι} {x : ι} {rest : List ι}
    (h : first ++ second = past ++ x :: rest) :
    (∃ mid, first = past ++ x :: mid ∧ rest = mid ++ second) ∨
      ∃ mid, past = first ++ mid ∧ second = mid ++ x :: rest := by
  rcases List.append_eq_append_iff.1 h with ⟨mid, hpast, hsecond⟩ | ⟨mid, hfirst, hrest⟩
  · exact Or.inr ⟨mid, hpast, hsecond⟩
  · cases mid with
    | nil =>
        rw [List.append_nil] at hfirst
        exact Or.inr ⟨[], by rw [hfirst, List.append_nil], hrest.symm⟩
    | cons y mid =>
        obtain ⟨rfl, hmid⟩ := List.cons.inj hrest
        exact Or.inl ⟨mid, hfirst, hmid⟩

/-- A relation of each item to those before it holds pairwise. -/
theorem pairwise_of_split
    {ι : Type} {R : ι → ι → Prop} {items : List ι}
    (h : ∀ past x rest, items = past ++ x :: rest → ∀ y ∈ past, R y x) : items.Pairwise R := by
  induction items with
  | nil =>
      exact List.Pairwise.nil
  | cons x items ih =>
      refine List.pairwise_cons.2 ⟨?_, ih ?_⟩
      · intro y hy
        obtain ⟨past, rest, rfl⟩ := List.append_of_mem hy
        exact h (x :: past) y rest rfl x List.mem_cons_self
      · rintro past y rest rfl z hz
        exact h (x :: past) y rest rfl z (List.mem_cons_of_mem x hz)

/-- What is traced of many items is traced of one of them. -/
theorem flatMap_split
    {ι ω : Type} {trace : ι → List ω} {items : List ι} {past : List ω} {x : ω} {rest : List ω}
    (h : items.flatMap trace = past ++ x :: rest) :
    ∃ before item after during mid,
      items = before ++ item :: after ∧ past = before.flatMap trace ++ during ∧
        trace item = during ++ x :: mid := by
  induction items generalizing past with
  | nil =>
      simp at h
  | cons item items ih =>
      rw [List.flatMap_cons] at h
      rcases append_split h with ⟨mid, hitem, -⟩ | ⟨mid, rfl, hitems⟩
      · exact ⟨[], item, items, past, mid, rfl, rfl, hitem⟩
      · obtain ⟨before, other, after, during, mid', rfl, rfl, hother⟩ := ih hitems
        exact ⟨item :: before, other, after, during, mid', rfl, by simp, hother⟩

/--
Where guest code stands: how it may use the world, and the notifications in progress, each
with the part of its snapshot that it has yet to pass, the innermost first.
-/
structure Spot (G : Guest) where
  access : Access
  stack : List (ChannelKey × Snapshot G)

namespace Spot

/-- A spot outside of all notifications. -/
def top (access : Access) : Spot G := ⟨access, []⟩

/-- The channels whose notifications are in progress. -/
def busy (spot : Spot G) : List ChannelKey :=
  spot.stack.map Prod.fst

/-- The snapshots of the notifications in progress. -/
def held (spot : Spot G) : List (Snapshot G) :=
  spot.stack.map Prod.snd

/-- The spot of a subscriber that is called within a notification. -/
def inside (spot : Spot G) (key : ChannelKey) (remaining : Snapshot G) : Spot G :=
  ⟨.none, (key, remaining) :: spot.stack⟩

@[simp] theorem busy_top (access : Access) : (top access : Spot G).busy = [] :=
  rfl

@[simp] theorem busy_inside
    (spot : Spot G) (key : ChannelKey) (remaining : Snapshot G) :
    (spot.inside key remaining).busy = key :: spot.busy :=
  rfl

end Spot

/-- A request that guest code makes: where, and in which environment. -/
structure Occurrence (G : Guest) where
  spot : Spot G
  request : Request G
  env : Environment G

/-- The turn of one subscriber in a notification. -/
structure Hearing (G : Guest) where
  subscriber : Subscriber (Listener G.Callback)
  /-- The subscribers whose turns are still to come. -/
  rest : Snapshot G
  before : Environment G
  /-- How the call ended; a subscriber that is passed over is not called. -/
  result : Option (Except String Unit)
  after : Environment G

namespace Hearing

/-- Whether the subscriber was called. -/
def called (h : Hearing G) : Bool :=
  h.result.isSome

/-- Whether the subscriber was called and returned normally. -/
def returned (h : Hearing G) : Bool :=
  match h.result with
  | some (.ok ()) => true
  | _ => false

end Hearing

namespace Behavior

variable (b : Behavior G)

/-- What a notification does at a spot. -/
def emitAt (spot : Spot G) : Signal → Environment G → Nat × Environment G :=
  b.notify (b.depth - spot.stack.length) spot.busy spot.held

/-- What is due at a spot after each request. -/
def tidyAt (spot : Spot G) : Environment G → Environment G :=
  b.tidyWith (b.emitAt spot) spot.held

/-- Runs a program at a spot. -/
def runAt {α : Type} (spot : Spot G) (p : Program G α) (env : Environment G) :
    Outcome α × Environment G :=
  p.run (b.emitAt spot) (b.tidyAt spot) spot.access env

/-- Answers a request at a spot. -/
def performAt (spot : Spot G) (r : Request G) (env : Environment G) :
    r.Answer × Environment G :=
  r.perform (b.emitAt spot) spot.access env

/-- Calls a subscriber at a spot. -/
def hear (spot : Spot G) (signal : Signal) (listener : Listener G.Callback)
    (env : Environment G) : Except String Unit × Environment G :=
  match listener with
  | .guest callback =>
    let (outcome, env) := b.runAt spot (b.onSignal callback signal) env
    (outcome.ofCallback, env)
  | .loop => (.ok (), env.tellLoop signal)

/-- The environment after the call of a subscriber ended. -/
def heard (signal : Signal) (id : Nat) (answer : Except String Unit × Environment G) :
    Environment G :=
  let env := answer.2.turnTo signal.channel none
  match answer.1 with
  | .ok () => env
  | .error reason => env.report (.subscriberPanicked signal.channel.name id reason)

/-- The turn of a subscriber. -/
def hearing (spot : Spot G) (signal : Signal) (s : Subscriber (Listener G.Callback))
    (rest : Snapshot G) (env : Environment G) : Hearing G :=
  if env.channels.isSilenced ⟨signal.channel, s.id⟩ then
    ⟨s, rest, env, none, env⟩
  else
    let answer := b.hear (spot.inside signal.channel (s :: rest)) signal s.callback
      (env.turnTo signal.channel (some s.id))
    ⟨s, rest, env, some answer.1, heard signal s.id answer⟩

/-- The turns of the subscribers of a snapshot. -/
def hearingsOf (spot : Spot G) (signal : Signal) :
    Snapshot G → Environment G → List (Hearing G)
  | [], _ => []
  | s :: rest, env =>
    let h := b.hearing spot signal s rest env
    h :: hearingsOf spot signal rest h.after

/-- The turns of a notification that begins at a spot. -/
def hearings (spot : Spot G) (signal : Signal) (env : Environment G) : List (Hearing G) :=
  let env := { env with channels := env.channels.ensure signal.channel }
  b.hearingsOf spot signal (env.channels.get signal.channel).subscribers env

end Behavior

/-- The requests made within the answer to a request, given those within a notification. -/
def Request.within (nested : Signal → Environment G → List (Occurrence G)) :
    Request G → Environment G → List (Occurrence G)
  | .emit signal, env => nested signal env
  | _, _ => []

/-- The requests that a program makes, given those within a notification. -/
def Program.occurrencesWith (b : Behavior G) (spot : Spot G)
    (nested : Signal → Environment G → List (Occurrence G)) {α : Type} :
    Program G α → Environment G → List (Occurrence G)
  | .done _, _ => []
  | .fail _, _ => []
  | .panic _, _ => []
  | .ask r next, env =>
    let (answer, after) := b.performAt spot r env
    ⟨spot, r, env⟩ :: (r.within nested env
      ++ (next answer).occurrencesWith b spot nested after)

/-- The requests that are made in a turn, given those within a notification. -/
def Hearing.occurrencesWith (b : Behavior G)
    (nested : Spot G → Signal → Environment G → List (Occurrence G))
    (spot : Spot G) (signal : Signal) (h : Hearing G) : List (Occurrence G) :=
  match h.called, h.subscriber.callback with
  | true, .guest callback =>
    let spot := spot.inside signal.channel (h.subscriber :: h.rest)
    (b.onSignal callback signal).occurrencesWith b spot (nested spot)
      (h.before.turnTo signal.channel (some h.subscriber.id))
  | _, _ => []

namespace Behavior

variable (b : Behavior G)

/-- The requests that are made within a notification, if `room` of them may begin. -/
def occurrencesIn : Nat → Spot G → Signal → Environment G → List (Occurrence G)
  | 0, _, _, _ => []
  | room + 1, spot, signal, env =>
    if signal.channel ∈ spot.busy then []
    else
      (b.hearings spot signal env).flatMap fun h =>
        h.occurrencesWith b (occurrencesIn room) spot signal

/-- The requests that are made within a notification at a spot. -/
def nested (spot : Spot G) : Signal → Environment G → List (Occurrence G) :=
  b.occurrencesIn (b.depth - spot.stack.length) spot

/-- The requests that a run makes. -/
def occurrences {α : Type} (spot : Spot G) (p : Program G α) (env : Environment G) :
    List (Occurrence G) :=
  p.occurrencesWith b spot (b.nested spot) env

end Behavior

/-- The requests that are made in a turn of a notification. -/
def Hearing.occurrences (b : Behavior G) (spot : Spot G) (signal : Signal) (h : Hearing G) :
    List (Occurrence G) :=
  h.occurrencesWith b b.nested spot signal

theorem Behavior.run_eq_runAt
    (b : Behavior G) {α : Type} (access : Access) (p : Program G α) (env : Environment G) :
    b.run access p env = b.runAt (.top access) p env :=
  rfl

/-- A program that makes requests of one kind only, and whose results are of a kind. -/
def Program.Confined {α : Type} (requests : Request G → Prop) (results : α → Prop) :
    Program G α → Prop
  | .done a => results a
  | .ask r next => requests r ∧ ∀ answer, (next answer).Confined requests results
  | _ => True

section Confinement

variable {α β : Type} {requests : Request G → Prop} {results : α → Prop}

theorem Program.Confined.bind {p : Program G α} {next : α → Program G β} {results' : β → Prop}
    (hp : p.Confined requests results)
    (hnext : ∀ a, results a → (next a).Confined requests results') :
    (p.bind next).Confined requests results' := by
  induction p with
  | done a => exact hnext a hp
  | fail f => exact trivial
  | panic m => exact trivial
  | ask r k ih => exact ⟨hp.1, fun answer => ih answer (hp.2 answer)⟩

theorem Program.Confined.mono {p : Program G α} {requests' : Request G → Prop}
    {results' : α → Prop} (hp : p.Confined requests results)
    (hrequests : ∀ r, requests r → requests' r) (hresults : ∀ a, results a → results' a) :
    p.Confined requests' results' := by
  induction p with
  | done a => exact hresults a hp
  | fail f => exact trivial
  | panic m => exact trivial
  | ask r k ih => exact ⟨hrequests r hp.1, fun answer => ih answer (hp.2 answer)⟩

theorem confined_request {r : Request G} {results : r.Answer → Prop} (hr : requests r)
    (hresults : ∀ answer, results answer) : (Program.request r).Confined requests results :=
  ⟨hr, hresults⟩

theorem confined_ask {r : Request G} {next : r.Answer → Program G α} (hr : requests r)
    (hnext : ∀ answer, (next answer).Confined requests results) :
    ((Program.request r).bind next).Confined requests results :=
  ⟨hr, hnext⟩

theorem confined_ofExcept {result : Except Failure α} (h : ∀ a, result = .ok a → results a) :
    (Program.ofExcept result : Program G α).Confined requests results := by
  cases result with
  | ok a => exact h a rfl
  | error f => exact trivial

theorem confined_forEach {ι : Type} {body : ι → Program G Unit}
    (hbody : ∀ x, (body x).Confined requests fun _ => True) (items : List ι) :
    (Program.forEach items body).Confined requests fun _ => True := by
  induction items with
  | nil => exact trivial
  | cons x rest ih => exact (hbody x).bind fun _ _ => ih

section ConfinedRuns

variable {emit : Signal → Environment G → Nat × Environment G}
variable {tidy : Environment G → Environment G} {access : Access} {p : Program G α}

/-- What a program ends with that is confined to results of a kind. -/
theorem Program.Confined.result (hp : p.Confined requests results) {env left : Environment G}
    {a : α} (hrun : p.run emit tidy access env = (.done a, left)) : results a := by
  induction p generalizing env with
  | done a' =>
      obtain ⟨rfl, -⟩ : a' = a ∧ env = left := by simpa [Program.run] using hrun
      exact hp
  | fail f => simp [Program.run] at hrun
  | panic m => simp [Program.run] at hrun
  | ask r next ih => exact ih _ (hp.2 _) hrun

/-- What requests of a kind keep of an environment that is fit, a program that makes them keeps. -/
theorem Program.Confined.keeps {Fit : Environment G → Prop}
    {Kept : Environment G → Environment G → Prop} (hrefl : ∀ {env}, Fit env → Kept env env)
    (htrans : ∀ {env between left}, Kept env between → Kept between left → Kept env left)
    (hfit : ∀ {env left}, Fit env → Kept env left → Fit left)
    (htidy : ∀ env, Fit env → tidy env = env)
    (hasked : ∀ {env r}, Fit env → requests r → Kept env (r.perform emit access env).2)
    (hp : p.Confined requests results) {env : Environment G} (h : Fit env) :
    Kept env (p.run emit tidy access env).2 := by
  induction p generalizing env with
  | ask r next ih =>
      have hanswered := hasked h hp.1
      have hready := hfit h hanswered
      have hrun : (Program.ask r next).run emit tidy access env =
          (next (r.perform emit access env).1).run emit tidy access
            (tidy (r.perform emit access env).2) := rfl
      rw [hrun, htidy _ hready]
      exact htrans hanswered (ih _ (hp.2 _) hready)
  | _ => exact hrefl h

end ConfinedRuns

end Confinement

section Sequences

variable (b : Behavior G) {α β : Type}

/-- A run goes on with the result of its first part. -/
theorem run_bind (emit : Signal → Environment G → Nat × Environment G)
    (tidy : Environment G → Environment G) (access : Access) (p : Program G α)
    (next : α → Program G β) (env : Environment G) :
    (p.bind next).run emit tidy access env =
      match p.run emit tidy access env with
      | (.done a, env) => (next a).run emit tidy access env
      | (.failed f, env) => (.failed f, env)
      | (.panicked m, env) => (.panicked m, env) := by
  induction p generalizing env with
  | done a => rfl
  | fail f => rfl
  | panic m => rfl
  | ask r k ih => exact ih _ _

/-- A run goes on with the answer to its first request, while the engine is alive. -/
theorem run_ask (access : Access) (r : Request G) (next : r.Answer → Program G α)
    {env : Environment G} (halive : (r.perform b.emit access env).2.orphaned = false) :
    b.run access (.ask r next) env =
      b.run access (next (r.perform b.emit access env).1) (r.perform b.emit access env).2 := by
  show (next _).run b.emit b.tidy access (b.tidy (r.perform b.emit access env).2) = _
  rw [Behavior.tidy, b.tidyWith_of_not_orphaned halive]
  rfl

end Sequences

end SimEngine
