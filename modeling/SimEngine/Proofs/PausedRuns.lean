import SimEngine.Proofs.Pauses
import SimEngine.Proofs.TickTimes

/-!
# Runs that systems pause and stop

A loop of built-in systems without a limit runs until one of its systems stops
it.  The first system that pauses it does so in the step of its number; the flag
is set in that step, so the next one is the first that is paused, and simulated
time stands still after it.  A system counts the steps until it stops the loop
from the one in which it paused itself, whether another system was quicker or
not; the loop is finished with the step in which the first one stops it.

**Definitions.**
* `PauseAfter.before`, `PauseAfter.stopsAt?`: a system before the step of a
  number, and the step in which it stops the loop.
* `PauseAfter.Fits`, `Schedule`: systems that stop the loop later than they pause
  it, and the first steps in which any of them does so.
* `EngineConfig.pauses`: what the systems of a configuration pause by.
* `Cast.Unhindered`: an engine over which a loop can be made that nobody gets in
  the way of.
* `Enlisted`: what was done so far while systems are attached.
* `TickLoop.Pausing`: a loop before the step of a number.

**Results.**
* `PauseAfter.decide_before`, `PauseAfter.advance_before`: what a system does in
  the step of a number, and what it is after it.
* `enlisted_ofConfig`: a loop that is made from a configuration.
* `pausing_tick`, `pausing_run`: one tick, and the ticks up to the stop.
* `run_until_stopped`: how the whole run ends.
-/

namespace SimEngine

open Cast (behavior)

/-- The system before the step of a number, if it is called in each step. -/
def PauseAfter.before (p : PauseAfter) (k : Nat) : PauseAfter :=
  { p with pausedAt := if p.after.toNat < k then some p.after else none }

/-- The step in which the system stops the loop, if it does. -/
def PauseAfter.stopsAt? (p : PauseAfter) : Option Nat :=
  p.stopAfter.map fun steps => p.after.toNat + steps.toNat

/-- The system stops the loop later than it pauses, in a step that has a number. -/
def PauseAfter.Fits (p : PauseAfter) : Prop :=
  ∀ steps ∈ p.stopAfter, 1 ≤ steps.toNat ∧ p.after.toNat + steps.toNat < 2 ^ 64

/-- What the plugin of a specification pauses the simulation by, if it does. -/
def Loader.pause? (l : Loader cast) (spec : PluginSpec) : Option PauseAfter :=
  match l.factories.find? spec.name with
  | some (.builtin .pauseAfter) => (PauseAfter.ofPayload spec.config).toOption
  | _ => none

/-- What the systems of a configuration pause the simulation by. -/
def EngineConfig.pauses (config : EngineConfig) (l : Loader cast) : List PauseAfter :=
  config.systems.filterMap l.pause?

/--
An engine over which a loop can be made that nobody gets in the way of: its scheduler is new, and
whoever is subscribed to pauses and stops looks on.  Its loader and the other channels may be in use
elsewhere.
-/
structure Cast.Unhindered (e : Engine cast) : Prop where
  scheduler : e.scheduler = .empty
  commands : e.env.commands = []
  alive : e.env.orphaned = false
  quiet : ∀ list, (e.env.queryList list).queries = []
  orderly : ∀ key, (e.env.channels.get key).Orderly
  onlookers : ∀ signal : Signal, signal.IsOrder →
    ∀ s ∈ (e.env.channels.get signal.channel).subscribers, s.callback.LooksOn

/-- What was done so far while systems are attached, and what they pause by. -/
structure Enlisted (l : Loader cast) (flags : LoopFlags) (pauses : List PauseAfter)
    (e : Engine cast) : Prop where
  primed : Primed e
  used : ∀ i ∈ e.scheduler.all, i.attachment.system.number < e.env.memory.nextSystem
  factories : e.env.loader.factories = l.factories
  loop : e.env.loop = flags
  pauses : e.pauses = pauses

/-- The first step in which a system pauses, and the first one in which a system stops the loop. -/
structure Schedule (pauses : List PauseAfter) (first last : Nat) : Prop where
  fits : ∀ p ∈ pauses, p.Fits
  first : (pauses.map fun p => p.after.toNat).min? = some first
  last : (pauses.filterMap PauseAfter.stopsAt?).min? = some last

/-- A loop before the step of a number, which systems pause and stop as scheduled. -/
structure TickLoop.Pausing (t : TickLoop cast) (pauses : List PauseAfter) (first last : Nat)
    (step : Duration) (k : Nat) : Prop where
  clocked : t.Clocked step k (min k (first + 1))
  primed : Primed t.engine
  pauses : t.engine.pauses = pauses.map (·.before k)
  loop : t.env.loop = ⟨decide (first < k), decide (last < k), []⟩
  endless : t.config.maxTicks = 0
  faultless : t.faults = 0

section Schedules

variable {p : PauseAfter} {info : StepInfo} {k : Nat}

/-- What a system does in the step of a number. -/
theorem PauseAfter.decide_before (hfits : p.Fits) (hinfo : info.iterations.toNat = k) :
    (p.before k).decide info =
      if p.after.toNat = k then .pause else if p.stopsAt? = some k then .stop else .wait := by
  obtain ⟨after, stopAfter, pausedAt⟩ := p
  by_cases hafter : after.toNat < k
  · -- The system has paused, and counts from the step in which it did.
    have hne : after.toNat ≠ k := by omega
    simp only [before, decide, if_pos hafter, if_neg hne, stopsAt?]
    cases stopAfter with
    | none => simp
    | some steps =>
        have hlt : after.toNat + steps.toNat < 2 ^ 64 := (hfits steps rfl).2
        have hstep : info.iterations = after + steps ↔ after.toNat + steps.toNat = k := by
          rw [← UInt64.toNat_inj, UInt64.toNat_add, Nat.mod_eq_of_lt hlt, hinfo]
          exact eq_comm
        have hrange : ¬ Nat.pow 2 64 ≤ after.toNat + steps.toNat := Nat.not_le.2 hlt
        simp only [if_neg hrange, hstep, Option.map_some, Option.some.injEq]
  · -- The system is still waiting.
    have hdue : after ≤ info.iterations ↔ after.toNat = k := by
      rw [UInt64.le_iff_toNat_le, hinfo]
      omega
    have hstop : stopsAt? ⟨after, stopAfter, pausedAt⟩ ≠ some k := by
      intro hstops
      obtain ⟨steps, hsteps, hsum⟩ := Option.map_eq_some_iff.1 hstops
      have := (hfits steps hsteps).1
      simp only at hsum
      omega
    simp only [before, decide, if_neg hafter, hdue, if_neg hstop]

/-- What becomes of a system in the step of a number. -/
theorem PauseAfter.advance_before (hfits : p.Fits) (hinfo : info.iterations.toNat = k) :
    (p.before k).advance info = p.before (k + 1) := by
  rw [advance, decide_before hfits hinfo]
  by_cases hafter : p.after.toNat = k
  · have hnow : info.iterations = p.after := UInt64.toNat_inj.1 (hinfo.trans hafter.symm)
    have hlt : p.after.toNat < k + 1 := by omega
    simp only [if_pos hafter, before, hnow, if_pos hlt]
  · have hiff : p.after.toNat < k + 1 ↔ p.after.toNat < k := by omega
    rw [if_neg hafter, before, before]
    simp only [hiff]
    split
    · rename_i heq
      split at heq <;> cases heq
    · rfl

theorem PauseAfter.before_zero (hfresh : p.pausedAt = none) : p.before 0 = p := by
  rw [before, if_neg (Nat.not_lt_zero _), ← hfresh]

/-- What comes before some number: what comes before the one before, and that one. -/
theorem lt_or_mem_iff {numbers : List Nat} {least : Nat} (hleast : numbers.min? = some least) :
    least < k ∨ k ∈ numbers ↔ least < k + 1 := by
  obtain ⟨hmem, hle⟩ := List.min?_eq_some_iff.1 hleast
  constructor
  · rintro (hlt | hk)
    · omega
    · have := hle k hk
      omega
  · intro hlt
    rcases Nat.lt_or_eq_of_le (Nat.le_of_lt_succ hlt) with hlt | rfl
    · exact .inl hlt
    · exact .inr hmem

/-- Who stops the loop has paused it before, and does so in a step that has a number. -/
theorem Schedule.bounds {pauses : List PauseAfter} {first last : Nat}
    (h : Schedule pauses first last) : first < last ∧ last < 2 ^ 64 := by
  obtain ⟨hmem, -⟩ := List.min?_eq_some_iff.1 h.last
  obtain ⟨p, hp, hstops⟩ := List.mem_filterMap.1 hmem
  obtain ⟨steps, hsteps, rfl⟩ := Option.map_eq_some_iff.1 hstops
  obtain ⟨hlater, hlt⟩ := h.fits p hp steps hsteps
  have hle := (List.min?_eq_some_iff.1 h.first).2 p.after.toNat (List.mem_map.2 ⟨p, hp, rfl⟩)
  constructor
  · omega
  · exact hlt

/-- What the loop makes of the decisions in the step of a number. -/
theorem Schedule.heed {pauses : List PauseAfter} {first last : Nat}
    (h : Schedule pauses first last) (hinfo : info.iterations.toNat = k) :
    LoopFlags.heed ⟨decide (first < k), decide (last < k), []⟩
        ((pauses.map (·.before k)).map (·.decide info)) =
      ⟨decide (first < k + 1), decide (last < k + 1), []⟩ := by
  have hdecides : ∀ p ∈ pauses, (p.before k).decide info =
      if p.after.toNat = k then .pause else if p.stopsAt? = some k then .stop else .wait :=
    fun p hp => PauseAfter.decide_before (h.fits p hp) hinfo
  have hpause : .pause ∈ (pauses.map (·.before k)).map (·.decide info) ↔
      k ∈ pauses.map fun p => p.after.toNat := by
    rw [List.map_map, List.mem_map, List.mem_map]
    refine exists_congr fun p => and_congr_right fun hp => ?_
    rw [Function.comp_apply, hdecides p hp]
    split
    · simp_all
    · split <;> simp_all
  have hstop : .stop ∈ (pauses.map (·.before k)).map (·.decide info) ↔
      k ∈ pauses.filterMap PauseAfter.stopsAt? := by
    rw [List.map_map, List.mem_map, List.mem_filterMap]
    refine exists_congr fun p => and_congr_right fun hp => ?_
    rw [Function.comp_apply, hdecides p hp]
    split
    · -- Nobody stops the loop in the step in which they pause it.
      rename_i hafter
      refine iff_of_false nofun fun hstops => ?_
      obtain ⟨steps, hsteps, hsum⟩ := Option.map_eq_some_iff.1 hstops
      have := (h.fits p hp steps hsteps).1
      omega
    · split <;> simp_all
  simp only [LoopFlags.heed, hpause, hstop, ← Bool.decide_or, lt_or_mem_iff h.first,
    lt_or_mem_iff h.last]

end Schedules

section Beginnings

variable {e : Engine cast} {l : Loader cast} {flags : LoopFlags} {pauses : List PauseAfter}

theorem pause?_ofBuiltin {spec : PluginSpec} {builtin : Builtin}
    (hfactory : l.factories.find? spec.name = some (.builtin builtin)) {role : Role}
    (hrole : Role.ofBuiltin builtin spec.config spec.entity = .ok role) :
    l.pause? spec = role.pause? := by
  rw [Loader.pause?, hfactory]
  rcases Role.ofBuiltin_cases hrole with
    ⟨rfl, rfl⟩ | ⟨rfl, rfl⟩ | ⟨rfl, _, -, rfl⟩ | ⟨rfl, p, hmade, rfl⟩
  · rfl
  · rfl
  · rfl
  · simp only [hmade]
    rfl

/-- A system that was made has not paused yet. -/
theorem pausedAt_of_pause? {spec : PluginSpec} {p : PauseAfter} (hp : l.pause? spec = some p) :
    p.pausedAt = none := by
  unfold Loader.pause? at hp
  split at hp
  · cases hmade : PauseAfter.ofPayload spec.config with
    | error failure =>
        rw [hmade] at hp
        cases hp
    | ok made =>
        rw [hmade] at hp
        cases hp
        exact (PauseAfter.of_ofPayload hmade).1
  · cases hp

/-- A loop that was just made hears of pauses and stops. -/
theorem tellLoop_create (he : Cast.Unhindered e) (config : TickConfig) :
    (TickLoop.create config e).env.channels.TellLoop := by
  have hconnected : ∀ signal : Signal, signal.IsOrder →
      (TickLoop.create config e).env.channels.get signal.channel =
        (e.env.channels.get signal.channel).connect .loop := by
    intro signal hsignal
    have hchannels : (TickLoop.create config e).env.channels =
        (((e.env.channels.connect (.event .pause) .loop).2.connect (.event .stop) .loop).2.connect
          (.event .loadPlugins) .loop).2 := rfl
    rw [hchannels]
    cases signal with
    | pause paused => simp [Channels.get_connect, Signal.channel]
    | stop => simp [Channels.get_connect, Signal.channel]
    | _ => exact hsignal.elim
  intro signal hsignal
  have hfresh := (he.orderly signal.channel).silenced_lt
  let channel := e.env.channels.get signal.channel
  constructor
  · refine ⟨⟨channel.nextId, .loop⟩, ?_, rfl, ?_⟩
    · rw [hconnected signal hsignal]
      exact List.mem_append_right _ (List.mem_singleton_self _)
    · rw [hconnected signal hsignal]
      refine Bool.eq_false_iff.2 fun hsilenced => ?_
      exact Nat.lt_irrefl _ (hfresh _ ((Channel.isSilenced_iff _ _).1 hsilenced))
  · intro s hs
    rw [hconnected signal hsignal] at hs
    rcases List.mem_append.1 hs with hs | hs
    · exact he.onlookers signal hsignal s hs
    · rw [List.mem_singleton.1 hs]
      trivial

/-- Nobody has enlisted when the systems begin to be attached. -/
theorem enlisted_peopled (he : Cast.Unhindered e) (config : EngineConfig) :
    Enlisted e.env.loader ⟨config.tick.startPaused, false, []⟩ []
      (TickLoop.peopled config e).engine := by
  have hnobody : (TickLoop.peopled config e).engine.scheduler.all = [] :=
    congrArg Scheduler.all he.scheduler
  constructor
  case primed =>
    refine ⟨⟨he.alive, he.commands, rfl, he.quiet, tellLoop_create he config.tick⟩, ?_, ?_⟩
    · rw [hnobody]
      exact List.forall_mem_nil _
    · rw [hnobody]
      exact List.nodup_nil
  case used =>
    rw [hnobody]
    exact List.forall_mem_nil _
  case factories => rfl
  case loop => rfl
  case pauses =>
    rw [Engine.pauses, hnobody]
    rfl

/-- A system that was loaded enlists when it is attached. -/
theorem enlisted_attachAs (h : Enlisted l flags pauses e) (spec : PluginSpec) {role : Role}
    (hbuiltin : role.IsBuiltin) (hfresh : role.token = none) :
    Enlisted l flags (pauses ++ role.pause?.toList)
      ((e.loaded spec role).attachAs behavior ⟨e.env.nextHandle⟩ (e.upcoming spec) spec.entity
        spec.config) := by
  let a := e.upcoming spec
  let ready := e.loaded spec role
  let left := ready.attachAs behavior ⟨e.env.nextHandle⟩ a spec.entity spec.config
  let recruit := ready.recruit behavior ⟨e.env.nextHandle⟩ a spec.entity spec.config
  have hself : ready.env.memory.role? a.system = some role := e.env.memory.role?_enroll_self role
  have hset : SetUp a.system ready.env left.env :=
    setUp_attachAs (e := ready) h.primed.poised.alive hself hbuiltin hfresh _ _ _
  obtain ⟨degraded, hrecruit⟩ := exists_recruit_eq behavior ready ⟨e.env.nextHandle⟩ a spec.entity
    spec.config
  have hall : left.scheduler.all = e.scheduler.all ++ [recruit] := (List.append_assoc _ _ _).symm
  have hrecruited : recruit.attachment = a := congrArg Instance.attachment hrecruit
  -- The systems of before have other numbers, and go on as before.
  have hother : ∀ i ∈ e.scheduler.all, i.attachment.system ≠ a.system := by
    intro i hi heq
    have hused := h.used i hi
    rw [heq] at hused
    exact Nat.lt_irrefl _ hused
  have hrole : ∀ i ∈ e.scheduler.all, left.env.memory.role? i.attachment.system =
      e.env.memory.role? i.attachment.system := fun i hi =>
    (hset.others _ (hother i hi)).trans (e.env.memory.role?_enroll_of_ne role (hother i hi))
  have hkept : ∀ i ∈ e.scheduler.all, left.env.pauseOf i.attachment.system =
      e.env.pauseOf i.attachment.system := fun i hi => by
    rw [Environment.pauseOf, Environment.pauseOf, hrole i hi]
  have hnew : left.env.pauseOf recruit.attachment.system = role.pause? := by
    rw [hrecruited, hset.pauses, Environment.pauseOf, hself, Option.bind_some]
  constructor
  case primed =>
    refine ⟨⟨?_, ?_, ?_, ?_, ?_⟩, ?_, ?_⟩
    · exact hset.orphaned.trans h.primed.poised.alive
    · exact hset.commands.trans h.primed.poised.idle
    · exact (congrArg LoopFlags.loadRequests hset.loop).trans h.primed.poised.unasked
    · exact fun list => hset.quiet list (h.primed.poised.quiet list)
    · intro signal hsignal
      rw [hset.orders signal hsignal]
      exact h.primed.poised.heard signal hsignal
    · intro i hi
      rw [hall] at hi
      rcases List.mem_append.1 hi with hi | hi
      · obtain ⟨known, hknown, hbuiltin'⟩ := (h.primed.apt i hi).hosted
        refine ⟨⟨known, (hrole i hi).trans hknown, hbuiltin'⟩, fun hpauses => ?_⟩
        rw [hkept i hi] at hpauses
        exact (h.primed.apt i hi).able hpauses
      · obtain rfl := List.mem_singleton.1 hi
        refine ⟨?_, fun hpauses => ?_⟩
        · rw [hrecruited]
          exact hset.self role hself hbuiltin
        · rw [hnew] at hpauses
          obtain ⟨p, rfl⟩ : ∃ p, role = .pauseAfter p := by
            cases role with
            | pauseAfter p => exact ⟨p, rfl⟩
            | _ => cases hpauses
          rw [show recruit = _ from hrecruit]
          simp only [Capabilities.has_ofTest, behavior, hself]
          rfl
    · rw [hall, List.map_append, List.nodup_append]
      refine ⟨h.primed.distinct, List.nodup_singleton _, ?_⟩
      intro system hsystem other hother' heq
      obtain ⟨i, hi, rfl⟩ := List.mem_map.1 hsystem
      obtain rfl := List.mem_singleton.1 hother'
      exact hother i hi (heq.trans (congrArg Attachment.system hrecruited))
  case used =>
    intro i hi
    rw [hset.nextSystem]
    rw [hall] at hi
    rcases List.mem_append.1 hi with hi | hi
    · exact Nat.lt_succ_of_lt (h.used i hi)
    · rw [List.mem_singleton.1 hi, hrecruited]
      exact Nat.lt_succ_self _
  case factories => exact (congrArg Loader.factories hset.loader).trans h.factories
  case loop => exact hset.loop.trans h.loop
  case pauses =>
    rw [Engine.pauses, hall, List.filterMap_append, ← h.pauses, Engine.pauses]
    congr 1
    · exact List.filterMap_congr hkept
    · rw [List.filterMap_cons, hnew]
      cases role.pause? <;> rfl

/-- **A system that is loaded and attached enlists.** -/
theorem enlisted_loadAndAttach (h : Enlisted l flags pauses e) {spec : PluginSpec}
    {builtin : Builtin} (hfactory : l.factories.find? spec.name = some (.builtin builtin))
    {handle : Handle} {left : Engine cast}
    (hattach : e.loadAndAttach behavior spec = (.ok handle, left)) :
    Enlisted l flags (pauses ++ (l.pause? spec).toList) left := by
  have hknown := hfactory
  rw [← h.factories] at hknown
  cases hrole : Role.ofBuiltin builtin spec.config spec.entity with
  | error failure =>
      obtain ⟨cause, hload⟩ := load_of_refused hknown hrole
      simp only [Engine.loadAndAttach, hload] at hattach
      cases hattach
  | ok role =>
      rw [loadAndAttach_of_accepted h.primed.poised.alive hknown hrole] at hattach
      obtain ⟨-, rfl⟩ := Prod.mk.inj hattach
      rw [pause?_ofBuiltin hfactory hrole]
      exact enlisted_attachAs h spec (Role.isBuiltin_ofBuiltin hrole) (name_ofBuiltin hrole).2

/-- **So do all systems of a configuration.** -/
theorem enlisted_attachAll {t left : TickLoop cast} {specs : List PluginSpec}
    (h : Enlisted l flags pauses t.engine)
    (hspecs : ∀ spec ∈ specs, ∃ builtin, l.factories.find? spec.name = some (.builtin builtin))
    (hall : t.attachAll behavior specs = (none, left)) :
    Enlisted l flags (pauses ++ specs.filterMap l.pause?) left.engine ∧
      left = { t with engine := left.engine } := by
  induction specs generalizing t pauses with
  | nil =>
      obtain ⟨-, rfl⟩ := Prod.mk.inj hall
      rw [List.filterMap_nil, List.append_nil]
      exact ⟨h, rfl⟩
  | cons spec rest ih =>
      obtain ⟨builtin, hfactory⟩ := hspecs spec List.mem_cons_self
      unfold TickLoop.attachAll at hall
      rcases hattach : t.engine.loadAndAttach behavior spec with ⟨cause | handle, e⟩
      · rw [hattach] at hall
        cases hall
      · rw [hattach] at hall
        have henlisted := enlisted_loadAndAttach h hfactory hattach
        obtain ⟨hleft, hsame⟩ := ih (t := { t with engine := e }) henlisted
          (fun other hother => hspecs other (List.mem_cons_of_mem spec hother)) hall
        refine ⟨?_, hsame⟩
        have hpauses : (spec :: rest).filterMap l.pause? =
            (l.pause? spec).toList ++ rest.filterMap l.pause? := by
          rw [List.filterMap_cons]
          cases l.pause? spec <;> rfl
        rw [hpauses, ← List.append_assoc]
        exact hleft

/-- **A loop that is made from a configuration** has its systems enlisted, and was not ticked. -/
theorem enlisted_ofConfig (he : Cast.Unhindered e) {config : EngineConfig}
    (hbuiltin : ∀ spec ∈ config.systems, ∃ builtin,
      e.env.loader.factories.find? spec.name = some (.builtin builtin))
    {t : TickLoop cast} (hmade : (TickLoop.ofConfig behavior config Cast.populate e).1 = .ok t) :
    Enlisted e.env.loader ⟨config.tick.startPaused, false, []⟩ (config.pauses e.env.loader)
      t.engine ∧ t.config = config.tick ∧ t.last = none ∧ t.faults = 0 := by
  rw [ofConfig_eq] at hmade
  rcases hall : (TickLoop.peopled config e).attachAll behavior config.systems with
    ⟨_ | cause, left⟩ <;> rw [hall] at hmade
  · obtain rfl := Except.ok.inj hmade
    obtain ⟨hleft, hsame⟩ := enlisted_attachAll (enlisted_peopled he config) hbuiltin hall
    rw [List.nil_append] at hleft
    refine ⟨?_, ?_, ?_, ?_⟩
    · exact { hleft with
        primed := { hleft.primed with
          poised := { hleft.primed.poised with }
          apt := fun i hi => { hleft.primed.apt i hi with } } }
    · exact congrArg TickLoop.config hsame
    · exact congrArg TickLoop.last hsame
    · exact congrArg TickLoop.faults hsame
  · cases hmade

end Beginnings

section Runs

variable {t : TickLoop cast} {pauses : List PauseAfter} {first last : Nat} {step : Duration}
  {k : Nat}

/-- A loop that nobody asked to load plugins loads none. -/
theorem loadRequested_of_unasked {e : Engine cast} (h : e.env.loop.loadRequests = []) :
    TickLoop.loadRequested behavior e = e := by
  obtain ⟨scheduler, env⟩ := e
  replace h : env.loop.loadRequests = [] := h
  have hflags : { env.loop with loadRequests := [] } = env.loop := by rw [← h]
  simp only [TickLoop.loadRequested, hflags, h, List.foldl_nil]

/-- The loop is finished once a system has stopped it. -/
theorem isFinished_of_pausing (h : t.Pausing pauses first last step k) :
    t.isFinished = decide (last < k) := by
  have hstop := congrArg LoopFlags.stopRequested h.loop
  simp only at hstop
  simp [TickLoop.isFinished, hstop, h.endless]

/-- **A tick is made as scheduled.** -/
theorem pausing_tick (hplan : Schedule pauses first last)
    (htime : step.nanos * (first + 1) < 2 ^ 64 * 10 ^ 9)
    (h : t.Pausing pauses first last step k) (hk : k ≤ last) :
    ∃ report left info, t.tick behavior = .ok (report, left) ∧
      left.Pausing pauses first last step (k + 1) ∧ left.last = some info ∧
        info.simTime.nanos = step.nanos * min k (first + 1) := by
  have hnumber : k < 2 ^ 64 := Nat.lt_of_le_of_lt hk hplan.bounds.2
  have hrange : step.nanos * min k (first + 1) < 2 ^ 64 * 10 ^ 9 :=
    Nat.lt_of_le_of_lt (Nat.mul_le_mul_left _ (Nat.min_le_right _ _)) htime
  obtain ⟨info, hinfo⟩ := h.clocked.exists_next hnumber hrange
  obtain ⟨hiterations, -, hflag, hsim⟩ := h.clocked.next hinfo
  obtain ⟨htick, hafter⟩ := TickLoop.tick_of_nextInfo (b := behavior) hinfo
  rw [loadRequested_of_unasked h.primed.poised.unasked] at htick hafter
  have hfits : ∀ p ∈ t.engine.pauses, p.decide info ≠ .overflow := by
    rw [h.pauses]
    intro p hp
    obtain ⟨q, hq, rfl⟩ := List.mem_map.1 hp
    rw [PauseAfter.decide_before (hplan.fits q hq) hiterations]
    split
    · exact nofun
    · split <;> exact nofun
  obtain ⟨hfaults, hprimed, hpauses, hloop⟩ := primed_runStep h.primed hfits
  have hclocked := h.clocked.tick (b := behavior) hinfo
  have hrunning : min k (first + 1) + (if info.paused then 0 else 1) = min (k + 1) (first + 1) := by
    have hpaused : info.paused = decide (first < k) :=
      hflag.trans (congrArg LoopFlags.paused h.loop)
    by_cases hlt : first < k
    · simp only [hpaused, hlt, decide_true, if_true]
      omega
    · simp only [hpaused, hlt, decide_false, Bool.false_eq_true, if_false]
      omega
  rw [hrunning] at hclocked
  refine ⟨_, _, info, htick, ?_, by rw [hafter], hsim⟩
  rw [hafter] at hclocked ⊢
  constructor
  case clocked => exact hclocked
  case primed => exact hprimed
  case pauses =>
    refine hpauses.trans ?_
    rw [h.pauses, List.map_map]
    exact List.map_congr_left fun p hp =>
      PauseAfter.advance_before (hplan.fits p hp) hiterations
  case loop =>
    refine hloop.trans ?_
    rw [show t.engine.env.loop = _ from h.loop, h.pauses]
    exact hplan.heed hiterations
  case endless => exact h.endless
  case faultless =>
    rw [hfaults]
    exact h.faultless

/-- **The ticks up to the stop**, by induction on how many there are. -/
theorem pausing_run (hplan : Schedule pauses first last)
    (htime : step.nanos * (first + 1) < 2 ^ 64 * 10 ^ 9) {n : Nat}
    (h : t.Pausing pauses first last step k) (hn : k + n = last) :
    ∃ left info, (∀ bound, n < bound → t.tickUntilFinished behavior bound = (.finished, left)) ∧
      left.Pausing pauses first last step (last + 1) ∧ left.last = some info ∧
        info.simTime.nanos = step.nanos * (first + 1) := by
  induction n generalizing t k with
  | zero =>
      obtain rfl : k = last := hn
      obtain ⟨report, left, info, htick, hleft, hlast, hsim⟩ :=
        pausing_tick hplan htime h (Nat.le_refl k)
      have hfinished : left.isFinished = true := by
        rw [isFinished_of_pausing hleft]
        exact decide_eq_true (Nat.lt_succ_self k)
      refine ⟨left, info, fun bound hbound => ?_, hleft, hlast, ?_⟩
      · obtain ⟨rest, rfl⟩ := Nat.exists_eq_add_of_lt hbound
        simp only [TickLoop.tickUntilFinished, htick, hfinished, if_true]
      · rw [hsim, Nat.min_eq_right hplan.bounds.1]
  | succ n ih =>
      obtain ⟨report, next, -, htick, hnext, -⟩ := pausing_tick hplan htime h (by omega)
      have hunfinished : next.isFinished = false := by
        rw [isFinished_of_pausing hnext]
        exact decide_eq_false (by omega)
      obtain ⟨left, info, hruns, hleft, hlast, hsim⟩ := ih hnext (by omega)
      refine ⟨left, info, fun bound hbound => ?_, hleft, hlast, hsim⟩
      obtain ⟨rest, rfl⟩ := Nat.exists_eq_add_of_lt hbound
      have hrest := hruns (n + 1 + rest) (by omega)
      simp only [TickLoop.tickUntilFinished, htick, hunfinished, Bool.false_eq_true, if_false]
      exact hrest

end Runs

/--
**Systems pause and stop a loop.**  Take a loop made from a configuration whose plugins are all
built in, which is not paused at the beginning and has no limit, over an engine where whoever else
hears of pauses and stops looks on.  Let one of its systems stop it, each of those that do some
steps after pausing it, in a step that has a number; let `first` be the first step in which any of
them pauses, and `last` the first one in which any of them stops the loop; and let the simulated
time of `1 + first` steps be in range.  Then the loop comes to its end after `1 + last` ticks,
however many more it may make; it is paused, nothing has failed, and the time of its last step is
that of `1 + first` steps.
-/
theorem run_until_stopped {e : Engine cast} (he : Cast.Unhindered e) {config : EngineConfig}
    (hbuiltin : ∀ spec ∈ config.systems, ∃ builtin,
      e.env.loader.factories.find? spec.name = some (.builtin builtin))
    (hrunning : config.tick.startPaused = false) (hendless : config.tick.maxTicks = 0)
    {step : Duration} (hstep : config.tick.stepDuration? = some step)
    (hfits : ∀ p ∈ config.pauses e.env.loader, p.Fits) {first last : Nat}
    (hfirst : ((config.pauses e.env.loader).map fun p => p.after.toNat).min? = some first)
    (hlast : ((config.pauses e.env.loader).filterMap PauseAfter.stopsAt?).min? = some last)
    (htime : (1 + first) * step.nanos < 2 ^ 64 * 10 ^ 9) {t : TickLoop cast}
    (hmade : (TickLoop.ofConfig behavior config Cast.populate e).1 = .ok t) :
    ∃ left info, (∀ bound, last < bound → t.run behavior bound = (.finished, left)) ∧
      left.tickId = 1 + last ∧
      left.isPaused = true ∧
      left.faults = 0 ∧
      left.last = some info ∧
      info.simTime.nanos = (1 + first) * step.nanos := by
  have hplan : Schedule (config.pauses e.env.loader) first last := ⟨hfits, hfirst, hlast⟩
  obtain ⟨henlisted, hconfig, hunticked, hfaultless⟩ := enlisted_ofConfig he hbuiltin hmade
  have hfresh : (config.pauses e.env.loader).map (·.before 0) = config.pauses e.env.loader := by
    refine (List.map_congr_left fun p hp => ?_).trans (List.map_id _)
    obtain ⟨spec, -, hspec⟩ := List.mem_filterMap.1 hp
    exact PauseAfter.before_zero (pausedAt_of_pause? hspec)
  have hready : t.Pausing (config.pauses e.env.loader) first last step 0 := by
    constructor
    case clocked =>
      have hid : t.tickId = 0 := by rw [TickLoop.tickId, hunticked]
      refine ⟨hconfig ▸ hstep, hid, fun _ => Nat.zero_min _, fun info hinfo => ?_⟩
      rw [hunticked] at hinfo
      cases hinfo
    case primed => exact henlisted.primed
    case pauses => exact henlisted.pauses.trans hfresh.symm
    case loop =>
      refine henlisted.loop.trans ?_
      rw [hrunning]
      simp
    case endless => exact hconfig ▸ hendless
    case faultless => exact hfaultless
  rw [Nat.add_comm 1 first, Nat.mul_comm] at htime ⊢
  obtain ⟨left, info, hruns, hleft, hinfo, hsim⟩ :=
    pausing_run hplan htime hready (Nat.zero_add last)
  refine ⟨left, info, fun bound hbound => ?_, ?_, ?_, hleft.faultless, hinfo, hsim⟩
  · rw [TickLoop.run, hconfig, hstep]
    exact hruns bound hbound
  · rw [hleft.clocked.count, Nat.add_comm]
  · have hpaused := congrArg LoopFlags.paused hleft.loop
    refine hpaused.trans (decide_eq_true ?_)
    exact Nat.lt_succ_of_lt hplan.bounds.1

namespace Cast

/-- An engine without systems; the host has subscribed to pauses, and writes them down. -/
def overlooked : Engine cast where
  scheduler := .empty
  env := { (engine []).env with
    channels := ((engine []).env.channels.connect (.event .pause)
      (.guest (.scripted "pauses" 0 [] ⟨none, .null, false, false⟩))).2 }

theorem unhindered_overlooked : Unhindered overlooked where
  scheduler := rfl
  commands := rfl
  alive := rfl
  quiet _ := rfl
  orderly key := by
    rw [overlooked, Channels.get_connect]
    split
    · exact Channel.Orderly.empty.connect _
    · exact .empty
  onlookers signal hsignal s hs := by
    rcases Channels.mem_subscribers_connect hs with hs | ⟨-, rfl⟩
    · cases hs
    · exact fun _ _ => ⟨trivial, fun _ => ⟨fun _ => rfl, fun _ => trivial⟩⟩

/-- A clock, a log, and three systems that pause the loop, two of which stop it some steps later. -/
def curfew : EngineConfig where
  tick := ⟨60.0, 0, 30.0, false⟩
  entities := [⟨"cart", some ⟨0, 1, 0⟩⟩]
  systems :=
    [.ofName "sim_clock",
      ⟨"pause_after", .null, ⟨.ofMembers [("after", .ofNat 3), ("stop_after", .ofNat 1)]⟩⟩,
      .ofName "velocity_log",
      ⟨"pause_after", .null, ⟨.ofMembers [("after", .ofNat 1), ("stop_after", .ofNat 4)]⟩⟩,
      ⟨"pause_after", .null, ⟨.ofMembers [("after", .ofNat 2)]⟩⟩]

end Cast

/-- The second system pauses the loop in step 1, and the first one stops it in step 4. -/
theorem run_until_stopped_curfew :
    ∃ t left info,
      (TickLoop.ofConfig behavior Cast.curfew Cast.populate Cast.overlooked).1 = .ok t ∧
      Cast.curfew.pauses Cast.overlooked.env.loader =
        [⟨3, some 1, none⟩, ⟨1, some 4, none⟩, ⟨2, none, none⟩] ∧
      t.run behavior 5 = (.finished, left) ∧
      left.tickId = 5 ∧
      left.isPaused = true ∧
      left.faults = 0 ∧
      left.last = some info ∧
      info.simTime.nanos = 2 * 16666667 := by
  have hpauses : Cast.curfew.pauses Cast.overlooked.env.loader =
      [⟨3, some 1, none⟩, ⟨1, some 4, none⟩, ⟨2, none, none⟩] := rfl
  have hbuiltin : ∀ spec ∈ Cast.curfew.systems, ∃ builtin,
      Cast.overlooked.env.loader.factories.find? spec.name = some (.builtin builtin) := by
    intro spec hspec
    simp only [Cast.curfew, List.mem_cons, List.not_mem_nil, or_false] at hspec
    rcases hspec with rfl | rfl | rfl | rfl | rfl
    · exact ⟨.simClock, rfl⟩
    · exact ⟨.pauseAfter, rfl⟩
    · exact ⟨.velocityLog, rfl⟩
    · exact ⟨.pauseAfter, rfl⟩
    · exact ⟨.pauseAfter, rfl⟩
  have hfits : ∀ p ∈ Cast.curfew.pauses Cast.overlooked.env.loader, p.Fits := by
    rw [hpauses]
    intro p hp
    simp only [List.mem_cons, List.not_mem_nil, or_false] at hp
    rcases hp with rfl | rfl | rfl <;> rintro steps ⟨⟩ <;> exact ⟨by decide, by decide⟩
  have hfirst : ((Cast.curfew.pauses Cast.overlooked.env.loader).map
      fun p => p.after.toNat).min? = some 1 := by
    rw [hpauses]
    decide
  have hlast : ((Cast.curfew.pauses Cast.overlooked.env.loader).filterMap
      PauseAfter.stopsAt?).min? = some 4 := by
    rw [hpauses]
    decide
  obtain ⟨t, hmade⟩ : ∃ t,
      (TickLoop.ofConfig behavior Cast.curfew Cast.populate Cast.overlooked).1 = .ok t := ⟨_, rfl⟩
  have hstep : Cast.curfew.tick.stepDuration? = some .sixtieth := by decide +kernel
  obtain ⟨left, info, hruns, hid, hpaused, hfaults, hinfo, hsim⟩ :=
    run_until_stopped Cast.unhindered_overlooked hbuiltin rfl rfl hstep hfits hfirst hlast
      (by decide) hmade
  exact ⟨t, left, info, hmade, hpauses, hruns 5 (by decide), hid, hpaused, hfaults, hinfo, hsim⟩

end SimEngine
