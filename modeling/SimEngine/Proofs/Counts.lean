import SimEngine.Proofs.Maps
import SimEngine.Proofs.Laws

/-!
# Counts of instances

A loader counts the systems that it has made and that are not let go of yet.
Each of them is somewhere: it waits in the queue, or it is outside of the
environment, with the host or in the scheduler.  The counts are right if they
tell how many there are in all places together.

Guest code cannot spoil them, for the host alone has systems loaded: what guest
code queues on its own is not counted.  This also holds of an engine that is
gone, whose queue is let go of between two requests.

**Definitions.**
* `countedIn`: how many systems are counted as instances of a plugin.
* `Balanced`: the counts are right.
* `Behavior.Honest`: guest code that queues no system as loaded.
* `Behavior.CountsOff`: a system is counted off from a count that is not zero.
* `Keeping`: what leaves right counts right.

**Results.**
* `balanced_releaseWith`: who lets go of a system takes it off the counts, which
  were not zero.
* `keeping_notify`, `keeping_run`: guest code leaves the counts right.
* `balanced_load`: who loads a system has one that is counted.
* `loaderLaw`: guest code changes no count while the engine is alive.
-/

namespace SimEngine

variable {G : Guest}

/-- Whether a system is counted as an instance of a plugin. -/
def Attachment.isCountedFor (plugin : String) (a : Attachment G) : Bool :=
  a.ownership = .plugin plugin (some .counted)

/-- How many systems are counted as instances of a plugin. -/
def countedIn (plugin : String) (attachments : List (Attachment G)) : Nat :=
  attachments.countP (Attachment.isCountedFor plugin)

/-- The system that a request would attach. -/
def Command.attachment? : Command G → Option (Attachment G)
  | .attach _ attachment _ _ => some attachment
  | .detach _ => none

/-- The systems that requests would attach. -/
def queuedIn (commands : List (Command G)) : List (Attachment G) :=
  commands.filterMap Command.attachment?

/-- The counts are right, given the systems that are outside of the environment. -/
def Balanced (outside : List (Attachment G)) (env : Environment G) : Prop :=
  ∀ plugin, env.loader.liveInstances plugin =
    countedIn plugin (queuedIn env.commands) + countedIn plugin outside

/-- A request that queues no system as loaded. -/
def Request.Honest : Request G → Prop
  | .queueAttach attachment _ _ => ∀ plugin, attachment.isCountedFor plugin = false
  | _ => True

/-- A program that queues no system as loaded, whatever it is answered. -/
abbrev Program.Honest {α : Type} (p : Program G α) : Prop :=
  p.Confined Request.Honest fun _ => True

/-- Guest code that queues no system as loaded. -/
structure Behavior.Honest (b : Behavior G) : Prop where
  configure : ∀ system ctx, (b.configure system ctx).Honest
  configureParameters : ∀ system, (b.configureParameters system).Honest
  phase : ∀ phase system info, (b.phase phase system info).Honest
  onQuery : ∀ callback info entity, (b.onQuery callback info entity).Honest
  onSignal : ∀ callback signal, (b.onSignal callback signal).Honest
  construct : ∀ factory spec, (b.construct factory spec).Honest
  discard : ∀ system, (b.discard system).Honest
  giveBack : ∀ system, (b.giveBack system).Honest
  unloaded : ∀ plugin, (b.unloaded plugin).Honest

/-- A loaded system is counted off when it is let go of, from a count that is not zero. -/
def Behavior.CountsOff (b : Behavior G) (run : Program G Unit → Environment G → Environment G)
    (a : Attachment G) (env : Environment G) : Prop :=
  ∀ plugin, a.isCountedFor plugin = true →
    0 < (run (b.discard a.system) env).loader.liveInstances plugin ∧
    (b.releaseWith run a env).loader.liveInstances plugin + 1 =
      (run (b.discard a.system) env).loader.liveInstances plugin

/-- What leaves right counts right, whatever is outside. -/
def Keeping (f : Environment G → Environment G) : Prop :=
  ∀ outside env, Balanced outside env → Balanced outside (f env)

section Counting

@[simp] theorem countedIn_nil (plugin : String) :
    countedIn plugin ([] : List (Attachment G)) = 0 :=
  rfl

@[simp] theorem countedIn_append (plugin : String) (first second : List (Attachment G)) :
    countedIn plugin (first ++ second) = countedIn plugin first + countedIn plugin second :=
  List.countP_append

theorem countedIn_cons (plugin : String) (a : Attachment G) (rest : List (Attachment G)) :
    countedIn plugin (a :: rest) = countedIn plugin [a] + countedIn plugin rest :=
  countedIn_append plugin [a] rest

theorem countedIn_of_not_counted
    {a : Attachment G} (h : ∀ plugin, a.isCountedFor plugin = false) (plugin : String) :
    countedIn plugin [a] = 0 := by
  simp [countedIn, h plugin]

/-- A system is counted for the plugin that it was loaded for, and for no other. -/
theorem countedIn_counted
    {a : Attachment G} {name : String} (h : a.ownership = .plugin name (some .counted))
    (plugin : String) : countedIn plugin [a] = if plugin = name then 1 else 0 := by
  by_cases hname : plugin = name
  · have hcounted : a.isCountedFor plugin = true := by
      rw [Attachment.isCountedFor, h, hname]
      exact decide_eq_true rfl
    simp [countedIn, hcounted, if_pos hname]
  · have hcounted : a.isCountedFor plugin = false := by
      rw [Attachment.isCountedFor, h]
      exact decide_eq_false fun heq => hname (Ownership.plugin.inj heq).1.symm
    simp [countedIn, hcounted, if_neg hname]

@[simp] theorem queuedIn_append (first second : List (Command G)) :
    queuedIn (first ++ second) = queuedIn first ++ queuedIn second :=
  List.filterMap_append

@[simp] theorem liveInstances_count (l : Loader G) (name plugin : String) :
    (l.count name).liveInstances plugin =
      l.liveInstances plugin + if plugin = name then 1 else 0 := by
  unfold Loader.count Loader.liveInstances
  by_cases hname : plugin = name
  · subst hname
    simp
  · simp [hname, OrderedMap.find?_insert_of_ne]

theorem liveInstances_uncount (l : Loader G) (name plugin : String) :
    (l.uncount name).2.liveInstances plugin =
      l.liveInstances plugin - if plugin = name then 1 else 0 := by
  unfold Loader.uncount Loader.liveInstances
  by_cases hname : plugin = name
  · subst hname
    cases hfind : l.live.find? plugin with
    | none =>
        simp [hfind]
    | some n =>
        by_cases hlast : n ≤ 1
        · simp [hlast]
        · simp [hlast]
  · cases l.live.find? name with
    | none =>
        simp [hname]
    | some n =>
        by_cases hlast : n ≤ 1
        · simp [hlast, hname, OrderedMap.find?_erase_of_ne]
        · simp [hlast, hname, OrderedMap.find?_insert_of_ne]

end Counting

section Keeping

theorem Balanced.of_eq
    {outside : List (Attachment G)} {env env' : Environment G} (h : Balanced outside env)
    (hloader : env'.loader = env.loader) (hcommands : env'.commands = env.commands) :
    Balanced outside env' := by
  intro plugin
  rw [hloader, hcommands]
  exact h plugin

theorem Balanced.congr
    {outside outside' : List (Attachment G)} {env : Environment G} (h : Balanced outside env)
    (hsame : ∀ plugin, countedIn plugin outside' = countedIn plugin outside) :
    Balanced outside' env := by
  intro plugin
  rw [hsame]
  exact h plugin

/-- What touches neither the counts nor the queue leaves right counts right. -/
theorem keeping_of_eq {f : Environment G → Environment G}
    (hloader : ∀ env, (f env).loader = env.loader)
    (hcommands : ∀ env, (f env).commands = env.commands) : Keeping f :=
  fun _ env h => h.of_eq (hloader env) (hcommands env)

/-- A system that is queued by the host is in the queue instead of outside. -/
theorem Balanced.queueAttach
    {outside : List (Attachment G)} {a : Attachment G} {env : Environment G}
    (h : Balanced (a :: outside) env) (entity : Entity) (config : Payload) :
    Balanced outside (env.queueAttach a entity config).2 := by
  intro plugin
  have hplugin := h plugin
  rw [countedIn_cons] at hplugin
  show env.loader.liveInstances plugin =
    countedIn plugin (queuedIn (env.commands ++ [.attach _ a entity config])) + _
  rw [queuedIn_append, countedIn_append]
  show _ = _ + countedIn plugin [a] + _
  omega

theorem keeping_perform
    {emit : Signal → Environment G → Nat × Environment G}
    (hemit : ∀ signal, Keeping fun env => (emit signal env).2) (access : Access)
    (r : Request G) (hr : r.Honest) : Keeping fun env => (r.perform emit access env).2 := by
  intro outside env h
  cases r with
  | emit signal =>
      exact hemit signal outside env h
  | write e kind value =>
      simp only [Request.perform, Environment.write]
      split
      · split
        · exact h.of_eq rfl rfl
        · exact h
      · exact h
  | queueAttach attachment entity config =>
      have houtside : Balanced (attachment :: outside) env := by
        refine h.congr fun plugin => ?_
        rw [countedIn_cons, countedIn_of_not_counted hr, Nat.zero_add]
      exact houtside.queueAttach entity config
  | queueDetach handle =>
      intro plugin
      show env.loader.liveInstances plugin =
        countedIn plugin (queuedIn (env.commands ++ [.detach handle])) + _
      rw [queuedIn_append]
      exact (List.append_nil (queuedIn env.commands)).symm ▸ h plugin
  | declare name value =>
      simp only [Request.perform]
      split
      · exact h.of_eq rfl rfl
      · exact h
  | setParameter name value =>
      simp only [Request.perform]
      split
      · exact h.of_eq rfl rfl
      · exact h
  | _ => exact h.of_eq rfl rfl

theorem keeping_program
    {emit : Signal → Environment G → Nat × Environment G} {tidy : Environment G → Environment G}
    (hemit : ∀ signal, Keeping fun env => (emit signal env).2) (htidy : Keeping tidy)
    (access : Access) {α : Type} (p : Program G α) (hp : p.Honest) :
    Keeping fun env => (p.run emit tidy access env).2 := by
  induction p with
  | ask r next ih =>
      intro outside env h
      have hanswer := keeping_perform hemit access r hp.1 outside env h
      exact ih _ (hp.2 _) outside _ (htidy outside _ hanswer)
  | _ => exact fun _ _ h => h

variable {b : Behavior G} (hb : b.Honest)
include hb

omit hb in
/-- The end of a counted system counts its plugin down by one. -/
theorem releaseWith_counted
    (run : Program G Unit → Environment G → Environment G) {a : Attachment G} {name : String}
    (hownership : a.ownership = .plugin name (some .counted)) (env : Environment G) :
    (∀ plugin, (b.releaseWith run a env).loader.liveInstances plugin =
      (run (b.discard a.system) env).loader.liveInstances plugin - if plugin = name then 1 else 0) ∧
    (b.releaseWith run a env).commands = (run (b.discard a.system) env).commands := by
  simp only [Behavior.releaseWith, hownership]
  refine ⟨fun plugin => ?_, ?_⟩
  · rw [← liveInstances_uncount]
    split <;> rfl
  · split <;> rfl

omit hb in
theorem balanced_releaseWith_counted
    {run : Program G Unit → Environment G → Environment G} {a : Attachment G} {name : String}
    (hownership : a.ownership = .plugin name (some .counted)) {outside : List (Attachment G)}
    {env : Environment G} (hdiscard : Balanced (a :: outside) (run (b.discard a.system) env)) :
    Balanced outside (b.releaseWith run a env) ∧ b.CountsOff run a env := by
  obtain ⟨hafter, hcommands⟩ := releaseWith_counted (b := b) run hownership env
  refine ⟨fun plugin => ?_, fun plugin hcounted => ?_⟩
  · have hplugin := hdiscard plugin
    rw [countedIn_cons, countedIn_counted hownership] at hplugin
    rw [hafter, hcommands, hplugin]
    omega
  · have hname : plugin = name := by
      simp only [Attachment.isCountedFor, hownership, decide_eq_true_eq] at hcounted
      exact (Ownership.plugin.inj hcounted).1.symm
    have hplugin := hdiscard plugin
    rw [countedIn_cons, countedIn_counted hownership, if_pos hname] at hplugin
    rw [hafter, if_pos hname]
    omega

/-- The end of a system that is not counted changes no count. -/
theorem balanced_releaseWith_uncounted
    {run : Program G Unit → Environment G → Environment G}
    (hrun : ∀ p : Program G Unit, p.Honest → Keeping (run p)) {a : Attachment G}
    (hnot : ∀ name, a.ownership ≠ .plugin name (some .counted)) {outside : List (Attachment G)}
    {env : Environment G} (h : Balanced (a :: outside) env) :
    Balanced outside (b.releaseWith run a env) ∧ b.CountsOff run a env := by
  have hnone : ∀ plugin, a.isCountedFor plugin = false := by
    intro plugin
    rw [Attachment.isCountedFor, decide_eq_false_iff_not]
    exact hnot plugin
  have hloose : Balanced outside env := by
    refine h.congr fun plugin => ?_
    rw [countedIn_cons, countedIn_of_not_counted hnone, Nat.zero_add]
  have hdiscard := hrun _ (hb.discard a.system) outside env hloose
  refine ⟨?_, fun plugin hcounted => ?_⟩
  · rcases hownership : a.ownership with ⟨name, _ | _ | _⟩ | _ <;>
      simp only [Behavior.releaseWith, hownership]
    · exact hdiscard
    · exact absurd hownership (hnot name)
    · exact hrun _ (hb.unloaded name) outside _ hdiscard
    · exact hrun _ (hb.giveBack a.system) outside env hloose
  · rw [hnone plugin] at hcounted
    cases hcounted

/--
Who lets go of a system takes it off the counts.  What is run for its end leaves a count that is
not zero for it to be taken off.
-/
theorem balanced_releaseWith
    {run : Program G Unit → Environment G → Environment G}
    (hrun : ∀ p : Program G Unit, p.Honest → Keeping (run p)) (a : Attachment G)
    {outside : List (Attachment G)} {env : Environment G} (h : Balanced (a :: outside) env) :
    Balanced outside (b.releaseWith run a env) ∧ b.CountsOff run a env := by
  by_cases hcounted : ∃ name, a.ownership = .plugin name (some .counted)
  · obtain ⟨name, hownership⟩ := hcounted
    exact balanced_releaseWith_counted hownership (hrun _ (hb.discard a.system) _ env h)
  · exact balanced_releaseWith_uncounted hb hrun (fun name heq => hcounted ⟨name, heq⟩) h

/-- Who lets go of queued systems takes them off the counts, one after the other. -/
theorem balanced_releaseCommands
    {run : Program G Unit → Environment G → Environment G}
    (hrun : ∀ p : Program G Unit, p.Honest → Keeping (run p)) (commands : List (Command G))
    {outside : List (Attachment G)} {env : Environment G}
    (h : Balanced (queuedIn commands ++ outside) env) :
    Balanced outside (b.releaseCommands run env commands) ∧
      ∀ past handle a entity config rest,
        commands = past ++ .attach handle a entity config :: rest →
        b.CountsOff run a (b.releaseCommands run env past) := by
  induction commands generalizing env with
  | nil =>
      refine ⟨h, fun past handle a entity config rest hsplit => ?_⟩
      cases past <;> cases hsplit
  | cons command later ih =>
      cases command with
      | attach handle attachment entity config =>
          obtain ⟨hreleased, hoff⟩ := balanced_releaseWith hb hrun attachment h
          obtain ⟨hend, hlater⟩ := ih hreleased
          refine ⟨hend, fun past handle a entity config rest hsplit => ?_⟩
          cases past with
          | nil =>
              cases hsplit
              exact hoff
          | cons first past =>
              cases hsplit
              exact hlater past handle a entity config rest rfl
      | detach handle =>
          obtain ⟨hend, hlater⟩ := ih h
          refine ⟨hend, fun past handle a entity config rest hsplit => ?_⟩
          cases past with
          | nil => cases hsplit
          | cons first past =>
              cases hsplit
              exact hlater past handle a entity config rest rfl

theorem keeping_tidyWith
    {emit : Signal → Environment G → Nat × Environment G}
    (hemit : ∀ signal, Keeping fun env => (emit signal env).2) (held : List (Snapshot G)) :
    Keeping (b.tidyWith emit held) := by
  intro outside env h
  unfold Behavior.tidyWith
  split
  · refine (balanced_releaseCommands hb (fun p hp => ?_) env.commands ?_).1
    · exact keeping_program hemit (fun _ _ h => h) .none p hp
    · intro plugin
      have hplugin := h plugin
      rw [countedIn_append]
      exact hplugin.trans (Nat.zero_add _).symm
  · exact h

omit hb in
theorem keeping_notifyAll
    {call : List (Snapshot G) → Listener G.Callback → Environment G →
      Except String Unit × Environment G}
    {tidy : List (Snapshot G) → Environment G → Environment G}
    (hcall : ∀ held listener, Keeping fun env => (call held listener env).2)
    (htidy : ∀ held, Keeping (tidy held)) (held : List (Snapshot G)) (key : ChannelKey)
    (snapshot : Snapshot G) : Keeping fun env => (notifyAll call tidy held key snapshot env).2 := by
  induction snapshot with
  | nil =>
      exact fun _ _ h => h
  | cons s rest ih =>
      intro outside env h
      simp only [notifyAll]
      split
      · exact ih _ _ (htidy _ _ _ h)
      · have hturn : Balanced outside (env.turnTo key (some s.id)) := h.of_eq rfl rfl
        have hcalled : Balanced outside
            (call ((s :: rest) :: held) s.callback (env.turnTo key (some s.id))).2 :=
          hcall ((s :: rest) :: held) s.callback outside _ hturn
        rcases hanswer : call ((s :: rest) :: held) s.callback (env.turnTo key (some s.id))
          with ⟨reason | _, left⟩
        · rw [hanswer] at hcalled
          exact ih _ _ (htidy _ _ (left.turnTo key none |>.report _) (hcalled.of_eq rfl rfl))
        · rw [hanswer] at hcalled
          exact ih _ _ (htidy _ _ (left.turnTo key none) (hcalled.of_eq rfl rfl))

/-- **Notifications leave the counts right.** -/
theorem keeping_notify (depth : Nat) (busy : List ChannelKey) (held : List (Snapshot G))
    (signal : Signal) : Keeping fun env => (b.notify depth busy held signal env).2 := by
  induction depth generalizing busy held signal with
  | zero =>
      exact fun _ _ h => h
  | succ depth ih =>
      intro outside env h
      simp only [Behavior.notify]
      split
      · exact h
      · have htidy : ∀ held, Keeping
            (b.tidyWith (b.notify depth (signal.channel :: busy) held) held) :=
          fun held => keeping_tidyWith hb (fun signal => ih _ held signal) held
        refine keeping_notifyAll (fun held listener => ?_) htidy held signal.channel _ outside _
          (h.of_eq rfl rfl)
        cases listener with
        | guest callback =>
            exact keeping_program (fun signal => ih _ held signal) (htidy held) .none _
              (hb.onSignal callback signal)
        | loop =>
            refine keeping_of_eq (fun env => ?_) (fun env => ?_) <;> cases signal <;> rfl

theorem keeping_emit (signal : Signal) : Keeping fun env => (b.emit signal env).2 :=
  keeping_notify hb b.depth [] [] signal

theorem keeping_tidy : Keeping b.tidy :=
  keeping_tidyWith hb (keeping_emit hb) []

/-- **Guest code leaves the counts right.** -/
theorem keeping_run (access : Access) {α : Type} (p : Program G α) (hp : p.Honest) :
    Keeping fun env => (b.run access p env).2 :=
  keeping_program (keeping_emit hb) (keeping_tidy hb) access p hp

theorem balanced_release
    (a : Attachment G) {outside : List (Attachment G)} {env : Environment G}
    (h : Balanced (a :: outside) env) :
    Balanced outside (b.release a env) ∧ b.CountsOff b.runQuietly a env :=
  balanced_releaseWith hb (fun p hp => keeping_run hb .none p hp) a h

/-- **Who loads a system has one that is counted**, and who cannot load it has none. -/
theorem balanced_load
    (spec : PluginSpec) {outside : List (Attachment G)} {env : Environment G}
    (h : Balanced outside env) :
    match b.load spec env with
    | (.ok a, env') =>
      a.ownership = .plugin spec.name (some .counted) ∧ Balanced (a :: outside) env'
    | (.error _, env') => Balanced outside env' := by
  unfold Behavior.load
  cases env.loader.factories.find? spec.name with
  | none =>
      exact h
  | some factory =>
      have hmade : Balanced outside (b.run .none (b.construct factory spec) env).2 :=
        keeping_run hb .none (b.construct factory spec) (hb.construct factory spec) outside env h
      rcases hanswer : b.run .none (b.construct factory spec) env with ⟨outcome, left⟩
      rw [hanswer] at hmade
      simp only [hanswer]
      rcases outcome.toExcept with message | system
      · exact hmade
      · refine ⟨rfl, fun plugin => ?_⟩
        have hplugin : left.loader.liveInstances plugin =
            countedIn plugin (queuedIn left.commands) + countedIn plugin outside := hmade plugin
        have hlive := liveInstances_count left.loader spec.name plugin
        rw [countedIn_cons, countedIn_counted rfl]
        show (left.loader.count spec.name).liveInstances plugin =
          countedIn plugin (queuedIn left.commands) + _
        rw [hlive, hplugin]
        omega

end Keeping

/-- Guest code changes no count while the engine is alive, not even for a moment. -/
theorem loaderLaw (b : Behavior G) :
    TraceLaw b fun env log env' =>
      env'.loader = env.loader ∧ ∀ o ∈ log, o.env.loader = env.loader where
  refl := by
    intro env
    exact ⟨rfl, fun o ho => absurd ho List.not_mem_nil⟩
  trans := by
    intro e₁ L₁ e₂ L₂ e₃ h₁ h₂
    refine ⟨h₂.1.trans h₁.1, fun o ho => ?_⟩
    rcases List.mem_append.1 ho with ho | ho
    · exact h₁.2 o ho
    · exact (h₂.2 o ho).trans h₁.1
  request := by
    intro spot r env hr
    refine ⟨?_, fun o ho => ?_⟩
    · obtain ⟨_, _, hafter⟩ := performAt_eq b spot r env hr
      rw [hafter]
    · rw [List.mem_singleton.1 ho]
  emit := by
    intro spot signal env
    refine ⟨rfl, fun o ho => ?_⟩
    rw [List.mem_singleton.1 ho]
  ensure := fun _ _ => ⟨rfl, fun _ ho => absurd ho List.not_mem_nil⟩
  tell := by
    intro signal env
    refine ⟨?_, fun _ ho => absurd ho List.not_mem_nil⟩
    cases signal <;> rfl
  report := fun _ _ => ⟨rfl, fun _ ho => absurd ho List.not_mem_nil⟩
  turnTo := fun _ _ _ => ⟨rfl, fun _ ho => absurd ho List.not_mem_nil⟩

end SimEngine
