import SimEngine.Proofs.Conducts
import SimEngine.Proofs.Counts
import SimEngine.Proofs.Maps
import SimEngine.Proofs.Notifications
import SimEngine.Proofs.Redraws

/-!
# What a renderer leaves

A scene update changes what clocks have shown, and nothing else that matters:
two environments that differ there only are beside one another.  The cast is
settled if there are built-in systems only, nothing is queued, and the
subscribers of the events that matter are the loop and the clocks.

**Definitions.**
* `Role.unshown`: a role without what a clock has shown.
* `Memory.Beside`, `Environment.Beside`: what differs in what was shown only.
* `Environment.IsClock`: a subscriber is a clock.
* `Settled`: the environments of built-in systems at rest.
* `Calm`: what a modest program leaves as it is.

**Results.**
* `Settled.of_calm`, `Settled.beside`: who is settled stays so, when little is
  done and when clocks are shown.
* `Settled.rearrange`, `Settled.revise`: a system may change its subscription, and
  become what continues it.
-/

namespace SimEngine

/-- A role without what a clock has shown. -/
def Role.unshown : Role → Role
  | .simClock c => .simClock { c with frames := 0, rendered := none }
  | role => role

/-- A system without what a clock has shown. -/
def Member.unshown (member : Member) : Member :=
  { member with role := member.role.unshown }

/-- Whether a notice is about a frame that was shown. -/
def Notice.isFrame : Notice → Bool
  | .renderFrame _ _ _ => true
  | _ => false

/-- Two memories differ in what clocks have shown only. -/
structure Memory.Beside (m m' : Memory) : Prop where
  members : ∀ system,
    (m'.members.find? system).map Member.unshown = (m.members.find? system).map Member.unshown
  rest : { m' with members := m.members } = m

/-- Two environments differ in what clocks have shown and in the notices about it only. -/
structure Environment.Beside (env env' : Environment cast) : Prop where
  world : env'.world = env.world
  parameters : env'.parameters = env.parameters
  channels : ∀ key, env'.channels.get key = env.channels.get key
  queries : env'.queries = env.queries
  commands : env'.commands = env.commands
  orphaned : env'.orphaned = env.orphaned
  loader : env'.loader = env.loader
  loop : env'.loop = env.loop
  nextHandle : env'.nextHandle = env.nextHandle
  journal : env'.journal.filter (!·.isFrame) = env.journal.filter (!·.isFrame)
  memory : env.memory.Beside env'.memory

/-- The channel of an event. -/
abbrev Environment.listeners (env : Environment cast) (event : Event) :
    Snapshot cast :=
  (env.channels.get (.event event)).subscribers

/-- A subscriber is a clock that is remembered to hold this subscription. -/
def Environment.IsClock (env : Environment cast) (s : Subscriber (Listener Callback)) : Prop :=
  ∃ system role, s.callback = .guest (.clock system) ∧
    env.memory.role? system = some role ∧ role.token = some ⟨.event .sceneUpdate, s.id⟩

/--
The environments of built-in systems at rest.  The systems are those of a list of attachments, all
of them loaded, and each remembered under a number that is used up.  The loop alone hears of pauses
and stops, and scene updates are for clocks, each by the subscription that it holds.
-/
structure Settled (attachments : List (Attachment cast)) (env : Environment cast) : Prop where
  alive : env.orphaned = false
  idle : env.commands = []
  unasked : env.loop.loadRequests = []
  quiet : ∀ list, (env.queryList list).queries = []
  resting : ∀ key, (env.channels.get key).current = none
  builtin : ∀ system role, env.memory.role? system = some role →
    role.IsBuiltin ∧ system ∈ attachments.map Attachment.system ∧
      system.number < env.memory.nextSystem
  loaded : ∀ a ∈ attachments, ∃ name, a.ownership = .plugin name (some .counted)
  balanced : Balanced attachments env
  pauses : ∀ s ∈ env.listeners .pause, s.callback = .loop
  stops : ∀ s ∈ env.listeners .stop, s.callback = .loop
  clocks : ∀ s ∈ env.listeners .sceneUpdate, env.IsClock s

/-- What a modest program leaves as it is. -/
structure Calm (env env' : Environment cast) : Prop where
  queries : env'.queries = env.queries
  commands : env'.commands = env.commands
  orphaned : env'.orphaned = env.orphaned
  loader : env'.loader = env.loader
  memory : env'.memory = env.memory
  requests : env'.loop.loadRequests = env.loop.loadRequests
  channels : ∀ key, env'.channels.get key = env.channels.get key

section Memories

namespace Role

@[simp] theorem token_unshown (role : Role) : role.unshown.token = role.token := by
  cases role <;> rfl

@[simp] theorem capabilities_unshown (role : Role) :
    role.unshown.capabilities = role.capabilities := by
  cases role <;> rfl

theorem isBuiltin_unshown (role : Role) : role.unshown.IsBuiltin ↔ role.IsBuiltin := by
  cases role <;> exact Iff.rfl

/-- Roles that differ in what was shown are those of clocks. -/
theorem eq_or_clock {role role' : Role} (h : role'.unshown = role.unshown) :
    role' = role ∨ ∃ c c', role = .simClock c ∧ role' = .simClock c' ∧
      ({ c' with frames := 0, rendered := none } : SimClock) =
        { c with frames := 0, rendered := none } := by
  cases role with
  | simClock c =>
      cases role' with
      | simClock c' => exact .inr ⟨c, c', rfl, rfl, Role.simClock.inj h⟩
      | _ => cases h
  | _ =>
      left
      cases role' <;> first | exact h | cases h

end Role

namespace Memory

theorem role?_revise_self {m : Memory} {system : SystemId} {role : Role}
    (hrole : m.role? system = some role) (f : Role → Role) :
    (m.revise system f).role? system = some (f role) := by
  obtain ⟨member, hmember, rfl⟩ := Option.map_eq_some_iff.1 hrole
  simp [role?, revise, OrderedMap.find?_modify_self, hmember]

theorem role?_revise_of_ne (m : Memory) {system other : SystemId} (hne : other ≠ system)
    (f : Role → Role) : (m.revise system f).role? other = m.role? other := by
  simp only [role?, revise, OrderedMap.find?_modify_of_ne _ hne]

theorem role?_enroll_self (m : Memory) (role : Role) :
    (m.enroll role).2.role? ⟨m.nextSystem⟩ = some role := by
  simp [role?, enroll]

theorem role?_enroll_of_ne (m : Memory) (role : Role) {other : SystemId}
    (hne : other ≠ ⟨m.nextSystem⟩) : (m.enroll role).2.role? other = m.role? other := by
  simp only [role?, enroll, OrderedMap.find?_insert_of_ne _ hne]

theorem role?_dismiss_self (m : Memory) (system : SystemId) :
    (m.dismiss system).role? system = none := by
  simp [role?, dismiss]

theorem role?_dismiss_of_ne (m : Memory) {system other : SystemId} (hne : other ≠ system) :
    (m.dismiss system).role? other = m.role? other := by
  simp only [role?, dismiss, OrderedMap.find?_erase_of_ne _ hne]

namespace Beside

theorem refl (m : Memory) : m.Beside m :=
  ⟨fun _ => rfl, rfl⟩

theorem trans {m₁ m₂ m₃ : Memory} (h₁ : m₁.Beside m₂) (h₂ : m₂.Beside m₃) : m₁.Beside m₃ := by
  refine ⟨fun system => (h₂.members system).trans (h₁.members system), ?_⟩
  have hrest : { m₃ with members := m₁.members } =
      ({ m₂ with members := m₁.members } : Memory) := by
    rw [← h₂.rest]
  exact hrest.trans h₁.rest

theorem role? {m m' : Memory} (h : m.Beside m') (system : SystemId) :
    (m'.role? system).map Role.unshown = (m.role? system).map Role.unshown := by
  have hmember := congrArg (Option.map Member.role) (h.members system)
  rw [Option.map_map, Option.map_map] at hmember
  rw [Memory.role?, Memory.role?, Option.map_map, Option.map_map]
  exact hmember

/-- What one memory knows of a system, the other one knows, but for what was shown. -/
theorem exists_role {m m' : Memory} (h : m.Beside m') {system : SystemId} {role : Role}
    (hrole : m.role? system = some role) :
    ∃ role', m'.role? system = some role' ∧ role'.unshown = role.unshown := by
  have hsame := h.role? system
  rw [hrole] at hsame
  obtain ⟨role', hrole', heq⟩ := Option.map_eq_some_iff.1 hsame
  exact ⟨role', hrole', heq⟩

theorem role?_eq_none {m m' : Memory} (h : m.Beside m') {system : SystemId}
    (hrole : m.role? system = none) : m'.role? system = none := by
  have hsame := h.role? system
  rw [hrole] at hsame
  exact Option.map_eq_none_iff.1 hsame

theorem revise {m m' : Memory} (h : m.Beside m') (system : SystemId) {role role' : Role}
    (hrole : role'.unshown = role.unshown) :
    (m.revise system fun _ => role).Beside (m'.revise system fun _ => role') := by
  refine ⟨fun other => ?_, ?_⟩
  · by_cases hother : other = system
    · subst hother
      have hmember := h.members other
      simp only [Memory.revise, OrderedMap.find?_modify_self, Option.map_map]
      cases hfind : m.members.find? other with
      | none =>
          rw [hfind] at hmember
          rw [Option.map_eq_none_iff.1 hmember]
          rfl
      | some member =>
          rw [hfind] at hmember
          obtain ⟨member', hfind', heq⟩ := Option.map_eq_some_iff.1 hmember
          have hholders : member'.unshown.holders = member.unshown.holders :=
            congrArg Member.holders heq
          rw [hfind']
          exact congrArg some (congrArg₂ Member.mk hrole hholders)
    · simp only [Memory.revise, OrderedMap.find?_modify_of_ne _ hother]
      exact h.members other
  · have hrest := congrArg
      (fun memory : Memory => { memory with
        members := (m.revise system fun _ => role).members }) h.rest
    exact hrest

/-- A clock that was shown is beside what it was. -/
theorem of_shown {m : Memory} {system : SystemId} {role role' : Role}
    (hrole : m.role? system = some role) (hshown : role'.unshown = role.unshown) :
    m.Beside (m.revise system fun _ => role') := by
  refine ⟨fun other => ?_, rfl⟩
  by_cases hother : other = system
  · subst hother
    obtain ⟨member, hmember, rfl⟩ := Option.map_eq_some_iff.1 hrole
    simp only [Memory.revise, OrderedMap.find?_modify_self, hmember, Option.map_some]
    simp [Member.unshown, hshown]
  · simp only [Memory.revise, OrderedMap.find?_modify_of_ne _ hother]

end Beside
end Memory

end Memories

section Environments

variable {attachments : List (Attachment cast)} {env env' left : Environment cast}

namespace Environment.Beside

theorem refl (env : Environment cast) : env.Beside env :=
  ⟨rfl, rfl, fun _ => rfl, rfl, rfl, rfl, rfl, rfl, rfl, rfl, .refl _⟩

theorem trans (h : env.Beside env') (h' : env'.Beside left) : env.Beside left where
  world := h'.world.trans h.world
  parameters := h'.parameters.trans h.parameters
  channels key := (h'.channels key).trans (h.channels key)
  queries := h'.queries.trans h.queries
  commands := h'.commands.trans h.commands
  orphaned := h'.orphaned.trans h.orphaned
  loader := h'.loader.trans h.loader
  loop := h'.loop.trans h.loop
  nextHandle := h'.nextHandle.trans h.nextHandle
  journal := h'.journal.trans h.journal
  memory := h.memory.trans h'.memory

theorem queryList (h : env.Beside env') (list : Handle) :
    env'.queryList list = env.queryList list :=
  congrArg (fun queries => (queries.find? list).getD .empty) h.queries

theorem isSilenced (h : env.Beside env') (c : Connection) :
    env'.channels.isSilenced c = env.channels.isSilenced c :=
  congrArg (·.isSilenced c.id) (h.channels c.channel)

theorem listeners (h : env.Beside env') (event : Event) :
    env'.listeners event = env.listeners event :=
  congrArg Channel.subscribers (h.channels _)

/-- A clock is the same one in an environment beside. -/
theorem isClock (h : env.Beside env') {s : Subscriber (Listener Callback)}
    (hs : env.IsClock s) : env'.IsClock s := by
  obtain ⟨system, role, hcallback, hrole, htoken⟩ := hs
  obtain ⟨role', hrole', hshown⟩ := h.memory.exists_role hrole
  refine ⟨system, role', hcallback, hrole', ?_⟩
  rw [← Role.token_unshown, hshown, Role.token_unshown, htoken]

theorem report (h : env.Beside env') (notice : Notice) :
    (env.report notice).Beside (env'.report notice) :=
  { h with
    journal := by
      show (notice :: env'.journal).filter _ = (notice :: env.journal).filter _
      rw [List.filter_cons, List.filter_cons, h.journal] }

theorem setQueryList (h : env.Beside env') (handle : Handle) (list : QueryList Callback) :
    (env.setQueryList handle list).Beside (env'.setQueryList handle list) :=
  { h with queries := congrArg (·.insert handle list) h.queries }

theorem tellLoop (h : env.Beside env') (signal : Signal) :
    (env.tellLoop signal).Beside (env'.tellLoop signal) := by
  cases signal with
  | pause paused =>
      have htold : Environment.Beside
          { env with loop := { env.loop with paused := paused } }
          { env' with loop := { env'.loop with paused := paused } } :=
        { h with loop := congrArg (fun l => { l with paused := paused }) h.loop }
      exact htold.report _
  | stop => exact { h with loop := congrArg (fun l => { l with stopRequested := true }) h.loop }
  | loadPlugins entity specs =>
      let requests := specs.map fun spec => { spec with entity := entity }
      exact { h with
        loop := congrArg
          (fun l => { l with loadRequests := l.loadRequests ++ requests }) h.loop }
  | _ => exact h

end Environment.Beside

namespace Calm

theorem refl (env : Environment cast) : Calm env env :=
  ⟨rfl, rfl, rfl, rfl, rfl, rfl, fun _ => rfl⟩

theorem trans (h : Calm env env') (h' : Calm env' left) : Calm env left where
  queries := h'.queries.trans h.queries
  commands := h'.commands.trans h.commands
  orphaned := h'.orphaned.trans h.orphaned
  loader := h'.loader.trans h.loader
  memory := h'.memory.trans h.memory
  requests := h'.requests.trans h.requests
  channels key := (h'.channels key).trans (h.channels key)

theorem listeners (h : Calm env left) (event : Event) :
    left.listeners event = env.listeners event :=
  congrArg Channel.subscribers (h.channels _)

theorem report (env : Environment cast) (notice : Notice) : Calm env (env.report notice) :=
  ⟨rfl, rfl, rfl, rfl, rfl, rfl, fun _ => rfl⟩

end Calm

namespace Settled

theorem of_calm (h : Settled attachments env) (hcalm : Calm env left) :
    Settled attachments left where
  alive := hcalm.orphaned.trans h.alive
  idle := hcalm.commands.trans h.idle
  unasked := hcalm.requests.trans h.unasked
  quiet list := by
    rw [Environment.queryList, hcalm.queries]
    exact h.quiet list
  resting key := by
    rw [hcalm.channels]
    exact h.resting key
  builtin system role hrole := by
    rw [hcalm.memory] at hrole ⊢
    exact h.builtin system role hrole
  loaded := h.loaded
  balanced := h.balanced.of_eq hcalm.loader hcalm.commands
  pauses := by
    rw [hcalm.listeners]
    exact h.pauses
  stops := by
    rw [hcalm.listeners]
    exact h.stops
  clocks := by
    rw [hcalm.listeners]
    intro s hs
    rw [Environment.IsClock, hcalm.memory]
    exact h.clocks s hs

theorem beside (h : Settled attachments env) (hbeside : env.Beside env') :
    Settled attachments env' where
  alive := hbeside.orphaned.trans h.alive
  idle := hbeside.commands.trans h.idle
  unasked := (congrArg LoopFlags.loadRequests hbeside.loop).trans h.unasked
  quiet list := by
    rw [hbeside.queryList]
    exact h.quiet list
  resting key := by
    rw [hbeside.channels]
    exact h.resting key
  builtin system role' hrole' := by
    have hsame := hbeside.memory.role? system
    rw [hrole'] at hsame
    obtain ⟨role, hrole, heq⟩ := Option.map_eq_some_iff.1 hsame.symm
    obtain ⟨hbuiltin, hmem, hused⟩ := h.builtin system role hrole
    refine ⟨?_, hmem, ?_⟩
    · rwa [← Role.isBuiltin_unshown, ← heq, Role.isBuiltin_unshown]
    · have hnext := congrArg Memory.nextSystem hbeside.memory.rest
      exact Nat.lt_of_lt_of_eq hused hnext.symm
  loaded := h.loaded
  balanced := h.balanced.of_eq hbeside.loader hbeside.commands
  pauses := by
    rw [hbeside.listeners]
    exact h.pauses
  stops := by
    rw [hbeside.listeners]
    exact h.stops
  clocks := by
    rw [hbeside.listeners]
    exact fun s hs => hbeside.isClock (h.clocks s hs)

theorem setQueryList (h : Settled attachments env) (handle : Handle) {list : QueryList Callback}
    (hlist : list.queries = []) : Settled attachments (env.setQueryList handle list) :=
  { h with
    quiet := by
      intro other
      by_cases hother : other = handle
      · subst hother
        simpa [Environment.setQueryList, Environment.queryList] using hlist
      · have hquiet := h.quiet other
        rwa [Environment.queryList, Environment.setQueryList,
          OrderedMap.find?_insert_of_ne _ hother] }

/-- The subscriber of a clock is the one that the clock holds. -/
theorem token_of_mem (h : Settled attachments env) {system : SystemId}
    {s : Subscriber (Listener Callback)} (hs : s ∈ env.listeners .sceneUpdate)
    (hown : s.callback = .guest (.clock system)) :
    (env.memory.role? system).bind Role.token = some ⟨.event .sceneUpdate, s.id⟩ := by
  obtain ⟨clock, role, hcallback, hrole, htoken⟩ := h.clocks s hs
  obtain rfl : clock = system := by
    have hsame := hcallback.symm.trans hown
    injection hsame with hsame
    injection hsame
  rw [hrole]
  exact htoken

/--
One system may be changed together with the channels, as long as each subscriber to scene updates
is its own one that it holds, or a former one of another system.
-/
theorem rearrange (h : Settled attachments env) (system : SystemId) {memory : Memory}
    {channels : Channels (Listener Callback)}
    (hothers : ∀ other, other ≠ system → memory.role? other = env.memory.role? other)
    (hself : ∀ role, memory.role? system = some role →
      role.IsBuiltin ∧ (env.memory.role? system).isSome = true)
    (hused : memory.nextSystem = env.memory.nextSystem)
    (hresting : ∀ key, (channels.get key).current = none)
    (hkept : ∀ event, event ≠ .sceneUpdate →
      ∀ s ∈ (channels.get (.event event)).subscribers, s ∈ env.listeners event)
    (hclocks : ∀ s ∈ (channels.get (.event .sceneUpdate)).subscribers,
      (s.callback = .guest (.clock system) ∧
        (memory.role? system).bind Role.token = some ⟨.event .sceneUpdate, s.id⟩) ∨
      (s ∈ env.listeners .sceneUpdate ∧ s.callback ≠ .guest (.clock system))) :
    Settled attachments { env with channels := channels, memory := memory } := by
  refine { h with
    resting := hresting
    balanced := h.balanced.of_eq rfl rfl
    builtin := ?_, pauses := ?_, stops := ?_, clocks := ?_ }
  · intro other role hrole
    have hrole : memory.role? other = some role := hrole
    rw [show (Environment.memory { env with channels := channels, memory := memory }).nextSystem =
      env.memory.nextSystem from hused]
    by_cases hother : other = system
    · subst hother
      obtain ⟨hbuiltin, hsome⟩ := hself role hrole
      obtain ⟨former, hformer⟩ := Option.isSome_iff_exists.1 hsome
      exact ⟨hbuiltin, (h.builtin other former hformer).2⟩
    · rw [hothers other hother] at hrole
      exact h.builtin other role hrole
  · exact fun s hs => h.pauses s (hkept .pause (by decide) s hs)
  · exact fun s hs => h.stops s (hkept .stop (by decide) s hs)
  · intro s hs
    rcases hclocks s hs with ⟨hown, htoken⟩ | ⟨hmem, hforeign⟩
    · obtain ⟨role, hrole, htoken⟩ := Option.bind_eq_some_iff.1 htoken
      exact ⟨system, role, hown, hrole, htoken⟩
    · obtain ⟨clock, role, hcallback, hrole, hheld⟩ := h.clocks s hmem
      have hother : clock ≠ system := by
        rintro rfl
        exact hforeign hcallback
      exact ⟨clock, role, hcallback, (hothers clock hother).trans hrole, hheld⟩

/-- A system may become what continues it. -/
theorem revise (h : Settled attachments env) {system : SystemId} {role next : Role}
    (hrole : env.memory.role? system = some role) (hnext : role.Continues next) :
    Settled attachments { env with memory := env.memory.revise system fun _ => next } := by
  have hself := Memory.role?_revise_self hrole fun _ => next
  refine h.rearrange system (fun other hother => Memory.role?_revise_of_ne _ hother _) ?_ rfl
    h.resting (fun _ _ _ hs => hs) ?_
  · intro role' hrole'
    obtain rfl : next = role' := Option.some.inj (hself.symm.trans hrole')
    exact ⟨hnext.1, by rw [hrole]; rfl⟩
  · intro s hs
    by_cases hown : s.callback = .guest (.clock system)
    · have htoken := h.token_of_mem hs hown
      rw [hrole] at htoken
      refine .inl ⟨hown, ?_⟩
      rw [hself]
      exact hnext.2.trans htoken
    · exact .inr ⟨hs, hown⟩

end Settled

end Environments

end SimEngine
