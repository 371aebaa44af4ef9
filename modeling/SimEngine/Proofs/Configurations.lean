import SimEngine.Proofs.Puppets
import SimEngine.Proofs.Rosters

/-!
# Configurations

An instance is configured when it is attached, and again whenever the host asks
for it; it declares its parameters once.  What it is told is settled by its
attachment and by the payloads that were supplied since.

**Definitions.**
* `Moment.calls`: the calls that are made for a handle in a stage.
* `payloadAfter`: the payload supplied last.
* `Moment.Shows`: a system offers an interface for as long as its instance is
  attached.

**Results.**
* `Chronicle.charter`: what stays of an attachment, and the payload of now.
* `calls_attach`, `Chronicle.calls_later`: the calls of an attachment, and those
  after it.
* `configure_calls`: when an instance is configured and declares its parameters,
  and with what.
-/

namespace SimEngine

variable {G : Guest}

/-- The instance for which a call is made, if it is for a handle and in a stage. -/
def GuestRun.callFor? (handle : Handle) (stage : Stage) (s : GuestRun G) : Option (Instance G) :=
  match s.purpose.call? with
  | some (i, other) => if i.handle = handle ∧ other = stage then some i else none
  | none => none

/-- The calls that are made for a handle in a stage, each told by its instance. -/
def Moment.calls (b : Behavior G) (m : Moment G) (handle : Handle) (stage : Stage) :
    List (Instance G) :=
  (m.guestRuns b).filterMap (GuestRun.callFor? handle stage)

/-- What a system is told when its instance is configured. -/
def Instance.context (i : Instance G) : G.System × ConfigureContext :=
  (i.attachment.system, ⟨i.handle, i.entity, i.config⟩)

/-- The payload that an act supplies for a handle, if it supplies any. -/
def Act.supplied? (handle : Handle) : Act G → Option Payload
  | .reconfigure other config => if other = handle then config else none
  | _ => none

/-- The payload supplied last for a handle, or that of its attachment if none was. -/
def payloadAfter (handle : Handle) (config : Payload) (moments : List (Moment G)) : Payload :=
  ((moments.filterMap fun m => m.act.supplied? handle).getLast?).getD config

/-- Whether the host has the instance of a handle configured anew. -/
def Moment.reconfigures (m : Moment G) (handle : Handle) : Bool :=
  match m.act with
  | .reconfigure other _ => other = handle && m.before.scheduler.contains handle
  | _ => false

/--
If the instance of a handle is attached, or being attached, its system offers an interface before
all guest code that is run at a moment and after each run of it.
-/
def Moment.Shows (b : Behavior G) (m : Moment G) (handle : Handle) (system : G.System)
    (capability : Capability) : Prop :=
  m.act.attached? = some handle ∨ handle ∈ m.before.scheduler.handles →
    b.offers system m.before.env.memory capability = true ∧
      ∀ s ∈ m.guestRuns b, b.offers system (s.after b).memory capability = true

theorem payloadAfter_append
    (handle : Handle) (config : Payload) (moments : List (Moment G)) (m : Moment G) :
    payloadAfter handle config (moments ++ [m]) =
      (m.act.supplied? handle).getD (payloadAfter handle config moments) := by
  unfold payloadAfter
  rw [List.filterMap_append]
  cases h : m.act.supplied? handle with
  | none =>
      simp [h]
  | some payload =>
      simp [h]

section Charters

variable {b : Behavior G}

/--
After an act, an instance is one of before, with another payload if the act supplies one for it,
or it is the one that the act attaches.
-/
theorem mem_all_perform
    {e : Engine G} {act : Act G} {i : Instance G} (hi : i ∈ (e.perform b act).scheduler.all) :
    (∃ j ∈ e.scheduler.all, i.handle = j.handle ∧ i.name = j.name ∧
      i.attachment = j.attachment ∧ i.entity = j.entity ∧ i.capabilities = j.capabilities ∧
      i.config = (act.supplied? j.handle).getD j.config) ∨
    ∃ mandate handle attachment entity config,
      act = .carryOut mandate (.attach handle attachment entity config) ∧
      i = e.recruit b handle attachment entity config := by
  rcases mem_all_cases hi with
    ⟨hthere, hother⟩ | ⟨j, hj, rfl, rfl⟩ | ⟨j, config, hfind, rfl, rfl⟩ | hrecruit
  · have hnone : act.supplied? i.handle = none := by
      cases act with
      | reconfigure handle config =>
          exact if_neg fun heq => hother config (by rw [heq])
      | _ => rfl
    refine Or.inl ⟨i, hthere, rfl, rfl, rfl, rfl, rfl, ?_⟩
    rw [hnone, Option.getD_none]
  · exact Or.inl ⟨j, hj, rfl, rfl, rfl, rfl, rfl, rfl⟩
  · obtain ⟨degraded, hconfigured⟩ := exists_configure_eq b j config e.env
    refine Or.inl ⟨j, (Scheduler.mem_of_instance? hfind).1, ?_⟩
    rw [hconfigured, Act.supplied?, if_pos rfl]
    exact ⟨rfl, rfl, rfl, rfl, rfl, rfl⟩
  · exact Or.inr hrecruit

/-- **What stays of an attachment, and the payload of now.** -/
theorem Chronicle.charter
    {past : List (Moment G)} {m : Moment G} {between : List (Moment G)} {e : Engine G}
    (h : Chronicle b (past ++ m :: between) e) {mandate : Mandate} {handle : Handle}
    {attachment : Attachment G} {entity : Entity} {config : Payload}
    (hact : m.act = .carryOut mandate (.attach handle attachment entity config))
    {i : Instance G} (hi : i ∈ e.scheduler.all) (hhandle : i.handle = handle) :
    i.attachment = attachment ∧ i.entity = entity ∧
      i.capabilities = .ofTest (b.offers attachment.system m.before.env.memory) ∧
      i.config = payloadAfter handle config between ∧
      i.name = b.name attachment.system m.before.env.memory := by
  induction between using List.reverseRecOn generalizing e i with
  | nil =>
      obtain ⟨hpast, hproper, rfl⟩ := h.last
      rw [Moment.after] at hi
      rcases mem_all_perform hi with ⟨j, hj, hsame, _⟩ | ⟨_, _, _, _, _, hnow, hrecruit⟩
      · -- An instance of before cannot have the handle, which was not used.
        have hnew := hproper.not_mem (congrArg Act.attached? hact)
        rw [← hhandle, hsame] at hnew
        exact absurd (hpast.handles_sublist.subset (List.mem_map_of_mem hj)) hnew
      · rw [hact] at hnow
        cases hnow
        obtain ⟨degraded, heq⟩ := exists_recruit_eq b m.before handle attachment entity config
        rw [hrecruit, heq]
        exact ⟨rfl, rfl, rfl, rfl, rfl⟩
  | append_singleton between last ih =>
      rw [← List.cons_append, ← List.append_assoc] at h
      obtain ⟨hpast, hproper, rfl⟩ := h.last
      rw [Moment.after] at hi
      rcases mem_all_perform hi with
        ⟨j, hj, hsame, hname, hattachment, hentity, hcapabilities, hconfig⟩ |
        ⟨_, other, _, _, _, hnow, hrecruit⟩
      · obtain ⟨h₁, h₂, h₃, h₄, h₅⟩ := ih hpast hj (hsame.symm.trans hhandle)
        refine ⟨hattachment.trans h₁, hentity.trans h₂, hcapabilities.trans h₃, ?_,
          hname.trans h₅⟩
        rw [hconfig, ← hsame, hhandle, h₄, payloadAfter_append]
      · -- The handle is used already, so no later act attaches anybody under it.
        obtain ⟨degraded, heq⟩ := exists_recruit_eq b last.before other _ _ _
        have hother : other = handle := by
          rw [← hhandle, hrecruit, heq]
        have hnew := hproper.not_mem (congrArg Act.attached? hnow)
        exact absurd (hother ▸ mem_attachedIn (congrArg Act.attached? hact)) hnew

end Charters

section Calls

variable {b : Behavior G}

theorem configuring_eq
    {i : Instance G} {config : Option Payload} {env : Environment G}
    (h : i.capabilities.configure = true →
      b.offers i.attachment.system env.memory .configure = true) :
    i.configuring b config env =
      if i.capabilities.configure then [⟨.configure (i.prepare config), env⟩] else [] := by
  unfold Instance.configuring
  split
  · rename_i hresolved
    exact if_pos (h hresolved)
  · rfl

theorem declaring_eq
    {i : Instance G} {env : Environment G}
    (h : i.capabilities.configureParameters = true →
      b.offers i.attachment.system env.memory .configureParameters = true) :
    i.declaring b env =
      if i.capabilities.configureParameters then [⟨.configureParameters i, env⟩] else [] := by
  unfold Instance.declaring
  split
  · rename_i hresolved
    exact if_pos (h hresolved)
  · rfl

/-- The memory after runs of guest code is that of before or what one of them left. -/
theorem memory_of_accounted
    {env env' : Environment G} {guestRuns : List (GuestRun G)}
    (h : Engine.Accounted b env guestRuns env') :
    env'.memory = env.memory ∨ ∃ s ∈ guestRuns, env'.memory = (s.after b).memory := by
  induction guestRuns generalizing env with
  | nil =>
      have hgap : env.Still env' := h
      exact Or.inl hgap.memory
  | cons s rest ih =>
      right
      rcases ih h.2 with hsame | ⟨t, ht, hsame⟩
      · exact ⟨s, List.mem_cons_self, hsame⟩
      · exact ⟨t, List.mem_cons_of_mem s ht, hsame⟩

/--
The calls of an attachment: a configuration if the system offers it, and then, if it was to, the
system is had to declare its parameters.
-/
theorem guestRuns_attach
    {m : Moment G} {mandate : Mandate} {handle : Handle} {attachment : Attachment G}
    {entity : Entity} {config : Payload} {resolved : Capabilities}
    (hact : m.act = .carryOut mandate (.attach handle attachment entity config))
    (hresolved : resolved = .ofTest (b.offers attachment.system m.before.env.memory)) :
    ∃ (i j : Instance G) (env env' : Environment G),
      m.guestRuns b =
        (if resolved.configure then [⟨.configure i, env⟩] else []) ++ j.declaring b env' ∧
      i.context = (attachment.system, ⟨handle, entity, config⟩) ∧
      j.context = (attachment.system, ⟨handle, entity, config⟩) ∧
      j.capabilities = resolved ∧
      (env'.memory = m.before.env.memory ∨
        ∃ s ∈ m.guestRuns b, env'.memory = (s.after b).memory) := by
  obtain ⟨e, act⟩ := m
  obtain rfl : act = _ := hact
  rcases hmade : e.newcomer b handle attachment entity config with ⟨i, env⟩
  obtain ⟨hi, henv⟩ := Prod.mk.inj hmade
  have hcapabilities : i.capabilities = resolved := by
    rw [← hi, hresolved]
  have hmemory : env.memory = e.env.memory := by
    rw [← henv]
    rfl
  rcases hconfigure : i.configure b none env with ⟨j, env'⟩
  obtain ⟨degraded, hj⟩ := exists_configure_eq b i none env
  have haccounted := threaded_configure (b := b) i none env
  rw [hconfigure] at hj haccounted
  replace hj : j = { i.prepare none with degraded := degraded } := hj
  have hguestRuns :
      Moment.guestRuns b ⟨e, .carryOut mandate (.attach handle attachment entity config)⟩ =
        i.configuring b none env ++ j.declaring b env' := by
    simp only [Moment.guestRuns, Engine.attaching, hmade, hconfigure]
  have hfirst : i.configuring b none env =
      if resolved.configure then [⟨.configure (i.prepare none), env⟩] else [] := by
    rw [configuring_eq, hcapabilities]
    intro hoffered
    rw [hcapabilities, hresolved] at hoffered
    rw [hmemory, ← hi]
    exact hoffered
  refine ⟨i.prepare none, j, env, env', hfirst ▸ hguestRuns, ?_, ?_, ?_, ?_⟩
  · rw [← hi]
    rfl
  · rw [hj, ← hi]
    rfl
  · rw [hj]
    exact hcapabilities
  · rcases memory_of_accounted haccounted with hkept | ⟨s, hs, hleft⟩
    · exact Or.inl (hkept.trans hmemory)
    · refine Or.inr ⟨s, ?_, hleft⟩
      rw [hguestRuns]
      exact List.mem_append_left _ hs

/-- Both calls of an attachment are made if its system keeps to what it offers. -/
theorem guestRuns_attach_shown
    {m : Moment G} {mandate : Mandate} {handle : Handle} {attachment : Attachment G}
    {entity : Entity} {config : Payload} {resolved : Capabilities}
    (hact : m.act = .carryOut mandate (.attach handle attachment entity config))
    (hresolved : resolved = .ofTest (b.offers attachment.system m.before.env.memory))
    (hshown : resolved.configureParameters = true →
      m.Shows b handle attachment.system .configureParameters) :
    ∃ (i j : Instance G) (env env' : Environment G),
      m.guestRuns b =
        (if resolved.configure then [⟨.configure i, env⟩] else []) ++
          (if resolved.configureParameters then [⟨.configureParameters j, env'⟩] else []) ∧
      i.context = (attachment.system, ⟨handle, entity, config⟩) ∧
      j.context = (attachment.system, ⟨handle, entity, config⟩) := by
  obtain ⟨i, j, env, env', hguestRuns, hi, hj, hcapabilities, hmemory⟩ :=
    guestRuns_attach hact hresolved
  have hsecond : j.declaring b env' =
      if resolved.configureParameters then [⟨.configureParameters j, env'⟩] else [] := by
    rw [declaring_eq, hcapabilities]
    intro hoffered
    rw [hcapabilities] at hoffered
    obtain ⟨hbefore, hafter⟩ := hshown hoffered (Or.inl (congrArg Act.attached? hact))
    have hsystem : j.attachment.system = attachment.system := congrArg Prod.fst hj
    rw [hsystem]
    rcases hmemory with hkept | ⟨s, hs, hleft⟩
    · rw [hkept]
      exact hbefore
    · rw [hleft]
      exact hafter s hs
  exact ⟨i, j, env, env', hsecond ▸ hguestRuns, hi, hj⟩

/-- **The calls of an attachment whose system keeps to what it offers.** -/
theorem calls_attach
    {m : Moment G} {mandate : Mandate} {handle : Handle} {attachment : Attachment G}
    {entity : Entity} {config : Payload} {resolved : Capabilities}
    (hact : m.act = .carryOut mandate (.attach handle attachment entity config))
    (hresolved : resolved = .ofTest (b.offers attachment.system m.before.env.memory))
    (hshown : resolved.configureParameters = true →
      m.Shows b handle attachment.system .configureParameters) :
    ∃ i j : Instance G,
      (m.guestRuns b).map GuestRun.purpose =
        (if resolved.configure then [.configure i] else []) ++
          (if resolved.configureParameters then [.configureParameters j] else []) ∧
      i.context = (attachment.system, ⟨handle, entity, config⟩) ∧
      j.context = (attachment.system, ⟨handle, entity, config⟩) := by
  obtain ⟨i, j, env, env', hguestRuns, hi, hj⟩ := guestRuns_attach_shown hact hresolved hshown
  refine ⟨i, j, ?_, hi, hj⟩
  rw [hguestRuns, List.map_append]
  congr 1
  · split <;> rfl
  · split <;> rfl

/-- An instance is called for its start-up only by acts that attach it or configure it anew. -/
theorem calls_idle
    {m : Moment G} {used : List Handle} (hproper : m.act.Proper used m.before) {handle : Handle}
    (hused : handle ∈ used) (hreconfigures : m.reconfigures handle = false)
    {capability : Capability} (hstart : ∀ p, capability ≠ .phase p) :
    m.calls b handle (.capability capability) = [] := by
  rw [Moment.calls, List.filterMap_eq_nil_iff]
  intro s hs
  unfold GuestRun.callFor?
  split
  · rename_i i stage hcall
    rw [if_neg]
    rintro ⟨rfl, rfl⟩
    rcases call_cases hs hcall with
      ⟨_, _, _, _, hnow⟩ | ⟨j, _, hnow, hfind⟩ | ⟨_, _, pass, _, hstage⟩
    · exact hproper.not_mem (congrArg Act.attached? hnow) hused
    · simp [Moment.reconfigures, hnow, Scheduler.contains, hfind] at hreconfigures
    · cases pass with
      | queries => cases hstage
      | phase p => exact hstart p (Stage.capability.inj hstage)
  · rfl

/-- The one call by which an instance is configured anew, if its system offers to be configured. -/
theorem Chronicle.guestRuns_reconfigure
    {past : List (Moment G)} {m₀ : Moment G} {between : List (Moment G)} {e : Engine G}
    (h : Chronicle b (past ++ m₀ :: between) e) {mandate : Mandate} {handle : Handle}
    {attachment : Attachment G} {entity : Entity} {config : Payload} {resolved : Capabilities}
    (hact : m₀.act = .carryOut mandate (.attach handle attachment entity config))
    (hresolved : resolved = .ofTest (b.offers attachment.system m₀.before.env.memory))
    {i : Instance G} (hfind : e.scheduler.instance? handle = some i) {supplied : Option Payload}
    (hshown : resolved.configure = true →
      Moment.Shows b ⟨e, .reconfigure handle supplied⟩ handle attachment.system .configure) :
    Moment.guestRuns b ⟨e, .reconfigure handle supplied⟩ =
      if resolved.configure then [⟨.configure (i.prepare supplied), e.env⟩] else [] := by
  obtain ⟨hi, hhandle⟩ := Scheduler.mem_of_instance? hfind
  obtain ⟨hattachment, -, hcapabilities, -, -⟩ := h.charter hact hi hhandle
  rw [← hresolved] at hcapabilities
  simp only [Moment.guestRuns, hfind]
  rw [configuring_eq, hcapabilities]
  intro hoffered
  rw [hcapabilities] at hoffered
  rw [hattachment]
  exact (hshown hoffered (Or.inr (hhandle ▸ List.mem_map_of_mem hi))).1

/-- **The calls after an attachment**: configurations at the host's request, and no declaration. -/
theorem Chronicle.calls_later
    {past : List (Moment G)} {m₀ : Moment G} {between : List (Moment G)} {m : Moment G}
    {future : List (Moment G)} {e : Engine G}
    (h : Chronicle b (past ++ m₀ :: (between ++ m :: future)) e) {mandate : Mandate}
    {handle : Handle} {attachment : Attachment G} {entity : Entity} {config : Payload}
    {resolved : Capabilities}
    (hact : m₀.act = .carryOut mandate (.attach handle attachment entity config))
    (hresolved : resolved = .ofTest (b.offers attachment.system m₀.before.env.memory))
    (hshown : resolved.configure = true → m.Shows b handle attachment.system .configure) :
    (m.calls b handle (.capability .configure)).map Instance.context =
        (if resolved.configure && m.reconfigures handle then
          [(attachment.system, ⟨handle, entity, payloadAfter handle config (between ++ [m])⟩)]
        else []) ∧
      m.calls b handle (.capability .configureParameters) = [] := by
  obtain ⟨hpast, hproper, _⟩ := h.split_later
  have hused : handle ∈ attachedIn (past ++ m₀ :: between) :=
    mem_attachedIn (congrArg Act.attached? hact)
  cases hreconfigures : m.reconfigures handle with
  | false =>
      have hnone : ∀ capability, (∀ p, capability ≠ .phase p) →
          m.calls b handle (.capability capability) = [] :=
        fun _ => calls_idle hproper hused hreconfigures
      rw [hnone .configure (by simp), hnone .configureParameters (by simp)]
      simp
  | true =>
      obtain ⟨e', act⟩ := m
      unfold Moment.reconfigures at hreconfigures
      split at hreconfigures
      · rename_i other supplied hnow
        obtain rfl : act = _ := hnow
        obtain ⟨hother, hcontains⟩ := Bool.and_eq_true_iff.1 hreconfigures
        obtain rfl := of_decide_eq_true hother
        obtain ⟨i, hfind⟩ := Option.isSome_iff_exists.1 hcontains
        replace hfind : e'.scheduler.instance? other = some i := hfind
        obtain ⟨hi, hhandle⟩ := Scheduler.mem_of_instance? hfind
        obtain ⟨hattachment, hentity, -, hconfig, -⟩ := hpast.charter hact hi hhandle
        have hguestRuns := hpast.guestRuns_reconfigure hact hresolved hfind hshown
        have hcontext : (i.prepare supplied).context = (attachment.system, ⟨other, entity,
            payloadAfter other config (between ++ [⟨e', .reconfigure other supplied⟩])⟩) := by
          rw [payloadAfter_append, ← hconfig, ← hattachment, ← hentity, ← hhandle,
            Act.supplied?, if_pos rfl]
          rfl
        simp only [Moment.calls, hguestRuns]
        cases resolved.configure with
        | false =>
            exact ⟨rfl, rfl⟩
        | true =>
            have hprepared : (i.prepare supplied).handle = other := hhandle
            simp [GuestRun.callFor?, Purpose.call?, hprepared, hcontext]
      · cases hreconfigures

end Calls

/--
**When an instance is configured and declares its parameters, and with what.**  Take an attachment
whose system shows, for as long as its instance is attached, what it offered of the two
interfaces of its start-up when it was attached.  Nothing is called for its handle before.  The
calls of the attachment are a configuration with its payload, if that was offered, and right
behind it a declaration of parameters, if that was, and no others.  Later the instance is
configured once whenever the host has it configured anew, with the payload supplied last, if that
was offered, and otherwise never; and it declares no parameters.  So all its queries and phases
come after its start-up.  No other guest code is run in a past than in its runs, for they account
for what has become of the engine.
-/
theorem configure_calls
    (b : Behavior G) (c : Course G) {past future : List (Moment G)} {m₀ : Moment G}
    (hsplit : c.past b = past ++ m₀ :: future) {mandate : Mandate} {handle : Handle}
    {attachment : Attachment G} {entity : Entity} {config : Payload} {resolved : Capabilities}
    (hact : m₀.act = .carryOut mandate (.attach handle attachment entity config))
    (hresolved : resolved = .ofTest (b.offers attachment.system m₀.before.env.memory))
    (hshown : ∀ capability, capability = .configure ∨ capability = .configureParameters →
      resolved.has capability = true →
        ∀ m ∈ m₀ :: future, m.Shows b handle attachment.system capability) :
    (∀ m ∈ past, ∀ s ∈ m.guestRuns b, ¬ s.purpose.IsFor handle) ∧
    (∃ i j : Instance G,
      (m₀.guestRuns b).map GuestRun.purpose =
        (if resolved.configure then [.configure i] else []) ++
          (if resolved.configureParameters then [.configureParameters j] else []) ∧
      i.context = (attachment.system, ⟨handle, entity, config⟩) ∧
      j.context = (attachment.system, ⟨handle, entity, config⟩)) ∧
    (∀ between m rest, future = between ++ m :: rest →
      (m.calls b handle (.capability .configure)).map Instance.context =
          (if resolved.configure && m.reconfigures handle then
            [(attachment.system, ⟨handle, entity, payloadAfter handle config (between ++ [m])⟩)]
          else []) ∧
        m.calls b handle (.capability .configureParameters) = []) ∧
    Accounts b (.fresh c.memory) (c.past b) (c.engine b) := by
  have hchronicle := c.chronicle b
  rw [hsplit] at hchronicle
  refine ⟨hchronicle.silent_before (congrArg Act.attached? hact), ?_, ?_, (c.accounts b).1⟩
  · exact calls_attach hact hresolved fun hoffered =>
      hshown .configureParameters (Or.inr rfl) hoffered m₀ List.mem_cons_self
  · rintro between m rest rfl
    refine hchronicle.calls_later hact hresolved fun hoffered => ?_
    exact hshown .configure (Or.inl rfl) hoffered m
      (List.mem_cons_of_mem _ (List.mem_append_right _ List.mem_cons_self))

namespace Puppets

/-- Every system offers all interfaces, and no configuration succeeds. -/
def unwilling : Behavior puppets :=
  { idle with
    offers := fun _ _ _ => true
    configure := fun _ _ => .fail (.ofMessage "not like this") }

/-- A system is attached, configured anew twice, with a payload the first time, and makes a step. -/
def coaxing : Course puppets where
  memory := (0 : Nat)
  operations :=
    [.attach ⟨(1 : Nat), .shared⟩ .null ⟨.null⟩, .reconfigure ⟨1⟩ (some ⟨.bool true⟩),
      .reconfigure ⟨1⟩ none, .step (.first .zero)]

end Puppets

theorem configure_calls_coaxing :
    ∃ (m₀ m₁ m₂ : Moment puppets) (rest : List (Moment puppets)),
      (Puppets.coaxing.past Puppets.unwilling).drop 1 = m₀ :: m₁ :: m₂ :: rest ∧
      (m₀.guestRuns Puppets.unwilling).length = 2 ∧
      (m₂.calls Puppets.unwilling ⟨1⟩ (.capability .configure)).map Instance.context =
        [((1 : Nat), ⟨⟨1⟩, .null, ⟨.bool true⟩⟩)] ∧
      ∀ m ∈ rest, m.calls Puppets.unwilling ⟨1⟩ (.capability .configureParameters) = [] := by
  obtain ⟨_, ⟨i, j, hpurposes, _, _⟩, hlater, _⟩ :=
    configure_calls Puppets.unwilling Puppets.coaxing
      (show _ = [⟨.fresh (0 : Nat), .reserve⟩] ++ _ :: _ from rfl) rfl rfl
    fun _ _ _ m _ _ => ⟨rfl, fun _ _ => rfl⟩
  refine ⟨_, _, _, _, rfl, ?_, (hlater [_] _ _ rfl).1, ?_⟩
  · rw [← List.length_map, hpurposes]
    rfl
  · intro m hm
    obtain ⟨first, second, hsplit⟩ := List.append_of_mem hm
    exact (hlater (_ :: _ :: first) m second (congrArg (fun l => _ :: _ :: l) hsplit)).2

end SimEngine
