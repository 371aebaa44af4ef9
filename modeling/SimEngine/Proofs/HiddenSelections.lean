import SimEngine.Proofs.ParallelEngines
import SimEngine.Proofs.BuiltinLoops

/-!
# Hidden selections

Some systems and handles are named by no code outside of them.  Whoever is
outside leaves them as they are, nobody gets to name what is inside, and whatever
code does is the same whatever is inside.  This goes for the systems that come
with the engine and for scripted ones.

**Definitions.**
* `Selection`, `HiddenSelection`: handles and systems, and those that are out of
  reach.
* `Selection.Unnamed`: a memory in which nobody names what is inside.
* `HiddenSelection.SameOutside`: two memories that are the same but for what is
  inside.
* `HiddenSelection.relation`: the relation of such memories, and what everyone
  outside may name.

**Results.**
* `discreet_perform`: scripted code does the same, whatever is inside.
* `HiddenSelection.callsAlike`: so does everyone outside.
-/

namespace SimEngine

open Cast (behavior)

/-- Handles and systems. -/
structure Selection where
  handles : Handle → Prop
  systems : SystemId → Prop

namespace Selection

variable (N : Selection)

/-- What code may use that was configured outside. -/
def SparesReach (reach : Reach) : Prop :=
  ∀ link, reach.link = some link → ¬ N.handles link.handle

/-- A callback that names nothing inside. -/
def SparesCallback : Callback → Prop
  | .clock system => ¬ N.systems system
  | .scripted _ _ _ reach => N.SparesReach reach

/-- A system that names nothing inside. -/
def SparesRole : Role → Prop
  | .scripted s => N.SparesReach s.reach
  | _ => True

/-- A memory in which nobody names what is inside. -/
structure Unnamed (m : Memory) : Prop where
  roles : ∀ system member, m.members.find? system = some member → N.SparesRole member.role
  known : ∀ handle ∈ m.known, ¬ N.handles handle
  shared : ∀ label system, m.shared.find? label = some system → ¬ N.systems system

/-- Writing down anything but systems, and no handle that is inside. -/
structure Notes (g : Memory → Memory) : Prop where
  members : ∀ m, (g m).members = m.members
  nextSystem : ∀ m, (g m).nextSystem = m.nextSystem
  shared : ∀ m, (g m).shared = m.shared
  known : ∀ m, ∀ handle ∈ (g m).known, handle ∈ m.known ∨ ¬ N.handles handle
  rest : ∀ m members, g { m with members := members } = { g m with members := members }

variable {N}

namespace Unnamed

variable {m : Memory}

theorem role (h : N.Unnamed m) {system : SystemId} {role : Role}
    (hrole : m.role? system = some role) : N.SparesRole role := by
  obtain ⟨member, hmember, rfl⟩ := Option.map_eq_some_iff.1 hrole
  exact h.roles system member hmember

theorem note (h : N.Unnamed m) {g : Memory → Memory} (hg : N.Notes g) : N.Unnamed (g m) where
  roles := hg.members m ▸ h.roles
  known := fun handle hhandle => (hg.known m handle hhandle).elim (h.known handle) id
  shared := hg.shared m ▸ h.shared

theorem modify (h : N.Unnamed m) (system : SystemId) {f : Member → Member}
    (hf : ∀ member, N.SparesRole member.role → N.SparesRole (f member).role) :
    N.Unnamed { m with members := m.members.modify system f } :=
  { h with
    roles := by
      intro other member hmember
      replace hmember : (m.members.modify system f).find? other = some member := hmember
      by_cases hother : other = system
      · rw [hother, OrderedMap.find?_modify_self] at hmember
        obtain ⟨former, hformer, rfl⟩ := Option.map_eq_some_iff.1 hmember
        exact hf former (h.roles system former hformer)
      · rw [OrderedMap.find?_modify_of_ne _ hother] at hmember
        exact h.roles other member hmember }

theorem erase (h : N.Unnamed m) (system : SystemId) : N.Unnamed (m.dismiss system) :=
  { h with
    roles := by
      intro other member hmember
      replace hmember : (m.members.erase system).find? other = some member := hmember
      by_cases hother : other = system
      · rw [hother, OrderedMap.find?_erase_self] at hmember
        cases hmember
      · rw [OrderedMap.find?_erase_of_ne _ hother] at hmember
        exact h.roles other member hmember }

theorem enroll (h : N.Unnamed m) {role : Role} (hrole : N.SparesRole role) :
    N.Unnamed (m.enroll role).2 :=
  { h with
    roles := by
      intro other member hmember
      replace hmember : (m.members.insert ⟨m.nextSystem⟩ ⟨role, 1⟩).find? other = some member :=
        hmember
      by_cases hother : other = ⟨m.nextSystem⟩
      · rw [hother, OrderedMap.find?_insert_self] at hmember
        exact Option.some.inj hmember ▸ hrole
      · rw [OrderedMap.find?_insert_of_ne _ hother] at hmember
        exact h.roles other member hmember }

end Unnamed

theorem Notes.acquaint {handle : Handle} (hhandle : ¬ N.handles handle) :
    N.Notes fun m => m.acquaint handle where
  members m := by
    unfold Memory.acquaint
    split <;> rfl
  nextSystem m := by
    unfold Memory.acquaint
    split <;> rfl
  shared m := by
    unfold Memory.acquaint
    split <;> rfl
  known m other hother := by
    unfold Memory.acquaint at hother
    split at hother
    · exact .inl hother
    · rcases List.mem_cons.1 hother with rfl | hold
      · exact .inr hhandle
      · exact .inl hold
  rest m members := by
    unfold Memory.acquaint
    split <;> rfl

theorem Notes.write (line : String) : N.Notes fun m => m.write line where
  members := fun _ => rfl
  nextSystem := fun _ => rfl
  shared := fun _ => rfl
  known := fun _ _ h => .inl h
  rest := fun _ _ => rfl

/-- A request for the next step that names nothing inside. -/
def SparesCommand (N : Selection) : Command cast → Prop
  | .attach handle attachment _ _ => ¬ N.handles handle ∧ ¬ N.systems attachment.system
  | .detach handle => ¬ N.handles handle

/-- An engine in which nobody is inside of a selection, and nobody names what is. -/
structure Spares (N : Selection) (e : Engine cast) : Prop where
  instances : ∀ i ∈ e.scheduler.all, ¬ N.handles i.handle ∧ ¬ N.systems i.attachment.system
  commands : ∀ c ∈ e.env.commands, N.SparesCommand c
  heard : ∀ key, ∀ s ∈ (e.env.channels.get key).subscribers, ∀ callback,
    s.callback = .guest callback → N.SparesCallback callback
  asked : ∀ list, ∀ q ∈ (e.env.queryList list).queries,
    ¬ N.handles list ∧ N.SparesCallback q.callback
  memory : N.Unnamed e.env.memory

/-- A part of a selection. -/
structure Within (N M : Selection) : Prop where
  handles : ∀ handle, N.handles handle → M.handles handle
  systems : ∀ system, N.systems system → M.systems system

namespace Within

variable {M : Selection} (h : N.Within M)

include h

theorem reach {reach : Reach} (hreach : M.SparesReach reach) : N.SparesReach reach :=
  fun link hlink hinside => hreach link hlink (h.handles _ hinside)

theorem callback {callback : Callback} (hcallback : M.SparesCallback callback) :
    N.SparesCallback callback := by
  cases callback with
  | clock system => exact fun hinside => hcallback (h.systems _ hinside)
  | scripted label number run reach => exact h.reach hcallback

theorem unnamed {m : Memory} (hm : M.Unnamed m) : N.Unnamed m where
  roles := by
    intro system member hmember
    have hrole := hm.roles system member hmember
    cases hmade : member.role with
    | scripted s =>
        rw [hmade] at hrole
        exact h.reach hrole
    | _ => trivial
  known := fun handle hhandle hinside => hm.known handle hhandle (h.handles _ hinside)
  shared := fun label system hlabel hinside => hm.shared label system hlabel (h.systems _ hinside)

/-- Who spares a selection spares its parts. -/
theorem spares {e : Engine cast} (he : M.Spares e) : N.Spares e where
  instances := fun i hi => ⟨fun hinside => (he.instances i hi).1 (h.handles _ hinside),
    fun hinside => (he.instances i hi).2 (h.systems _ hinside)⟩
  commands := by
    intro c hc
    have hspared := he.commands c hc
    cases c with
    | attach handle attachment entity config =>
        exact ⟨fun hinside => hspared.1 (h.handles _ hinside),
          fun hinside => hspared.2 (h.systems _ hinside)⟩
    | detach handle => exact fun hinside => hspared (h.handles _ hinside)
  heard := fun key s hs callback hcallback => h.callback (he.heard key s hs callback hcallback)
  asked := fun list q hq => ⟨fun hinside => (he.asked list q hq).1 (h.handles _ hinside),
    h.callback (he.asked list q hq).2⟩
  memory := h.unnamed he.memory

end Within

end Selection

/-- Handles and systems that no code outside of them names. -/
structure HiddenSelection extends Selection where
  /-- New handles are numbered from here, and are outside. -/
  first : Nat
  fresh : ∀ handle : Handle, first ≤ handle.number → ¬ handles handle

namespace HiddenSelection

variable (N : HiddenSelection)

/-- Two memories are the same but for what is inside, which is as given, and nobody names it. -/
structure SameOutside (inside inside' : SystemId → Option Member) (m m' : Memory) : Prop where
  unnamed : N.Unnamed m
  unnamed' : N.Unnamed m'
  rest : ∃ members, m' = { m with members := members }
  outside : ∀ system, ¬ N.systems system → m'.members.find? system = m.members.find? system
  inside : ∀ system, N.systems system → m.members.find? system = inside system
  inside' : ∀ system, N.systems system → m'.members.find? system = inside' system
  used : ∀ system, m.nextSystem ≤ system.number → ¬ N.systems system

/-- Memories may differ in what is inside, and everyone outside may name what is outside. -/
def relation (inside inside' : SystemId → Option Member) : MemoryRelation cast where
  memories := N.SameOutside inside inside'
  callbacks := N.SparesCallback
  handles := fun handle => ¬ N.handles handle
  systems := fun system => ¬ N.systems system
  first := N.first
  fresh := N.fresh

variable {N}

section Memories

namespace SameOutside

variable {inside inside' : SystemId → Option Member} {m m' : Memory}

theorem role? (h : N.SameOutside inside inside' m m') {system : SystemId}
    (hsystem : ¬ N.systems system) : m'.role? system = m.role? system := by
  rw [Memory.role?, Memory.role?, h.outside system hsystem]

/-- Both write down the same. -/
theorem note (h : N.SameOutside inside inside' m m') {g : Memory → Memory} (hg : N.Notes g) :
    N.SameOutside inside inside' (g m) (g m') where
  unnamed := h.unnamed.note hg
  unnamed' := h.unnamed'.note hg
  rest := by
    obtain ⟨members, rfl⟩ := h.rest
    exact ⟨members, hg.rest m members⟩
  outside := by
    rw [hg.members, hg.members]
    exact h.outside
  inside := by
    rw [hg.members]
    exact h.inside
  inside' := by
    rw [hg.members]
    exact h.inside'
  used := by
    rw [hg.nextSystem]
    exact h.used

/-- Both change what they remember of one system outside. -/
theorem change (h : N.SameOutside inside inside' m m') {system : SystemId}
    (hsystem : ¬ N.systems system) {g : Memory → Memory} (hunnamed : N.Unnamed (g m))
    (hunnamed' : N.Unnamed (g m'))
    (hrest : ∀ m members, ∃ members', g { m with members := members } =
      { g m with members := members' })
    (hothers : ∀ m other, other ≠ system → (g m).members.find? other = m.members.find? other)
    (hself : (g m').members.find? system = (g m).members.find? system)
    (hnext : m.nextSystem ≤ (g m).nextSystem) :
    N.SameOutside inside inside' (g m) (g m') where
  unnamed := hunnamed
  unnamed' := hunnamed'
  rest := by
    obtain ⟨members, rfl⟩ := h.rest
    exact hrest m members
  outside := by
    intro other hother
    by_cases hsame : other = system
    · rw [hsame, hself]
    · rw [hothers m' other hsame, hothers m other hsame, h.outside other hother]
  inside := by
    intro other hother
    rw [hothers m other fun heq => hsystem (heq ▸ hother), h.inside other hother]
  inside' := by
    intro other hother
    rw [hothers m' other fun heq => hsystem (heq ▸ hother), h.inside' other hother]
  used := fun other hother => h.used other (Nat.le_trans hnext hother)

theorem modify (h : N.SameOutside inside inside' m m') {system : SystemId}
    (hsystem : ¬ N.systems system) {f : Member → Member}
    (hf : ∀ member, N.SparesRole member.role → N.SparesRole (f member).role) :
    N.SameOutside inside inside' { m with members := m.members.modify system f }
      { m' with members := m'.members.modify system f } := by
  refine h.change (g := fun m => { m with members := m.members.modify system f }) hsystem
    (h.unnamed.modify system hf) (h.unnamed'.modify system hf) (fun _ _ => ⟨_, rfl⟩)
    (fun m other hother => m.members.find?_modify_of_ne hother f) ?_ (Nat.le_refl _)
  show (m'.members.modify system f).find? system = (m.members.modify system f).find? system
  rw [OrderedMap.find?_modify_self, OrderedMap.find?_modify_self, h.outside _ hsystem]

theorem dismiss (h : N.SameOutside inside inside' m m') {system : SystemId}
    (hsystem : ¬ N.systems system) :
    N.SameOutside inside inside' (m.dismiss system) (m'.dismiss system) := by
  refine h.change (g := fun m => m.dismiss system) hsystem (h.unnamed.erase system)
    (h.unnamed'.erase system) (fun _ _ => ⟨_, rfl⟩)
    (fun m other hother => m.members.find?_erase_of_ne hother) ?_ (Nat.le_refl _)
  show (m'.members.erase system).find? system = (m.members.erase system).find? system
  rw [OrderedMap.find?_erase_self, OrderedMap.find?_erase_self]

/-- A new system is outside. -/
theorem enroll (h : N.SameOutside inside inside' m m') {role : Role} (hrole : N.SparesRole role) :
    ¬ N.systems ⟨m.nextSystem⟩ ∧ m'.nextSystem = m.nextSystem ∧
      N.SameOutside inside inside' (m.enroll role).2 (m'.enroll role).2 := by
  have hnew := h.used ⟨m.nextSystem⟩ (Nat.le_refl _)
  have hnext : m'.nextSystem = m.nextSystem := by
    obtain ⟨members, rfl⟩ := h.rest
    rfl
  let g (number : Nat) (m : Memory) : Memory :=
    { m with members := m.members.insert ⟨number⟩ ⟨role, 1⟩, nextSystem := number + 1 }
  have henroll' : (m'.enroll role).2 = g m.nextSystem m' := by
    rw [Memory.enroll, hnext]
  rw [henroll']
  refine ⟨hnew, hnext, h.change (g := g m.nextSystem) hnew (h.unnamed.enroll hrole)
    (henroll' ▸ h.unnamed'.enroll hrole) (fun _ _ => ⟨_, rfl⟩)
    (fun m₀ other hother => m₀.members.find?_insert_of_ne hother _) ?_ (Nat.le_succ _)⟩
  exact (OrderedMap.find?_insert_self _ _ _).trans (OrderedMap.find?_insert_self _ _ _).symm

theorem revise (h : N.SameOutside inside inside' m m') {system : SystemId}
    (hsystem : ¬ N.systems system) {f : Role → Role}
    (hf : ∀ role, N.SparesRole role → N.SparesRole (f role)) :
    N.SameOutside inside inside' (m.revise system f) (m'.revise system f) :=
  h.modify hsystem fun member hmember => hf member.role hmember

theorem reviseScripted (h : N.SameOutside inside inside' m m') {system : SystemId}
    (hsystem : ¬ N.systems system) {f : ScriptedSystem → ScriptedSystem}
    (hf : ∀ s, N.SparesReach s.reach → N.SparesReach (f s).reach) :
    N.SameOutside inside inside' (m.reviseScripted system f) (m'.reviseScripted system f) :=
  h.revise hsystem fun role hrole => by
    cases role with
    | scripted s => exact hf s hrole
    | _ => trivial

/-- Systems that code makes ready to be attached are outside. -/
theorem enlist (h : N.SameOutside inside inside' m m') (casting : Casting Script) :
    (∃ failure, m.enlist casting = .error failure ∧ m'.enlist casting = .error failure) ∨
      ∃ attachment left left', m.enlist casting = .ok (attachment, left) ∧
        m'.enlist casting = .ok (attachment, left') ∧ ¬ N.systems attachment.system ∧
          N.SameOutside inside inside' left left' := by
  have hrecruit : ∀ {role : Role}, N.SparesRole role → ∀ isShared,
      ∃ attachment left left', m.recruit role isShared = (attachment, left) ∧
        m'.recruit role isShared = (attachment, left') ∧ ¬ N.systems attachment.system ∧
          N.SameOutside inside inside' left left' := by
    intro role hrole isShared
    obtain ⟨hnew, hnext, hmemories⟩ := h.enroll hrole
    refine ⟨_, _, (m'.enroll role).2, rfl, ?_, hnew, hmemories⟩
    simp only [Memory.recruit, Memory.enroll, hnext]
  unfold Memory.enlist
  cases casting.origin with
  | script script =>
      have hspares : N.SparesRole (.scripted (.ofScript script casting.entity)) :=
        fun _ hlink => by cases hlink
      obtain ⟨attachment, left, left', hleft, hleft', hrest⟩ :=
        hrecruit hspares casting.isShared
      exact .inr ⟨attachment, left, left', congrArg Except.ok hleft, congrArg Except.ok hleft',
        hrest⟩
  | builtin builtin =>
      simp only
      cases hrole : Role.ofBuiltin builtin casting.config casting.entity with
      | error failure => exact .inl ⟨failure, rfl, rfl⟩
      | ok role =>
          have hspares : N.SparesRole role := by
            have hbuiltin := Role.isBuiltin_ofBuiltin hrole
            cases role with
            | scripted s => exact hbuiltin.elim
            | _ => trivial
          obtain ⟨attachment, left, left', hleft, hleft', hrest⟩ :=
            hrecruit hspares casting.isShared
          exact .inr ⟨attachment, left, left', congrArg Except.ok hleft,
            congrArg Except.ok hleft', hrest⟩
  | again label =>
      have hshared : m'.shared = m.shared := by
        obtain ⟨members, rfl⟩ := h.rest
        rfl
      simp only [hshared]
      cases hlabel : m.shared.find? label with
      | none => exact .inl ⟨_, rfl, rfl⟩
      | some system =>
          have hsystem := h.unnamed.shared label system hlabel
          exact .inr ⟨_, _, _, rfl, rfl, hsystem, h.modify hsystem fun _ hmember => hmember⟩

end SameOutside

end Memories

variable (N)

/-- A program that does the same whatever is inside, and names nothing of it. -/
def Discreet (inside inside' : SystemId → Option Member) {α : Type} (p : Deed α) : Prop :=
  (N.relation inside inside').Alike (fun _ => True) p p

/-- Scripted code that names nothing inside. -/
structure SparesScope (s : Scope) : Prop where
  reach : N.SparesReach s.reach
  system : ∀ system, s.system = some system → ¬ N.systems system

variable {N} {inside inside' : SystemId → Option Member}

section Scripts

open MemoryRelation.Alike (asked consulted revised)

theorem discreet_pure {α : Type} (a : α) : N.Discreet inside inside' (.done a) :=
  .done trivial

/-- Whatever is asked for in the end, nothing follows from the answer. -/
theorem discreet_request {r : Request cast} (hr : (N.relation inside inside').Allows r) :
    N.Discreet inside inside' (Program.request r) :=
  (MemoryRelation.Alike.request hr).mono fun _ _ => trivial

theorem discreet_revise {g : Memory → Memory}
    (hg : ∀ m m', N.SameOutside inside inside' m m' → N.SameOutside inside inside' (g m) (g m')) :
    N.Discreet inside inside' (Program.revise g) :=
  .revise hg (.done trivial)

variable {s : Scope} (hs : N.SparesScope s)

theorem discreet_say (s : Scope) (text : String) : N.Discreet inside inside' (s.say text) :=
  discreet_revise fun _ _ h => h.note (.write _)

include hs

theorem discreet_withLink {deed : Link → Deed Unit}
    (hdeed : ∀ link, ¬ N.handles link.handle → N.Discreet inside inside' (deed link)) :
    N.Discreet inside inside' (s.withLink deed) := by
  unfold Scope.withLink
  split
  · rename_i link hlink
    exact hdeed link (hs.reach link hlink)
  · exact discreet_pure _

theorem discreet_requireNumber (key : String) :
    N.Discreet inside inside' (s.requireNumber key) := by
  refine discreet_withLink hs fun link _ => ?_
  split
  · exact discreet_say s _
  · exact .fail _

theorem discreet_register (label : String) (signature : Signature) (run : List Beat) :
    N.Discreet inside inside' (s.register label signature run) := by
  refine discreet_withLink hs fun link hlink => ?_
  refine consulted fun m m' hmemories => ?_
  obtain ⟨members, rfl⟩ := hmemories.rest
  refine revised (fun _ _ h => h.note (g := fun m => m.newCallback.2)
    ⟨fun _ => rfl, fun _ => rfl, fun _ => rfl, fun _ _ h => .inl h, fun _ _ => rfl⟩) ?_
  refine asked ⟨hlink, hs.reach⟩ fun id _ => ?_
  refine revised (fun _ _ h => h.note
    (g := fun m => { m with queries := m.queries.insert label (link.handle, id) })
    ⟨fun _ => rfl, fun _ => rfl, fun _ => rfl, fun _ _ h => .inl h, fun _ _ => rfl⟩) ?_
  exact discreet_say s _

omit hs in
theorem discreet_cancel (s : Scope) (label : String) :
    N.Discreet inside inside' (s.cancel label) := by
  refine consulted fun m m' hmemories => ?_
  obtain ⟨members, rfl⟩ := hmemories.rest
  simp only
  split
  · exact asked trivial fun found _ => discreet_say s _
  · exact discreet_say s _

omit hs in
theorem discreet_keep (label : String) (connection : Connection) :
    N.Discreet inside inside' (Scope.keep label connection) := by
  refine consulted fun m m' hmemories => ?_
  obtain ⟨members, rfl⟩ := hmemories.rest
  refine revised (fun _ _ h => h.note
    (g := fun m => { m with connections := m.connections.insert label connection })
    ⟨fun _ => rfl, fun _ => rfl, fun _ => rfl, fun _ _ h => .inl h, fun _ _ => rfl⟩) ?_
  simp only
  split
  · rename_i former _
    exact discreet_request (r := .disconnect former) trivial
  · exact discreet_pure _

omit hs in
theorem discreet_subscribe (channel : ChannelKey) (label : String) (run : List Beat)
    {reach : Reach} (hreach : N.SparesReach reach) :
    N.Discreet inside inside' (Scope.subscribe channel label run reach) := by
  refine consulted fun m m' hmemories => ?_
  obtain ⟨members, rfl⟩ := hmemories.rest
  refine revised (fun _ _ h => h.note (g := fun m => m.newCallback.2)
    ⟨fun _ => rfl, fun _ => rfl, fun _ => rfl, fun _ _ h => .inl h, fun _ _ => rfl⟩) ?_
  exact discreet_request (r := .connect channel (.scripted label m.nextCallback run reach)) hreach

omit hs in
theorem discreet_unsubscribe (label : String) :
    N.Discreet inside inside' (Scope.unsubscribe label) := by
  refine consulted fun m m' hmemories => ?_
  obtain ⟨members, rfl⟩ := hmemories.rest
  simp only
  split
  · refine revised (fun _ _ h => h.note
      (g := fun m => { m with connections := m.connections.erase label })
      ⟨fun _ => rfl, fun _ => rfl, fun _ => rfl, fun _ _ h => .inl h, fun _ _ => rfl⟩) ?_
    exact asked trivial fun _ _ => discreet_pure _
  · exact discreet_pure _

theorem discreet_connect (event : Event) (label : String) (isOwned : Bool) (run : List Beat) :
    N.Discreet inside inside' (s.connect event label isOwned run) := by
  refine (discreet_subscribe _ _ _ hs.reach).bind fun connection _ => ?_
  split
  · rename_i system hsystem
    exact discreet_revise fun _ _ h => h.reviseScripted (hs.system system hsystem) fun _ h => h
  · exact discreet_keep label connection

omit hs in
theorem discreet_attach (s : Scope) (casting : Casting Script) :
    N.Discreet inside inside' (s.attach casting) := by
  refine consulted fun m m' hmemories => ?_
  rcases hmemories.enlist casting with ⟨failure, henlist, henlist'⟩ |
    ⟨attachment, left, left', henlist, henlist', hsystem, hmemories⟩
  · simp only [henlist, henlist']
    exact discreet_say s _
  · simp only [henlist, henlist']
    refine revised (fun _ _ _ => hmemories) (asked hsystem fun handle hhandle => ?_)
    have hnew : ¬ N.handles handle := N.fresh handle hhandle
    refine revised (fun _ _ h => h.note (g := fun m => m.acquaint handle) (.acquaint hnew)) ?_
    exact discreet_say s _

theorem discreet_detach (target : Target) : N.Discreet inside inside' (s.detach target) := by
  unfold Scope.detach
  split
  · rename_i link hlink
    exact discreet_request (hs.reach link hlink)
  · rename_i handle
    refine consulted fun m m' hmemories => ?_
    have hknown : m'.known = m.known := by
      obtain ⟨members, rfl⟩ := hmemories.rest
      rfl
    rw [hknown]
    split
    · rename_i hmem
      exact discreet_request (r := .queueDetach handle) (hmemories.unnamed.known handle hmem)
    · exact discreet_pure _
  · exact discreet_pure _

omit hs in
theorem discreet_add (s : Scope) (amount : Int) (entity : Entity) :
    N.Discreet inside inside' (s.add amount entity) := by
  refine asked trivial fun count _ => ?_
  split
  · exact discreet_say s _
  · simp only
    split
    · exact asked trivial fun _ _ => discreet_pure _
    · exact .panic _

omit hs in
theorem discreet_read (s : Scope) (entity : Entity) :
    N.Discreet inside inside' (s.read entity) := by
  refine asked trivial fun count _ => ?_
  exact asked trivial fun isAlive _ => discreet_say s _

omit hs in
/-- Scripted code that may not do something does nothing. -/
theorem discreet_permitted {may : Prop} [Decidable may] {deed : Deed Unit}
    (hdeed : N.Discreet inside inside' deed) :
    N.Discreet inside inside' (if may then deed else return ()) := by
  split
  · exact hdeed
  · exact discreet_pure _

/-- **Scripted code does the same, whatever is inside.** -/
theorem discreet_perform (action : Action) : N.Discreet inside inside' (action.perform s) := by
  have hsaid : ∀ {r : Request cast}, (N.relation inside inside').Allows r →
      ∀ text : r.Answer → String, N.Discreet inside inside'
        ((Program.request (G := cast) r).bind fun answer => s.say (text answer)) :=
    fun hr text => asked hr fun answer _ => discreet_say s _
  cases action with
  | log text => exact discreet_say s text
  | fail f => exact .fail f
  | panic p => exact .panic p
  | info => exact discreet_say s _
  | link => exact discreet_say s _
  | config key => exact discreet_withLink hs fun link _ => discreet_say s _
  | require key => exact discreet_requireNumber hs key
  | expose capabilities =>
      simp only [Action.perform]
      split
      · rename_i system hsystem
        exact discreet_revise fun _ _ h => h.reviseScripted (hs.system system hsystem) fun _ h => h
      · exact discreet_pure _
  | register label signature run => exact discreet_register hs label signature run
  | cancel label => exact discreet_cancel s label
  | clearQueries => exact discreet_withLink hs fun link _ => discreet_request trivial
  | queries =>
      exact discreet_withLink hs fun link _ => hsaid (r := .queryCount link.handle) trivial _
  | connect event label isOwned run => exact discreet_connect hs event label isOwned run
  | disconnect label => exact (discreet_unsubscribe label).bind fun _ _ => discreet_say s _
  | emit signal => exact hsaid (r := .emit signal) trivial _
  | connections event => exact hsaid (r := .connectionCount (.event event)) trivial _
  | attach casting => exact discreet_permitted (discreet_attach s casting)
  | detach target => exact discreet_permitted (discreet_detach hs target)
  | commands => exact discreet_permitted (hsaid (r := .commandCount) trivial _)
  | add amount entity => exact discreet_permitted (discreet_add s amount _)
  | read entity => exact discreet_permitted (discreet_read s _)
  | find signature => exact discreet_permitted (hsaid (r := .find signature) trivial _)
  | declare name value =>
      exact discreet_permitted (.ask trivial fun _ _ => .ofExcept fun _ _ => trivial)
  | setParameter name value =>
      exact discreet_permitted (.ask trivial fun _ _ => .ofExcept fun _ _ => trivial)
  | parameter name => exact discreet_permitted (hsaid (r := .getParameter name) trivial _)

theorem discreet_performAll (actions : List Action) :
    N.Discreet inside inside' (performAll s actions) :=
  .forEach fun action _ => discreet_perform hs action

end Scripts

section Systems

open MemoryRelation.Alike (asked consulted revised)

theorem discreet_call {s : ScriptedSystem} (hs : N.SparesReach s.reach) {system : SystemId}
    (hsystem : ¬ N.systems system) (hook : Capability) (access : Access)
    (info : Option StepInfo) : N.Discreet inside inside' (s.call system hook access info) := by
  have hwritten : ∀ m m', N.SameOutside inside inside' m m' → N.SameOutside inside inside'
      (m.write (s.callLine hook info)) (m'.write (s.callLine hook info)) :=
    fun _ _ h => h.note (.write _)
  refine revised (fun m m' h => (hwritten m m' h).reviseScripted hsystem fun _ h => h) ?_
  exact discreet_performAll ⟨hs, fun other hother => Option.some.inj hother ▸ hsystem⟩ _

theorem discreet_configure_scripted {s : ScriptedSystem} {system : SystemId}
    (hsystem : ¬ N.systems system) {context : ConfigureContext}
    (hcontext : ¬ N.handles context.handle) :
    N.Discreet inside inside' (s.configure system context) := by
  have hreach : N.SparesReach
      (s.reach.linked ⟨context.handle, context.entity, context.config⟩) := by
    intro link hlink
    exact Option.some.inj hlink ▸ hcontext
  have hacquainted : ∀ m m', N.SameOutside inside inside' m m' → N.SameOutside inside inside'
      (m.acquaint context.handle) (m'.acquaint context.handle) :=
    fun _ _ h => h.note (.acquaint hcontext)
  refine revised (fun m m' h => (hacquainted m m' h).reviseScripted hsystem fun _ _ => hreach) ?_
  exact discreet_call hreach hsystem _ _ _

theorem discreet_configureParameters_scripted {s : ScriptedSystem} (hs : N.SparesReach s.reach)
    {system : SystemId} (hsystem : ¬ N.systems system) :
    N.Discreet inside inside' (s.configureParameters system) := by
  let reach : Reach := { s.reach with parameters := true }
  have hreach : N.SparesReach reach := hs
  have hcall : N.Discreet inside inside'
      (({ s with reach := reach } : ScriptedSystem).call system .configureParameters .full none) :=
    discreet_call (s := { s with reach := reach }) hreach hsystem _ _ _
  have hrevised : ∀ m m', N.SameOutside inside inside' m m' → N.SameOutside inside inside'
      (m.reviseScripted system fun state => { state with reach := reach })
      (m'.reviseScripted system fun state => { state with reach := reach }) :=
    fun _ _ h => h.reviseScripted hsystem fun _ _ => hreach
  exact revised hrevised hcall

theorem discreet_drop_scripted (s : ScriptedSystem) : N.Discreet inside inside' s.drop :=
  revised (fun _ _ h => h.note (.write _))
    (.forEach fun c _ => discreet_request (r := .disconnect c) trivial)

/-- A built-in system that only makes modest requests. -/
theorem discreet_of_modest {α : Type} {p : Deed α}
    (h : p.Confined Request.Modest fun _ => True) : N.Discreet inside inside' p :=
  .of_confined h fun r hr => by
    cases r with
    | consult => exact hr.elim
    | revise f => exact hr.elim
    | connect channel callback => exact hr.elim
    | register list signature callback => exact hr.elim
    | queueAttach attachment entity config => exact hr.elim
    | queueDetach handle => exact hr.elim
    | _ => exact trivial

theorem discreet_configure_simClock (c : SimClock) {system : SystemId}
    (hsystem : ¬ N.systems system) (config : Payload) :
    N.Discreet inside inside' (c.configure system config) := by
  have hread : ∀ every : Except Failure UInt64, N.Discreet inside inside' (.ofExcept every) :=
    fun _ => .ofExcept fun _ _ => trivial
  refine (hread _).bind fun logEvery _ => ?_
  let request : Request cast := .connect (.event .sceneUpdate) (Callback.clock system)
  refine asked (r := request) hsystem fun subscription _ => ?_
  split
  · exact discreet_pure _
  · rename_i former _
    exact asked (r := .disconnect former) trivial fun _ _ => discreet_pure _

/-- A system outside does something, and is remembered as what it says it is afterwards. -/
theorem discreet_tending {system : SystemId} (hsystem : ¬ N.systems system)
    {conduct : Role → Deed (Option Role)}
    (hconduct : ∀ role, N.SparesRole role → (N.relation inside inside').Alike
      (fun left => ∀ role, left = some role → N.SparesRole role) (conduct role) (conduct role)) :
    N.Discreet inside inside' (Cast.tending system conduct) := by
  refine consulted fun m m' hmemories => ?_
  rw [hmemories.role? hsystem]
  split
  · exact discreet_pure _
  · rename_i role hrole
    refine (hconduct role (hmemories.unnamed.role hrole)).bind fun left hleft => ?_
    split
    · exact discreet_pure _
    · rename_i role
      exact discreet_revise fun _ _ h => h.revise hsystem fun _ _ => hleft role rfl

/-- A system that says nothing about itself, or that it is another built-in one. -/
theorem kept_conduct {α : Type} {p : Deed α} (hp : N.Discreet inside inside' p)
    {f : α → Option Role} (hf : ∀ a role, f a = some role → N.SparesRole role) :
    (N.relation inside inside').Alike (fun left => ∀ role, left = some role → N.SparesRole role)
      (p.bind fun a => .done (f a)) (p.bind fun a => .done (f a)) :=
  hp.bind fun a _ => .done (hf a)

theorem discreet_drop {system : SystemId} (hsystem : ¬ N.systems system) :
    N.Discreet inside inside' (Cast.drop system) := by
  have hdismiss : N.Discreet inside inside' (Program.revise fun m => m.dismiss system) :=
    discreet_revise fun _ _ h => h.dismiss hsystem
  refine consulted fun m m' hmemories => ?_
  simp only [hmemories.role? hsystem]
  split
  · exact (discreet_drop_scripted _).bind fun _ _ => hdismiss
  · split
    · rename_i subscription _
      exact asked (r := .disconnect subscription) trivial fun _ _ => hdismiss
    · exact hdismiss
  · exact hdismiss

theorem discreet_onCallback {label : String} {number : Nat} {run : List Beat} {reach : Reach}
    (hreach : N.SparesReach reach) (line : String) (access : Access) (info : Option StepInfo)
    (subject : Option Entity) :
    N.Discreet inside inside' (do
      let call := (← Program.consult (G := cast)).callbackCount number
      Program.revise fun m => (m.countCallback number).write line
      performAll ⟨label, access, info, subject, reach, none⟩ (actionsOf run call)) := by
  refine consulted fun m m' hmemories => ?_
  obtain ⟨members, rfl⟩ := hmemories.rest
  refine revised (fun _ _ h => h.note (g := fun m => (m.countCallback number).write line)
    ⟨fun _ => rfl, fun _ => rfl, fun _ => rfl, fun _ _ h => .inl h, fun _ _ => rfl⟩) ?_
  exact discreet_performAll ⟨hreach, fun _ hsystem => by cases hsystem⟩ _

/-- **Everyone outside does the same, whatever is inside.** -/
theorem callsAlike (N : HiddenSelection) (inside inside' : SystemId → Option Member) :
    (N.relation inside inside').CallsAlike behavior where
  onSignal callback hcallback signal := by
    cases callback with
    | clock system =>
        refine discreet_tending hcallback fun role hrole => ?_
        cases role with
        | simClock c =>
            exact kept_conduct (discreet_of_modest (modest_simClock_display c))
              fun _ _ h => Option.some.inj h ▸ trivial
        | _ => exact .done fun _ h => by cases h
    | scripted label number run reach => exact discreet_onCallback hcallback _ _ _ _
  onQuery callback hcallback info entity := by
    cases callback with
    | clock system => exact discreet_pure _
    | scripted label number run reach => exact discreet_onCallback hcallback _ _ _ _
  configure system hsystem context hcontext := discreet_tending hsystem fun role hrole => by
    cases role with
    | accelerate s =>
        exact kept_conduct (discreet_of_modest (modest_accelerate_configure s context))
          fun _ _ h => Option.some.inj h ▸ trivial
    | simClock c =>
        exact kept_conduct (discreet_configure_simClock c hsystem _)
          fun _ _ h => Option.some.inj h ▸ trivial
    | scripted s =>
        exact kept_conduct (discreet_configure_scripted hsystem hcontext) fun _ _ h => by cases h
    | _ => exact .done fun _ h => by cases h
  configureParameters system hsystem := discreet_tending hsystem fun role hrole => by
    cases role with
    | accelerate s =>
        exact kept_conduct (discreet_of_modest (modest_accelerate_configureParameters s))
          fun _ _ h => Option.some.inj h ▸ trivial
    | scripted s =>
        exact kept_conduct (discreet_configureParameters_scripted hrole hsystem)
          fun _ _ h => by cases h
    | _ => exact .done fun _ h => by cases h
  phase phase system hsystem info := discreet_tending hsystem fun role hrole => by
    cases role with
    | accelerate s =>
        cases phase with
        | update =>
            exact kept_conduct (discreet_of_modest (modest_accelerate_update s info))
              fun _ _ h => by cases h
        | _ => exact .done fun _ h => by cases h
    | velocityLog l =>
        cases phase with
        | postUpdate =>
            exact kept_conduct (discreet_of_modest (modest_velocityLog_postUpdate l info))
              fun _ _ h => Option.some.inj h ▸ trivial
        | _ => exact .done fun _ h => by cases h
    | simClock c =>
        cases phase with
        | preUpdate => exact .done fun _ h => Option.some.inj h ▸ trivial
        | _ => exact .done fun _ h => by cases h
    | pauseAfter p =>
        cases phase with
        | preUpdate =>
            exact kept_conduct (discreet_of_modest (modest_pauseAfter_preUpdate p info))
              fun _ _ h => Option.some.inj h ▸ trivial
        | _ => exact .done fun _ h => by cases h
    | scripted s =>
        cases phase <;>
          exact kept_conduct (discreet_call hrole hsystem _ _ _) fun _ _ h => by cases h
  discard system hsystem := discreet_drop hsystem
  giveBack system hsystem := by
    refine revised (fun _ _ h => h.modify hsystem fun _ hmember => hmember) ?_
    refine consulted fun m m' hmemories => ?_
    have hholders : m'.holders system = m.holders system := by
      rw [Memory.holders, Memory.holders, hmemories.outside system hsystem]
    rw [hholders]
    split
    · exact discreet_drop hsystem
    · exact discreet_pure _
  unloaded name := discreet_revise fun _ _ h => h.note (.write _)
  offers system hsystem m m' hmemories := by
    funext capability
    simp only [behavior, hmemories.role? hsystem]
  name system hsystem m m' hmemories := by
    simp only [behavior, hmemories.role? hsystem]

end Systems

end HiddenSelection

end SimEngine
