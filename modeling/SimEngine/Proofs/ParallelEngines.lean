import SimEngine.Proofs.MemoryRelations

/-!
# Parallel engines

Two engines have the same instances at the same places, but for a block of
instances in each of them.  Systems come and go alike in both, and the turns of a
step are alike, if everyone outside of the blocks does the same, whatever it
remembers.  What the blocks do in a step has to be the same in the end, no more.

**Definitions.**
* `MemoryRelation.CallsAlike`: the systems that may be named do the same in all
  calls, whatever they remember.
* `MemoryRelation.SameButBlock`, `MemoryRelation.SchedulersAlike`: lists of
  instances, and schedulers, that differ in a block only.
* `MemoryRelation.ProgressAlike`: two steps that have come to the same so far.
* `MemoryRelation.BlocksAlike`: two blocks that come to the same in a step.

**Results.**
* `CallsAlike.apply`: requests are carried out alike.
* `CallsAlike.beginStep_waiting`, `CallsAlike.beginStep_acting`: steps begin alike.
* `CallsAlike.runStep`: steps are alike, and their reports are the same.
-/

namespace SimEngine

variable {G : Guest}

namespace MemoryRelation

variable (S : MemoryRelation G)

/-- An instance of which everything may be named. -/
def Keeps (i : Instance G) : Prop :=
  S.handles i.handle ∧ S.systems i.attachment.system

/-- Systems and callbacks that may be named do the same in each call, whatever they remember. -/
structure CallsAlike (b : Behavior G) : Prop where
  onSignal : S.CallbacksAlike b
  onQuery : ∀ callback, S.callbacks callback → ∀ info entity,
    S.Alike (fun _ => True) (b.onQuery callback info entity) (b.onQuery callback info entity)
  configure : ∀ system, S.systems system → ∀ context : ConfigureContext, S.handles context.handle →
    S.Alike (fun _ => True) (b.configure system context) (b.configure system context)
  configureParameters : ∀ system, S.systems system →
    S.Alike (fun _ => True) (b.configureParameters system) (b.configureParameters system)
  phase : ∀ phase system, S.systems system → ∀ info,
    S.Alike (fun _ => True) (b.phase phase system info) (b.phase phase system info)
  discard : ∀ system, S.systems system →
    S.Alike (fun _ => True) (b.discard system) (b.discard system)
  giveBack : ∀ system, S.systems system →
    S.Alike (fun _ => True) (b.giveBack system) (b.giveBack system)
  unloaded : ∀ name, S.Alike (fun _ => True) (b.unloaded name) (b.unloaded name)
  offers : ∀ system, S.systems system → ∀ m m', S.memories m m' →
    b.offers system m' = b.offers system m
  name : ∀ system, S.systems system → ∀ m m', S.memories m m' → b.name system m' = b.name system m

/-- Two lists of instances are the same but for a block in each. -/
def SameButBlock (block block' list list' : List (Instance G)) : Prop :=
  ∃ front back, list = front ++ block ++ back ∧ list' = front ++ block' ++ back ∧
    (∀ i ∈ front, S.Keeps i) ∧ ∀ i ∈ back, S.Keeps i

/-- Nobody may name an instance of a block. -/
def Hides (block : List (Instance G)) : Prop :=
  ∀ i ∈ block, ¬ S.handles i.handle

/-- Two schedulers are the same but for a block that takes part in steps, and one that waits. -/
structure SchedulersAlike (acting acting' waiting waiting' : List (Instance G))
    (s s' : Scheduler G) : Prop where
  instances : S.SameButBlock acting acting' s.instances s'.instances
  pending : S.SameButBlock waiting waiting' s.pending s'.pending

/-- Two engines are the same but for the memory, the journal and blocks of instances. -/
structure Parallel (acting acting' waiting waiting' : List (Instance G)) (e e' : Engine G) :
    Prop where
  schedulers : S.SchedulersAlike acting acting' waiting waiting' e.scheduler e'.scheduler
  agree : S.Agree e.env e'.env

/-- Two steps have come to the same so far, and nobody of the blocks has failed. -/
structure ProgressAlike (p p' : StepProgress G) : Prop where
  faulted : p'.faulted = p.faulted
  report : p'.report = p.report
  agree : S.Agree p.env p'.env
  named : ∀ h ∈ p.faulted, S.handles h

/-- What the instances of a block do in their turns. -/
inductive TurnKind
  | deliver
  | call (phase : StepPhase)

/-- One turn of a kind. -/
def TurnKind.turn (b : Behavior G) (info : StepInfo) : TurnKind → StepProgress G → Instance G →
    StepProgress G
  | .deliver => StepProgress.deliverOne b info
  | .call phase => StepProgress.callOne b info phase

/-- Two blocks come to the same in their turns of each kind. -/
def BlocksAlike (b : Behavior G) (info : StepInfo) (block block' : List (Instance G)) : Prop :=
  ∀ (kind : TurnKind) p p', S.ProgressAlike p p' →
    S.ProgressAlike (block.foldl (kind.turn b info) p) (block'.foldl (kind.turn b info) p')

variable {S} {b : Behavior G} {env env' : Environment G}

namespace SameButBlock

variable {block block' list list' : List (Instance G)}

theorem of_forall {list : List (Instance G)} (h : ∀ i ∈ list, S.Keeps i) :
    S.SameButBlock [] [] list list :=
  ⟨list, [], by simp, by simp, h, by simp⟩

theorem append (h : S.SameButBlock block block' list list') {more : List (Instance G)}
    (hmore : ∀ i ∈ more, S.Keeps i) :
    S.SameButBlock block block' (list ++ more) (list' ++ more) := by
  obtain ⟨front, back, rfl, rfl, hfront, hback⟩ := h
  refine ⟨front, back ++ more, by simp, by simp, hfront, fun i hi => ?_⟩
  rcases List.mem_append.1 hi with hi | hi
  · exact hback i hi
  · exact hmore i hi

/-- Nobody of a block has a handle that may be named. -/
theorem ne_of_hides (hhides : S.Hides block) {handle : Handle} (hhandle : S.handles handle)
    {i : Instance G} (hi : i ∈ block) : (i.handle == handle) = false :=
  beq_eq_false_iff_ne.2 fun heq => hhides i hi (heq ▸ hhandle)

theorem find? (h : S.SameButBlock block block' list list') (hhides : S.Hides block)
    (hhides' : S.Hides block') {handle : Handle} (hhandle : S.handles handle) :
    (list'.find? fun i => i.handle == handle) = list.find? (fun i => i.handle == handle) ∧
      ∀ i, list.find? (fun i => i.handle == handle) = some i → S.Keeps i := by
  obtain ⟨front, back, rfl, rfl, hfront, hback⟩ := h
  have hnone : ∀ {block : List (Instance G)}, S.Hides block →
      block.find? (fun i => i.handle == handle) = none := fun hhides =>
    List.find?_eq_none.2 fun i hi => by simp [ne_of_hides hhides hhandle hi]
  simp only [List.find?_append, hnone hhides, hnone hhides', Option.or_none, true_and]
  intro i hi
  rcases Option.or_eq_some_iff.1 hi with hfound | ⟨-, hfound⟩
  · exact hfront i (List.mem_of_find?_eq_some hfound)
  · exact hback i (List.mem_of_find?_eq_some hfound)

theorem any (h : S.SameButBlock block block' list list') (hhides : S.Hides block)
    (hhides' : S.Hides block') {handle : Handle} (hhandle : S.handles handle) :
    (list'.any fun i => i.handle == handle) = list.any fun i => i.handle == handle := by
  have hfind := (h.find? hhides hhides' hhandle).1
  rw [← List.isSome_find?, ← List.isSome_find?, hfind]

theorem eraseP (h : S.SameButBlock block block' list list') (hhides : S.Hides block)
    (hhides' : S.Hides block') {handle : Handle} (hhandle : S.handles handle) :
    S.SameButBlock block block' (list.eraseP fun i => i.handle == handle)
      (list'.eraseP fun i => i.handle == handle) := by
  obtain ⟨front, back, rfl, rfl, hfront, hback⟩ := h
  have herase : ∀ {block : List (Instance G)}, S.Hides block →
      (front ++ block ++ back).eraseP (fun i => i.handle == handle) =
        if front.any (fun i => i.handle == handle)
          then front.eraseP (fun i => i.handle == handle) ++ block ++ back
          else front ++ block ++ back.eraseP (fun i => i.handle == handle) := by
    intro block hhides
    have hnone : ∀ i ∈ block, ¬ (i.handle == handle) = true := fun i hi => by
      simp [ne_of_hides hhides hhandle hi]
    rw [List.append_assoc, List.eraseP_append, List.eraseP_append_right _ hnone]
    split <;> simp
  rw [herase hhides, herase hhides']
  split
  · exact ⟨_, back, rfl, rfl, fun i hi => hfront i (List.mem_of_mem_eraseP hi), hback⟩
  · exact ⟨front, _, rfl, rfl, hfront, fun i hi => hback i (List.mem_of_mem_eraseP hi)⟩

end SameButBlock

namespace SchedulersAlike

variable {acting acting' waiting waiting' : List (Instance G)} {s s' : Scheduler G}

theorem instance? (h : S.SchedulersAlike acting acting' waiting waiting' s s')
    (hacting : S.Hides acting) (hacting' : S.Hides acting') (hwaiting : S.Hides waiting)
    (hwaiting' : S.Hides waiting')
    {handle : Handle} (hhandle : S.handles handle) :
    s'.instance? handle = s.instance? handle ∧
      ∀ i, s.instance? handle = some i → S.Keeps i := by
  obtain ⟨hinstances, hkeeps⟩ := h.instances.find? hacting hacting' hhandle
  obtain ⟨hpending, hkeeps'⟩ := h.pending.find? hwaiting hwaiting' hhandle
  simp only [Scheduler.instance?, Scheduler.all, List.find?_append, hinstances, hpending, true_and]
  intro i hi
  rcases Option.or_eq_some_iff.1 hi with hfound | ⟨-, hfound⟩
  · exact hkeeps i hfound
  · exact hkeeps' i hfound

theorem erase (h : S.SchedulersAlike acting acting' waiting waiting' s s')
    (hacting : S.Hides acting) (hacting' : S.Hides acting') (hwaiting : S.Hides waiting)
    (hwaiting' : S.Hides waiting')
    {handle : Handle} (hhandle : S.handles handle) :
    S.SchedulersAlike acting acting' waiting waiting' (s.erase handle) (s'.erase handle) := by
  simp only [Scheduler.erase, h.instances.any hacting hacting' hhandle]
  split
  · exact ⟨h.instances.eraseP hacting hacting' hhandle, h.pending⟩
  · exact ⟨h.instances, h.pending.eraseP hwaiting hwaiting' hhandle⟩

theorem enqueue (h : S.SchedulersAlike acting acting' waiting waiting' s s') {i : Instance G}
    (hi : S.Keeps i) :
    S.SchedulersAlike acting acting' waiting waiting' { s with pending := s.pending ++ [i] }
      { s' with pending := s'.pending ++ [i] } where
  instances := h.instances
  pending := h.pending.append fun _ hj => List.mem_singleton.1 hj ▸ hi

/-- The waiting instances are admitted, and with them a block that waits. -/
theorem admitted {block block' : List (Instance G)}
    (h : S.SchedulersAlike [] [] block block' s s') :
    S.SchedulersAlike (block.map Instance.admitted) (block'.map Instance.admitted) [] []
      s.admitPending s'.admitPending := by
  obtain ⟨front, back, hpending, hpending', hfront, hback⟩ := h.pending
  obtain ⟨front', back', hinstances, hinstances', hfront', hback'⟩ := h.instances
  refine ⟨⟨s.instances ++ front.map Instance.admitted, back.map Instance.admitted, ?_, ?_,
    fun i hi => ?_, fun i hi => ?_⟩, .of_forall fun _ hi => absurd hi List.not_mem_nil⟩
  · simp [Scheduler.admitPending, hpending]
  · simp [Scheduler.admitPending, hpending', hinstances, hinstances']
  · rcases List.mem_append.1 hi with hi | hi
    · rw [hinstances, List.append_nil] at hi
      rcases List.mem_append.1 hi with hi | hi
      · exact hfront' i hi
      · exact hback' i hi
    · obtain ⟨j, hj, rfl⟩ := List.mem_map.1 hi
      exact hfront j hj
  · obtain ⟨j, hj, rfl⟩ := List.mem_map.1 hi
    exact hback j hj

/-- The waiting instances are admitted behind those of a block that takes part already. -/
theorem admitted_behind {block block' : List (Instance G)}
    (h : S.SchedulersAlike block block' [] [] s s') :
    S.SchedulersAlike block block' [] [] s.admitPending s'.admitPending := by
  obtain ⟨front, back, hpending, hpending', hfront, hback⟩ := h.pending
  have hsame : s'.pending = s.pending := hpending'.trans hpending.symm
  refine ⟨?_, .of_forall fun _ hi => absurd hi List.not_mem_nil⟩
  show S.SameButBlock block block' (s.instances ++ _)
    (s'.instances ++ s'.pending.map Instance.admitted)
  rw [hsame]
  refine h.instances.append fun i hi => ?_
  obtain ⟨j, hj, rfl⟩ := List.mem_map.1 hi
  rw [hpending, List.append_nil] at hj
  rcases List.mem_append.1 hj with hj | hj
  · exact hfront j hj
  · exact hback j hj

end SchedulersAlike

namespace CallsAlike

variable (hcalls : S.CallsAlike b)

include hcalls

/-- A call of an instance that may be named. -/
theorem call (h : S.Agree env env') {i : Instance G} (hi : S.Keeps i) (capability : Capability)
    (access : Access) {program : Program G Unit} (hp : S.Alike (fun _ => True) program program) :
    S.Concur (fun _ => True) (i.call b capability access program env)
      (i.call b capability access program env') := by
  unfold Instance.call
  rw [hcalls.offers _ hi.2 _ _ h.memory]
  split
  · have hrun := run_alike hcalls.onSignal hp access h
    rcases hanswer : b.run access program env with ⟨outcome, left⟩
    rcases hanswer' : b.run access program env' with ⟨outcome', left'⟩
    rw [hanswer, hanswer'] at hrun
    obtain rfl : outcome' = outcome := hrun.result
    simp only
    cases outcome'.toExcept with
    | ok => exact ⟨rfl, trivial, hrun.agree⟩
    | error message => exact ⟨rfl, trivial, hrun.agree⟩
  · exact ⟨rfl, trivial, h.report _ _⟩

theorem configure_instance (h : S.Agree env env') {i : Instance G} (hi : S.Keeps i)
    (config : Option Payload) :
    S.Concur S.Keeps (i.configure b config env) (i.configure b config env') := by
  unfold Instance.configure
  simp only
  split
  · have hcall := hcalls.call h (i := i.prepare config) hi .configure .full
      (hcalls.configure (i.prepare config).attachment.system hi.2
        ⟨(i.prepare config).handle, (i.prepare config).entity, (i.prepare config).config⟩ hi.1)
    generalize (i.prepare config).call b .configure .full _ env = answer at hcall
    generalize (i.prepare config).call b .configure .full _ env' = answer' at hcall
    obtain ⟨result, left⟩ := answer
    obtain ⟨result', left'⟩ := answer'
    obtain rfl : result' = result := hcall.result
    cases result' with
    | failed message => exact ⟨rfl, hi, hcall.agree.report _ _⟩
    | completed => exact ⟨rfl, hi, hcall.agree.report _ _⟩
    | skipped => exact ⟨rfl, hi, hcall.agree.report _ _⟩
  · exact ⟨rfl, hi, h⟩

theorem configureParameters_instance (h : S.Agree env env') {i : Instance G} (hi : S.Keeps i) :
    S.Concur S.Keeps (i.configureParameters b env) (i.configureParameters b env') := by
  unfold Instance.configureParameters
  split
  · have hcall := hcalls.call h hi .configureParameters .full
      (hcalls.configureParameters i.attachment.system hi.2)
    simp only
    generalize i.call b .configureParameters .full _ env = answer at hcall
    generalize i.call b .configureParameters .full _ env' = answer' at hcall
    obtain ⟨result, left⟩ := answer
    obtain ⟨result', left'⟩ := answer'
    obtain rfl : result' = result := hcall.result
    cases result' with
    | failed message => exact ⟨rfl, hi, hcall.agree.report _ _⟩
    | completed => exact ⟨rfl, hi, hcall.agree⟩
    | skipped => exact ⟨rfl, hi, hcall.agree⟩
  · exact ⟨rfl, hi, h⟩

/-- An attachment comes to the same instance at the end of both queues. -/
theorem attachAs {e e' : Engine G} (h : S.Agree e.env e'.env) {handle : Handle}
    {attachment : Attachment G} (hhandle : S.handles handle)
    (hsystem : S.systems attachment.system) (entity : Entity) (config : Payload) :
    ∃ i left left', S.Keeps i ∧ S.Agree left left' ∧
      e.attachAs b handle attachment entity config =
        ⟨{ e.scheduler with pending := e.scheduler.pending ++ [i] }, left⟩ ∧
      e'.attachAs b handle attachment entity config =
        ⟨{ e'.scheduler with pending := e'.scheduler.pending ++ [i] }, left'⟩ := by
  have hmade : S.Concur S.Keeps (Instance.create b handle attachment entity config e.env)
      (Instance.create b handle attachment entity config e'.env) := by
    refine ⟨?_, ⟨hhandle, hsystem⟩, h.setQueryList rfl fun q hq => absurd hq List.not_mem_nil⟩
    have hoffers : b.offers attachment.system e'.env.memory =
        b.offers attachment.system e.env.memory :=
      hcalls.offers _ hsystem _ _ h.memory
    simp only [Instance.create, hcalls.name _ hsystem _ _ h.memory, hoffers]
  rcases hcreate : Instance.create b handle attachment entity config e.env with ⟨i, env₁⟩
  rcases hcreate' : Instance.create b handle attachment entity config e'.env with ⟨i', env₁'⟩
  rw [hcreate, hcreate'] at hmade
  obtain rfl : i' = i := hmade.result
  have hconfigured := hcalls.configure_instance hmade.agree hmade.expected none
  rcases hconfigure : i'.configure b none env₁ with ⟨j, env₂⟩
  rcases hconfigure' : i'.configure b none env₁' with ⟨j', env₂'⟩
  rw [hconfigure, hconfigure'] at hconfigured
  obtain rfl : j' = j := hconfigured.result
  have hdeclared := hcalls.configureParameters_instance hconfigured.agree hconfigured.expected
  rcases hdeclare : j'.configureParameters b env₂ with ⟨k, env₃⟩
  rcases hdeclare' : j'.configureParameters b env₂' with ⟨k', env₃'⟩
  rw [hdeclare, hdeclare'] at hdeclared
  obtain rfl : k' = k := hdeclared.result
  let notice : Notice := .attached handle k'.name entity k'.capabilities k'.degraded
  refine ⟨k', _, _, hdeclared.expected, hdeclared.agree.report notice notice, ?_, ?_⟩
  · simp only [Engine.attachAs, hcreate, hconfigure, hdeclare, notice]
  · simp only [Engine.attachAs, hcreate', hconfigure', hdeclare', notice]

theorem runQuietly (h : S.Agree env env') {p : Program G Unit}
    (hp : S.Alike (fun _ => True) p p) : S.Agree (b.runQuietly p env) (b.runQuietly p env') :=
  (run_alike hcalls.onSignal hp .none h).agree

/-- A system that may be named is let go of alike. -/
theorem release (h : S.Agree env env') {attachment : Attachment G}
    (hsystem : S.systems attachment.system) :
    S.Agree (b.release attachment env) (b.release attachment env') := by
  obtain ⟨system, ownership⟩ := attachment
  cases ownership with
  | shared => exact hcalls.runQuietly h (hcalls.giveBack system hsystem)
  | plugin name unload =>
      have hdiscarded := hcalls.runQuietly h (hcalls.discard system hsystem)
      cases unload with
      | none => exact hdiscarded
      | some unload =>
          cases unload with
          | announced => exact hcalls.runQuietly hdiscarded (hcalls.unloaded name)
          | counted =>
              simp only [Behavior.release, Behavior.releaseWith, hdiscarded.loader]
              rcases Loader.uncount _ name with ⟨last, loader⟩
              have hcounted : S.Agree
                  { b.runQuietly (b.discard system) env with loader := loader }
                  { b.runQuietly (b.discard system) env' with loader := loader } :=
                { hdiscarded with loader := rfl }
              cases last with
              | true => exact hcounted.report _ _
              | false => exact hcounted

variable {acting acting' waiting waiting' : List (Instance G)} {e e' : Engine G}

/-- **A request is carried out alike.** -/
theorem apply (h : S.Parallel acting acting' waiting waiting' e e') (hacting : S.Hides acting)
    (hacting' : S.Hides acting') (hwaiting : S.Hides waiting) (hwaiting' : S.Hides waiting')
    {c : Command G} (hc : S.Admits c) :
    S.Parallel acting acting' waiting waiting' (e.apply b c) (e'.apply b c) := by
  cases c with
  | attach handle attachment entity config =>
      obtain ⟨i, left, left', hi, hagree, hattach, hattach'⟩ :=
        hcalls.attachAs h.agree hc.1 hc.2 entity config
      simp only [Engine.apply, hattach, hattach']
      exact ⟨h.schedulers.enqueue hi, hagree⟩
  | detach handle =>
      obtain ⟨hfind, hkeeps⟩ := h.schedulers.instance? hacting hacting' hwaiting hwaiting' hc
      simp only [Engine.apply, Engine.detach, hfind]
      cases hfound : e.scheduler.instance? handle with
      | none => exact h
      | some i =>
          refine ⟨h.schedulers.erase hacting hacting' hwaiting hwaiting' hc, ?_⟩
          have hcleared : S.Agree
              (e.env.setQueryList i.handle (e.env.queryList i.handle).clear)
              (e'.env.setQueryList i.handle (e'.env.queryList i.handle).clear) :=
            h.agree.setQueryList (by rw [h.agree.lists]) fun q hq => absurd hq List.not_mem_nil
          exact hcalls.release (hcleared.report _ _) (hkeeps i hfound).2

theorem applyCommands (h : S.Parallel acting acting' waiting waiting' e e')
    (hacting : S.Hides acting) (hacting' : S.Hides acting') (hwaiting : S.Hides waiting)
    (hwaiting' : S.Hides waiting') :
    S.Parallel acting acting' waiting waiting' (e.applyCommands b) (e'.applyCommands b) := by
  have hqueued := h.agree.queued
  unfold Engine.applyCommands
  rw [h.agree.requests]
  have hstart : S.Parallel acting acting' waiting waiting'
      { e with env := { e.env with commands := [] } }
      { e' with env := { e'.env with commands := [] } } :=
    ⟨h.schedulers, { h.agree with
      requests := rfl
      queued := fun _ hc => absurd hc List.not_mem_nil }⟩
  generalize e.env.commands = commands at hqueued
  generalize ({ e with env := { e.env with commands := [] } } : Engine G) = start at hstart
  generalize ({ e' with env := { e'.env with commands := [] } } : Engine G) = start' at hstart
  induction commands generalizing start start' with
  | nil => exact hstart
  | cons c rest ih =>
      exact ih (fun c' hc' => hqueued c' (List.mem_cons_of_mem c hc')) _ _
        (hcalls.apply hstart hacting hacting' hwaiting hwaiting' (hqueued c List.mem_cons_self))

/-- Steps begin alike; a block that waits is admitted. -/
theorem beginStep_waiting {block block' : List (Instance G)}
    (h : S.Parallel [] [] block block' e e') (hhides : S.Hides block) (hhides' : S.Hides block') :
    S.Parallel (block.map Instance.admitted) (block'.map Instance.admitted) [] []
      (e.beginStep b) (e'.beginStep b) := by
  have hnone : S.Hides [] := fun _ hi => absurd hi List.not_mem_nil
  have hcarried := hcalls.applyCommands h hnone hnone hhides hhides'
  exact ⟨hcarried.schedulers.admitted, hcarried.agree⟩

/-- Steps begin alike if a block takes part already. -/
theorem beginStep_acting {block block' : List (Instance G)}
    (h : S.Parallel block block' [] [] e e') (hhides : S.Hides block) (hhides' : S.Hides block') :
    S.Parallel block block' [] [] (e.beginStep b) (e'.beginStep b) := by
  have hnone : S.Hides [] := fun _ hi => absurd hi List.not_mem_nil
  have hcarried := hcalls.applyCommands h hhides hhides' hnone hnone
  exact ⟨hcarried.schedulers.admitted_behind, hcarried.agree⟩

/-- A query is delivered alike. -/
theorem deliverTo (h : S.Agree env env') (list : Handle) (info : StepInfo)
    {q : PendingQuery G.Callback} (hq : S.callbacks q.callback) (entities : List Entity) :
    S.Concur (fun _ => True) (QueryList.deliverTo b list info q entities env)
      (QueryList.deliverTo b list info q entities env') := by
  induction entities generalizing env env' with
  | nil => exact ⟨rfl, trivial, h⟩
  | cons entity rest ih =>
      simp only [QueryList.deliverTo, h.lists]
      split
      · exact ⟨rfl, trivial, h⟩
      · have hrun := run_alike hcalls.onSignal (hcalls.onQuery q.callback hq info entity) .full h
        generalize b.run .full (b.onQuery q.callback info entity) env = answer at hrun
        generalize b.run .full (b.onQuery q.callback info entity) env' = answer' at hrun
        obtain ⟨outcome, left⟩ := answer
        obtain ⟨outcome', left'⟩ := answer'
        obtain rfl : outcome' = outcome := hrun.result
        simp only
        cases outcome'.ofCallback with
        | error reason => exact ⟨rfl, trivial, hrun.agree⟩
        | ok =>
            have hrest := ih hrun.agree
            exact ⟨by simp only [hrest.result], trivial, hrest.agree⟩

theorem deliverAll (h : S.Agree env env') (list : Handle) (info : StepInfo)
    {taken : List (PendingQuery G.Callback)} (htaken : ∀ q ∈ taken, S.callbacks q.callback) :
    S.Concur (fun _ => True) (QueryList.deliverAll b list info taken env)
      (QueryList.deliverAll b list info taken env') := by
  induction taken generalizing env env' with
  | nil => exact ⟨rfl, trivial, h⟩
  | cons q rest ih =>
      have hone := hcalls.deliverTo h list info (htaken q List.mem_cons_self)
        (env.world.query q.signature)
      simp only [QueryList.deliverAll, h.world]
      generalize QueryList.deliverTo b list info q _ env = answer at hone
      generalize QueryList.deliverTo b list info q _ env' = answer' at hone
      obtain ⟨⟨completed, fault⟩, left⟩ := answer
      obtain ⟨delivery, left'⟩ := answer'
      obtain rfl : delivery = ⟨completed, fault⟩ := hone.result
      cases fault with
      | some fault => exact ⟨rfl, trivial, hone.agree⟩
      | none =>
          have hrest := ih hone.agree fun q' hq' => htaken q' (List.mem_cons_of_mem q hq')
          exact ⟨by simp only [hrest.result], trivial, hrest.agree⟩

/-- The queries of a list are delivered alike. -/
theorem deliver (h : S.Agree env env') (list : Handle) (info : StepInfo) :
    S.Concur (fun _ => True) (QueryList.deliver b list info env)
      (QueryList.deliver b list info env') := by
  have htaken := h.asked list
  have hdeparted : S.Agree (env.setQueryList list (env.queryList list).depart)
      (env'.setQueryList list (env.queryList list).depart) :=
    h.setQueryList rfl fun q hq => absurd hq List.not_mem_nil
  have hdelivered := hcalls.deliverAll hdeparted list info fun q hq => (htaken q hq).2
  simp only [QueryList.deliver, h.lists]
  generalize QueryList.deliverAll b list info _ (env.setQueryList list _) = answer at hdelivered
  generalize QueryList.deliverAll b list info _ (env'.setQueryList list _) = answer' at hdelivered
  refine ⟨hdelivered.result, trivial, hdelivered.agree.setQueryList ?_ fun q hq => ?_⟩
  · rw [hdelivered.agree.lists]
  · rcases List.mem_append.1 hq with hold | hnew
    · exact htaken q (List.mem_filter.1 hold).1
    · exact hdelivered.agree.asked list q hnew

variable {info : StepInfo} {p p' : StepProgress G}

/-- A turn of an instance that may be named. -/
theorem turn (h : S.ProgressAlike p p') {i : Instance G} (hi : S.Keeps i) (kind : TurnKind) :
    S.ProgressAlike (kind.turn b info p i) (kind.turn b info p' i) := by
  obtain ⟨faulted, report, env⟩ := p
  obtain ⟨faulted', report', env'⟩ := p'
  obtain rfl : faulted' = faulted := h.faulted
  obtain rfl : report' = report := h.report
  have hagree : S.Agree env env' := h.agree
  have hfault : ∀ {left left' : Environment G}, S.Agree left left' → ∀ stage message,
      S.ProgressAlike ((⟨faulted', report', left⟩ : StepProgress G).fault i stage message)
        ((⟨faulted', report', left'⟩ : StepProgress G).fault i stage message) :=
    fun hleft stage message => ⟨rfl, rfl, hleft.report _ _, fun handle hhandle => by
      rcases List.mem_cons.1 hhandle with rfl | hhandle
      · exact hi.1
      · exact h.named handle hhandle⟩
  cases kind with
  | deliver =>
      have hdelivered := hcalls.deliver hagree i.handle info
      simp only [TurnKind.turn, StepProgress.deliverOne]
      generalize QueryList.deliver b i.handle info env = answer at hdelivered
      generalize QueryList.deliver b i.handle info env' = answer' at hdelivered
      obtain ⟨⟨completed, fault⟩, left⟩ := answer
      obtain ⟨delivery, left'⟩ := answer'
      obtain rfl : delivery = ⟨completed, fault⟩ := hdelivered.result
      cases fault with
      | some message => exact hfault hdelivered.agree .queries message
      | none => exact ⟨rfl, rfl, hdelivered.agree, h.named⟩
  | call phase =>
      simp only [TurnKind.turn, StepProgress.callOne]
      split
      · exact h
      · have hcalled : S.Concur (fun _ => True) (i.runPhase b phase info env)
            (i.runPhase b phase info env') := by
          unfold Instance.runPhase
          split
          · exact hcalls.call hagree hi _ _ (hcalls.phase phase _ hi.2 info)
          · exact ⟨rfl, trivial, hagree⟩
        generalize i.runPhase b phase info env = answer at hcalled
        generalize i.runPhase b phase info env' = answer' at hcalled
        obtain ⟨result, left⟩ := answer
        obtain ⟨result', left'⟩ := answer'
        obtain rfl : result' = result := hcalled.result
        cases result' with
        | completed => exact ⟨rfl, rfl, hcalled.agree, h.named⟩
        | skipped => exact ⟨rfl, rfl, hcalled.agree, h.named⟩
        | failed message => exact hfault hcalled.agree phase.stage message

/-- The turns of a list of instances are alike if those of the blocks come to the same. -/
theorem turns {block block' list list' : List (Instance G)}
    (hsame : S.SameButBlock block block' list list')
    (hblocks : S.BlocksAlike b info block block') (h : S.ProgressAlike p p') (kind : TurnKind) :
    S.ProgressAlike (list.foldl (kind.turn b info) p) (list'.foldl (kind.turn b info) p') := by
  have halike : ∀ {list : List (Instance G)}, (∀ i ∈ list, S.Keeps i) →
      ∀ {p p'}, S.ProgressAlike p p' →
      S.ProgressAlike (list.foldl (kind.turn b info) p) (list.foldl (kind.turn b info) p') := by
    intro list hlist
    induction list with
    | nil => exact fun h => h
    | cons i rest ih =>
        exact fun h => ih (fun j hj => hlist j (List.mem_cons_of_mem i hj))
          (hcalls.turn h (hlist i List.mem_cons_self) kind)
  obtain ⟨front, back, rfl, rfl, hfront, hback⟩ := hsame
  rw [List.foldl_append, List.foldl_append, List.foldl_append, List.foldl_append]
  exact halike hback (hblocks kind _ _ (halike hfront h))

/-- **A step that has begun alike is alike**, and so are the reports. -/
theorem runStep {block block' : List (Instance G)}
    (h : S.Parallel block block' [] [] (e.beginStep b) (e'.beginStep b))
    (hblocks : S.BlocksAlike b info block block') :
    (e'.runStep b info).1 = (e.runStep b info).1 ∧
      S.Parallel block block' [] [] (e.runStep b info).2 (e'.runStep b info).2 := by
  have hturns := fun {p p'} (hp : S.ProgressAlike p p') =>
    hcalls.turns h.schedulers.instances hblocks hp
  have hstart : S.ProgressAlike ⟨[], ⟨info.iterations, [], 0, 0⟩, (e.beginStep b).env⟩
      ⟨[], ⟨info.iterations, [], 0, 0⟩, (e'.beginStep b).env⟩ :=
    ⟨rfl, rfl, h.agree, fun _ hhandle => absurd hhandle List.not_mem_nil⟩
  have hend := hturns (hturns (hturns (hturns hstart .deliver) (.call .preUpdate))
    (.call .update)) (.call .postUpdate)
  exact ⟨hend.report, h.schedulers, hend.agree⟩

end CallsAlike

end MemoryRelation

end SimEngine
