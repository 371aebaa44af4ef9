import SimEngine.Proofs.Conducts
import SimEngine.Proofs.Counts

/-!
# The cast queues no system as loaded

Scripted code has systems queued, but it makes them itself: none of them comes
from the loader.  The systems that come with the engine have none queued at all.
So the counts of a loader are right whatever the cast does.

**Results.**
* `honest_of_modest`: who asks modestly is honest.
* `honest_perform`: scripted code queues no system as loaded.
* `honest_behavior`: neither does any member of the cast.
-/

namespace SimEngine

/-- Who asks modestly queues nothing at all. -/
theorem honest_of_modest {α : Type} {p : Deed α}
    (h : p.Confined Request.Modest fun _ => True) : p.Honest := by
  refine h.mono (fun r hr => ?_) fun _ _ => trivial
  cases r with
  | queueAttach attachment entity config => exact hr.elim
  | _ => exact trivial

/-- A system that scripted code recruits does not come from the loader. -/
theorem not_counted_enlist
    {m m' : Memory} {casting : Casting Script} {a : Attachment cast}
    (h : m.enlist casting = .ok (a, m')) (plugin : String) : a.isCountedFor plugin = false := by
  have hrecruit : ∀ {role : Role} {isShared : Bool},
      m.recruit role isShared = (a, m') → a.isCountedFor plugin = false := by
    intro role isShared hrecruited
    have hownership : a.ownership =
        if isShared then .shared else .plugin role.name (some .announced) :=
      congrArg (fun result => result.1.ownership) hrecruited.symm
    cases isShared <;> simp [Attachment.isCountedFor, hownership]
  unfold Memory.enlist at h
  split at h
  · exact hrecruit (Except.ok.inj h)
  · split at h
    · exact hrecruit (Except.ok.inj h)
    · cases h
  · split at h
    · obtain ⟨rfl, _⟩ := Prod.mk.inj (Except.ok.inj h)
      simp [Attachment.isCountedFor]
    · cases h

section Scripts

theorem honest_say (s : Scope) (text : String) : (s.say text).Honest :=
  confined_request trivial fun _ => trivial

theorem honest_withLink (s : Scope) {deed : Link → Deed Unit} (hdeed : ∀ link, (deed link).Honest) :
    (s.withLink deed).Honest := by
  unfold Scope.withLink
  split
  · exact hdeed _
  · exact trivial

theorem honest_requireNumber (s : Scope) (key : String) : (s.requireNumber key).Honest := by
  refine honest_withLink s fun link => ?_
  split
  · exact honest_say s _
  · exact trivial

theorem honest_register (s : Scope) (label : String) (signature : Signature) (run : List Beat) :
    (s.register label signature run).Honest := by
  refine honest_withLink s fun link => ?_
  refine confined_ask trivial fun m => ?_
  refine confined_ask trivial fun _ => ?_
  refine confined_ask trivial fun id => ?_
  exact confined_ask trivial fun _ => honest_say s _

theorem honest_cancel (s : Scope) (label : String) : (s.cancel label).Honest := by
  refine confined_ask trivial fun m => ?_
  simp only
  split
  · exact confined_ask trivial fun found => honest_say s _
  · exact honest_say s _

theorem honest_keep (label : String) (connection : Connection) :
    (Scope.keep label connection).Honest := by
  refine confined_ask trivial fun m => ?_
  refine confined_ask trivial fun _ => ?_
  split
  · exact confined_request trivial fun _ => trivial
  · exact trivial

theorem honest_subscribe (channel : ChannelKey) (label : String) (run : List Beat) (reach : Reach) :
    (Scope.subscribe channel label run reach).Honest := by
  refine confined_ask trivial fun m => ?_
  exact confined_ask trivial fun _ => confined_request trivial fun _ => trivial

theorem honest_unsubscribe (label : String) : (Scope.unsubscribe label).Honest := by
  refine confined_ask trivial fun m => ?_
  split
  · refine confined_ask trivial fun _ => ?_
    exact confined_ask trivial fun _ => trivial
  · exact trivial

theorem honest_connect
    (s : Scope) (event : Event) (label : String) (isOwned : Bool) (run : List Beat) :
    (s.connect event label isOwned run).Honest := by
  refine (honest_subscribe _ _ _ _).bind fun connection _ => ?_
  split
  · exact confined_request trivial fun _ => trivial
  · exact honest_keep label connection

theorem honest_attach (s : Scope) (casting : Casting Script) : (s.attach casting).Honest := by
  refine confined_ask trivial fun m => ?_
  split
  · exact honest_say s _
  · rename_i attachment memory henlist
    refine confined_ask trivial fun _ => ?_
    refine confined_ask (not_counted_enlist henlist) fun handle => ?_
    exact confined_ask trivial fun _ => honest_say s _

theorem honest_detach (s : Scope) (target : Target) : (s.detach target).Honest := by
  unfold Scope.detach
  split
  · exact confined_request trivial fun _ => trivial
  · refine confined_ask trivial fun m => ?_
    split
    · exact confined_request trivial fun _ => trivial
    · exact trivial
  · exact trivial

theorem honest_add (s : Scope) (amount : Int) (entity : Entity) : (s.add amount entity).Honest := by
  refine confined_ask trivial fun count => ?_
  split
  · exact honest_say s _
  · simp only
    split
    · exact confined_ask trivial fun _ => trivial
    · exact trivial

theorem honest_read (s : Scope) (entity : Entity) : (s.read entity).Honest := by
  refine confined_ask trivial fun count => ?_
  exact confined_ask trivial fun isAlive => honest_say s _

/-- Scripted code that may not do something does nothing. -/
theorem honest_permitted {may : Prop} [Decidable may] {deed : Deed Unit} (hdeed : deed.Honest) :
    (if may then deed else return ()).Honest := by
  split
  · exact hdeed
  · exact trivial

/-- **Scripted code queues no system as loaded.** -/
theorem honest_perform (s : Scope) (action : Action) : (action.perform s).Honest := by
  cases action with
  | log text => exact honest_say s text
  | fail f => exact trivial
  | panic p => exact trivial
  | info => exact honest_say s _
  | link => exact honest_say s _
  | config key => exact honest_withLink s fun link => honest_say s _
  | require key => exact honest_requireNumber s key
  | expose capabilities =>
      simp only [Action.perform]
      split
      · exact confined_request trivial fun _ => trivial
      · exact trivial
  | register label signature run => exact honest_register s label signature run
  | cancel label => exact honest_cancel s label
  | clearQueries => exact honest_withLink s fun link => confined_request trivial fun _ => trivial
  | queries =>
      exact honest_withLink s fun link => confined_ask trivial fun _ => honest_say s _
  | connect event label isOwned run => exact honest_connect s event label isOwned run
  | disconnect label => exact (honest_unsubscribe label).bind fun _ _ => honest_say s _
  | emit signal => exact confined_ask trivial fun _ => honest_say s _
  | connections event => exact confined_ask trivial fun _ => honest_say s _
  | attach casting => exact honest_permitted (honest_attach s casting)
  | detach target => exact honest_permitted (honest_detach s target)
  | commands => exact honest_permitted (confined_ask trivial fun _ => honest_say s _)
  | add amount entity => exact honest_permitted (honest_add s amount _)
  | read entity => exact honest_permitted (honest_read s _)
  | find signature => exact honest_permitted (confined_ask trivial fun _ => honest_say s _)
  | declare name value =>
      exact honest_permitted ⟨trivial, fun _ => confined_ofExcept fun _ _ => trivial⟩
  | setParameter name value =>
      exact honest_permitted ⟨trivial, fun _ => confined_ofExcept fun _ _ => trivial⟩
  | parameter name => exact honest_permitted (confined_ask trivial fun _ => honest_say s _)

theorem honest_call
    (s : ScriptedSystem) (system : SystemId) (hook : Capability) (access : Access)
    (info : Option StepInfo) : (s.call system hook access info).Honest :=
  confined_ask trivial fun _ => confined_forEach (honest_perform _) _

end Scripts

namespace Cast

theorem honest_tending (system : SystemId) {conduct : Role → Deed (Option Role)}
    (hconduct : ∀ role, (conduct role).Honest) : (tending system conduct).Honest := by
  refine confined_ask trivial fun m => ?_
  split
  · exact trivial
  · refine (hconduct _).bind fun role _ => ?_
    split
    · exact trivial
    · exact confined_request trivial fun _ => trivial

theorem honest_simClock_configure (c : SimClock) (system : SystemId) (config : Payload) :
    (c.configure system config).Honest := by
  refine (confined_ofExcept fun _ _ => trivial).bind fun logEvery _ => ?_
  refine confined_ask trivial fun subscription => ?_
  split
  · exact trivial
  · exact confined_ask trivial fun _ => trivial

theorem honest_dismiss (system : SystemId) :
    (Program.revise (G := cast) fun m => m.dismiss system).Honest :=
  confined_request trivial fun _ => trivial

theorem honest_drop (system : SystemId) : (drop system).Honest := by
  refine confined_ask trivial fun m => ?_
  simp only
  split
  · rename_i s _
    have hdisconnect : ∀ c : Connection, (Program.disconnect (G := cast) c).Honest :=
      fun c => confined_request trivial fun _ => trivial
    have hdrop : s.drop.Honest := confined_ask trivial fun _ => confined_forEach hdisconnect _
    exact hdrop.bind fun _ _ => honest_dismiss system
  · split
    · exact confined_ask trivial fun _ => honest_dismiss system
    · exact honest_dismiss system
  · exact honest_dismiss system

/-- **No member of the cast queues a system as loaded.** -/
theorem honest_behavior : behavior.Honest where
  configure system context := honest_tending system fun role => by
    cases role with
    | accelerate s =>
        exact (honest_of_modest (modest_accelerate_configure s context)).bind fun _ _ => trivial
    | simClock c => exact (honest_simClock_configure c system _).bind fun _ _ => trivial
    | scripted s =>
        exact Program.Confined.bind (confined_ask trivial fun _ => honest_call _ _ _ _ _)
          fun _ _ => trivial
    | _ => exact trivial
  configureParameters system := honest_tending system fun role => by
    cases role with
    | accelerate s =>
        exact (honest_of_modest (modest_accelerate_configureParameters s)).bind fun _ _ => trivial
    | scripted s =>
        exact Program.Confined.bind (confined_ask trivial fun _ => honest_call _ _ _ _ _)
          fun _ _ => trivial
    | _ => exact trivial
  phase phase system info := honest_tending system fun role => by
    cases role with
    | accelerate s =>
        cases phase with
        | update =>
            exact (honest_of_modest (modest_accelerate_update s info)).bind fun _ _ => trivial
        | _ => exact trivial
    | velocityLog l =>
        cases phase with
        | postUpdate =>
            exact (honest_of_modest (modest_velocityLog_postUpdate l info)).bind fun _ _ => trivial
        | _ => exact trivial
    | simClock c => cases phase <;> exact trivial
    | pauseAfter p =>
        cases phase with
        | preUpdate =>
            exact (honest_of_modest (modest_pauseAfter_preUpdate p info)).bind fun _ _ => trivial
        | _ => exact trivial
    | scripted s => cases phase <;> exact (honest_call _ _ _ _ _).bind fun _ _ => trivial
  onQuery callback info entity := by
    cases callback with
    | clock system => exact trivial
    | scripted label number run reach =>
        refine confined_ask trivial fun m => ?_
        exact confined_ask trivial fun _ => confined_forEach (honest_perform _) _
  onSignal callback signal := by
    cases callback with
    | clock system =>
        refine honest_tending system fun role => ?_
        cases role with
        | simClock c =>
            exact (honest_of_modest (modest_simClock_display c)).bind fun _ _ => trivial
        | _ => exact trivial
    | scripted label number run reach =>
        refine confined_ask trivial fun m => ?_
        exact confined_ask trivial fun _ => confined_forEach (honest_perform _) _
  construct factory spec := by
    cases factory with
    | builtin builtin =>
        refine (confined_ofExcept fun _ _ => trivial).bind fun role (_ : True) => ?_
        exact confined_ask trivial fun m => confined_ask trivial fun _ => trivial
    | scripted make =>
        show (construct (.scripted make) spec).Honest
        simp only [construct]
        split
        · exact confined_ask trivial fun m => confined_ask trivial fun _ => trivial
        · exact trivial
        · exact trivial
  discard := honest_drop
  giveBack system := by
    refine confined_ask trivial fun _ => confined_ask trivial fun m => ?_
    split
    · exact honest_drop system
    · exact trivial
  unloaded plugin := confined_request trivial fun _ => trivial

end Cast
end SimEngine
