import SimEngine.Engine.Environment
import SimEngine.Proofs.Maps

/-!
# Histories of parameters

Whoever holds the parameters of a simulation may declare some and set others.
All these calls reach the same parameters, one after the other.  A name that is
declared stays so, and takes values of one kind: the kind of its default is
written down nowhere, but each value is of the kind of the one that it replaces.

**Definitions.**
* `ParameterCall`, `Parameters.respond`: a call, its answer, and the parameters
  after it.
* `Parameters.after`: the parameters after a row of calls.
* `Parameters.accepted`: the values that calls have set a name to.
* `Parameters.Answers`: what the answer to a call tells, and what the call
  changes.
* `Parameters.Holds`: what a declared name holds, and what it can be set to.

**Results.**
* `respond_cases`: a call is refused and changes nothing, or stores its value.
* `holds_after`: the value and the kind of a declared name.
* `parameters_after`: the parameters after any row of calls.
-/

namespace SimEngine

/-- A call that may change the parameters. -/
inductive ParameterCall where
  | declare (name : String) (default : Convertible)
  | set (name : String) (value : Convertible)

namespace ParameterCall

/-- The name that a call is about. -/
def name : ParameterCall → String
  | .declare name _ => name
  | .set name _ => name

/-- The value that a call would store. -/
def value : ParameterCall → Convertible
  | .declare _ default => default
  | .set _ value => value

end ParameterCall

/-- A double as a value to be stored: one that is infinite or no number is written as null. -/
def Convertible.ofFloat (x : Float) : Convertible :=
  .ok (if x.isNaN || x.isInf then .null else .num (.float x))

namespace Parameters

/-- What a call comes to, if it is not refused. -/
def attempt (p : Parameters) : ParameterCall → Except ParameterError Parameters
  | .declare name default => p.declare name default
  | .set name value => p.set name value

/-- The answer to a call, and the parameters after it. -/
def respond (p : Parameters) (call : ParameterCall) : Except ParameterError Unit × Parameters :=
  match p.attempt call with
  | .ok p => (.ok (), p)
  | .error e => (.error e, p)

/-- Whether a call is accepted. -/
def Accepts (p : Parameters) (call : ParameterCall) : Prop :=
  (p.respond call).1 = .ok ()

/-- The parameters after a row of calls. -/
def after (p : Parameters) (calls : List ParameterCall) : Parameters :=
  calls.foldl (fun p call => (p.respond call).2) p

/-- The value that a call sets a name to, if it does. -/
def accepted? (p : Parameters) (name : String) (call : ParameterCall) : Option Json :=
  match call, (p.respond call).1 with
  | .set other (.ok tree), .ok () => if other = name then some tree else none
  | _, _ => none

/-- The values that a row of calls sets a name to, the oldest first. -/
def accepted (name : String) : Parameters → List ParameterCall → List Json
  | _, [] => []
  | p, call :: rest => (p.accepted? name call).toList ++ accepted name (p.respond call).2 rest

/--
What the answer to a call tells, and what the call changes.  It is accepted if and only if its
value can be written as a tree and either declares a new name or is of the kind that a declared name
holds.  A call that is refused, for whatever reason, changes nothing, and no call changes another
name.
-/
structure Answers (p : Parameters) (call : ParameterCall) : Prop where
  unconvertible : ∀ reason, call.value = .error reason →
    (p.respond call).1 = .error (.value call.name reason)
  declare : ∀ name tree, call = .declare name (.ok tree) →
    (p.respond call).1 = if name ∈ p.names then .error (.alreadyDeclared name) else .ok ()
  set : ∀ name tree, call = .set name (.ok tree) →
    (p.respond call).1 =
      match p.get? name with
      | none => .error (.notDeclared name)
      | some current =>
        if current.kind = tree.kind then .ok ()
        else .error (.kindMismatch name current.kind tree.kind)
  refused : ∀ e, (p.respond call).1 = .error e → (p.respond call).2 = p
  stored : p.Accepts call → ∃ tree, call.value = .ok tree ∧
    (p.respond call).2.get? call.name = some tree
  others : ∀ name, name ≠ call.name → (p.respond call).2.get? name = p.get? name

section Calls

variable (p : Parameters)

theorem mem_names_iff (name : String) : name ∈ p.names ↔ ∃ tree, p.get? name = some tree :=
  p.values.mem_keys_iff name

theorem contains_eq (name : String) : p.contains name = (p.get? name).isSome :=
  rfl

theorem get?_eq_none_iff (name : String) : p.get? name = none ↔ name ∉ p.names := by
  rw [mem_names_iff, ← Option.ne_none_iff_exists', ne_eq, Decidable.not_not]

/-- **A call is refused and changes nothing, or stores its value** under its name. -/
theorem respond_cases (call : ParameterCall) :
    (∃ e, p.respond call = (.error e, p)) ∨
    ∃ tree, call.value = .ok tree ∧
      p.respond call = (.ok (), ⟨p.values.insert call.name tree⟩) ∧
      ((call = .declare call.name (.ok tree) ∧ p.get? call.name = none) ∨
        (call = .set call.name (.ok tree) ∧
          ∃ current, p.get? call.name = some current ∧ current.kind = tree.kind)) := by
  cases call with
  | declare name default =>
      rcases default with reason | tree
      · exact Or.inl ⟨_, rfl⟩
      · cases hget : p.get? name with
        | none =>
            have hnew : p.contains name = false := by simp [contains_eq, hget]
            refine Or.inr ⟨tree, rfl, ?_, Or.inl ⟨rfl, hget⟩⟩
            simp [respond, attempt, Parameters.declare, hnew, ParameterCall.name]
        | some current =>
            have hold : p.contains name = true := by simp [contains_eq, hget]
            left
            simp [respond, attempt, Parameters.declare, hold]
  | set name value =>
      rcases value with reason | tree
      · exact Or.inl ⟨_, rfl⟩
      · cases hget : p.get? name with
        | none =>
            left
            simp [respond, attempt, Parameters.set, hget]
        | some current =>
            by_cases hkind : current.kind = tree.kind
            · refine Or.inr ⟨tree, rfl, ?_, Or.inr ⟨rfl, current, hget, hkind⟩⟩
              simp [respond, attempt, Parameters.set, hget, hkind, ParameterCall.name]
            · left
              simp [respond, attempt, Parameters.set, hget, hkind]

theorem get?_respond_of_ne {call : ParameterCall} {name : String} (h : name ≠ call.name) :
    (p.respond call).2.get? name = p.get? name := by
  rcases p.respond_cases call with ⟨e, he⟩ | ⟨tree, _, hstored, _⟩
  · rw [he]
  · rw [hstored]
    exact p.values.find?_insert_of_ne h tree

/-- **What the answer to a call tells.** -/
theorem answers (call : ParameterCall) : p.Answers call where
  unconvertible := by
    intro reason hvalue
    cases call <;> cases hvalue <;> rfl
  declare := by
    rintro name tree rfl
    by_cases hmem : name ∈ p.names
    · have hold : p.contains name = true := by
        simpa [contains_eq, Option.isSome_iff_exists] using (p.mem_names_iff name).1 hmem
      simp [respond, attempt, Parameters.declare, hold, hmem]
    · have hnew : p.contains name = false := by
        simp [contains_eq, (p.get?_eq_none_iff name).2 hmem]
      simp [respond, attempt, Parameters.declare, hnew, hmem]
  set := by
    rintro name tree rfl
    cases hget : p.get? name with
    | none =>
        simp [respond, attempt, Parameters.set, hget]
    | some current =>
        by_cases hkind : current.kind = tree.kind <;>
          simp [respond, attempt, Parameters.set, hget, hkind]
  refused := by
    intro e he
    rcases p.respond_cases call with ⟨e', he'⟩ | ⟨tree, _, hstored, _⟩
    · rw [he']
    · rw [hstored] at he
      cases he
  stored := by
    intro haccepted
    rcases p.respond_cases call with ⟨e, he⟩ | ⟨tree, hvalue, hstored, _⟩
    · rw [Accepts, he] at haccepted
      cases haccepted
    · refine ⟨tree, hvalue, ?_⟩
      rw [hstored]
      exact p.values.find?_insert_self call.name tree
  others := fun _ h => p.get?_respond_of_ne h

end Calls

@[simp] theorem after_nil (p : Parameters) : p.after [] = p :=
  rfl

@[simp] theorem after_cons
    (p : Parameters) (call : ParameterCall) (rest : List ParameterCall) :
    p.after (call :: rest) = (p.respond call).2.after rest :=
  rfl

theorem after_append (p : Parameters) (past rest : List ParameterCall) :
    p.after (past ++ rest) = (p.after past).after rest :=
  List.foldl_append

theorem accepted?_of_refused
    {p : Parameters} {call : ParameterCall} {e : ParameterError}
    (h : p.respond call = (.error e, p)) (name : String) :
    p.accepted? name call = none := by
  cases call with
  | declare other default =>
      rfl
  | set other value =>
      cases value <;> simp [accepted?, h]

theorem accepted?_set
    {p : Parameters} {other : String} {tree : Json}
    (h : p.Accepts (.set other (.ok tree))) (name : String) :
    p.accepted? name (.set other (.ok tree)) = if other = name then some tree else none := by
  rw [Accepts] at h
  simp [accepted?, h]

/-- A declared name holds what the call sets it to, or else what it held, and keeps its kind. -/
theorem get?_respond
    {p : Parameters} {name : String} {tree : Json} (h : p.get? name = some tree)
    (call : ParameterCall) :
    (p.respond call).2.get? name = some ((p.accepted? name call).getD tree) ∧
    ((p.accepted? name call).getD tree).kind = tree.kind := by
  rcases p.respond_cases call with ⟨e, he⟩ | ⟨new, _, hstored, hnew | ⟨hset, current, hget, hkind⟩⟩
  · simp [he, accepted?_of_refused he, h]
  · obtain ⟨hdeclare, hfree⟩ := hnew
    have hne : name ≠ call.name := by
      rintro rfl
      simp [hfree] at h
    have hnone : p.accepted? name call = none := by
      rw [hdeclare]
      rfl
    simp [p.get?_respond_of_ne hne, hnone, h]
  · have haccepted : p.accepted? name call = if call.name = name then some new else none := by
      have htaken : p.Accepts (.set call.name (.ok new)) := by
        rw [Accepts, ← hset, hstored]
      rw [← accepted?_set htaken, ← hset]
    by_cases hname : call.name = name
    · subst hname
      obtain rfl : current = tree := by
        simpa [hget] using h
      rw [haccepted, hstored, if_pos rfl]
      exact ⟨p.values.find?_insert_self call.name new, hkind.symm⟩
    · simp [p.get?_respond_of_ne (Ne.symm hname), haccepted, hname, h]

/--
**The value and the kind of a declared name**, by induction on the calls: each replaces the value by
one of its kind or leaves it.
-/
theorem holds_after
    {p : Parameters} {name : String} {tree : Json} (h : p.get? name = some tree)
    (calls : List ParameterCall) :
    (p.after calls).get? name = some ((accepted name p calls).getLast?.getD tree) ∧
    ((accepted name p calls).getLast?.getD tree).kind = tree.kind := by
  induction calls generalizing p tree with
  | nil =>
      exact ⟨h, rfl⟩
  | cons call rest ih =>
      obtain ⟨hget, hkind⟩ := get?_respond h call
      obtain ⟨hvalue, hkept⟩ := ih hget
      have hlast : (accepted name p (call :: rest)).getLast?.getD tree =
          (accepted name (p.respond call).2 rest).getLast?.getD
            ((p.accepted? name call).getD tree) := by
        cases hcall : p.accepted? name call <;>
          cases hrest : (accepted name (p.respond call).2 rest).getLast? <;>
          simp [accepted, hcall, hrest, List.getLast?_cons]
      rw [hlast]
      exact ⟨hvalue, hkept.trans hkind⟩

/--
What a name holds after some calls that come after its declaration with a tree.  It is never free
again, its value is the last that a call set it to, or else the tree of its declaration, and it is
of the kind of that tree, as all that it can be set to.
-/
structure Holds (p : Parameters) (name : String) (tree : Json) (rest : List ParameterCall) :
    Prop where
  value : (p.after rest).get? name = some ((accepted name p rest).getLast?.getD tree)
  kind : ((accepted name p rest).getLast?.getD tree).kind = tree.kind
  taken : ∀ default, ¬ (p.after rest).Accepts (.declare name default)
  sets : ∀ value, (p.after rest).Accepts (.set name value) ↔
    ∃ new, value = .ok new ∧ new.kind = tree.kind

theorem accepts_declare_iff (p : Parameters) (name : String) (default : Convertible) :
    p.Accepts (.declare name default) ↔ name ∉ p.names ∧ ∃ tree, default = .ok tree := by
  cases default with
  | error reason =>
      simp [Accepts, (p.answers (.declare name (.error reason))).unconvertible reason rfl]
  | ok tree =>
      rw [Accepts, (p.answers (.declare name (.ok tree))).declare name tree rfl]
      split <;> simp [*]

theorem accepts_set_iff
    {p : Parameters} {name : String} {tree : Json} (h : p.get? name = some tree)
    (value : Convertible) :
    p.Accepts (.set name value) ↔ ∃ new, value = .ok new ∧ new.kind = tree.kind := by
  cases value with
  | error reason =>
      simp [Accepts, (p.answers (.set name (.error reason))).unconvertible reason rfl]
  | ok new =>
      rw [Accepts, (p.answers (.set name (.ok new))).set name new rfl, h]
      by_cases hkind : tree.kind = new.kind
      · simp [hkind]
      · simp [hkind, Ne.symm hkind]

theorem holds
    {p : Parameters} {name : String} {tree : Json} (h : p.get? name = some tree)
    (rest : List ParameterCall) : p.Holds name tree rest := by
  obtain ⟨hvalue, hkind⟩ := holds_after h rest
  refine ⟨hvalue, hkind, fun default haccepted => ?_, fun value => ?_⟩
  · exact ((accepts_declare_iff _ name default).1 haccepted).1
      ((mem_names_iff _ name).2 ⟨_, hvalue⟩)
  · rw [accepts_set_iff hvalue, hkind]

theorem mem_names_respond_iff (p : Parameters) (name : String) (call : ParameterCall) :
    name ∈ (p.respond call).2.names ↔
      name ∈ p.names ∨ ∃ default, call = .declare name default ∧ p.Accepts call := by
  constructor
  · intro hmem
    rcases p.respond_cases call with ⟨e, he⟩ | ⟨tree, _, hstored, hnew⟩
    · rw [he] at hmem
      exact Or.inl hmem
    · by_cases hname : name = call.name
      · subst hname
        rcases hnew with ⟨hdeclare, _⟩ | ⟨_, current, hget, _⟩
        · exact Or.inr ⟨.ok tree, hdeclare, by rw [Accepts, hstored]⟩
        · exact Or.inl ((p.mem_names_iff _).2 ⟨current, hget⟩)
      · rw [mem_names_iff, p.get?_respond_of_ne hname] at hmem
        exact Or.inl ((p.mem_names_iff name).2 hmem)
  · rintro (hmem | ⟨default, rfl, haccepted⟩)
    · obtain ⟨tree, hget⟩ := (p.mem_names_iff name).1 hmem
      exact (mem_names_iff _ name).2 ⟨_, (get?_respond hget call).1⟩
    · obtain ⟨tree, _, hget⟩ := (p.answers (.declare name default)).stored haccepted
      exact (mem_names_iff _ name).2 ⟨tree, hget⟩

/-- The names that are declared after a row of calls. -/
theorem mem_names_after_iff (p : Parameters) (name : String) (calls : List ParameterCall) :
    name ∈ (p.after calls).names ↔ name ∈ p.names ∨
      ∃ past default rest, calls = past ++ .declare name default :: rest ∧
        (p.after past).Accepts (.declare name default) := by
  induction calls generalizing p with
  | nil =>
      simp
  | cons call rest ih =>
      rw [after_cons, ih, mem_names_respond_iff, or_assoc]
      refine or_congr_right ?_
      constructor
      · rintro (⟨default, rfl, haccepted⟩ | ⟨past, default, later, rfl, haccepted⟩)
        · exact ⟨[], default, rest, rfl, haccepted⟩
        · exact ⟨call :: past, default, later, rfl, haccepted⟩
      · rintro ⟨past, default, later, hsplit, haccepted⟩
        rcases List.cons_eq_append_iff.1 hsplit with ⟨rfl, hcons⟩ | ⟨past', rfl, hrest⟩
        · obtain ⟨rfl, rfl⟩ := List.cons.inj hcons
          exact Or.inl ⟨default, rfl, haccepted⟩
        · exact Or.inr ⟨past', default, later, hrest, haccepted⟩

/-- The declared names, in ascending order, each once. -/
theorem pairwise_names (p : Parameters) : p.names.Pairwise (· < ·) :=
  p.values.ascending_keys

theorem length_names (p : Parameters) : p.names.length = p.size :=
  List.length_map Prod.fst

end Parameters

section Requests

variable {G : Guest} (emit : Signal → Environment G → Nat × Environment G) (access : Access)
  (env : Environment G)

/-- The request by which guest code makes a call. -/
def ParameterCall.perform (call : ParameterCall) : Except ParameterError Unit × Environment G :=
  match call with
  | .declare name default => (Request.declare name default).perform emit access env
  | .set name value => (Request.setParameter name value).perform emit access env

/-- Guest code calls the parameters of its environment, and touches nothing else. -/
theorem ParameterCall.perform_eq (call : ParameterCall) :
    call.perform emit access env =
      ((env.parameters.respond call).1,
        { env with parameters := (env.parameters.respond call).2 }) := by
  cases call with
  | declare name default =>
      simp only [perform, Request.perform, Parameters.respond, Parameters.attempt]
      cases env.parameters.declare name default <;> rfl
  | set name value =>
      simp only [perform, Request.perform, Parameters.respond, Parameters.attempt]
      cases env.parameters.set name value <;> rfl

end Requests

theorem Convertible.ofFloat_of_nonfinite {x : Float} (h : (x.isNaN || x.isInf) = true) :
    Convertible.ofFloat x = .ok .null := by
  rw [ofFloat, if_pos h]

theorem Json.eq_null_of_kind {tree : Json} (h : tree.kind = .null) : tree = .null := by
  cases tree <;> simp [kind] at h ⊢

namespace Parameters

variable {p : Parameters} {name : String} {rest : List ParameterCall}

/-- What is declared as null stays so. -/
theorem Holds.of_null (h : p.Holds name .null rest) :
    (p.after rest).get? name = some .null ∧
    ∀ n, ¬ (p.after rest).Accepts (.set name (.ok (.num n))) := by
  refine ⟨by rw [h.value, Json.eq_null_of_kind h.kind], fun n haccept => ?_⟩
  obtain ⟨new, hnew, hkind⟩ := (h.sets _).1 haccept
  cases hnew
  cases hkind

/-- What is declared as a number never becomes null. -/
theorem Holds.of_number {n : Number} (h : p.Holds name (.num n) rest) :
    (p.after rest).get? name ≠ some .null ∧
    ∀ x : Float, (x.isNaN || x.isInf) = true →
      ¬ (p.after rest).Accepts (.set name (.ofFloat x)) := by
  refine ⟨fun hnull => ?_, fun x hx haccept => ?_⟩
  · have hkind := h.kind
    rw [Option.some.inj (h.value.symm.trans hnull)] at hkind
    cases hkind
  · rw [Convertible.ofFloat_of_nonfinite hx] at haccept
    obtain ⟨new, hnew, hkind⟩ := (h.sets _).1 haccept
    cases hnew
    cases hkind

end Parameters

open Parameters in
/--
**The parameters after any row of calls.**  Each call is answered, and changes or leaves the
parameters, as `Answers` says.  A declaration that is accepted is never undone: its name holds the
last value that a call set it to, or else the default, and only values of the kind of the default.
So a default that is an infinite double, or none at all, is null for ever, and one that is a number
is never replaced by null.  The names are those that were declared, in ascending order, each once.
All that guest code does to the parameters is to make such a call, and a call that is refused leaves
its whole environment as it was.
-/
theorem parameters_after (calls : List ParameterCall) :
    (∀ past call rest, calls = past ++ call :: rest → (empty.after past).Answers call) ∧
    (∀ past name default rest, calls = past ++ .declare name default :: rest →
      (empty.after past).Accepts (.declare name default) →
      ∃ tree, default = .ok tree ∧
        (empty.after (past ++ [.declare name default])).Holds name tree rest ∧
        (∀ x : Float, (x.isNaN || x.isInf) = true → default = .ofFloat x →
          (empty.after calls).get? name = some .null ∧
          ∀ n, ¬ (empty.after calls).Accepts (.set name (.ok (.num n)))) ∧
        ∀ n, tree = .num n →
          (empty.after calls).get? name ≠ some .null ∧
          ∀ x : Float, (x.isNaN || x.isInf) = true →
            ¬ (empty.after calls).Accepts (.set name (.ofFloat x))) ∧
    (∀ name, name ∈ (empty.after calls).names ↔
      ∃ past default rest, calls = past ++ .declare name default :: rest ∧
        (empty.after past).Accepts (.declare name default)) ∧
    (∀ name ∈ (empty.after calls).names, ∀ later, name ∈ (empty.after (calls ++ later)).names) ∧
    (empty.after calls).names.Pairwise (· < ·) ∧
    (empty.after calls).names.length = (empty.after calls).size ∧
    ∀ {G : Guest} (emit : Signal → Environment G → Nat × Environment G) (access : Access)
      (env : Environment G) (call : ParameterCall), env.parameters = empty.after calls →
      call.perform emit access env =
        (((empty.after calls).respond call).1,
          { env with parameters := empty.after (calls ++ [call]) }) ∧
      ∀ e, (call.perform emit access env).1 = .error e →
        (call.perform emit access env).2 = env := by
  refine ⟨fun past call rest _ => answers _ call, ?_, ?_, ?_, pairwise_names _, length_names _, ?_⟩
  · intro past name default rest hsplit haccepted
    obtain ⟨tree, rfl, hget⟩ := (answers _ (.declare name default)).stored haccepted
    have hafter : empty.after (past ++ [.declare name (.ok tree)]) =
        ((empty.after past).respond (.declare name (.ok tree))).2 :=
      after_append empty past _
    have hcalls : empty.after calls =
        (empty.after (past ++ [.declare name (.ok tree)])).after rest := by
      rw [hsplit, ← after_append, List.append_assoc]
      rfl
    have hholds : (empty.after (past ++ [.declare name (.ok tree)])).Holds name tree rest :=
      holds (hafter ▸ hget) rest
    rw [hcalls]
    refine ⟨tree, rfl, hholds, fun x hx hdefault => ?_, ?_⟩
    · obtain rfl : tree = .null := Except.ok.inj
        (hdefault.trans (Convertible.ofFloat_of_nonfinite hx))
      exact hholds.of_null
    · rintro n rfl
      exact hholds.of_number
  · intro name
    rw [mem_names_after_iff]
    exact or_iff_right (List.not_mem_nil)
  · intro name hmem later
    rw [after_append]
    exact (mem_names_after_iff _ name later).2 (Or.inl hmem)
  · intro G emit access env call henv
    have hperform := call.perform_eq emit access env
    rw [henv] at hperform
    refine ⟨by rw [hperform, after_append]; rfl, fun e he => ?_⟩
    rw [hperform] at he ⊢
    rw [(answers _ call).refused e he, ← henv]

/-- Two parameters are declared, one as no number, and set to what fits and what does not. -/
def mixedCalls : List ParameterCall :=
  [.declare "gain" (.ofFloat (0 / 0)), .declare "rate" (.ok (.ofNat 2)),
    .set "rate" (.ok (.ofNat 3)), .set "gain" (.ok (.ofNat 1)),
    .set "rate" (.error "key must be a string"), .set "rate" (.ofFloat (1 / 0)),
    .set "rate" (.ok (.ofNat 4)), .declare "gain" (.ok (.ofNat 1))]

open Parameters in
theorem parameters_after_mixed :
    (empty.after [ParameterCall.declare "gain" (.ofFloat (0 / 0))]).Accepts
      (.declare "rate" (.ok (.ofNat 2))) ∧
    (((0 : Float) / 0).isNaN || ((0 : Float) / 0).isInf) = true ∧
    (empty.after mixedCalls).get? "gain" = some .null ∧
    (empty.after mixedCalls).get? "rate" = some (.ofNat 4) ∧
    (empty.after mixedCalls).names = ["gain", "rate"] ∧
    (empty.after mixedCalls).size = 2 := by
  obtain ⟨-, hdeclared, -, -, -, hlength, -⟩ := parameters_after mixedCalls
  have hnan : (((0 : Float) / 0).isNaN || ((0 : Float) / 0).isInf) = true := by decide +kernel
  have hrate : (empty.after [ParameterCall.declare "gain" (.ofFloat (0 / 0))]).Accepts
      (.declare "rate" (.ok (.ofNat 2))) := by
    rfl
  obtain ⟨_, -, -, hgain, -⟩ := hdeclared [] "gain" _ _ rfl rfl
  obtain ⟨_, htree, hholds, -, -⟩ := hdeclared [_] "rate" _ _ rfl hrate
  cases htree
  refine ⟨hrate, hnan, (hgain _ hnan rfl).1, ?_, ?_, ?_⟩
  · exact hholds.value
  · rfl
  · exact hlength.symm

end SimEngine
