import SimEngine.Cast.Memory
/-!
# Enlisting systems

A system that is to be attached is remembered first. One that is attached as a
plugin is named after itself, and its end is announced; one that is shared may
be attached several times.
-/

namespace SimEngine

namespace Memory

/-- Remembers a new system and makes it ready to be attached. -/
def recruit (m : Memory) (role : Role) (isShared : Bool) : Attachment cast × Memory :=
  let (system, m) := m.enroll role
  let ownership := if isShared then Ownership.shared else .plugin role.name (some .announced)
  (⟨system, ownership⟩, m)

/-- Makes a system ready to be attached, unless its payload does not serve. -/
def enlist (m : Memory) (casting : Casting Script) : Except Failure (Attachment cast × Memory) :=
  match casting.origin with
  | .script script =>
    .ok (m.recruit (.scripted (.ofScript script casting.entity)) casting.isShared)
  | .builtin builtin =>
    match Role.ofBuiltin builtin casting.config casting.entity with
    | .ok role => .ok (m.recruit role casting.isShared)
    | .error failure => .error failure
  | .again label =>
    match m.shared.find? label with
    | some system => .ok (⟨system, .shared⟩, m.hold system)
    | none => .error (.ofMessage ("nothing is shared under '" ++ label ++ "'"))

end Memory
end SimEngine
