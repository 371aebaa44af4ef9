import SimEngine.Failure
import SimEngine.Json.Pointer
import SimEngine.Json.Decode
/-!
# Configuration payloads

A payload is any data tree. Its fields are the members of the object at its
root; a payload that is no object has none.
-/

namespace SimEngine

/-- The configuration a system is given. -/
structure Payload where
  tree : Json
  deriving Repr, BEq

/-- Why a payload does not serve. -/
inductive ConfigError where
  /-- The whole payload does not fit. -/
  | misfit (cause : Misfit)
  /-- A field is there but does not fit. -/
  | field (key : String) (cause : Misfit)
  | missing (key : String)
  deriving Repr, BEq

namespace ConfigError

/-- The sentence that reports the error. -/
def message : ConfigError → String
  | .misfit cause => "invalid configuration: " ++ cause.message
  | .field key cause => "invalid value for '" ++ key ++ "': " ++ cause.message
  | .missing key => "missing required field '" ++ key ++ "'"

/-- The error as a failure; the misfit behind it is a cause of its own. -/
def toFailure (e : ConfigError) : Failure :=
  match e with
  | .misfit cause => ⟨[e.message, cause.message]⟩
  | .field _ cause => ⟨[e.message, cause.message]⟩
  | .missing _ => ⟨[e.message]⟩

end ConfigError

namespace Payload

/-- The payload without fields. -/
def empty : Payload := ⟨.empty⟩

instance : Inhabited Payload := ⟨empty⟩

/-- A field of the payload. -/
def get? (p : Payload) (key : String) : Option Json :=
  p.tree.member? key

/-- Whether the payload has a field. -/
def has (p : Payload) (key : String) : Bool :=
  (p.get? key).isSome

/-- Reads a field, if it is there. -/
def read? {α : Type} (p : Payload) (reader : Reader α) (key : String) :
    Except ConfigError (Option α) :=
  match p.get? key with
  | none => .ok none
  | some tree =>
    match Reader.ofTree reader tree with
    | .ok value => .ok (some value)
    | .error cause => .error (.field key cause)

/-- Reads a field, or takes a default if it is not there. -/
def readD {α : Type} (p : Payload) (reader : Reader α) (key : String) (default : α) :
    Except ConfigError α :=
  (p.read? reader key).map (·.getD default)

/-- Reads a field that must be there. -/
def require {α : Type} (p : Payload) (reader : Reader α) (key : String) : Except ConfigError α :=
  match p.read? reader key with
  | .ok (some value) => .ok value
  | .ok none => .error (.missing key)
  | .error e => .error e

/-- Reads the whole payload. -/
def parse {α : Type} (p : Payload) (reader : Reader α) : Except ConfigError α :=
  match Reader.ofTree reader p.tree with
  | .ok value => .ok value
  | .error cause => .error (.misfit cause)

/-- The payload that a text writes. -/
def ofText (text : String) : Except ConfigError Payload :=
  match Json.parse text with
  | .ok tree => .ok ⟨tree⟩
  | .error fault => .error (.misfit (.malformed fault))

end Payload
end SimEngine
