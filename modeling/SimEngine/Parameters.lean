import SimEngine.OrderedMap
import SimEngine.Json.Decode
/-!
# Parameters

Named data trees that are declared once with a default and may be set later. A
parameter keeps the kind of its default. Values come as an attempt to write
them as a tree; an attempt that failed is refused before the name is looked up.
-/

namespace SimEngine

/-- A value to be stored, or the reason why it cannot be written as a tree. -/
abbrev Convertible : Type := Except String Json

/-- The parameters of a simulation. -/
structure Parameters where
  values : OrderedMap String Json

/-- Why a parameter is refused. -/
inductive ParameterError where
  | alreadyDeclared (name : String)
  | notDeclared (name : String)
  | kindMismatch (name : String) (expected found : Json.Kind)
  /-- The value cannot be written as a tree, or the tree does not fit the type asked for. -/
  | value (name reason : String)
  deriving DecidableEq, Repr

namespace ParameterError

/-- The sentence that reports the error. -/
def message : ParameterError → String
  | .alreadyDeclared name => "parameter '" ++ name ++ "' is already declared"
  | .notDeclared name => "parameter '" ++ name ++ "' is not declared"
  | .kindMismatch name expected found =>
    "parameter '" ++ name ++ "' holds " ++ expected.describe ++ ", got " ++ found.describe
  | .value name reason => "invalid value for parameter '" ++ name ++ "': " ++ reason

/-- The causes of the error, the outermost first. -/
def causes (e : ParameterError) : List String :=
  match e with
  | .value _ reason => [e.message, reason]
  | _ => [e.message]

end ParameterError

namespace Parameters

/-- No parameters. -/
def empty : Parameters := ⟨∅⟩

instance : Inhabited Parameters := ⟨empty⟩

/-- The value of a parameter. -/
def get? (p : Parameters) (name : String) : Option Json :=
  p.values.find? name

/-- Whether a parameter is declared. -/
def contains (p : Parameters) (name : String) : Bool :=
  p.values.contains name

/-- The declared names in ascending order. -/
def names (p : Parameters) : List String :=
  p.values.keys

/-- The number of declared names. -/
def size (p : Parameters) : Nat :=
  p.values.size

/-- Declares a parameter with its default. -/
def declare (p : Parameters) (name : String) (default : Convertible) :
    Except ParameterError Parameters :=
  match default with
  | .error reason => .error (.value name reason)
  | .ok tree =>
    if p.contains name then .error (.alreadyDeclared name)
    else .ok ⟨p.values.insert name tree⟩

/-- Sets a declared parameter to a value of the same kind. -/
def set (p : Parameters) (name : String) (value : Convertible) :
    Except ParameterError Parameters :=
  match value with
  | .error reason => .error (.value name reason)
  | .ok tree =>
    match p.get? name with
    | none => .error (.notDeclared name)
    | some current =>
      if current.kind = tree.kind then .ok ⟨p.values.insert name tree⟩
      else .error (.kindMismatch name current.kind tree.kind)

/-- Reads a parameter as a value of some type, if it is declared. -/
def read? {α : Type} (p : Parameters) (reader : Reader α) (name : String) :
    Except ParameterError (Option α) :=
  match p.get? name with
  | none => .ok none
  | some tree =>
    match Reader.ofTree reader tree with
    | .ok value => .ok (some value)
    | .error cause => .error (.value name cause.message)

end Parameters
end SimEngine
