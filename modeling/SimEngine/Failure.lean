/-!
# Failures

A failure is a chain of causes, the outermost first; in a sentence they are
joined by colons. A panic carries a text, or something that is no text.
-/

namespace SimEngine

/-- Why something went wrong: causes, the outermost first. -/
structure Failure where
  causes : List String
  deriving DecidableEq, Repr

namespace Failure

/-- A failure with one cause. -/
def ofMessage (message : String) : Failure := ⟨[message]⟩

/-- The failure with a further cause around it. -/
def inContext (f : Failure) (context : String) : Failure := ⟨context :: f.causes⟩

/-- The whole chain in one sentence. -/
def describe (f : Failure) : String :=
  String.intercalate ": " f.causes

end Failure

/-- What a panic carries. -/
inductive Panic where
  | text (message : String)
  | other
  deriving DecidableEq, Repr

/-- The text of a panic within a sentence. -/
def Panic.describe : Panic → String
  | .text message => message
  | .other => "non-string panic payload"

/-- The panic of a sum that leaves 64 bits. -/
def Panic.addOverflow : Panic := .text "attempt to add with overflow"

end SimEngine
