import SimEngine.OrderedMap
/-!
# Handles

A handle names one attachment of a system. Handles are numbered in the order in
which they are created and never used twice.
-/

namespace SimEngine

/-- The name of an attachment. -/
structure Handle where
  number : Nat
  deriving DecidableEq, Repr

namespace Handle

/-- The handle as messages show it. -/
def describe (h : Handle) : String :=
  "h" ++ toString h.number

instance : OrderedKey Handle where
  lt a b := a.number < b.number
  decLt a b := inferInstanceAs (Decidable (a.number < b.number))
  irrefl a := OrderedKey.irrefl a.number
  trans := OrderedKey.trans (κ := Nat)
  connected {a b} hab hba := by
    cases a; cases b
    exact congrArg Handle.mk (OrderedKey.connected (κ := Nat) hab hba)

end Handle
end SimEngine
