/-!
# Reading decimal literals

A literal is read as the value of its leading digits, as many as fit in 64
bits, times or divided by a power of ten. Digits that no longer fit only count
as places. Both factors are doubles, so the result is rounded at most once more
than the exact value would be.
-/

namespace SimEngine

/-- A decimal literal in its written parts. -/
structure Literal where
  negative : Bool
  whole : List Nat
  /-- The digits after the point, if there is one. -/
  fraction : Option (List Nat)
  /-- The sign and the digits of the exponent, if there is one. -/
  power : Option (Bool × List Nat)
  deriving Repr, DecidableEq

namespace Literal

/-- The largest number of 64 bits. -/
def maxWord : Nat := Nat.pow 2 64 - 1

/-- The number that digits write. -/
def valueOf (digits : List Nat) : Nat :=
  digits.foldl (fun n d => 10 * n + d) 0

/-- Appends digits to a number while it fits in 64 bits; also how many are left over. -/
def absorb (value : Nat) : List Nat → Nat × Nat
  | [] => (value, 0)
  | d :: rest =>
    if maxWord < 10 * value + d then (value, rest.length + 1)
    else absorb (10 * value + d) rest

/-- Whether the literal has neither point nor exponent. -/
def isWhole (l : Literal) : Bool :=
  l.fraction.isNone && l.power.isNone

/-- The number a whole literal writes. -/
def toInt (l : Literal) : Int :=
  if l.negative then -(valueOf l.whole : Int) else valueOf l.whole

/-- A power of ten as a double. -/
def powerOfTen (n : Nat) : Float :=
  Float.ofScientific 1 false n

/-- A double times a power of ten, or nothing if it grows beyond the doubles. -/
def scale (x : Float) (exponent : Int) : Option Float :=
  if exponent.natAbs ≤ 308 then
    if 0 ≤ exponent then
      let y := x * powerOfTen exponent.natAbs
      if y.isInf then none else some y
    else
      some (x / powerOfTen exponent.natAbs)
  else if x == 0.0 then
    some x
  else if 0 ≤ exponent then
    none
  else
    scale (x / powerOfTen 308) (exponent + 308)
termination_by exponent.natAbs
decreasing_by omega

/-- The digits kept of a literal and the power of ten they stand before its exponent. -/
def significand (l : Literal) : Nat × Int :=
  let (value, skipped) := absorb 0 l.whole
  match l.fraction with
  | none => (value, skipped)
  | some digits =>
    let (value, left) := absorb value digits
    (value, (skipped : Int) - (digits.length - left : Nat))

/-- The double a literal stands for, or nothing if it grows beyond the doubles. -/
def toFloat? (l : Literal) : Option Float :=
  let signed (x : Float) : Float := if l.negative then -x else x
  let (value, places) := l.significand
  let start := value.toUInt64.toFloat
  match l.power with
  | none => (scale start places).map signed
  | some (negative, digits) =>
    let size := valueOf digits
    if Nat.pow 2 31 ≤ size then
      if value ≠ 0 ∧ !negative then none else some (signed 0.0)
    else
      (scale start (if negative then places - size else places + size)).map signed

end Literal
end SimEngine
