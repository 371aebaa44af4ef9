import SimEngine.Number.Decimal
/-!
# Durations

A span of time in whole nanoseconds, at most `2 ^ 64` seconds long. Sums beyond
that are refused. A span given in seconds as a double is rounded to the nearest
nanosecond, a half to the even neighbour.
-/

namespace SimEngine

/-- A span of time. -/
structure Duration where
  nanos : Nat
  inRange : nanos < Nat.pow 2 64 * Nat.pow 10 9
  deriving DecidableEq, Repr

namespace Duration

/-- No time at all. -/
def zero : Duration := ⟨0, by decide⟩

instance : Inhabited Duration := ⟨zero⟩

/-- The span of a number of nanoseconds, if it is not too long. -/
def ofNanos? (nanos : Nat) : Option Duration :=
  if h : nanos < Nat.pow 2 64 * Nat.pow 10 9 then some ⟨nanos, h⟩ else none

/-- The span of seconds and nanoseconds, which may exceed a second. -/
def ofParts? (seconds nanos : Nat) : Option Duration :=
  ofNanos? (seconds * Nat.pow 10 9 + nanos)

/-- The whole seconds of a span. -/
def wholeSeconds (d : Duration) : Nat :=
  d.nanos / Nat.pow 10 9

/-- The nanoseconds of a span beyond its whole seconds. -/
def subsecNanos (d : Duration) : Nat :=
  d.nanos % Nat.pow 10 9

/-- The sum of two spans, if it is not too long. -/
def add? (a b : Duration) : Option Duration :=
  ofNanos? (a.nanos + b.nanos)

/-- The span in seconds: the whole seconds and the rest, each rounded to a double, added. -/
def toSeconds (d : Duration) : Float :=
  d.wholeSeconds.toUInt64.toFloat + d.subsecNanos.toUInt64.toFloat / 1e9

/-- The quotient rounded to the nearest whole number, a half to the even one. -/
def roundQuotient (dividend divisor : Nat) : Nat :=
  let below := dividend / divisor
  let rest := dividend % divisor
  if 2 * rest < divisor then below
  else if divisor < 2 * rest then below + 1
  else if below % 2 = 0 then below
  else below + 1

/-- The span of a number of seconds, if it is neither negative nor too long nor no number. -/
def ofSeconds? (seconds : Float) : Option Duration :=
  if seconds.isNaN || seconds.isInf then none
  else
    let b := Binary.ofFloat seconds
    if b.negative && b.mantissa ≠ 0 then none
    else if 0 ≤ b.exponent then ofNanos? (b.mantissa * Nat.pow 2 b.exponent.toNat * Nat.pow 10 9)
    else ofNanos? (roundQuotient (b.mantissa * Nat.pow 10 9) (Nat.pow 2 (-b.exponent).toNat))

end Duration
end SimEngine
