/-!
# Shortest decimal text of a binary number

A finite binary number is taken apart into sign, mantissa and power of two. Its
shortest decimal is found on the grids of 1, 2, … 17 digits: the first grid
with a point in the interval of the reals that round to the number wins, of two
such points the nearer one, of two equally near ones the one that the `Tie` rule
names. All of it is exact arithmetic on natural numbers.

`DecimalStyle` holds what a text format decides: which of two equally near
decimals is taken, where positional notation ends, whether a whole number keeps
`.0`, and what stands for what is no number.
-/

namespace SimEngine

/-- A finite number as `mantissa · 2 ^ exponent`, negated if `negative`. -/
structure Binary where
  negative : Bool
  mantissa : Nat
  exponent : Int
  deriving Repr, DecidableEq

namespace Binary

/-- The parts of a double; an infinity or NaN has no meaning here. -/
def ofFloat (x : Float) : Binary :=
  let bits : Nat := x.toBits.toNat
  let field : Nat := bits / Nat.pow 2 52 % Nat.pow 2 11
  let fraction : Nat := bits % Nat.pow 2 52
  if field = 0 then
    ⟨Nat.pow 2 63 ≤ bits, fraction, -1074⟩
  else
    ⟨Nat.pow 2 63 ≤ bits, Nat.pow 2 52 + fraction, (field : Int) - 1075⟩

/-- Whether the doubles just below lie half as far away as those just above. -/
def atLowerEdge (b : Binary) : Bool :=
  b.mantissa == Nat.pow 2 52 && b.exponent != -1074

end Binary

/-- A decimal number `coefficient · 10 ^ exponent`. -/
structure Decimal where
  coefficient : Nat
  exponent : Int
  deriving Repr, DecidableEq

/-- Which of two decimals is taken that are equally near. -/
inductive Tie where
  /-- The one whose last digit is even. -/
  | toEven
  /-- The one farther from zero. -/
  | awayFromZero
  deriving DecidableEq, Repr

namespace Decimal

/-- The same number with no trailing zero in the coefficient. -/
def stripZeros (coefficient : Nat) (exponent : Int) : Decimal :=
  if h : coefficient ≠ 0 ∧ coefficient % 10 = 0 then
    stripZeros (coefficient / 10) (exponent + 1)
  else
    ⟨coefficient, exponent⟩
termination_by coefficient
decreasing_by omega

/-- The decimal digits of a number, most significant first. -/
def digitsOf (n : Nat) : List Char :=
  Nat.toDigits 10 n

/-- The exponent `e` with `10 ^ e ≤ b < 10 ^ (e + 1)`, for a number other than zero. -/
def magnitude (b : Binary) : Int :=
  if 0 ≤ b.exponent then
    ((digitsOf (b.mantissa * Nat.pow 2 b.exponent.toNat)).length : Int) - 1
  else
    ((digitsOf (b.mantissa * Nat.pow 10 400 / Nat.pow 2 (-b.exponent).toNat)).length : Int) - 401

/-- The point of the grid of multiples of `10 ^ k` that stands for `b`, if one rounds to it. -/
def onGrid (tie : Tie) (b : Binary) (k : Int) : Option Nat :=
  let quarter := b.exponent - 2
  let point := Nat.pow 10 k.toNat * Nat.pow 2 (-quarter).toNat
  let unit := Nat.pow 2 quarter.toNat * Nat.pow 10 (-k).toNat
  let value := 4 * b.mantissa * unit
  let high := (4 * b.mantissa + 2) * unit
  let low := (4 * b.mantissa - if b.atLowerEdge then 1 else 2) * unit
  let inside (d : Nat) : Bool :=
    if b.mantissa % 2 = 0 then low ≤ d * point && d * point ≤ high
    else low < d * point && d * point < high
  let below := value / point
  let toBelow := value - below * point
  let toAbove := (below + 1) * point - value
  match inside below, inside (below + 1) with
  | true, false => some below
  | false, true => some (below + 1)
  | false, false => none
  | true, true =>
    let isBelow := toBelow < toAbove ∨ (toBelow = toAbove ∧ tie = .toEven ∧ below % 2 = 0)
    if isBelow then some below else some (below + 1)

/-- The first grid, from `digits` digits upwards, on which `b` has a point. -/
def searchGrids (tie : Tie) (b : Binary) (digits : Nat) : Nat → Decimal
  | 0 => ⟨0, 0⟩
  | rounds + 1 =>
    let k := magnitude b - digits + 1
    match onGrid tie b k with
    | some d => stripZeros d k
    | none => searchGrids tie b (digits + 1) rounds

/-- The shortest decimal that reads back as `b`, its sign aside. -/
def shortest (tie : Tie) (b : Binary) : Decimal :=
  if b.mantissa = 0 then ⟨0, 0⟩ else searchGrids tie b 1 17

/-- The exponent of the number when it is written with one digit before the point. -/
def power (d : Decimal) : Int :=
  d.exponent + (digitsOf d.coefficient).length - 1

/-- The number with one digit before the point and an exponent. -/
def scientific (d : Decimal) : String :=
  let digits := digitsOf d.coefficient
  let fraction := if digits.length ≤ 1 then "" else "." ++ String.ofList digits.tail
  let mark := if d.power < 0 then "e-" else "e+"
  String.ofList (digits.take 1) ++ fraction ++ mark ++ toString d.power.natAbs

end Decimal

/-- What a text format decides about the numbers it writes. -/
structure DecimalStyle where
  tie : Tie
  /-- The magnitudes written without an exponent. -/
  isPositional : Int → Bool
  /-- What stands after a whole number in positional notation. -/
  wholeSuffix : String
  notANumber : String
  infinite : String

namespace DecimalStyle

/-- Numbers within data: positional from `0.00001` up to below `10 ^ 16`, else `d.ddde±x`. -/
def data : DecimalStyle where
  tie := .toEven
  isPositional e := -5 ≤ e && e ≤ 15
  wholeSuffix := ".0"
  notANumber := "null"
  infinite := "null"

/-- Numbers within sentences: always positional, whole numbers without a point. -/
def plain : DecimalStyle where
  tie := .awayFromZero
  isPositional _ := true
  wholeSuffix := ""
  notANumber := "NaN"
  infinite := "inf"

/-- A decimal without an exponent. -/
def positional (style : DecimalStyle) (d : Decimal) : String :=
  let digits := Decimal.digitsOf d.coefficient
  if 0 ≤ d.exponent then
    String.ofList (digits ++ List.replicate d.exponent.toNat '0') ++ style.wholeSuffix
  else
    let places := (-d.exponent).toNat
    let padded := List.replicate (places + 1 - digits.length) '0' ++ digits
    String.ofList (padded.take (padded.length - places)) ++ "."
      ++ String.ofList (padded.drop (padded.length - places))

/-- The text of a double. -/
def render (style : DecimalStyle) (x : Float) : String :=
  if x.isNaN then style.notANumber
  else
    let b := Binary.ofFloat x
    let sign := if b.negative then "-" else ""
    if x.isInf then sign ++ style.infinite
    else
      let d := Decimal.shortest style.tie b
      sign ++ if style.isPositional d.power then style.positional d else d.scientific

end DecimalStyle
end SimEngine
