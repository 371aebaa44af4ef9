import SimEngine.Json.Printer
/-!
# Exact floats

A tree in which every float is written by its bits, so that nothing is lost to
rounding: a record that names the width and gives the bits in base 16.
-/

namespace SimEngine
namespace Json

/-- A double written by its bits; all values that are no number are alike. -/
def bitsOf (x : Float) : Json :=
  .obj [("$f64", .str (if x.isNaN then "nan" else Text.paddedHex 16 x.toBits.toNat))]

/-- A single-precision number written by its bits. -/
def bitsOf32 (x : Float32) : Json :=
  .obj [("$f32", .str (if x.isNaN then "nan" else Text.paddedHex 8 x.toBits.toNat))]

mutual

/-- The tree with its floats written by their bits. -/
def exact : Json → Json
  | .null => .null
  | .bool b => .bool b
  | .num (.int i) => .num (.int i)
  | .num (.float x) => bitsOf x
  | .str s => .str s
  | .arr items => .arr (exactItems items)
  | .obj members => .obj (exactMembers members)

/-- The items of an array with their floats written by their bits. -/
def exactItems : List Json → List Json
  | [] => []
  | v :: rest => exact v :: exactItems rest

/-- The members of an object with their floats written by their bits. -/
def exactMembers : List (String × Json) → List (String × Json)
  | [] => []
  | (k, v) :: rest => (k, exact v) :: exactMembers rest

end

end Json
end SimEngine
