import SimEngine.Json.Decode
/-!
# Vectors

Vectors of three single-precision numbers. Every operation rounds each
component once, in the order in which it is written.
-/

namespace SimEngine

/-- A vector of three numbers. -/
structure Vector3 where
  x : Float32
  y : Float32
  z : Float32
  deriving BEq, Repr

namespace Vector3

/-- The vector of length zero. -/
def zero : Vector3 := ⟨0, 0, 0⟩

instance : Inhabited Vector3 := ⟨zero⟩

/-- The components in their order. -/
def toList (v : Vector3) : List Float32 := [v.x, v.y, v.z]

/-- The sum of two vectors. -/
def add (a b : Vector3) : Vector3 := ⟨a.x + b.x, a.y + b.y, a.z + b.z⟩

/-- Every component times a number. -/
def scale (v : Vector3) (k : Float32) : Vector3 := ⟨v.x * k, v.y * k, v.z * k⟩

/-- A number times every component. -/
def scaled (k : Float32) (v : Vector3) : Vector3 := ⟨k * v.x, k * v.y, k * v.z⟩

/-- Every component divided by a number. -/
def divide (v : Vector3) (k : Float32) : Vector3 := ⟨v.x / k, v.y / k, v.z / k⟩

/-- The square of the length. -/
def lengthSquared (v : Vector3) : Float32 := v.x * v.x + v.y * v.y + v.z * v.z

/-- The length. -/
def length (v : Vector3) : Float32 := v.lengthSquared.sqrt

/-- The vector, shortened to a length if it is longer. -/
def clampLength (v : Vector3) (limit : Float32) : Vector3 :=
  let squared := v.lengthSquared
  if squared > limit * limit then scaled limit (v.divide squared.sqrt) else v

/-- Vectors are written as sequences of three numbers. -/
def reader : Reader Vector3 := fun site draft => do
  match ← Reader.vector Reader.float32 3 "a sequence of 3 f32 values" site draft with
  | [x, y, z] => return ⟨x, y, z⟩
  | values => throw (.invalidLength values.length "a sequence of 3 f32 values")

end Vector3
end SimEngine
