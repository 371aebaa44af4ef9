/-!
# Data trees

A tree of nulls, booleans, numbers, strings, arrays and objects. Numbers keep
whether they are whole. The members of an object ascend strictly by key, in the
order of code points, and `insertMember` keeps them so.
-/

namespace SimEngine

/-- A number of a data tree. Whole numbers lie between `-2 ^ 63` and `2 ^ 64 - 1`. -/
inductive Number where
  | int (value : Int)
  | float (value : Float)
  deriving BEq, Repr

/-- A data tree. -/
inductive Json where
  | null
  | bool (value : Bool)
  | num (value : Number)
  | str (value : String)
  | arr (items : List Json)
  | obj (members : List (String × Json))
  deriving Repr

namespace Json

instance : Inhabited Json := ⟨.null⟩

mutual

/-- Equality of trees; two floats are equal as numbers. -/
def beq : Json → Json → Bool
  | .null, .null => true
  | .bool a, .bool b => a == b
  | .num a, .num b => a == b
  | .str a, .str b => a == b
  | .arr a, .arr b => beqItems a b
  | .obj a, .obj b => beqMembers a b
  | _, _ => false

/-- Equality of the items of two arrays. -/
def beqItems : List Json → List Json → Bool
  | [], [] => true
  | a :: as, b :: bs => beq a b && beqItems as bs
  | _, _ => false

/-- Equality of the members of two objects. -/
def beqMembers : List (String × Json) → List (String × Json) → Bool
  | [], [] => true
  | (k, a) :: as, (l, b) :: bs => k == l && beq a b && beqMembers as bs
  | _, _ => false

end

instance : BEq Json := ⟨beq⟩

/-- A whole number. -/
def ofInt (value : Int) : Json := .num (.int value)

/-- A natural number. -/
def ofNat (value : Nat) : Json := .num (.int value)

/-- The object without members. -/
def empty : Json := .obj []

/-- What a tree is at its root. -/
inductive Kind where
  | null
  | boolean
  | number
  | string
  | array
  | object
  deriving DecidableEq, Repr

/-- The kind of a tree. -/
def kind : Json → Kind
  | .null => .null
  | .bool _ => .boolean
  | .num _ => .number
  | .str _ => .string
  | .arr _ => .array
  | .obj _ => .object

/-- The kind as it is named within a sentence. -/
def Kind.describe : Kind → String
  | .null => "null"
  | .boolean => "a boolean"
  | .number => "a number"
  | .string => "a string"
  | .array => "an array"
  | .object => "an object"

/-- Puts a member at its place among ascending keys; a member of the same key is replaced. -/
def insertMember (key : String) (value : Json) : List (String × Json) → List (String × Json)
  | [] => [(key, value)]
  | (k, v) :: rest =>
    if key < k then (key, value) :: (k, v) :: rest
    else if key = k then (key, value) :: rest
    else (k, v) :: insertMember key value rest

/-- The object of the given members; of members with one key the last counts. -/
def ofMembers (members : List (String × Json)) : Json :=
  .obj (members.foldl (fun ms (k, v) => insertMember k v ms) [])

/-- The member of an object with the given key. -/
def member? (tree : Json) (key : String) : Option Json :=
  match tree with
  | .obj members => members.lookup key
  | _ => none

/-- The item of an array at a place. -/
def item? (tree : Json) (place : Nat) : Option Json :=
  match tree with
  | .arr items => items[place]?
  | _ => none

end Json
end SimEngine
