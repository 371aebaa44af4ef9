import SimEngine.Json.Basic
import SimEngine.Json.Fault
import SimEngine.Number.Literal
/-!
# Data trees as far as they can be read

A `Draft` is what a text shows to a reader that goes through it from left to
right: repeated keys are kept in their order, and a container that the text
does not close properly ends with the flaw met there. A lexeme that is well
formed but stands for no value (a number beyond the doubles, half of a surrogate
pair) is kept with its fault, since a reader that skips it need not mind.
-/

namespace SimEngine

/-- A data tree as far as it can be read. -/
inductive Draft where
  | null
  | bool (value : Bool)
  | num (value : Except TextFault Number)
  | str (value : Except TextFault String)
  | arr (items : List Draft) (flaw : Option Flaw)
  | obj (members : List (Except TextFault String × Draft)) (flaw : Option Flaw)
  | broken (flaw : Flaw)

/-- The number that a literal stands for, if it stands for one. -/
def Literal.toNumber (l : Literal) : Except TextFault Number :=
  let value := l.toInt
  let fits :=
    if l.negative then value < 0 && -(Nat.pow 2 63 : Int) ≤ value else value < Nat.pow 2 64
  if l.isWhole && fits then .ok (.int value)
  else
    match l.toFloat? with
    | some x => .ok (.float x)
    | none => .error .numberOutOfRange

namespace Draft

/-- How deeply the containers of a text may be nested. -/
def maxDepth : Nat := 127

mutual

/-- The first fault that a reader meets who skips the draft. -/
def skipFault? : Draft → Option TextFault
  | .arr items flaw => skipItems? items <|> flaw.map Flaw.inSkipping
  | .obj members flaw => skipMembers? members <|> flaw.map Flaw.inSkipping
  | .broken flaw => some flaw.inSkipping
  | _ => none

/-- The first fault among items that are skipped. -/
def skipItems? : List Draft → Option TextFault
  | [] => none
  | v :: rest => skipFault? v <|> skipItems? rest

/-- The first fault among members that are skipped. -/
def skipMembers? : List (Except TextFault String × Draft) → Option TextFault
  | [] => none
  | (_, v) :: rest => skipFault? v <|> skipMembers? rest

end

/-- The end of a container, unless a flaw stands there. -/
def endOf (flaw : Option Flaw) : Except TextFault Unit :=
  match flaw with
  | none => .ok ()
  | some f => .error f.inReading

mutual

/-- The tree of a draft in which at most `depth` containers are nested, or its first fault. -/
def toJson (depth : Nat) : Draft → Except TextFault Json
  | .null => .ok .null
  | .bool b => .ok (.bool b)
  | .num n => n.map .num
  | .str s => s.map .str
  | .arr items flaw => do
    if depth = 0 then throw .tooDeep
    let values ← itemsToJson (depth - 1) items
    endOf flaw
    return .arr values
  | .obj members flaw => do
    if depth = 0 then throw .tooDeep
    let values ← membersToJson (depth - 1) members
    endOf flaw
    return Json.ofMembers values
  | .broken flaw => .error flaw.inReading

/-- The trees of the items of an array, or the first fault. -/
def itemsToJson (depth : Nat) : List Draft → Except TextFault (List Json)
  | [] => .ok []
  | v :: rest => do
    let first ← toJson depth v
    return first :: (← itemsToJson depth rest)

/-- The trees of the members of an object, or the first fault. -/
def membersToJson (depth : Nat) :
    List (Except TextFault String × Draft) → Except TextFault (List (String × Json))
  | [] => .ok []
  | (k, v) :: rest => do
    let key ← k
    let value ← toJson depth v
    return (key, value) :: (← membersToJson depth rest)

end

mutual

/-- A tree as a draft without a fault. -/
def ofJson : Json → Draft
  | .null => .null
  | .bool b => .bool b
  | .num n => .num (.ok n)
  | .str s => .str (.ok s)
  | .arr items => .arr (ofItems items) none
  | .obj members => .obj (ofMembers members) none

/-- The items of an array as drafts. -/
def ofItems : List Json → List Draft
  | [] => []
  | v :: rest => ofJson v :: ofItems rest

/-- The members of an object as drafts. -/
def ofMembers : List (String × Json) → List (Except TextFault String × Draft)
  | [] => []
  | (k, v) :: rest => (.ok k, ofJson v) :: ofMembers rest

end

end Draft
end SimEngine
