import SimEngine.Json.Parser
import SimEngine.Json.Printer
/-!
# Reading typed values

A `Reader` takes a value of some type from a draft, going through it from left
to right: of several faults the first one met is the one reported. Drafts come
from a text or from a finished tree; a text also limits how deeply containers
may be nested and refuses items behind the last one expected as a fault of the
text, where a tree reports the length.
-/

namespace SimEngine

/-- What stands where a value of another type was expected. -/
inductive Found where
  | null
  | boolean (value : Bool)
  | integer (value : Int)
  | float (value : Float)
  | text (value : String)
  | sequence
  | map
  deriving Repr, BEq

/-- Why a value could not be read. -/
inductive Misfit where
  /-- The text is not well formed. -/
  | malformed (fault : TextFault)
  | invalidType (found : Found) (expected : String)
  | invalidValue (found : Found) (expected : String)
  | missingField (name : String)
  | duplicateField (name : String)
  | invalidLength (length : Nat) (expected : String)
  deriving Repr, BEq

/-- What was found, within a sentence. -/
def Found.describe : Found → String
  | .null => "null"
  | .boolean true => "boolean `true`"
  | .boolean false => "boolean `false`"
  | .integer i => "integer `" ++ toString i ++ "`"
  | .float x => "floating point `" ++ DecimalStyle.data.render x ++ "`"
  | .text s => "string " ++ Text.quoted s
  | .sequence => "sequence"
  | .map => "map"

/-- The sentence that reports a misfit. -/
def Misfit.message : Misfit → String
  | .malformed fault => fault.message
  | .invalidType found expected => "invalid type: " ++ found.describe ++ ", expected " ++ expected
  | .invalidValue found expected => "invalid value: " ++ found.describe ++ ", expected " ++ expected
  | .missingField name => "missing field `" ++ name ++ "`"
  | .duplicateField name => "duplicate field `" ++ name ++ "`"
  | .invalidLength length expected =>
    "invalid length " ++ toString length ++ ", expected " ++ expected

/-- Where a draft comes from. -/
inductive Site where
  | tree
  /-- Within a text, with the number of containers that may still be opened. -/
  | text (depth : Nat)
  deriving DecidableEq, Repr

/-- Takes a value from a draft. -/
abbrev Reader (α : Type) := Site → Draft → Except Misfit α

namespace Reader

/-- What a draft of another type than the expected one is reported as. -/
def found (draft : Draft) : Except Misfit Found :=
  match draft with
  | .null => .ok .null
  | .bool b => .ok (.boolean b)
  | .num (.ok (.int i)) => .ok (.integer i)
  | .num (.ok (.float x)) => .ok (.float x)
  | .num (.error fault) => .error (.malformed fault)
  | .str (.ok s) => .ok (.text s)
  | .str (.error fault) => .error (.malformed fault)
  | .arr _ _ => .ok .sequence
  | .obj _ _ => .ok .map
  | .broken flaw => .error (.malformed flaw.inReading)

/-- The report on a draft of another type than the expected one. -/
def refuse {α : Type} (draft : Draft) (expected : String) : Except Misfit α :=
  match found draft with
  | .ok f => .error (.invalidType f expected)
  | .error e => .error e

/-- Whole numbers between two bounds. -/
def integer (name : String) (low high : Int) : Reader Int := fun _ draft =>
  match draft with
  | .num (.ok (.int i)) =>
    if low ≤ i ∧ i ≤ high then .ok i else .error (.invalidValue (.integer i) name)
  | draft => refuse draft name

/-- Whole numbers of 64 bits. -/
def word : Reader UInt64 := fun site draft =>
  (integer "u64" 0 (Nat.pow 2 64 - 1 : Nat) site draft).map fun i => i.toNat.toUInt64

/-- The double nearest to a whole number. -/
def floatOfInt (i : Int) : Float :=
  if i < 0 then -(i.natAbs.toUInt64.toFloat) else i.toNat.toUInt64.toFloat

/-- The single-precision number nearest to a whole number. -/
def float32OfInt (i : Int) : Float32 :=
  if i < 0 then -(i.natAbs.toUInt64.toFloat32) else i.toNat.toUInt64.toFloat32

/-- Doubles. -/
def float : Reader Float := fun _ draft =>
  match draft with
  | .num (.ok (.int i)) => .ok (floatOfInt i)
  | .num (.ok (.float x)) => .ok x
  | draft => refuse draft "f64"

/-- Single-precision numbers; a double is narrowed. -/
def float32 : Reader Float32 := fun _ draft =>
  match draft with
  | .num (.ok (.int i)) => .ok (float32OfInt i)
  | .num (.ok (.float x)) => .ok x.toFloat32
  | draft => refuse draft "f32"

/-- Booleans. -/
def boolean : Reader Bool := fun _ draft =>
  match draft with
  | .bool b => .ok b
  | draft => refuse draft "a boolean"

/-- Strings. -/
def string : Reader String := fun _ draft =>
  match draft with
  | .str (.ok s) => .ok s
  | draft => refuse draft "a string"

/-- Either nothing, written as null, or a value. -/
def option {α : Type} (reader : Reader α) : Reader (Option α) := fun site draft =>
  match draft with
  | .null => .ok none
  | draft => (reader site draft).map some

/-- Whole data trees. -/
def tree : Reader Json := fun site draft =>
  let depth := match site with
    | .tree => Nat.pow 2 64
    | .text depth => depth
  (draft.toJson depth).mapError .malformed

/-- The site within a container, if one may still be opened. -/
def enter : Site → Except Misfit Site
  | .tree => .ok .tree
  | .text 0 => .error (.malformed .tooDeep)
  | .text (depth + 1) => .ok (.text depth)

/-- The end of a container, unless a flaw stands there. -/
def endOf (flaw : Option Flaw) : Except Misfit Unit :=
  (Draft.endOf flaw).mapError .malformed

/-- Lists of any length. -/
def list {α : Type} (reader : Reader α) : Reader (List α) := fun site draft =>
  match draft with
  | .arr items flaw => do
    let site ← enter site
    let values ← items.mapM (reader site)
    endOf flaw
    return values
  | draft => refuse draft "a sequence"

/-- The end of a sequence of which `count` items were read out of `total`. -/
def endOfItems (site : Site) (count total : Nat) (flaw : Option Flaw) :
    Except Misfit Unit :=
  if count < total then
    match site with
    | .tree => .error (.invalidLength total "fewer elements in array")
    | .text _ => .error (.malformed .trailingCharacters)
  else
    match flaw.map Flaw.inReading with
    | none => .ok ()
    | some .trailingComma => .error (.malformed .trailingComma)
    | some .endInList => .error (.malformed .endInList)
    | some _ => .error (.malformed .trailingCharacters)

/-- As many items of a sequence as are expected. -/
def vector {α : Type} (reader : Reader α) (count : Nat) (expected : String) :
    Reader (List α) := fun site draft =>
  match draft with
  | .arr items flaw => do
    let inner ← enter site
    let values ← (items.take count).mapM (reader inner)
    if values.length < count then
      endOf flaw
      throw (.invalidLength values.length expected)
    endOfItems site count items.length flaw
    return values
  | draft => refuse draft expected

/-- A field of a record that is being read into `π`. -/
structure Field (π : Type) where
  name : String
  /-- The field may be missing from a record written as a sequence. -/
  isDefaulted : Bool
  isSet : π → Bool
  read : Site → Draft → π → Except Misfit π

/-- The fields of a record, in the order in which a sequence gives them. -/
structure Shape (π : Type) where
  name : String
  fields : List (Field π)

namespace Shape

/-- Reads the members of a record, those of other names skipped. -/
def readMembers {π : Type} (shape : Shape π) (site : Site) (flaw : Option Flaw) :
    List (Except TextFault String × Draft) → π → Except Misfit π
  | [], record => do
    endOf flaw
    return record
  | (.error fault, _) :: _, _ => .error (.malformed fault)
  | (.ok key, draft) :: rest, record =>
    match shape.fields.find? (fun f => f.name == key) with
    | some field => do
      if field.isSet record then throw (.duplicateField key)
      readMembers shape site flaw rest (← field.read site draft record)
    | none =>
      match draft.skipFault? with
      | none => readMembers shape site flaw rest record
      | some fault => .error (.malformed fault)

/-- Reads the items of a record given as a sequence; `place` counts those read before. -/
def readItems {π : Type} (shape : Shape π) (site : Site) (flaw : Option Flaw)
    (place : Nat) : List (Field π) → List Draft → π → Except Misfit π
  | [], _, record => .ok record
  | field :: fields, [], record => do
    endOf flaw
    if field.isDefaulted then readItems shape site flaw (place + 1) fields [] record
    else
      throw (.invalidLength place
        (shape.name ++ " with " ++ toString shape.fields.length ++
          if shape.fields.length = 1 then " element" else " elements"))
  | field :: fields, draft :: rest, record => do
    readItems shape site flaw (place + 1) fields rest (← field.read site draft record)

/-- Reads a record into `blank`. -/
def read {π : Type} (shape : Shape π) (blank : π) : Reader π := fun site draft =>
  match draft with
  | .obj members flaw => do
    shape.readMembers (← enter site) flaw members blank
  | .arr items flaw => do
    let record ← shape.readItems (← enter site) flaw 0 shape.fields items blank
    endOfItems site shape.fields.length items.length flaw
    return record
  | draft => refuse draft shape.name

end Shape

/-- A field that must be there unless it takes a default. -/
def field {π α : Type} (name : String) (isDefaulted : Bool) (get : π → Option α)
    (set : π → α → π) (reader : Reader α) : Field π where
  name := name
  isDefaulted := isDefaulted
  isSet record := (get record).isSome
  read site draft record := (reader site draft).map (set record)

/-- The value of a field that has no default. -/
def needed {α : Type} (name : String) (value : Option α) : Except Misfit α :=
  match value with
  | some v => .ok v
  | none => .error (.missingField name)

/-- Reads a value from a finished tree. -/
def ofTree {α : Type} (reader : Reader α) (tree : Json) : Except Misfit α :=
  reader .tree (Draft.ofJson tree)

/-- Reads a value from a text that holds nothing else. -/
def ofText {α : Type} (reader : Reader α) (text : String) : Except Misfit α :=
  match Parser.document text with
  | (draft, flaw) => do
    let value ← reader (.text Draft.maxDepth) draft
    endOf flaw
    return value

end Reader
end SimEngine
