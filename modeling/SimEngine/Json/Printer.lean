import SimEngine.Json.Basic
import SimEngine.Number.Decimal
import SimEngine.Text.Quoted
/-!
# Writing data trees

The compact form: no blank anywhere, members in the order of their keys, and in
strings only the quote, the backslash and control characters escaped.
-/

namespace SimEngine
namespace Json

/-- One character as it stands in a written string. -/
def writtenChar (c : Char) : String :=
  match c with
  | '"' => "\\\""
  | '\\' => "\\\\"
  | '\x08' => "\\b"
  | '\x0c' => "\\f"
  | '\n' => "\\n"
  | '\r' => "\\r"
  | '\t' => "\\t"
  | c => if c.toNat < 32 then "\\u" ++ Text.paddedHex 4 c.toNat else c.toString

/-- A string as it is written. -/
def writtenString (s : String) : String :=
  "\"" ++ String.join (s.toList.map writtenChar) ++ "\""

/-- A number as it is written. -/
def writtenNumber : Number → String
  | .int i => toString i
  | .float x => DecimalStyle.data.render x

mutual

/-- The compact text of a tree. -/
def compact : Json → String
  | .null => "null"
  | .bool true => "true"
  | .bool false => "false"
  | .num n => writtenNumber n
  | .str s => writtenString s
  | .arr items => "[" ++ String.intercalate "," (compactItems items) ++ "]"
  | .obj members => "\x7b" ++ String.intercalate "," (compactMembers members) ++ "\x7d"

/-- The compact texts of the items of an array. -/
def compactItems : List Json → List String
  | [] => []
  | v :: rest => compact v :: compactItems rest

/-- The compact texts of the members of an object. -/
def compactMembers : List (String × Json) → List String
  | [] => []
  | (k, v) :: rest => (writtenString k ++ ":" ++ compact v) :: compactMembers rest

end

end Json
end SimEngine
