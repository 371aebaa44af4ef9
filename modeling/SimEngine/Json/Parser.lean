import SimEngine.Json.Draft
import SimEngine.Json.Lexer
/-!
# Reading data texts

Tokens are put together with a stack of the containers that are still open. The
first token that does not fit ends the reading: every open container is then
closed as it is, with the flaw met there.
-/

namespace SimEngine
namespace Parser

/-- A container that is still open, what it holds the last one first. -/
inductive Frame where
  | arr (items : List Draft)
  /-- The members so far, and the key of the one in progress. -/
  | obj (members : List (Except TextFault String × Draft)) (key : Except TextFault String)

/-- Which token is due. -/
inductive Due where
  | value
  | firstItem
  | item
  | firstKey
  | key
  | colon
  | next
  deriving DecidableEq, Repr

/-- A reading in progress or at its end. -/
inductive Progress where
  | reading (stack : List Frame) (due : Due)
  /-- One value was read to its end. -/
  | done (value : Draft)
  /-- The text ended behind one value. -/
  | whole (value : Draft)
  /-- The text is not one value. -/
  | failed (value : Draft) (flaw : Flaw)

/-- Puts a finished value into the innermost open container. -/
def place (value : Draft) : List Frame → Progress
  | [] => .done value
  | .arr items :: rest => .reading (.arr (value :: items) :: rest) .next
  | .obj members key :: rest => .reading (.obj ((key, value) :: members) key :: rest) .next

/-- Closes the open containers around what they hold last. -/
def enclose (flaw : Flaw) (value : Draft) : List Frame → Draft
  | [] => value
  | .arr items :: rest => enclose flaw (.arr (value :: items).reverse (some flaw)) rest
  | .obj members key :: rest =>
    enclose flaw (.obj ((key, value) :: members).reverse (some flaw)) rest

/-- What is there when a token does not fit. -/
def abandon (stack : List Frame) (due : Due) (flaw : Flaw) : Progress :=
  match stack with
  | [] => .failed (.broken flaw) flaw
  | .arr items :: rest => .failed (enclose flaw (.arr items.reverse (some flaw)) rest) flaw
  | .obj members key :: rest =>
    let members :=
      if due = .colon ∨ due = .value then (key, .broken flaw) :: members else members
    .failed (enclose flaw (.obj members.reverse (some flaw)) rest) flaw

/-- The flaw of a token where a value may stand. -/
def valueFlaw (due : Due) : Token → Flaw
  | .bad flaw _ => flaw
  | .finish => .always (if due = .firstItem then .endInList else .endInValue)
  | .bracketClose =>
    if due = .item then ⟨.trailingComma, .expectedValue⟩ else .always .expectedValue
  | _ => .always .expectedValue

/-- A token where a value may stand. -/
def stepValue (stack : List Frame) (due : Due) (token : Token) : Progress :=
  match token with
  | .null => place .null stack
  | .bool b => place (.bool b) stack
  | .num l => place (.num l.toNumber) stack
  | .str s => place (.str s) stack
  | .bracketOpen => .reading (.arr [] :: stack) .firstItem
  | .braceOpen => .reading (.obj [] (.ok "") :: stack) .firstKey
  | token => abandon stack due (valueFlaw due token)

/-- The flaw of a token where a key may stand. -/
def keyFlaw (due : Due) : Token → Flaw
  | .bad flaw true => flaw
  | .finish =>
    if due = .firstKey then .always .endInObject else ⟨.endInValue, .endInObject⟩
  | .braceClose => ⟨.trailingComma, .keyNotString⟩
  | _ => .always .keyNotString

/-- A token where a key may stand. -/
def stepKey (stack : List Frame) (due : Due) (token : Token) : Progress :=
  match token, stack with
  | .str s, .obj members _ :: rest => .reading (.obj members s :: rest) .colon
  | token, stack => abandon stack due (keyFlaw due token)

/-- The fault of a token behind a value. -/
def nextFault (stack : List Frame) (token : Token) : TextFault :=
  match stack, token with
  | .arr _ :: _, .finish => .endInList
  | .arr _ :: _, _ => .expectedListEnd
  | _, .finish => .endInObject
  | _, _ => .expectedObjectEnd

/-- A token behind a value. -/
def stepNext (stack : List Frame) (token : Token) : Progress :=
  match token, stack with
  | .comma, .arr _ :: _ => .reading stack .item
  | .comma, .obj _ _ :: _ => .reading stack .key
  | .bracketClose, .arr items :: rest => place (.arr items.reverse none) rest
  | .braceClose, .obj members _ :: rest => place (.obj members.reverse none) rest
  | token, stack => abandon stack .next (.always (nextFault stack token))

/-- Reads one token. -/
def step (progress : Progress) (token : Token) : Progress :=
  match progress with
  | .failed value flaw => .failed value flaw
  | .whole value => .whole value
  | .done value =>
    match token with
    | .finish => .whole value
    | _ => .failed value (.always .trailingCharacters)
  | .reading stack .value => stepValue stack .value token
  | .reading stack .item => stepValue stack .item token
  | .reading stack .firstItem =>
    match token, stack with
    | .bracketClose, .arr items :: rest => place (.arr items.reverse none) rest
    | token, stack => stepValue stack .firstItem token
  | .reading stack .firstKey =>
    match token, stack with
    | .braceClose, .obj members _ :: rest => place (.obj members.reverse none) rest
    | token, stack => stepKey stack .firstKey token
  | .reading stack .key => stepKey stack .key token
  | .reading stack .colon =>
    match token with
    | .colon => .reading stack .value
    | .finish => abandon stack .colon (.always .endInObject)
    | _ => abandon stack .colon (.always .expectedColon)
  | .reading stack .next => stepNext stack token

/-- What a text holds, and the flaw behind it if that is not one whole value. -/
def document (text : String) : Draft × Option Flaw :=
  match (tokens text).foldl step (.reading [] .value) with
  | .whole value | .done value => (value, none)
  | .failed value flaw => (value, some flaw)
  | .reading _ _ => (.broken (.always .endInValue), some (.always .endInValue))

end Parser

/-- The tree that a text writes. -/
def Json.parse (text : String) : Except TextFault Json :=
  match Parser.document text with
  | (draft, flaw) => do
    let tree ← draft.toJson Draft.maxDepth
    Draft.endOf flaw
    return tree

end SimEngine
