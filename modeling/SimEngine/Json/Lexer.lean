import SimEngine.Json.Fault
import SimEngine.Number.Literal
/-!
# The tokens of a text

A text is read one character after the other. `Lexer.step` holds the token in
progress and the tokens before it; a character that cannot continue the token
in progress ends it and begins the next one. After a character that fits
nowhere the rest of the text is one `bad` token, and every text ends with the
token `finish`.

Strings are followed as who skips them does, who looks at their escapes only;
what a reader of the content would meet before is noted beside.
-/

namespace SimEngine

/-- A token of a data text. -/
inductive Token where
  | braceOpen
  | braceClose
  | bracketOpen
  | bracketClose
  | colon
  | comma
  | null
  | bool (value : Bool)
  | num (literal : Literal)
  /-- A string; without content if it holds half of a surrogate pair. -/
  | str (content : Except TextFault String)
  /-- What begins no token, or begins one that fails; `opensString` if with a quote. -/
  | bad (flaw : Flaw) (opensString : Bool)
  | finish

namespace Lexer

/-- What the next character of a string means. -/
inductive Escape where
  | none
  | started
  /-- Within `\uXXXX`: how many bytes were read, and their value if all were digits. -/
  | code (bytes : Nat) (value : Option Nat)
  deriving DecidableEq, Repr

/-- A string in progress. -/
structure Quote where
  /-- The characters so far, the last one first. -/
  content : List Char
  /-- The fault of the first half of a surrogate pair that stands alone. -/
  fault : Option TextFault
  /-- The first half of a surrogate pair, just read. -/
  high : Option Nat
  escape : Escape
  deriving DecidableEq, Repr

/-- Where within a number the text stands. -/
inductive Place where
  | sign
  | zero
  | whole
  | point
  | fraction
  | mark
  | markSign
  | power
  deriving DecidableEq, Repr

/-- The token in progress. -/
inductive Mode where
  | between
  | quote (q : Quote)
  /-- A number so far, the digits of each part the last one first. -/
  | number (place : Place) (literal : Literal)
  /-- The letters still missing of a word. -/
  | word (rest : List Char) (token : Token)
  | failed

end Lexer

/-- A text read up to some character. -/
structure Lexer where
  /-- The tokens so far, the last one first. -/
  tokens : List Token
  mode : Lexer.Mode

namespace Lexer

/-- The start of a text. -/
def start : Lexer := ⟨[], .between⟩

/-- The value of a digit in base 16. -/
def hexValue? (c : Char) : Option Nat :=
  if c.isDigit then some (c.toNat - '0'.toNat)
  else if 'a' ≤ c ∧ c ≤ 'f' then some (c.toNat - 'a'.toNat + 10)
  else if 'A' ≤ c ∧ c ≤ 'F' then some (c.toNat - 'A'.toNat + 10)
  else none

/-- The value of a decimal digit. -/
def digitValue (c : Char) : Nat := c.toNat - '0'.toNat

namespace Quote

/-- The start of a string. -/
def start : Quote := ⟨[], none, none, .none⟩

/-- The string once something other than a second half follows. -/
def unpaired (q : Quote) : Quote :=
  let fault := if q.high.isSome then some .brokenSurrogatePair else none
  { q with fault := q.fault <|> fault, high := none }

/-- The string with one more character. -/
def push (q : Quote) (c : Char) : Quote :=
  ⟨c :: q.content, q.fault, none, .none⟩

/-- The character that the two halves of a surrogate pair stand for. -/
def joined (high low : Nat) : Char :=
  Char.ofNat (0x10000 + (high - 0xD800) * 0x400 + (low - 0xDC00))

/-- The string with one more `\uXXXX`. -/
def pushCode (q : Quote) (code : Nat) : Quote :=
  let isLow := 0xDC00 ≤ code && code ≤ 0xDFFF
  let isHigh := 0xD800 ≤ code && code ≤ 0xDBFF
  match q.high, isLow with
  | some high, true => q.push (joined high code)
  | some _, false => ⟨q.content, q.fault <|> some .loneSurrogate, none, .none⟩
  | none, true => ⟨q.content, q.fault <|> some .loneSurrogate, none, .none⟩
  | none, false =>
    if isHigh then ⟨q.content, q.fault, some code, .none⟩ else q.push (Char.ofNat code)

/-- The content of a finished string, if it has one. -/
def finish (q : Quote) : Except TextFault String :=
  match q.fault with
  | none => .ok (String.ofList q.content.reverse)
  | some fault => .error fault

/-- The token of a string that fails. -/
def fail (q : Quote) (fault : TextFault) : Token :=
  .bad ⟨q.fault.getD fault, fault⟩ true

end Quote

/-- The character that a short escape stands for. -/
def escaped? : Char → Option Char
  | '"' => some '"'
  | '\\' => some '\\'
  | '/' => some '/'
  | 'b' => some '\x08'
  | 'f' => some '\x0c'
  | 'n' => some '\n'
  | 'r' => some '\r'
  | 't' => some '\t'
  | _ => none

/-- One character within a string. An `\uXXXX` is judged once four bytes of it are there. -/
def stepQuote (tokens : List Token) (q : Quote) (c : Char) : Lexer :=
  match q.escape with
  | .none =>
    if c = '"' then ⟨.str q.unpaired.finish :: tokens, .between⟩
    else if c = '\\' then ⟨tokens, .quote { q with escape := .started }⟩
    else if c.toNat < 32 then ⟨q.unpaired.fail .controlCharacter :: tokens, .failed⟩
    else ⟨tokens, .quote (q.unpaired.push c)⟩
  | .started =>
    if c = 'u' then ⟨tokens, .quote { q with escape := .code 0 (some 0) }⟩
    else
      match escaped? c with
      | some d => ⟨tokens, .quote (q.unpaired.push d)⟩
      | none => ⟨q.unpaired.fail .invalidEscape :: tokens, .failed⟩
  | .code bytes value =>
    let bytes := bytes + c.utf8Size
    let value := value.bind fun v => (hexValue? c).map (16 * v + ·)
    if bytes < 4 then ⟨tokens, .quote { q with escape := .code bytes value }⟩
    else
      match value with
      | some code => ⟨tokens, .quote (q.pushCode code)⟩
      | none => ⟨q.fail .invalidEscape :: tokens, .failed⟩

/-- The literal with its digits in reading order. -/
def orient (l : Literal) : Literal where
  negative := l.negative
  whole := l.whole.reverse
  fraction := l.fraction.map List.reverse
  power := l.power.map fun (negative, digits) => (negative, digits.reverse)

/-- Adds a digit to the fraction of a literal. -/
def pushFraction (l : Literal) (d : Nat) : Literal :=
  { l with fraction := some (d :: l.fraction.getD []) }

/-- Adds a digit to the exponent of a literal. -/
def pushPower (l : Literal) (d : Nat) : Literal :=
  let (negative, digits) := l.power.getD (false, [])
  { l with power := some (negative, d :: digits) }

/-- One character between tokens. -/
def stepBetween (tokens : List Token) (c : Char) : Lexer :=
  let emit (t : Token) : Lexer := ⟨t :: tokens, .between⟩
  match c with
  | ' ' | '\t' | '\n' | '\r' => ⟨tokens, .between⟩
  | '\x7b' => emit .braceOpen
  | '\x7d' => emit .braceClose
  | '[' => emit .bracketOpen
  | ']' => emit .bracketClose
  | ':' => emit .colon
  | ',' => emit .comma
  | '"' => ⟨tokens, .quote .start⟩
  | 'n' => ⟨tokens, .word ['u', 'l', 'l'] .null⟩
  | 't' => ⟨tokens, .word ['r', 'u', 'e'] (.bool true)⟩
  | 'f' => ⟨tokens, .word ['a', 'l', 's', 'e'] (.bool false)⟩
  | '-' => ⟨tokens, .number .sign ⟨true, [], none, none⟩⟩
  | '0' => ⟨tokens, .number .zero ⟨false, [0], none, none⟩⟩
  | c =>
    if c.isDigit then ⟨tokens, .number .whole ⟨false, [digitValue c], none, none⟩⟩
    else ⟨.bad (.always .expectedValue) false :: tokens, .failed⟩

/-- One character within a number. -/
def stepNumber (tokens : List Token) (place : Place) (l : Literal) (c : Char) : Lexer :=
  let go (place : Place) (l : Literal) : Lexer := ⟨tokens, .number place l⟩
  let stop : Lexer := stepBetween (.num (orient l) :: tokens) c
  let wrong : Lexer := ⟨.bad (.always .invalidNumber) false :: tokens, .failed⟩
  let isMark := c = 'e' ∨ c = 'E'
  match place with
  | .sign =>
    if c = '0' then go .zero { l with whole := [0] }
    else if c.isDigit then go .whole { l with whole := [digitValue c] }
    else wrong
  | .zero =>
    if c.isDigit then wrong
    else if c = '.' then go .point l
    else if isMark then go .mark l
    else stop
  | .whole =>
    if c.isDigit then go .whole { l with whole := digitValue c :: l.whole }
    else if c = '.' then go .point l
    else if isMark then go .mark l
    else stop
  | .point =>
    if c.isDigit then go .fraction (pushFraction l (digitValue c)) else wrong
  | .fraction =>
    if c.isDigit then go .fraction (pushFraction l (digitValue c))
    else if isMark then go .mark l
    else stop
  | .mark =>
    if c.isDigit then go .power (pushPower l (digitValue c))
    else if c = '+' then go .markSign { l with power := some (false, []) }
    else if c = '-' then go .markSign { l with power := some (true, []) }
    else wrong
  | .markSign =>
    if c.isDigit then go .power (pushPower l (digitValue c)) else wrong
  | .power =>
    if c.isDigit then go .power (pushPower l (digitValue c)) else stop

/-- Reads one character. -/
def step (x : Lexer) (c : Char) : Lexer :=
  match x.mode with
  | .between => stepBetween x.tokens c
  | .quote q => stepQuote x.tokens q c
  | .number place l => stepNumber x.tokens place l c
  | .word [] token => stepBetween (token :: x.tokens) c
  | .word (d :: rest) token =>
    if c ≠ d then ⟨.bad (.always .expectedWord) false :: x.tokens, .failed⟩
    else if rest.isEmpty then ⟨token :: x.tokens, .between⟩
    else ⟨x.tokens, .word rest token⟩
  | .failed => x

/-- The tokens of the text that ends here. -/
def finish (x : Lexer) : List Token :=
  let last : List Token :=
    match x.mode with
    | .between | .failed => []
    | .quote q => [q.fail .endInString]
    | .number .zero l | .number .whole l | .number .fraction l | .number .power l =>
      [.num (orient l)]
    | .number _ _ => [.bad ⟨.endInValue, .invalidNumber⟩ false]
    | .word _ _ => [.bad (.always .endInValue) false]
  x.tokens.reverse ++ last ++ [.finish]

end Lexer

/-- The tokens of a text. -/
def tokens (text : String) : List Token :=
  (text.toList.foldl Lexer.step Lexer.start).finish

end SimEngine
