import FieldRules.Text.Basic

namespace FieldRules.Json

inductive Cause where
  | endInList | endInObject | endInString | endInValue
  | expectedColon | expectedListCommaOrEnd | expectedObjectCommaOrEnd
  | expectedIdent | expectedValue
  | invalidEscape | invalidNumber | numberOutOfRange
  | controlCharacter | keyNotString | loneSurrogate
  | trailingComma | trailingCharacters | unexpectedEndOfHexEscape
  | recursionLimit
  deriving DecidableEq

def Cause.message : Cause → String
  | endInList => "EOF while parsing a list"
  | endInObject => "EOF while parsing an object"
  | endInString => "EOF while parsing a string"
  | endInValue => "EOF while parsing a value"
  | expectedColon => "expected `:`"
  | expectedListCommaOrEnd => "expected `,` or `]`"
  | expectedObjectCommaOrEnd => "expected `,` or `\x7d`"
  | expectedIdent => "expected ident"
  | expectedValue => "expected value"
  | invalidEscape => "invalid escape"
  | invalidNumber => "invalid number"
  | numberOutOfRange => "number out of range"
  | controlCharacter => "control character (\\u0000-\\u001F) found while parsing a string"
  | keyNotString => "key must be a string"
  | loneSurrogate => "lone leading surrogate in hex escape"
  | trailingComma => "trailing comma"
  | trailingCharacters => "trailing characters"
  | unexpectedEndOfHexEscape => "unexpected end of hex escape"
  | recursionLimit => "recursion limit exceeded"

/-- A refusal inside a text: it shows `ahead` bytes into `rest`, the text not read yet. -/
structure Fault where
  cause : Cause
  rest : List Char
  ahead : Nat := 0

/-- A refusal with its line and its column, which counts bytes; both start at 1, and the column is
that of the byte read last. -/
structure Error where
  cause : Cause
  line : Nat
  column : Nat
  deriving DecidableEq

def Error.message (e : Error) : String :=
  s!"{e.cause.message} at line {e.line} column {e.column}"

/-- Line and column after the first `n` bytes of a text, starting from `line` and `column`. -/
def position (line column : Nat) : (n : Nat) → List Char → Nat × Nat
  | 0, _ => (line, column)
  | _, [] => (line, column)
  | n, c :: cs =>
    if n < c.utf8Size then (line, column + n)
    else if c = '\n' then position (line + 1) 0 (n - 1) cs
    else position line (column + c.utf8Size) (n - c.utf8Size) cs

/-- Places a fault in the text it arose in. -/
def Fault.locate (f : Fault) (text : List Char) : Error :=
  let size := Text.byteLength text
  let place := position 1 0 (min size (size - Text.byteLength f.rest + f.ahead)) text
  ⟨f.cause, place.1, place.2⟩

end FieldRules.Json
