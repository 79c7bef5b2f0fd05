import Alerting.Text.Basic

/-!
# Why a text is refused

Reading stops at the first fault. A malformed text is told with the place where it was noticed, as
the number of bytes that were left to read; a text that is well formed so far but of another shape
than asked for is a mismatch.
-/

namespace Alerting.Json

/-- How a text breaks the rules of JSON. -/
inductive Cause where
  | endInList
  | endInObject
  | endInText
  | endInValue
  | expectedColon
  | expectedListEnd
  | expectedObjectEnd
  | expectedWord
  | expectedValue
  | invalidEscape
  | invalidNumber
  | numberOutOfRange
  | controlCharacter
  | nameNotText
  | loneSurrogate
  | trailingComma
  | trailingCharacters
  | brokenSurrogatePair
  | tooDeep
  deriving DecidableEq

def Cause.message : Cause → String
  | .endInList => "EOF while parsing a list"
  | .endInObject => "EOF while parsing an object"
  | .endInText => "EOF while parsing a string"
  | .endInValue => "EOF while parsing a value"
  | .expectedColon => "expected `:`"
  | .expectedListEnd => "expected `,` or `]`"
  | .expectedObjectEnd => "expected `,` or `\x7d`"
  | .expectedWord => "expected ident"
  | .expectedValue => "expected value"
  | .invalidEscape => "invalid escape"
  | .invalidNumber => "invalid number"
  | .numberOutOfRange => "number out of range"
  | .controlCharacter => "control character (\\u0000-\\u001F) found while parsing a string"
  | .nameNotText => "key must be a string"
  | .loneSurrogate => "lone leading surrogate in hex escape"
  | .trailingComma => "trailing comma"
  | .trailingCharacters => "trailing characters"
  | .brokenSurrogatePair => "unexpected end of hex escape"
  | .tooDeep => "recursion limit exceeded"

/-- The text is too short rather than wrong. -/
def Cause.IsEnd (c : Cause) : Prop :=
  c = .endInList ∨ c = .endInObject ∨ c = .endInText ∨ c = .endInValue

instance (c : Cause) : Decidable c.IsEnd := inferInstanceAs (Decidable (_ ∨ _ ∨ _ ∨ _))

/-- Why a text is refused. -/
inductive Fault where
  /-- The text is not JSON; `left` bytes were still to be read. -/
  | malformed (cause : Cause) (left : Nat)
  /-- The value has another shape than asked for; the reason is told where there is more to say. -/
  | mismatch (reason : Option String)
  deriving DecidableEq

namespace Fault

/-- A fault that is noticed in front of `rest`, with everything before it read. -/
def here (cause : Cause) (rest : List Char) : Fault := .malformed cause (Text.byteLength rest)

/-- A fault of the first byte of `rest`. -/
def next (cause : Cause) (rest : List Char) : Fault := .malformed cause (Text.byteLength rest - 1)

inductive Kind where
  | malformed
  | ended
  | mismatch
  deriving DecidableEq

def kind : Fault → Kind
  | .malformed cause _ => if cause.IsEnd then .ended else .malformed
  | .mismatch _ => .mismatch

/-- The line and the column of a byte offset: the lines that end before it, counted from one, and
the bytes of its line in front of it. -/
def place : Nat → Nat → Nat → List Char → Nat × Nat
  | line, column, _, [] => (line, column)
  | line, column, offset, c :: cs =>
    if offset < c.utf8Size then (line, column + offset)
    else if c = '\n' then place (line + 1) 0 (offset - 1) cs
    else place line (column + c.utf8Size) (offset - c.utf8Size) cs

def describe (text : List Char) : Fault → String
  | .malformed cause left =>
    let p := place 1 0 (Text.byteLength text - left) text
    cause.message ++ " at line " ++ toString p.1 ++ " column " ++ toString p.2
  | .mismatch reason => reason.getD "mismatched value"

end Fault

/-- Reads something off the front of a text. -/
abbrev Reader (α : Type) := List Char → Except Fault (α × List Char)

end Alerting.Json
