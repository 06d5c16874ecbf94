import RecordBridge.Json
import RecordBridge.Text.Utf8

/-
  JSON syntax errors — what can be wrong with a JSON text, and where.

  A position is a line and a column of bytes, both counted from the start of
  the text: the column is the number of bytes since the last line feed.
-/

namespace RecordBridge

/-- What is wrong with a JSON text. -/
inductive JsonFault
  | endInList
  | endInObject
  | endInString
  | endInValue
  | expectedColon
  | expectedListEnd
  | expectedObjectEnd
  | expectedWord
  | expectedValue
  | invalidEscape
  | invalidNumber
  | numberOutOfRange
  | invalidText
  | controlCharacter
  | keyNotString
  | loneSurrogate
  | brokenSurrogatePair
  | trailingComma
  | trailingCharacters
  | tooDeep
  deriving DecidableEq, Repr

/-- The wording of a fault. -/
def JsonFault.message : JsonFault → String
  | endInList => "EOF while parsing a list"
  | endInObject => "EOF while parsing an object"
  | endInString => "EOF while parsing a string"
  | endInValue => "EOF while parsing a value"
  | expectedColon => "expected `:`"
  | expectedListEnd => "expected `,` or `]`"
  | expectedObjectEnd => "expected `,` or `\x7d`"
  | expectedWord => "expected ident"
  | expectedValue => "expected value"
  | invalidEscape => "invalid escape"
  | invalidNumber => "invalid number"
  | numberOutOfRange => "number out of range"
  | invalidText => "invalid unicode code point"
  | controlCharacter => "control character (\\u0000-\\u001F) found while parsing a string"
  | keyNotString => "key must be a string"
  | loneSurrogate => "lone leading surrogate in hex escape"
  | brokenSurrogatePair => "unexpected end of hex escape"
  | trailingComma => "trailing comma"
  | trailingCharacters => "trailing characters"
  | tooDeep => "recursion limit exceeded"

/-- A fault at a place of a text. -/
structure JsonError where
  fault : JsonFault
  line : Nat
  column : Nat
  deriving DecidableEq, Repr

/-- The wording of an error, with its place. -/
def JsonError.message (e : JsonError) : String :=
  e.fault.message ++ " at line " ++ toString e.line ++ " column " ++ toString e.column

/-- The line and column after one more byte. -/
def advancePlace (place : Nat × Nat) (b : UInt8) : Nat × Nat :=
  if b = 10 then (place.1 + 1, 0) else (place.1, place.2 + 1)

/-- The line and column after the given bytes. -/
def placeAfter (before : Bytes) : Nat × Nat := before.foldl advancePlace (1, 0)

end RecordBridge
