import RecordBridge.Text.Utf8

/-
  Headers — which bytes a header value may hold, and which names there are.
-/

namespace RecordBridge.Http

/-- Whether a byte may stand in a header value: no control byte but the tab. -/
def isValueByte (b : UInt8) : Bool := (32 ≤ b && b ≠ 127) || b = 9

/-- Whether some bytes are a header value. -/
def isHeaderValue (value : Bytes) : Bool := value.all isValueByte

/-- Whether a byte of a header value is plain text: a visible ASCII character, a space
or a tab. -/
def isPlainByte (b : UInt8) : Bool := (32 ≤ b && b < 127) || b = 9

/-- The text of a header value, if all of it is plain. -/
def plainText (value : Bytes) : Option String :=
  if value.all isPlainByte then some (String.ofList (value.map fun b => Char.ofNat b.toNat))
  else none

/-- Whether a character may stand in a header name. -/
def isNameChar (c : Char) : Bool :=
  c.isAlphanum || ['!', '#', '$', '%', '&', '\'', '*', '+', '-', '.', '^', '_', Char.ofNat 96,
    '|', '~'].contains c

/-- Whether a text is a header name. -/
def isHeaderName (name : String) : Bool :=
  name ≠ "" && name.utf8ByteSize ≤ 65535 && name.toList.all isNameChar

/-- A header of a request. -/
structure Header where
  name : String
  value : String
  /-- The value must not be shown. -/
  isSensitive : Bool
  deriving DecidableEq, Repr

end RecordBridge.Http
