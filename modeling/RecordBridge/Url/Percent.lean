import RecordBridge.Text.Numeral
import RecordBridge.Text.Utf8

/-
  Percent escapes — a byte as `%` and two hexadecimal digits.

  Each part of a URL has its own set of characters that are written as escapes;
  the sets grow from one part to the next. All of them hold the control
  characters and everything beyond ASCII.
-/

namespace RecordBridge.Percent

/-! ### The sets -/

/-- Control characters and characters beyond ASCII. -/
def inControls (c : Char) : Bool := c.toNat < 0x20 || 0x7E < c.toNat

/-- What is escaped in a fragment. -/
def inFragment (c : Char) : Bool :=
  inControls c || c = ' ' || c = '"' || c = '<' || c = '>' || c = Char.ofNat 0x60

/-- What is escaped in a query. -/
def inQuery (c : Char) : Bool :=
  inControls c || c = ' ' || c = '"' || c = '#' || c = '<' || c = '>'

/-- What is escaped in the query of a special scheme. -/
def inSpecialQuery (c : Char) : Bool := inQuery c || c = '\''

/-- What is escaped in a path. -/
def inPath (c : Char) : Bool :=
  inFragment c || c = '#' || c = '?' || c = '\x7b' || c = '\x7d'

/-- What is escaped in a user name and a password. -/
def inCredentials (c : Char) : Bool :=
  inPath c || ['/', ':', ';', '=', '@', '[', '\\', ']', '^', '|'].contains c

/-! ### Writing and reading -/

/-- A hexadecimal digit, as a capital. -/
def hexDigit (n : Nat) : Char := if n < 10 then Char.ofNat (48 + n) else Char.ofNat (55 + n)

/-- The escape of a byte. -/
def escape (b : UInt8) : List Char := ['%', hexDigit (b.toNat / 16), hexDigit (b.toNat % 16)]

/-- Writes the characters of a set as escapes. -/
def encode (escaped : Char → Bool) (text : List Char) : List Char :=
  text.flatMap fun c => if escaped c then (String.utf8EncodeChar c).flatMap escape else [c]

/-- The byte that two hexadecimal digits stand for. -/
def byte? (high low : Char) : Option UInt8 := do
  return (UInt8.ofNat ((← Numeral.value? high) * 16 + (← Numeral.value? low)))

/-- The byte that an escape at the front of a text stands for, after its percent sign. -/
def front? : List Char → Option UInt8
  | high :: low :: _ => byte? high low
  | _ => none

/-- The bytes of a text after its first `skip` characters. -/
def decodeFrom : Nat → List Char → Bytes
  | _, [] => []
  | skip + 1, _ :: rest => decodeFrom skip rest
  | 0, c :: rest =>
    match if c = '%' then front? rest else none with
    | some b => b :: decodeFrom 2 rest
    | none => String.utf8EncodeChar c ++ decodeFrom 0 rest

/-- The bytes of a text in which escapes are taken for their bytes. A percent sign that
starts no escape stands for itself. -/
def decode (text : List Char) : Bytes := decodeFrom 0 text

end RecordBridge.Percent
