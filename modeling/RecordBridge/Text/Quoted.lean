import RecordBridge.Text.Visible

/-
  Quoted text for messages — a text in double quotes in which everything that a
  reader could not see is spelled out: the quote and the backslash behind a
  backslash, a few control characters by letter, and every other character
  without a shape of its own by its code point in braces.
-/

namespace RecordBridge.Quoted

/-- The code point of a character in braces, in hexadecimal. -/
def codePoint (c : Char) : List Char :=
  ['\\', 'u', '\x7b'] ++ Nat.toDigits 16 c.toNat ++ ['\x7d']

/-- One character between quotes. -/
def escape (c : Char) : List Char :=
  match c with
  | '"' => ['\\', '"']
  | '\\' => ['\\', '\\']
  | '\n' => ['\\', 'n']
  | '\r' => ['\\', 'r']
  | '\t' => ['\\', 't']
  | _ =>
    if c.toNat = 0 then ['\\', '0']
    else if Visible.isVisible c then [c]
    else codePoint c

/-- A text in quotes. -/
def quoted (text : String) : String :=
  String.ofList ('"' :: text.toList.flatMap escape ++ ['"'])

end RecordBridge.Quoted
