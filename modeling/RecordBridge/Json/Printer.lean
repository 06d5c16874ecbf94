import RecordBridge.Json
import RecordBridge.Decimal.Shortest

/-
  Printing — the compact text of a value, as it goes over the wire.

  No blanks, members in order. A string escapes the quote, the backslash and the
  control characters below U+0020 and nothing else. A double is written with its
  shortest digits: positionally while its decimal exponent lies between −5 and
  15, with one digit before the point and a signed exponent otherwise.
-/

namespace RecordBridge

open Decimal (Digits shortestOf)

/-! ### Numbers -/

/-- Where positional notation of doubles begins and ends. -/
structure RealFormat where
  /-- The least decimal exponent that is written positionally. -/
  leastPositional : Int
  /-- The greatest decimal exponent that is written positionally. -/
  greatestPositional : Int

/-- Doubles between `0.00001` and `10 ^ 16` are written positionally. -/
def Number.realFormat : RealFormat := ⟨-5, 15⟩

/-- The digits of a positive decimal, with a point or an exponent. -/
def RealFormat.text (format : RealFormat) (d : Digits) : String :=
  let digits := Nat.toDigits 10 d.digits
  let exponent : Int := d.exponent + digits.length - 1
  if format.leastPositional ≤ exponent ∧ exponent ≤ format.greatestPositional then
    if exponent < 0 then
      "0." ++ String.ofList (List.replicate (-exponent - 1).toNat '0' ++ digits)
    else
      let whole := exponent.toNat + 1
      let before := digits.take whole ++ List.replicate (whole - digits.length) '0'
      let after := if digits.length ≤ whole then ['0'] else digits.drop whole
      String.ofList (before ++ '.' :: after)
  else
    let fraction := if digits.length ≤ 1 then [] else '.' :: digits.drop 1
    let sign := if exponent < 0 then "-" else "+"
    String.ofList (digits.take 1 ++ fraction) ++ "e" ++ sign ++ toString exponent.natAbs

/-- The text of a double. -/
def realText (value : Float) : String :=
  let bits := value.toBits.toNat
  let sign := if bits / Nat.pow 2 63 % 2 = 1 then "-" else ""
  if bits % Nat.pow 2 63 = 0 then sign ++ "0.0"
  else sign ++ Number.realFormat.text (shortestOf value)

/-- The text of a number. -/
def Number.text : Number → String
  | .integer value => toString value
  | .real value => realText value

namespace Json

/-! ### Strings -/

/-- A hexadecimal digit, lower case. -/
def hexDigit (n : Nat) : Char :=
  if n < 10 then Char.ofNat (48 + n) else Char.ofNat (87 + n)

/-- One character inside quotes. -/
def escapeChar (c : Char) : List Char :=
  match c with
  | '"' => ['\\', '"']
  | '\\' => ['\\', '\\']
  | '\n' => ['\\', 'n']
  | '\r' => ['\\', 'r']
  | '\t' => ['\\', 't']
  | _ =>
    if c.toNat = 8 then ['\\', 'b']
    else if c.toNat = 12 then ['\\', 'f']
    else if c.toNat < 32 then
      ['\\', 'u', '0', '0', hexDigit (c.toNat / 16), hexDigit (c.toNat % 16)]
    else [c]

/-- A string in quotes. -/
def quote (s : String) : String :=
  String.ofList ('"' :: s.toList.flatMap escapeChar ++ ['"'])

/-! ### Values -/

/-- Texts with commas between them. -/
def commaSeparated (texts : List String) : String := String.intercalate "," texts

mutual

/-- The compact text of a value. -/
def text : Json → String
  | .null => "null"
  | .bool true => "true"
  | .bool false => "false"
  | .number n => n.text
  | .string s => quote s
  | .array items => "[" ++ commaSeparated (itemTexts items) ++ "]"
  | .object members => "\x7b" ++ commaSeparated (memberTexts members) ++ "\x7d"

/-- The texts of the items of an array. -/
def itemTexts : List Json → List String
  | [] => []
  | item :: rest => text item :: itemTexts rest

/-- The texts of the members of an object. -/
def memberTexts : List (String × Json) → List String
  | [] => []
  | (key, value) :: rest => (quote key ++ ":" ++ text value) :: memberTexts rest

end

end Json

end RecordBridge
