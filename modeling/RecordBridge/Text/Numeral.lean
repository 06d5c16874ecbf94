/-
  Numerals — the numbers that rows of digits stand for, in bases up to sixteen.
-/

namespace RecordBridge.Numeral

/-- The value of a digit, in either case. -/
def value? (c : Char) : Option Nat :=
  if '0' ≤ c ∧ c ≤ '9' then some (c.toNat - 48)
  else if 'a' ≤ c ∧ c ≤ 'f' then some (c.toNat - 87)
  else if 'A' ≤ c ∧ c ≤ 'F' then some (c.toNat - 55)
  else none

/-- The number that digits stand for; without a digit it is zero. -/
def natural? (base : Nat) (digits : List Char) : Option Nat :=
  digits.foldlM (fun n c => do
    let d ← value? c
    if d < base then some (n * base + d) else none) 0

/-- Whether a text is not empty and consists of decimal digits. -/
def areDecimal (text : List Char) : Bool := !text.isEmpty && text.all (·.isDigit)

/-- A sign at the front of a text, and what is left. -/
def splitSign : List Char → Option Char × List Char
  | '+' :: rest => (some '+', rest)
  | '-' :: rest => (some '-', rest)
  | text => (none, text)

end RecordBridge.Numeral
