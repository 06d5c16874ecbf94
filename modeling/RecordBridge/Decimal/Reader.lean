import RecordBridge.Text.Numeral

/-
  Reading decimals — the double of a number in decimal notation.

  There may be a sign, a fraction and an exponent; at least one digit must stand
  before or after the point. A number too great for a double is infinite.
-/

namespace RecordBridge.Decimal

open Numeral (areDecimal splitSign)

/-- The exponent behind its letter. -/
def exponent? (text : List Char) : Option Int :=
  let (sign, digits) := splitSign text
  if areDecimal digits then
    (Numeral.natural? 10 digits).map fun n => if sign = some '-' then -(n : Int) else n
  else none

/-- Whether a character starts an exponent. -/
def isExponentSign (c : Char) : Bool := c = 'e' || c = 'E'

/-- The double nearest to `significand · 10 ^ exponent`. Beyond `10 ^ ±400` there is nothing
to compute. -/
def nearest (significand : Nat) (exponent : Int) : Float :=
  let size : Int := (Nat.toDigits 10 significand).length
  if significand = 0 ∨ size + exponent < -400 then 0.0
  else if 400 < size + exponent then 1.0 / 0.0
  else Float.ofScientific significand (exponent < 0) exponent.natAbs

/-- The double of a number without sign. -/
def unsigned? (text : List Char) : Option Float := do
  let mantissa := text.takeWhile (!isExponentSign ·)
  let tail := text.drop mantissa.length
  let whole := mantissa.takeWhile (·.isDigit)
  let fraction := mantissa.drop (whole.length + 1)
  if mantissa.length = whole.length ∨ mantissa = whole ++ '.' :: fraction then
    if areDecimal (whole ++ fraction) then
      let exponent ← if tail.isEmpty then some 0 else exponent? (tail.drop 1)
      let significand ← Numeral.natural? 10 (whole ++ fraction)
      return nearest significand (exponent - fraction.length)
    else none
  else none

/-- The double of a number. -/
def real? (text : List Char) : Option Float :=
  let (sign, digits) := splitSign text
  (unsigned? digits).map fun f => if sign = some '-' then -f else f

end RecordBridge.Decimal
