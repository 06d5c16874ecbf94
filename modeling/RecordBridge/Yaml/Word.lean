import RecordBridge.Decimal.Reader
import RecordBridge.Json
import RecordBridge.Text.Utf8

/-
  Words — the values of plain scalars.

  A plain word is null, a truth value or a number if it looks like one, and a
  string otherwise; digits behind a needless zero are a string. Integers have up
  to 128 bits, and greater numbers are doubles.
-/

namespace RecordBridge.Yaml

open Numeral (areDecimal splitSign)

/-- Whether a word is one for null. -/
def isNull (word : String) : Bool := ["~", "null", "Null", "NULL"].contains word

/-- The truth value of a word. -/
def truth? (word : String) : Option Bool :=
  if ["true", "True", "TRUE"].contains word then some true
  else if ["false", "False", "FALSE"].contains word then some false
  else none

/-! ### Integers -/

/-- The greatest integer. -/
def maxInteger : Int := 340282366920938463463374607431768211455

/-- The least integer. -/
def minInteger : Int := -170141183460469231731687303715884105728

/-- The natural number of a word without sign. -/
def natural? : List Char → Option Nat
  | '0' :: 'x' :: rest => if rest.isEmpty then none else Numeral.natural? 16 rest
  | '0' :: 'o' :: rest => if rest.isEmpty then none else Numeral.natural? 8 rest
  | '0' :: 'b' :: rest => if rest.isEmpty then none else Numeral.natural? 2 rest
  | '0' :: _ :: _ => none
  | word => if areDecimal word then Numeral.natural? 10 word else none

/-- The integer of a word. -/
def integer? (word : List Char) : Option Int := do
  let (sign, digits) := splitSign word
  let n ← natural? digits
  let value := if sign = some '-' then -(n : Int) else n
  if minInteger ≤ value ∧ value ≤ maxInteger then some value else none

/-! ### Doubles -/

/-- The double of a word for something that is no finite number. -/
def special? (word : String) : Option Float :=
  if [".inf", ".Inf", ".INF", "+.inf", "+.Inf", "+.INF"].contains word then some (1.0 / 0.0)
  else if ["-.inf", "-.Inf", "-.INF"].contains word then some (-1.0 / 0.0)
  else if [".nan", ".NaN", ".NAN"].contains word then some (0.0 / 0.0)
  else none

/-- The double of a word. -/
def double? (word : String) : Option Float :=
  (special? word).orElse fun _ => (Decimal.real? word.toList).filter (·.isFinite)

/-- Whether a word consists of digits behind a needless zero. -/
def isZeroPadded (word : List Char) : Bool :=
  let digits := (splitSign word).2
  areDecimal digits && digits.head? = some '0' && 1 < digits.length

/-! ### Values -/

/-- The value of a plain word. -/
def ofWord (word : String) : Json :=
  if word.isEmpty ∨ isNull word then .null
  else
    match truth? word, integer? word.toList with
    | some b, _ => .bool b
    | none, some n => .ofInt n
    | none, none =>
      match if isZeroPadded word.toList then none else double? word with
      | some f => .number (.real f)
      | none => .string word

/-- The full name of one of the tags that every document knows. -/
def commonTag (name : String) : Bytes := Utf8.encode ("tag:yaml.org,2002:" ++ name)

/-- The value of a word with a tag. Apart from the tags of null, truth values and numbers it
is a string. -/
def ofTaggedWord? (tag : Bytes) (word : String) : Option Json :=
  if tag = commonTag "null" then if isNull word then some .null else none
  else if tag = commonTag "bool" then (truth? word).map .bool
  else if tag = commonTag "int" then (integer? word.toList).map .ofInt
  else if tag = commonTag "float" then (double? word).map fun f => .number (.real f)
  else some (.string word)

end RecordBridge.Yaml
