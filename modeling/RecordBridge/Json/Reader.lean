import RecordBridge.Json.Syntax

/-
  Reading JSON text — bytes to values, or the first fault and its place.

  The readers walk along the bytes; each gives the value it has read and the
  bytes that are left. A fault is raised with the bytes that were left at that
  moment, from which `Json.ofBytes` computes its place. A repeated member keeps
  its first place and takes its last value; surrogates must come in pairs; the
  text of a string must be well-formed UTF-8, which is looked at when its closing
  quote has been found; arrays and objects may nest to a fixed depth.
-/

namespace RecordBridge.Json

namespace Reader

/-- A fault together with the bytes that follow its place. -/
structure Stop where
  fault : JsonFault
  left : Bytes

/-- What a reader answers: a result and the bytes that are left. -/
abbrev Outcome (α : Type) := Except Stop (α × Bytes)

/-- Stops just before the bytes `left`. -/
def stopAt {α : Type} (fault : JsonFault) (left : Bytes) : Except Stop α :=
  .error ⟨fault, left⟩

/-- Stops after the next byte, the one that does not fit. -/
def stopPast {α : Type} (fault : JsonFault) (left : Bytes) : Except Stop α :=
  .error ⟨fault, left.drop 1⟩

/-- Leaves out blanks, tabs, line feeds and carriage returns. -/
def skipBlanks (bytes : Bytes) : Bytes :=
  bytes.dropWhile fun b => b = 32 || b = 10 || b = 9 || b = 13

/-! ### Numbers -/

/-- Whether a byte is a decimal digit. -/
def isDigit (b : UInt8) : Bool := 48 ≤ b && b ≤ 57

/-- The value of a digit. -/
def digitValue (b : UInt8) : Nat := b.toNat - 48

/-- The greatest significand that is kept exactly. -/
def maxSignificand : Nat := Nat.pow 2 64 - 1

/-- Reads digits into a significand while it stays within `bound`: the
significand, the number of digits taken, and the rest. -/
def takeDigits (bound : Nat) : Nat → Nat → Bytes → Nat × Nat × Bytes
  | significand, count, [] => (significand, count, [])
  | significand, count, b :: rest =>
    if isDigit b ∧ significand * 10 + digitValue b ≤ bound then
      takeDigits bound (significand * 10 + digitValue b) (count + 1) rest
    else (significand, count, b :: rest)

/-- A power of ten as a double. -/
def powerOfTen (n : Nat) : Float := Float.ofScientific 1 false n

/-- `f · 10 ^ exponent`, computed by one division or multiplication with a power of
ten after as many divisions by `10 ^ 308` as are needed; nothing when the result
is too great for a double. -/
def scaleByTen (f : Float) (exponent : Int) : Option Float :=
  if exponent.natAbs ≤ 308 then
    if 0 ≤ exponent then
      let product := f * powerOfTen exponent.natAbs
      if product.isInf then none else some product
    else some (f / powerOfTen exponent.natAbs)
  else if f == 0.0 then some f
  else if 0 ≤ exponent then none
  else scaleByTen (f / powerOfTen 308) (exponent + 308)
termination_by (-exponent).toNat
decreasing_by omega

/-- The double of a significand and an exponent. -/
def real (positive : Bool) (significand : Nat) (exponent : Int) (left : Bytes) :
    Outcome Number :=
  match scaleByTen (Float.ofNat significand) exponent with
  | some f => .ok (.real (if positive then f else -f), left)
  | none => stopAt .numberOutOfRange left

/-- The exponent part, after its letter. -/
def exponentPart (positive : Bool) (significand : Nat) (start : Int) (bytes : Bytes) :
    Outcome Number :=
  let (up, bytes) :=
    match bytes with
    | b :: rest => if b = 43 then (true, rest) else if b = 45 then (false, rest) else (true, bytes)
    | [] => (true, [])
  match bytes with
  | [] => stopAt .endInValue []
  | b :: rest =>
    if isDigit b then
      let (exponent, _, rest) := takeDigits (Nat.pow 2 31 - 1) (digitValue b) 1 rest
      match rest with
      | c :: after =>
        if isDigit c then
          if significand ≠ 0 ∧ up then stopAt .numberOutOfRange after
          else .ok (.real (if positive then 0.0 else -0.0), after.dropWhile isDigit)
        else real positive significand (if up then start + exponent else start - exponent) rest
      | [] => real positive significand (if up then start + exponent else start - exponent) rest
    else stopAt .invalidNumber rest

/-- What may follow the digits of a number that is a double already. -/
def realTail (positive : Bool) (significand : Nat) (exponent : Int) (bytes : Bytes) :
    Outcome Number :=
  match bytes with
  | b :: rest =>
    if b = 101 ∨ b = 69 then exponentPart positive significand exponent rest
    else real positive significand exponent bytes
  | [] => real positive significand exponent []

/-- The digits after the point. Those that the significand cannot take any more
are left out. -/
def fractionPart (positive : Bool) (significand : Nat) (exponent : Int) (bytes : Bytes) :
    Outcome Number :=
  let (significand', count, rest) := takeDigits maxSignificand significand 0 bytes
  match rest with
  | b :: _ =>
    if isDigit b then
      realTail positive significand' (exponent - count) (rest.dropWhile isDigit)
    else if count = 0 then stopPast .invalidNumber rest
    else realTail positive significand' (exponent - count) rest
  | [] =>
    if count = 0 then stopAt .endInValue []
    else realTail positive significand' (exponent - count) []

/-- An integer without fraction and exponent: out of the range of 64 bits it is a
double, and so is minus zero. -/
def integer (positive : Bool) (significand : Nat) : Number :=
  if positive then .integer significand
  else if significand = 0 ∨ Nat.pow 2 63 < significand then .real (-(Float.ofNat significand))
  else .integer (-significand)

/-- What follows the digits before the point. -/
def afterInteger (positive : Bool) (significand : Nat) (bytes : Bytes) : Outcome Number :=
  match bytes with
  | b :: rest =>
    if b = 46 then fractionPart positive significand 0 rest
    else if b = 101 ∨ b = 69 then exponentPart positive significand 0 rest
    else .ok (integer positive significand, bytes)
  | [] => .ok (integer positive significand, [])

/-- What follows when there are more digits before the point than the significand
can take: each of them counts for the exponent only. -/
def longInteger (positive : Bool) (significand : Nat) (bytes : Bytes) : Outcome Number :=
  let rest := bytes.dropWhile isDigit
  let exponent : Int := bytes.length - rest.length
  match rest with
  | b :: rest' =>
    if b = 46 then fractionPart positive significand exponent rest'
    else realTail positive significand exponent rest
  | [] => real positive significand exponent []

/-- A number, after its sign. -/
def number (positive : Bool) (bytes : Bytes) : Outcome Number :=
  match bytes with
  | [] => stopAt .endInValue []
  | b :: rest =>
    if b = 48 then
      match rest with
      | c :: _ => if isDigit c then stopPast .invalidNumber rest else afterInteger positive 0 rest
      | [] => afterInteger positive 0 []
    else if isDigit b then
      let (significand, _, rest) := takeDigits maxSignificand (digitValue b) 1 rest
      match rest with
      | c :: _ =>
        if isDigit c then longInteger positive significand rest
        else afterInteger positive significand rest
      | [] => afterInteger positive significand []
    else stopAt .invalidNumber rest

/-! ### Strings -/

/-- The value of a hexadecimal digit. -/
def hexValue (b : UInt8) : Option Nat :=
  if 48 ≤ b ∧ b ≤ 57 then some (b.toNat - 48)
  else if 97 ≤ b ∧ b ≤ 102 then some (b.toNat - 87)
  else if 65 ≤ b ∧ b ≤ 70 then some (b.toNat - 55)
  else none

/-- Four hexadecimal digits. -/
def hexQuad (bytes : Bytes) : Outcome Nat :=
  match bytes with
  | a :: b :: c :: d :: rest =>
    match hexValue a, hexValue b, hexValue c, hexValue d with
    | some a, some b, some c, some d => .ok (((a * 16 + b) * 16 + c) * 16 + d, rest)
    | _, _, _, _ => stopAt .invalidEscape rest
  | _ => stopAt .endInString []

/-- The second half of a surrogate pair. -/
def lowSurrogate (high : Nat) (bytes : Bytes) : Except Stop (Char × Bytes) :=
  match bytes with
  | [] => stopAt .endInString []
  | b :: rest =>
    if b = 92 then
      match rest with
      | [] => stopAt .endInString []
      | c :: rest' =>
        if c = 117 then do
          let (low, rest'') ← hexQuad rest'
          if 0xDC00 ≤ low ∧ low ≤ 0xDFFF then
            return (Char.ofNat ((high - 0xD800) * 1024 + (low - 0xDC00) + 0x10000), rest'')
          else stopAt .loneSurrogate rest''
        else stopAt .brokenSurrogatePair rest'
    else stopAt .brokenSurrogatePair rest

/-- What follows a backslash: the character that it stands for. -/
def escape (bytes : Bytes) : Except Stop (Char × Bytes) :=
  match bytes with
  | [] => stopAt .endInString []
  | b :: rest =>
    if b = 34 ∨ b = 92 ∨ b = 47 then .ok (Char.ofNat b.toNat, rest)
    else if b = 98 then .ok (Char.ofNat 8, rest)
    else if b = 102 then .ok (Char.ofNat 12, rest)
    else if b = 110 then .ok ('\n', rest)
    else if b = 114 then .ok ('\r', rest)
    else if b = 116 then .ok ('\t', rest)
    else if b = 117 then do
      let (unit, rest) ← hexQuad rest
      if 0xDC00 ≤ unit ∧ unit ≤ 0xDFFF then stopAt .loneSurrogate rest
      else if 0xD800 ≤ unit ∧ unit ≤ 0xDBFF then lowSurrogate unit rest
      else return (Char.ofNat unit, rest)
    else stopAt .invalidEscape rest

/-- The bytes of a string up to its closing quote, with what escapes stand for in their
place, in at most `fuel` steps. The bytes read so far are in `seen`, last first. -/
def stringLoop : Nat → Bytes → Bytes → Outcome Bytes
  | 0, _, left => stopAt .endInString left
  | _ + 1, _, [] => stopAt .endInString []
  | fuel + 1, seen, b :: rest =>
    if b = 34 then .ok (seen.reverse, rest)
    else if b = 92 then
      match escape rest with
      | .ok (decoded, rest') =>
        stringLoop fuel ((String.utf8EncodeChar decoded).reverse ++ seen) rest'
      | .error stop => .error stop
    else if b < 32 then stopAt .controlCharacter rest
    else stringLoop fuel (b :: seen) rest

/-- The rest of a string after its opening quote. Only the string as a whole is looked at
for broken text; its place is as far before the end of the string as the bytes from the
first broken one on are long. -/
def string (bytes : Bytes) : Outcome String :=
  match stringLoop (bytes.length + 1) [] bytes with
  | .error stop => .error stop
  | .ok (content, rest) =>
    let (chars, broken) := Utf8.decode content
    if broken.isEmpty then .ok (String.ofList chars, rest)
    else stopAt .invalidText (bytes.drop (bytes.length - rest.length - broken.length))

/-! ### Values -/

/-- The remaining letters of a word. -/
def word : List UInt8 → Bytes → Except Stop Bytes
  | [], bytes => .ok bytes
  | _ :: _, [] => stopAt .endInValue []
  | c :: cs, b :: rest => if b = c then word cs rest else stopAt .expectedWord rest

/-- The items of an array after its bracket, in at most `fuel` steps; `first` says
that none has been read yet. -/
def items (element : Bytes → Outcome Json) :
    Nat → Bool → List Json → Bytes → Outcome (List Json)
  | 0, _, _, left => stopAt .endInList left
  | fuel + 1, first, seen, bytes =>
    match skipBlanks bytes with
    | [] => stopAt .endInList []
    | b :: rest =>
      if b = 93 then .ok (seen.reverse, rest)
      else if first then
        match element (b :: rest) with
        | .ok (item, rest') => items element fuel false (item :: seen) rest'
        | .error stop => .error stop
      else if b = 44 then
        match skipBlanks rest with
        | [] => stopAt .endInValue []
        | c :: rest' =>
          if c = 93 then stopPast .trailingComma (c :: rest')
          else
            match element (c :: rest') with
            | .ok (item, rest'') => items element fuel false (item :: seen) rest''
            | .error stop => .error stop
      else stopPast .expectedListEnd (b :: rest)

/-- One member, after the quote that opens its name. -/
def member (element : Bytes → Outcome Json) (bytes : Bytes) :
    Except Stop ((String × Json) × Bytes) := do
  let (key, rest) ← string bytes
  match skipBlanks rest with
  | [] => stopAt .endInObject []
  | b :: rest' =>
    if b = 58 then
      let (value, rest'') ← element rest'
      return ((key, value), rest'')
    else stopPast .expectedColon (b :: rest')

/-- The members of an object after its brace, in at most `fuel` steps; `first` says
that none has been read yet. -/
def members (element : Bytes → Outcome Json) :
    Nat → Bool → List (String × Json) → Bytes → Outcome (List (String × Json))
  | 0, _, _, left => stopAt .endInObject left
  | fuel + 1, first, seen, bytes =>
    match skipBlanks bytes with
    | [] => stopAt .endInObject []
    | b :: rest =>
      if b = 125 then .ok (seen, rest)
      else if first then
        if b = 34 then
          match member element rest with
          | .ok (m, rest') => members element fuel false (insertEntry m.1 m.2 seen) rest'
          | .error stop => .error stop
        else stopPast .keyNotString (b :: rest)
      else if b = 44 then
        match skipBlanks rest with
        | [] => stopAt .endInValue []
        | c :: rest' =>
          if c = 34 then
            match member element rest' with
            | .ok (m, rest'') => members element fuel false (insertEntry m.1 m.2 seen) rest''
            | .error stop => .error stop
          else if c = 125 then stopPast .trailingComma (c :: rest')
          else stopPast .keyNotString (c :: rest')
      else stopPast .expectedObjectEnd (b :: rest)

/-- A value; arrays and objects may nest less than `depth` deep. -/
def value : Nat → Bytes → Outcome Json
  | depth, bytes =>
    match skipBlanks bytes with
    | [] => stopAt .endInValue []
    | b :: rest =>
      if b = 110 then (word [117, 108, 108] rest).map fun left => (.null, left)
      else if b = 116 then (word [114, 117, 101] rest).map fun left => (.bool true, left)
      else if b = 102 then (word [97, 108, 115, 101] rest).map fun left => (.bool false, left)
      else if b = 45 then (number false rest).map fun (n, left) => (.number n, left)
      else if isDigit b then (number true (b :: rest)).map fun (n, left) => (.number n, left)
      else if b = 34 then (string rest).map fun (s, left) => (.string s, left)
      else if b = 91 ∨ b = 123 then
        match depth with
        | 0 => stopPast .tooDeep (b :: rest)
        | depth + 1 =>
          if b = 91 then
            (items (value depth) (rest.length + 1) true [] rest).map
              fun (xs, left) => (.array xs, left)
          else
            (members (value depth) (rest.length + 1) true [] rest).map
              fun (ms, left) => (.object ms, left)
      else stopPast .expectedValue (b :: rest)

end Reader

/-- Reads a whole text whose arrays and objects nest at most `depth` deep. -/
def ofBytesWithin (depth : Nat) (bytes : Bytes) : Except JsonError Json :=
  let place (fault : JsonFault) (left : Bytes) : JsonError :=
    let (line, column) := placeAfter (bytes.take (bytes.length - left.length))
    ⟨fault, line, column⟩
  match Reader.value depth bytes with
  | .error stop => .error (place stop.fault stop.left)
  | .ok (json, left) =>
    match Reader.skipBlanks left with
    | [] => .ok json
    | _ :: left' => .error (place .trailingCharacters left')

/-- How deep arrays and objects may nest. -/
def nestingLimit : Nat := 127

/-- Reads a whole text. -/
def ofBytes (bytes : Bytes) : Except JsonError Json := ofBytesWithin nestingLimit bytes

end RecordBridge.Json
