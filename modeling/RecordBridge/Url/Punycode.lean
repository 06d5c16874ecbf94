import RecordBridge.Text.Utf8

/-
  Punycode — labels beyond ASCII in letters, digits and hyphens.

  The ASCII characters of a label come first, then a hyphen if there are any.
  The other characters follow in the order of their code points as steps from
  one insertion to the next; a step is a number in base 36 whose digits have
  thresholds that adapt to the steps so far.
-/

namespace RecordBridge.Punycode

/-- The base of the digits. -/
def base : Nat := 36

/-- The threshold of the digit at place `k`; places count by the base. -/
def threshold (k bias : Nat) : Nat := min 26 (max 1 (k - bias))

theorem threshold_pos (k bias : Nat) : 1 ≤ threshold k bias := by
  unfold threshold
  omega

/-- Divides a step down until it is small, counting places. -/
def scaleDown (delta k : Nat) : Nat :=
  if 455 < delta then scaleDown (delta / 35) (k + base)
  else k + 36 * delta / (delta + 38)
termination_by delta
decreasing_by exact Nat.div_lt_self (by omega) (by omega)

/-- The bias after a step; `count` characters have been inserted. -/
def adapt (delta count : Nat) (first : Bool) : Nat :=
  let delta := if first then delta / 700 else delta / 2
  scaleDown (delta + delta / count) 0

/-- The bias of the first step. -/
def initialBias : Nat := 72

/-- The code points that are not inserted come before this one. -/
def initialPoint : Nat := 128

/-! ### Writing -/

/-- The character of a digit. -/
def digit (d : Nat) : Char := if d < 26 then Char.ofNat (97 + d) else Char.ofNat (22 + d)

/-- The digits of a step, from place `k`. -/
def digits (bias k q : Nat) : List Char :=
  let t := threshold k bias
  if q < t then [digit q]
  else digit (t + (q - t) % (base - t)) :: digits bias (k + base) ((q - t) / (base - t))
termination_by q
decreasing_by
  have := threshold_pos k bias
  have := Nat.div_le_self (q - threshold k bias) (base - threshold k bias)
  omega

/-- What has been written, and where the next step starts. -/
structure Encoder where
  written : List Char
  delta : Nat
  bias : Nat
  /-- Characters that have been dealt with. -/
  count : Nat

/-- One pass over the label for the code point `point`. -/
def Encoder.pass (plain point : Nat) (e : Encoder) : List Char → Encoder
  | [] => e
  | c :: rest =>
    let e :=
      if c.toNat < point then { e with delta := e.delta + 1 }
      else if c.toNat = point then
        { written := e.written ++ digits e.bias base e.delta
          delta := 0
          bias := adapt e.delta (e.count + 1) (e.count = plain)
          count := e.count + 1 }
      else e
    e.pass plain point rest

/-- The passes for code points in increasing order; `next` is the least that the last pass
has left. -/
def Encoder.passes (plain : Nat) (label : List Char) : Nat → Encoder → List Nat → Encoder
  | _, e, [] => e
  | next, e, point :: rest =>
    let e := { e with delta := e.delta + (point - next) * (e.count + 1) }
    let e := e.pass plain point label
    passes plain label (point + 1) { e with delta := e.delta + 1 } rest

/-- Puts a number in its place in an increasing list. -/
def insertPoint (n : Nat) : List Nat → List Nat
  | [] => [n]
  | m :: rest =>
    if n < m then n :: m :: rest else if n = m then m :: rest else m :: insertPoint n rest

/-- The code points beyond ASCII in increasing order. -/
def points (label : List Char) : List Nat :=
  (label.filter fun c => initialPoint ≤ c.toNat).foldr (fun c ps => insertPoint c.toNat ps) []

/-- Writes a label. -/
def encode (label : List Char) : List Char :=
  let plain := label.filter fun c => c.toNat < initialPoint
  let start : Encoder := ⟨[], 0, initialBias, plain.length⟩
  plain ++ (if plain.isEmpty then [] else ['-']) ++
    (start.passes plain.length label initialPoint (points label)).written

/-! ### Reading -/

/-- The value of a digit in any case. -/
def digitValue? (c : Char) : Option Nat :=
  if 'a' ≤ c ∧ c ≤ 'z' then some (c.toNat - 97)
  else if 'A' ≤ c ∧ c ≤ 'Z' then some (c.toNat - 65)
  else if '0' ≤ c ∧ c ≤ '9' then some (c.toNat - 22)
  else none

/-- What has been read, and how far the step that is being read has come. -/
structure Decoder where
  label : List Char
  point : Nat
  /-- Where the last step ended. -/
  index : Nat
  bias : Nat
  /-- The value of the step so far. -/
  step : Nat
  place : Nat
  weight : Nat

/-- Whether a number is the code point of a character. -/
def isScalar (n : Nat) : Bool := n < 0xD800 || (0xDFFF < n && n < 0x110000)

/-- Steps and weights stay below this. -/
def bound : Nat := Nat.pow 2 32

/-- One more digit. -/
def Decoder.next (s : Decoder) (d : Nat) : Option Decoder :=
  let t := threshold s.place s.bias
  let step := s.step + d * s.weight
  let weight := s.weight * (base - t)
  if bound ≤ s.index + step then none
  else if t ≤ d then
    if bound ≤ weight then none
    else some { s with step := step, place := s.place + base, weight := weight }
  else
    let count := s.label.length + 1
    let sum := s.index + step
    let point := s.point + sum / count
    let index := sum % count
    if isScalar point then
      some {
        label := s.label.take index ++ Char.ofNat point :: s.label.drop index
        point := point
        index := index + 1
        bias := adapt step count (s.index = 0)
        step := 0, place := base, weight := 1 }
    else none

/-- Reads the steps of a label. -/
def Decoder.run (s : Decoder) : List Char → Option (List Char)
  | [] => if s.place = base then some s.label else none
  | c :: rest => do
    let d ← digitValue? c
    (← s.next d).run rest

/-- Reads a label. A hyphen at its front divides nothing, so that there cannot be one. -/
def decode? (text : List Char) : Option (List Char) :=
  let tail := (text.reverse.takeWhile (· ≠ '-')).reverse
  let plain := text.take (text.length - tail.length - 1)
  if plain.all (·.toNat < initialPoint) ∧ tail.length + 1 ≠ text.length then
    Decoder.run ⟨plain, initialPoint, 0, initialBias, 0, base, 1⟩ tail
  else none

end RecordBridge.Punycode
