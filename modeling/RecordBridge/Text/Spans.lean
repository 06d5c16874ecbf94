import RecordBridge.Text.Numeral
import RecordBridge.Text.Pieces

/-
  Spans — stretches of code points that share a value.

  A table of spans is written as lines of rows between blanks: the first and the
  last code point in hexadecimal with a hyphen between them, or a single code
  point, then a colon and the value. The spans stand in increasing order and do
  not meet, so that a value is found by halving the table.
-/

namespace RecordBridge

/-- Code points from `first` to `last`, and what holds of them. -/
structure Span (α : Type) where
  first : Nat
  last : Nat
  value : α

/-- A table of spans in increasing order. -/
abbrev Spans (α : Type) := Array (Span α)

namespace Spans

/-! ### Reading tables -/

/-- The code point of hexadecimal digits. -/
def point (digits : List Char) : Nat := (Numeral.natural? 16 digits).getD 0

/-- A single code point, as a value. -/
def pointValue (text : List Char) : Nat := point text

/-- Texts of the code points of a span, as a value: commas divide the texts and plus signs
the code points of each. -/
def texts (text : List Char) : List (List Char) :=
  (Pieces.split ',' text).map fun item =>
    (Pieces.split '+' item).map fun digits => Char.ofNat (point digits)

/-- What stands before and after the first `sign`. -/
def divide (sign : Char) (text : List Char) : List Char × List Char :=
  (text.takeWhile (· ≠ sign), (text.dropWhile (· ≠ sign)).drop 1)

/-- The span of a row. -/
def ofRow {α : Type} (value : List Char → α) (row : List Char) : Span α :=
  let (points, text) := divide ':' row
  let (first, last) := divide '-' points
  ⟨point first, point (if last.isEmpty then first else last), value text⟩

/-- The spans of some lines. -/
def ofLines {α : Type} (value : List Char → α) (lines : List String) : Spans α :=
  (lines.flatMap fun line => (Pieces.split ' ' line.toList).map (ofRow value)).toArray

/-- Spans without values. -/
def unitsOfLines (lines : List String) : Spans Unit := ofLines (fun _ => ()) lines

/-! ### Looking up -/

/-- The index between `low` and `high` of the first span behind the code point `n`. -/
def behind {α : Type} (spans : Spans α) (n low high : Nat) : Nat :=
  if low < high then
    let middle := (low + high) / 2
    match spans[middle]? with
    | some span =>
      if span.first ≤ n then behind spans n (middle + 1) high else behind spans n low middle
    | none => low
  else low
termination_by high - low

/-- The span that a code point lies in. -/
def find? {α : Type} (spans : Spans α) (n : Nat) : Option (Span α) :=
  (spans[behind spans n 0 spans.size - 1]?).filter fun span => span.first ≤ n ∧ n ≤ span.last

/-- The value of a code point. -/
def value? {α : Type} (spans : Spans α) (n : Nat) : Option α := (find? spans n).map Span.value

/-- The item of a code point, where the value of a span is the items of its code points. -/
def item? {α : Type} (spans : Spans (List α)) (n : Nat) : Option α := do
  let span ← find? spans n
  span.value[n - span.first]?

/-- Whether a code point lies in a span. -/
def covers {α : Type} (spans : Spans α) (n : Nat) : Bool := (find? spans n).isSome

end Spans

end RecordBridge
