/-
  Durations — lengths of time in whole nanoseconds, and their text: the largest
  of the units s, ms, µs and ns that is not greater than the duration, with as
  many decimal places as are needed.
-/

namespace RecordBridge

/-- A length of time. -/
structure Duration where
  nanoseconds : Nat
  deriving DecidableEq, Repr

namespace Duration

/-- Nanoseconds in a second. -/
def nanosPerSecond : Nat := 1000000000

/-- Some whole seconds. -/
def ofSeconds (n : Nat) : Duration := ⟨n * nanosPerSecond⟩

/-- The whole seconds. -/
def seconds (d : Duration) : Nat := d.nanoseconds / nanosPerSecond

/-- The nanoseconds beyond the whole seconds. -/
def subsecondNanos (d : Duration) : Nat := d.nanoseconds % nanosPerSecond

/-- `n` in decimal, filled up with zeros in front to `width` digits. -/
def paddedDigits (width n : Nat) : List Char :=
  let digits := Nat.toDigits 10 n
  List.replicate (width - digits.length) '0' ++ digits

/-- `n` units of `10 ^ places` nanoseconds, without zeros at the end of the
fraction. -/
def inUnit (n places : Nat) (unit : String) : String :=
  let digits := paddedDigits places (n % Nat.pow 10 places)
  let fraction := (digits.reverse.dropWhile (· = '0')).reverse
  let tail := if places = 0 ∨ fraction.isEmpty then [] else '.' :: fraction
  toString (n / Nat.pow 10 places) ++ String.ofList tail ++ unit

/-- The text of a duration. -/
def text (d : Duration) : String :=
  if nanosPerSecond ≤ d.nanoseconds then inUnit d.nanoseconds 9 "s"
  else if 1000000 ≤ d.nanoseconds then inUnit d.nanoseconds 6 "ms"
  else if 1000 ≤ d.nanoseconds then inUnit d.nanoseconds 3 "µs"
  else inUnit d.nanoseconds 0 "ns"

end Duration

end RecordBridge
