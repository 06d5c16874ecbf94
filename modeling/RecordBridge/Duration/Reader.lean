import RecordBridge.Duration
import RecordBridge.Text.Blank

/-
  Reading durations — one or more numbers with units, such as `1h 30m` or
  `1.5s`.

  Blanks may stand between and inside the parts. Numbers have 64 bits: counted
  in nanoseconds for the units below a second, and in seconds from there on. A
  fraction must come to whole nanoseconds up to minutes, to whole seconds above.
-/

namespace RecordBridge.Duration

/-- A unit of time. -/
structure TimeUnit where
  names : List String
  /-- Nanoseconds in the unit. -/
  size : Nat
  /-- Nanoseconds in what whole numbers are counted in. -/
  grain : Nat
  /-- Nanoseconds in what fractions are counted in, if there may be one. -/
  fractionGrain : Option Nat

/-- The units. A month has 30.44 days and a year 365.25. -/
def units : List TimeUnit := [
  ⟨["nanos", "nsec", "ns"], 1, 1, none⟩,
  ⟨["usec", "us", "µs"], 1000, 1, some 1⟩,
  ⟨["millis", "msec", "ms"], 1000000, 1, some 1⟩,
  ⟨["seconds", "second", "secs", "sec", "s"], nanosPerSecond, nanosPerSecond, some 1⟩,
  ⟨["minutes", "minute", "min", "mins", "m"], 60 * nanosPerSecond, nanosPerSecond, some 1⟩,
  ⟨["hours", "hour", "hrs", "hr", "h"], 3600 * nanosPerSecond, nanosPerSecond,
    some nanosPerSecond⟩,
  ⟨["days", "day", "d"], 86400 * nanosPerSecond, nanosPerSecond, some nanosPerSecond⟩,
  ⟨["weeks", "week", "wks", "wk", "w"], 604800 * nanosPerSecond, nanosPerSecond,
    some nanosPerSecond⟩,
  ⟨["months", "month", "M"], 2630016 * nanosPerSecond, nanosPerSecond, some nanosPerSecond⟩,
  ⟨["years", "year", "yrs", "yr", "y"], 31557600 * nanosPerSecond, nanosPerSecond,
    some nanosPerSecond⟩]

/-- Numbers stay below this. -/
def bound : Nat := Nat.pow 2 64

/-- A number, if it is within bounds. -/
def bounded? (n : Nat) : Option Nat := if n < bound then some n else none

/-- Adds `n` grains. -/
def add? (d : Duration) (n grain : Nat) : Option Duration := do
  let n ← bounded? n
  if grain = 1 then discard (bounded? (d.subsecondNanos + n))
  let sum : Duration := ⟨d.nanoseconds + n * grain⟩
  discard (bounded? sum.seconds)
  return sum

/-- The number that decimal digits stand for; blanks among them count for nothing. -/
def number (digits : List Char) : Nat :=
  (digits.filter (·.isDigit)).foldl (fun n c => n * 10 + (c.toNat - 48)) 0

/-- A number with a unit. -/
structure Component where
  whole : Nat
  /-- The numerator and the denominator of a fraction. -/
  fraction : Option (Nat × Nat)
  unit : TimeUnit

/-- Adds a component. -/
def addComponent? (d : Duration) (c : Component) : Option Duration := do
  let whole ← bounded? c.whole
  let d ← d.add? (whole * (c.unit.size / c.unit.grain)) c.unit.grain
  match c.fraction with
  | none => return d
  | some (numerator, denominator) =>
    let grain ← c.unit.fractionGrain
    let numerator ← bounded? numerator
    let denominator ← bounded? denominator
    let scaled ← bounded? (numerator * (c.unit.size / grain))
    if scaled % denominator = 0 then d.add? (scaled / denominator) grain else none

/-- Whether a character may stand in a number: a digit or a blank. -/
def isNumberChar (c : Char) : Bool := c.isDigit || Blank.isBlank c

/-- Whether a character may stand in the name of a unit. -/
def isUnitChar (c : Char) : Bool := c.isAlpha || c = 'µ'

/-- The fraction at the front of a text, if there is one, and what is left. -/
def fraction? (text : List Char) : Option (Option (Nat × Nat) × List Char) :=
  match text with
  | '.' :: rest =>
    let digits := rest.takeWhile isNumberChar
    let places := (digits.filter (·.isDigit)).length
    if places = 0 then none
    else some (some (number digits, Nat.pow 10 places), rest.dropWhile isNumberChar)
  | _ => some (none, text)

/-- The component at the front of a text that starts with a digit, and what is left. -/
def component? (text : List Char) : Option (Component × List Char) := do
  if (text.take 1).all (·.isDigit) then
    let whole := number (text.takeWhile isNumberChar)
    let (fraction, rest) ← fraction? (text.dropWhile isNumberChar)
    let name := String.ofList (rest.takeWhile isUnitChar)
    let unit ← units.find? (·.names.contains name)
    return (⟨whole, fraction, unit⟩, rest.dropWhile isUnitChar)
  else none

/-- Adds the components of a text, at most `fuel`. -/
def addComponents? : Nat → Duration → List Char → Option Duration
  | 0, _, _ => none
  | fuel + 1, d, text => do
    let (component, rest) ← component? (text.dropWhile Blank.isBlank)
    let d ← d.addComponent? component
    if (rest.dropWhile Blank.isBlank).isEmpty then return d else addComponents? fuel d rest

/-- Reads a duration; zero needs no unit. -/
def parse? (text : String) : Option Duration :=
  if text = "0" then some ⟨0⟩ else addComponents? (text.length + 1) ⟨0⟩ text.toList

end RecordBridge.Duration
