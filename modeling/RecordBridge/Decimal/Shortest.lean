/-
  Shortest decimals — for a finite double, the fewest significant digits that
  read back as that double, and of those the nearest to it.

  A positive double is `m · 2 ^ q`. The reals that round to it form an interval
  around it whose ends are half-way to its neighbours; an end belongs to the
  interval when `m` is even. On the grid of decimals with `n` significant digits
  only the two neighbours of the value need to be looked at: if a point of the
  grid lies in the interval, so does one of those.
-/

namespace RecordBridge.Decimal

/-- A positive decimal `digits · 10 ^ exponent`. -/
structure Digits where
  digits : Nat
  exponent : Int
  deriving DecidableEq, Repr

/-- A positive double `mantissa · 2 ^ exponent`; `narrow` says that the double
below it is only half as far away as the one above. -/
structure Binary where
  mantissa : Nat
  exponent : Int
  narrow : Bool
  deriving DecidableEq, Repr

/-- The parts of the double with these bits, its sign left out. -/
def Binary.ofBits (bits : Nat) : Binary :=
  let fraction := bits % Nat.pow 2 52
  let exponent := bits / Nat.pow 2 52 % Nat.pow 2 11
  if exponent = 0 then ⟨fraction, -1074, false⟩
  else ⟨fraction + Nat.pow 2 52, Int.ofNat exponent - 1075, fraction = 0 ∧ 1 < exponent⟩

/-- Compares `a · 10 ^ e` with `b · 2 ^ q`, for natural `a` and `b`. -/
def compareScaled (a : Nat) (e : Int) (b : Nat) (q : Int) : Ordering :=
  let left := a * Nat.pow 10 e.toNat * Nat.pow 2 (-q).toNat
  let right := b * Nat.pow 2 q.toNat * Nat.pow 10 (-e).toNat
  compare left right

/-- Whether the decimal reads back as the double: it lies between the two
half-way points, which count only when the mantissa is even. -/
def Binary.contains (x : Binary) (d : Digits) : Bool :=
  let even := x.mantissa % 2 = 0
  let above := compareScaled d.digits d.exponent (2 * x.mantissa + 1) (x.exponent - 1)
  let below :=
    if x.narrow then compareScaled d.digits d.exponent (4 * x.mantissa - 1) (x.exponent - 2)
    else compareScaled d.digits d.exponent (2 * x.mantissa - 1) (x.exponent - 1)
  (above = .lt ∨ (above = .eq ∧ even)) ∧ (below = .gt ∨ (below = .eq ∧ even))

/-- The greatest `e` for which `10 ^ e` does not exceed the double, found by
correcting the estimate that the binary exponent gives. -/
def Binary.magnitude (x : Binary) : Int :=
  let bits : Int := x.exponent + Nat.log2 x.mantissa
  let estimate := (bits * 30103).fdiv 100000
  if compareScaled 1 (estimate + 1) x.mantissa x.exponent ≠ .gt then estimate + 1
  else if compareScaled 1 estimate x.mantissa x.exponent ≠ .gt then estimate
  else estimate - 1

/-- The grid point just below or at the double, on the grid with step `10 ^ e`. -/
def Binary.floorOn (x : Binary) (e : Int) : Nat :=
  (x.mantissa * Nat.pow 2 x.exponent.toNat * Nat.pow 10 (-e).toNat) /
    (Nat.pow 10 e.toNat * Nat.pow 2 (-x.exponent).toNat)

/-- Whether the upper grid point `lower + 1` is nearer to the double than the
lower one; of two equally near points the even one is taken. -/
def Binary.prefersUpper (x : Binary) (lower : Nat) (e : Int) : Bool :=
  match compareScaled (2 * lower + 1) e (2 * x.mantissa) x.exponent with
  | .lt => true
  | .gt => false
  | .eq => lower % 2 = 1

/-- The point with `n` significant digits that reads back as the double, if
there is one. -/
def Binary.onGrid (x : Binary) (n : Nat) : Option Digits :=
  let e := x.magnitude + 1 - n
  let lower := x.floorOn e
  let low : Digits := ⟨lower, e⟩
  let high : Digits := ⟨lower + 1, e⟩
  match x.contains low, x.contains high with
  | true, true => some (if x.prefersUpper lower e then high else low)
  | true, false => some low
  | false, true => some high
  | false, false => none

/-- Moves factors of ten from the digits into the exponent. -/
def Digits.trim : Nat → Digits → Digits
  | 0, d => d
  | fuel + 1, d =>
    if d.digits % 10 = 0 ∧ d.digits ≠ 0 then Digits.trim fuel ⟨d.digits / 10, d.exponent + 1⟩
    else d

/-- The shortest decimal that reads back as the double: the first grid of 1 to 17
digits with a hit. -/
def Binary.shortest (x : Binary) : Digits :=
  let found := (List.range 17).findSome? fun n => x.onGrid (n + 1)
  Digits.trim 20 (found.getD ⟨0, 0⟩)

/-- The shortest decimal for the size of a finite double other than zero. -/
def shortestOf (value : Float) : Digits :=
  (Binary.ofBits (value.toBits.toNat % Nat.pow 2 63)).shortest

end RecordBridge.Decimal
