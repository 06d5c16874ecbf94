import RecordBridge.Text.Numeral
import RecordBridge.Text.Pieces

/-
  Internet addresses — the numeric hosts of URLs.

  An IPv4 address is written with one to four numbers, each decimal, octal or
  hexadecimal, the last of which fills the places that are left; its text is
  always four decimal numbers. An IPv6 address is eight groups of which a run of
  zeros may be left out; its text leaves out the longest run.
-/

namespace RecordBridge.Address

/-! ### IPv4 -/

/-- A number in an IPv4 address: hexadecimal after `0x`, octal after another zero,
decimal otherwise. -/
def part? : List Char → Option Nat
  | [] => none
  | '0' :: c :: rest =>
    if c = 'x' ∨ c = 'X' then Numeral.natural? 16 rest else Numeral.natural? 8 (c :: rest)
  | digits => Numeral.natural? 10 digits

/-- The parts between points; a point at the end counts for nothing. -/
def parts (text : List Char) : List (List Char) :=
  match (Pieces.split '.' text).reverse with
  | [] :: p :: rest => (p :: rest).reverse
  | reversed => reversed.reverse

/-- Whether a host has to be an IPv4 address: its last part is a number or consists of
digits. -/
def endsInNumber (text : List Char) : Bool :=
  match (parts text).getLast? with
  | none | some [] => false
  | some last => Numeral.areDecimal last || (part? last).isSome

/-- Reads an IPv4 address as a number below `2 ^ 32`. -/
def ipv4? (text : List Char) : Option Nat := do
  let numbers ← (parts text).mapM part?
  let last ← numbers.getLast?
  let first := numbers.dropLast
  if 3 < first.length ∨ first.any (255 < ·) ∨ Nat.pow 256 (4 - first.length) ≤ last then none
  else
    let high := first.foldl (fun n part => n * 256 + part) 0
    some (high * Nat.pow 256 (4 - first.length) + last)

/-- The text of an IPv4 address. -/
def ipv4Text (address : Nat) : String :=
  String.intercalate "." ([3, 2, 1, 0].map fun i => toString (address / Nat.pow 256 i % 256))

/-! ### IPv6 -/

/-- A group: one to four hexadecimal digits. -/
def group? (digits : List Char) : Option Nat :=
  if digits.isEmpty ∨ 4 < digits.length then none else Numeral.natural? 16 digits

/-- A decimal number up to 255 without needless zeros. -/
def octet? (digits : List Char) : Option Nat := do
  let n ← Numeral.natural? 10 digits
  if n ≤ 255 ∧ (toString n).toList = digits then some n else none

/-- Four decimal numbers as two groups. -/
def dotted? (text : List Char) : Option (List Nat) := do
  match ← (Pieces.split '.' text).mapM octet? with
  | [a, b, c, d] => some [a * 256 + b, c * 256 + d]
  | _ => none

/-- Groups between colons. The last may be two groups in decimal where `atEnd` says that
nothing follows. -/
def groups? (atEnd : Bool) : List (List Char) → Option (List Nat)
  | [] => some []
  | [last] =>
    if atEnd && last.contains '.' then dotted? last else (group? last).map fun g => [g]
  | piece :: rest => do return (← group? piece) :: (← groups? atEnd rest)

/-- The groups of a text, none if it is empty. -/
def groupsOf? (atEnd : Bool) (text : List Char) : Option (List Nat) :=
  if text.isEmpty then some [] else groups? atEnd (Pieces.split ':' text)

/-- What stands before and after the first `::`. -/
def splitGap? : List Char → Option (List Char × List Char)
  | [] => none
  | [_] => none
  | c :: d :: rest =>
    if c = ':' ∧ d = ':' then some ([], rest)
    else (splitGap? (d :: rest)).map fun (front, back) => (c :: front, back)

/-- An IPv6 address has this many groups. -/
def groupCount : Nat := 8

/-- Reads an IPv6 address as its groups. -/
def ipv6? (text : List Char) : Option (List Nat) := do
  match splitGap? text with
  | none =>
    let groups ← groupsOf? true text
    if groups.length = groupCount then some groups else none
  | some (front, back) =>
    let front ← groupsOf? false front
    let back ← groupsOf? true back
    let given := front.length + back.length
    if given < groupCount then some (front ++ List.replicate (groupCount - given) 0 ++ back)
    else none

/-- The number of zeros at the front. -/
def zeros (groups : List Nat) : Nat := (groups.takeWhile (· = 0)).length

/-- The greatest number of zeros that stand side by side. -/
def longestRun : List Nat → Nat
  | [] => 0
  | g :: rest => max (zeros (g :: rest)) (longestRun rest)

/-- The groups before the first run of `n` zeros. -/
def beforeRun (n : Nat) : List Nat → List Nat
  | [] => []
  | g :: rest => if zeros (g :: rest) = n then [] else g :: beforeRun n rest

/-- Groups in hexadecimal between colons. -/
def groupsText (groups : List Nat) : String :=
  String.intercalate ":" (groups.map fun g => String.ofList (Nat.toDigits 16 g))

/-- The text of an IPv6 address. -/
def ipv6Text (groups : List Nat) : String :=
  let n := longestRun groups
  if n < 2 then groupsText groups
  else
    let front := beforeRun n groups
    groupsText front ++ "::" ++ groupsText (groups.drop (front.length + n))

end RecordBridge.Address
