import RecordBridge.Text.WritingDirection
import RecordBridge.Text.Joining
import RecordBridge.Text.Mark
import RecordBridge.Url.NameForm
import RecordBridge.Url.Punycode

/-
  Labels — the parts of a domain name between its points.

  A label beyond ASCII has a second form in Punycode behind `xn--`, and each of
  the two forms must stand for the other. Its characters must be readable side by
  side: no mark comes first, and invisible joiners stand only where they make a
  difference. In a name with a part that is written from right to left, every
  label keeps to one direction.
-/

namespace RecordBridge

/-- A label: the characters that it stands for, and its form in ASCII. -/
structure Label where
  chars : List Char
  ascii : List Char
  deriving DecidableEq, Repr

namespace Label

/-- Whether a text is plain ASCII. -/
def isAscii (text : List Char) : Bool := text.all (·.toNat < 0x80)

/-! ### Joiners -/

/-- The sign that keeps letters apart, and the one that joins them. -/
def nonJoiner : Char := Char.ofNat 0x200C
def joiner : Char := Char.ofNat 0x200D

/-- Whether the nearest letter is joined in one of some ways; transparent characters in
between count for nothing. -/
def isJoined (ways : List Joining) (letters : List Char) : Bool :=
  match letters.dropWhile (Joining.of · = .transparent) with
  | c :: _ => ways.contains (Joining.of c)
  | [] => false

/-- Whether a character may stand between others, of which the nearest come first: joiners
follow a sign that ends a syllable, or keep apart letters that would join. -/
def isPlaced (before : List Char) (c : Char) (rest : List Char) : Bool :=
  if c = nonJoiner ∨ c = joiner then
    (before.take 1).any (CombiningClass.of · = CombiningClass.virama) ||
      (c = nonJoiner && isJoined [.onLeft, .onBoth] before && isJoined [.onRight, .onBoth] rest)
  else true

/-- Whether every character that follows others may stand in its place. -/
def arePlaced (before : List Char) : List Char → Bool
  | [] => true
  | c :: rest => isPlaced before c rest && arePlaced (c :: before) rest

/-- Whether characters can be read side by side. -/
def isReadable (chars : List Char) : Bool :=
  !(chars.take 1).any Mark.isMark && arePlaced [] chars

/-! ### Directions -/

/-- What may stand in a label from left to right. -/
def goesRight : WritingDirection → Bool
  | .leftToRight | .europeanNumber | .europeanSeparator | .europeanTerminator
  | .commonSeparator | .nonspacingMark | .boundaryNeutral | .otherNeutral => true
  | _ => false

/-- What may stand in a label from right to left. -/
def goesLeft : WritingDirection → Bool
  | .leftToRight | .structural => false
  | _ => true

/-- What may end a label from left to right. -/
def endsRight : WritingDirection → Bool
  | .leftToRight | .europeanNumber => true
  | _ => false

/-- What may end a label from right to left. -/
def endsLeft : WritingDirection → Bool
  | .rightToLeft | .arabicLetter | .europeanNumber | .arabicNumber => true
  | _ => false

/-- Whether a label keeps to one direction. It starts with a letter, and ends with a letter
or a number apart from marks; from right to left it has numbers of one kind only. -/
def isDirected (chars : List Char) : Bool :=
  let directions := chars.map WritingDirection.of
  let last := (directions.reverse.dropWhile (· = .nonspacingMark)).head?
  match directions with
  | [] => true
  | .leftToRight :: _ => directions.all goesRight && last.any endsRight
  | .rightToLeft :: _ | .arabicLetter :: _ =>
    directions.all goesLeft && last.any endsLeft &&
      !(directions.contains .europeanNumber && directions.contains .arabicNumber)
  | _ => false

/-- Whether a character makes a part of a name go from right to left. -/
def turns (c : Char) : Bool := 0x80 ≤ c.toNat && (WritingDirection.of c).turns

/-- Whether labels can stand in one name. -/
def areDirected (labels : List Label) : Bool :=
  if labels.any fun label => label.chars.any turns then
    labels.all fun label => isDirected label.chars
  else true

/-! ### Reading -/

/-- What marks a label in Punycode. -/
def mark : List Char := ['x', 'n', '-', '-']

/-- The greatest number of characters that are written in Punycode, and of those that are
read from it. -/
def maxWritten : Nat := 1000
def maxRead : Nat := 2000

/-- The label whose form in ASCII stands behind a mark. -/
def ofPunycode? (text : List Char) : Option Label := do
  if text.getLast? = some '-' ∨ maxRead < text.length ∨ text.isEmpty then none
  else
    let chars ← Punycode.decode? text
    if NameForm.formed? chars = some chars ∧ isReadable chars then some ⟨chars, mark ++ text⟩
    else none

/-- The label of characters in their forms for names. -/
def ofChars? (chars : List Char) : Option Label :=
  if mark.isPrefixOf chars then ofPunycode? (chars.drop mark.length)
  else if isAscii chars then some ⟨chars, chars⟩
  else if chars.length ≤ maxWritten ∧ isReadable chars then
    some ⟨chars, mark ++ Punycode.encode chars⟩
  else none

end Label

end RecordBridge
