import RecordBridge.Text.Pieces

/-
  Cursors — places in a document, by line and column.

  Before reading, line breaks of all kinds become line feeds; only the separators
  of lines and of paragraphs, which break lines too, stay what they are. A gap
  between words may go over several lines, and tells what it stands for when text
  flows over it.
-/

namespace RecordBridge.Yaml

/-! ### Characters -/

/-- Whether a character is a space or a tab. -/
def isBlank (c : Char) : Bool := c = ' ' || c = '\t'

/-- Whether a character breaks a line. -/
def isBreak (c : Char) : Bool := c = '\n' || c.toNat = 0x2028 || c.toNat = 0x2029

/-- Whether a character stands between words. -/
def isGapChar (c : Char) : Bool := isBlank c || isBreak c

/-- Whether a character may stand in the names of anchors, directives and handles. -/
def isNameChar (c : Char) : Bool := c.isAlphanum || c = '_' || c = '-'

/-- Whether a character encloses or divides nodes in flow style. -/
def isFlowSign (c : Char) : Bool := [',', '[', ']', '\x7b', '\x7d'].contains c

/-- Whether a word ends before a text. -/
def endsWord : List Char → Bool
  | [] => true
  | c :: _ => isGapChar c

/-- The mark that may stand in front of a line between tokens. -/
def byteOrderMark : Char := Char.ofNat 0xFEFF

/-- Whether a character may stand in a document. -/
def isPrintable (c : Char) : Bool :=
  let n := c.toNat
  [9, 10, 13, 0x85].contains n || (0x20 ≤ n && n ≤ 0x7E) || (0xA0 ≤ n && n ≠ 0xFFFE && n ≠ 0xFFFF)

/-- Returns, line feeds and next lines as line feeds. -/
def unifyBreaks : List Char → List Char
  | [] => []
  | '\r' :: '\n' :: rest => '\n' :: unifyBreaks rest
  | c :: rest => (if c = '\r' ∨ c.toNat = 0x85 then '\n' else c) :: unifyBreaks rest

/-! ### Places -/

/-- A place in a document: its line and column, and the text from there on. -/
structure Cursor where
  line : Nat
  column : Nat
  left : List Char

namespace Cursor

/-- The start of a document. -/
def start (text : List Char) : Cursor := ⟨0, 0, text⟩

/-- The next character. -/
def head? (c : Cursor) : Option Char := c.left.head?

/-- The place after `n` characters of the same line. -/
def advance (c : Cursor) (n : Nat) : Cursor :=
  { c with column := c.column + n, left := c.left.drop n }

/-- The place before `left`, later on the same line. -/
def jump (c : Cursor) (left : List Char) : Cursor :=
  { c with column := c.column + (c.left.length - left.length), left := left }

/-- The start of the line behind a break. -/
def nextLine (c : Cursor) : Cursor := ⟨c.line + 1, 0, c.left.drop 1⟩

/-- The place behind blanks. -/
def skipBlanks (c : Cursor) : Cursor := c.jump (c.left.dropWhile isBlank)

/-- The place behind a comment, if there is one. -/
def skipComment (c : Cursor) : Cursor :=
  if c.head? = some '#' then c.jump (c.left.dropWhile (!isBreak ·)) else c

/-- The start of the next line, if nothing but a comment stands on this one. -/
def endLine? (c : Cursor) : Option Cursor :=
  let c := c.skipBlanks.skipComment
  match c.head? with
  | none => some c
  | some b => if isBreak b then some c.nextLine else none

/-- Whether a line that divides documents starts here: three times the same sign. -/
def isDivider (sign : Char) (c : Cursor) : Bool :=
  c.column = 0 && [sign, sign, sign].isPrefixOf c.left && endsWord (c.left.drop 3)

/-- Whether a document starts or ends here. -/
def isBoundary (c : Cursor) : Bool := c.isDivider '-' || c.isDivider '.'

end Cursor

/-! ### Gaps -/

/-- What stands between two words: blanks, and then line breaks, if there are any. -/
structure Gap where
  blanks : List Char
  breaks : List Char

namespace Gap

/-- Nothing. -/
def none : Gap := ⟨[], []⟩

/-- What a gap stands for when text flows over it: a line feed becomes a space, unless
other breaks follow it; blanks at the ends of lines disappear. -/
def text (gap : Gap) : List Char :=
  match gap.breaks with
  | [] => gap.blanks
  | ['\n'] => [' ']
  | '\n' :: more => more
  | breaks => breaks

end Gap

namespace Cursor

/-- The characters of the gap at a place. -/
def gapChars (c : Cursor) : List Char := c.left.takeWhile isGapChar

/-- The gap at a place, and the place behind it. -/
def gap (c : Cursor) : Gap × Cursor :=
  let chars := c.gapChars
  let breaks := chars.filter isBreak
  let tail := (chars.reverse.takeWhile isBlank).length
  (⟨chars.takeWhile isBlank, breaks⟩,
    { line := c.line + breaks.length
      column := if breaks.isEmpty then c.column + chars.length else tail
      left := c.left.drop chars.length })

/-- Whether a tab stands in front of column `indent` in one of the lines of a gap. -/
def isTabbed (indent : Nat) (c : Cursor) : Bool :=
  let lines := c.gapChars.map fun b => if isBreak b then '\n' else b
  ((Pieces.split '\n' lines).drop 1).any fun line => (line.take indent).contains '\t'

end Cursor

end RecordBridge.Yaml
