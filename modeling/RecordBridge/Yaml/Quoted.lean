import RecordBridge.Text.Numeral
import RecordBridge.Yaml.Cursor

/-
  Quoted scalars — text between single or double quotes.

  Text flows over line breaks. Between single quotes, a quote is written twice;
  between double quotes, a backslash starts an escape, and in front of a line
  break it joins the lines.
-/

namespace RecordBridge.Yaml

/-! ### Escapes -/

/-- The character that a letter stands for behind a backslash. -/
def escaped? : Char → Option Char
  | '0' => some (Char.ofNat 0)
  | 'a' => some (Char.ofNat 7)
  | 'b' => some (Char.ofNat 8)
  | 't' | '\t' => some '\t'
  | 'n' => some '\n'
  | 'v' => some (Char.ofNat 11)
  | 'f' => some (Char.ofNat 12)
  | 'r' => some '\r'
  | 'e' => some (Char.ofNat 27)
  | ' ' => some ' '
  | '"' => some '"'
  | '/' => some '/'
  | '\\' => some '\\'
  | 'N' => some (Char.ofNat 0x85)
  | '_' => some (Char.ofNat 0xA0)
  | 'L' => some (Char.ofNat 0x2028)
  | 'P' => some (Char.ofNat 0x2029)
  | _ => none

/-- The number of hexadecimal digits behind a letter. -/
def escapeWidth? : Char → Option Nat
  | 'x' => some 2
  | 'u' => some 4
  | 'U' => some 8
  | _ => none

/-- The character of a code point in hexadecimal. -/
def codePoint? (digits : List Char) : Option Char := do
  let n ← Numeral.natural? 16 digits
  if n < 0xD800 ∨ (0xDFFF < n ∧ n < 0x110000) then some (Char.ofNat n) else none

/-! ### Words -/

/-- What a word between quotes ends at. -/
inductive WordEnd
  | quote
  | gap
  /-- A backslash in front of a line break. -/
  | join
  deriving DecidableEq, Repr

/-- A word between quotes: its characters, how wide it is written, what it ends at, and the
text from there on. -/
structure QuotedWord where
  chars : List Char
  width : Nat
  stop : WordEnd
  left : List Char

namespace QuotedWord

/-- Nothing in front of an end. -/
def ending (stop : WordEnd) (left : List Char) : QuotedWord := ⟨[], 0, stop, left⟩

/-- The word with another character in front, which is written `width` wide. -/
def push (c : Char) (width : Nat) (word : QuotedWord) : QuotedWord :=
  { word with chars := c :: word.chars, width := word.width + width }

end QuotedWord

/-- The word at the front of a text between single quotes. -/
def singleWord : List Char → QuotedWord
  | [] => .ending .gap []
  | '\'' :: '\'' :: rest => (singleWord rest).push '\'' 2
  | c :: rest =>
    if isGapChar c then .ending .gap (c :: rest)
    else if c = '\'' then .ending .quote (c :: rest)
    else (singleWord rest).push c 1

/-- The word at the front of a text between double quotes. -/
def doubleWord? (text : List Char) : Option QuotedWord :=
  match text with
  | [] => some (.ending .gap [])
  | '\\' :: [] => none
  | '\\' :: c :: rest =>
    if isBreak c then some (.ending .join ('\\' :: c :: rest))
    else
      match escapeWidth? c with
      | some width =>
        if (rest.take width).length < width then none
        else do
          let decoded ← codePoint? (rest.take width)
          return (← doubleWord? (rest.drop width)).push decoded (width + 2)
      | none => do
        let decoded ← escaped? c
        return (← doubleWord? rest).push decoded 2
  | c :: rest =>
    if isGapChar c then some (.ending .gap (c :: rest))
    else if c = '"' then some (.ending .quote (c :: rest))
    else (doubleWord? rest).map (QuotedWord.push c 1)
termination_by text.length
decreasing_by all_goals simp only [List.length_cons, List.length_drop]; omega

/-! ### Scalars -/

/-- Goes on with a quoted scalar. The characters read so far are in `seen`, last first. -/
def quotedFrom? (double : Bool) : Nat → List Char → Cursor → Option (List Char × Cursor)
  | 0, _, _ => none
  | fuel + 1, seen, c =>
    if c.isBoundary ∨ c.left.isEmpty then none
    else do
      let word ← if double then doubleWord? c.left else some (singleWord c.left)
      let seen := word.chars.reverse ++ seen
      let c : Cursor := ⟨c.line, c.column + word.width, word.left⟩
      match word.stop with
      | .quote => return (seen.reverse, c.advance 1)
      | .gap =>
        let (gap, c) := c.gap
        quotedFrom? double fuel (gap.text.reverse ++ seen) c
      | .join =>
        let (gap, c) := (c.advance 1).nextLine.gap
        quotedFrom? double fuel (gap.breaks.reverse ++ seen) c

/-- The quoted scalar at a place: its text, and the place behind it. -/
def quoted? (double : Bool) (c : Cursor) : Option (List Char × Cursor) :=
  quotedFrom? double (c.left.length + 1) [] (c.advance 1)

end RecordBridge.Yaml
