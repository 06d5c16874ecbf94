import RecordBridge.Text.Numeral
import RecordBridge.Yaml.Cursor
import RecordBridge.Yaml.Token

/-
  Tags and directives — what nodes are said to be, and what is said about the
  document as a whole.

  A tag is a handle with a suffix, or the full name in angle brackets. Characters
  that may not stand in a name are written as escapes of their bytes. A directive
  tells the version of the language or what a handle stands for.
-/

namespace RecordBridge.Yaml

/-! ### Names with escapes -/

/-- Whether a character may stand in the name of a tag; between angle brackets there are a
few more. -/
def isTagChar (bracketed : Bool) (c : Char) : Bool :=
  isNameChar c || [';', '/', '?', ':', '@', '&', '=', '+', '$', '.', '!', '~', '*', '\'', '(',
    ')', '%'].contains c || (bracketed && [',', '[', ']'].contains c)

/-- The number of bytes behind a first byte. -/
def tailLength? (b : UInt8) : Option Nat :=
  if b < 0x80 then some 0
  else if 0xC0 ≤ b ∧ b < 0xE0 then some 1
  else if 0xE0 ≤ b ∧ b < 0xF0 then some 2
  else if 0xF0 ≤ b ∧ b < 0xF8 then some 3
  else none

/-- The bytes of a name in which `due` more bytes of a character have to be escaped. -/
def tagBytes? : Nat → List Char → Option Bytes
  | due, '%' :: high :: low :: rest => do
    let b := UInt8.ofNat ((← Numeral.value? high) * 16 + (← Numeral.value? low))
    if due = 0 then return b :: (← tagBytes? (← tailLength? b) rest)
    else if Utf8.isTail b then return b :: (← tagBytes? (due - 1) rest)
    else none
  | 0, [] => some []
  | 0, c :: rest =>
    if c = '%' then none
    else (tagBytes? 0 rest).map fun bytes => String.utf8EncodeChar c ++ bytes
  | _ + 1, _ => none

/-- Whether a text starts with the name of a tag. -/
def startsTagName (bracketed : Bool) (text : List Char) : Bool :=
  text.head?.any (isTagChar bracketed)

/-- The name at the front of a text, up to a zero byte, and what follows it. -/
def tagName? (bracketed : Bool) (text : List Char) : Option (Bytes × List Char) := do
  let name := text.takeWhile (isTagChar bracketed)
  return ((← tagBytes? 0 name).takeWhile (· ≠ 0), text.drop name.length)

/-! ### Tags -/

/-- The tag at a place in angle brackets, and what follows it. -/
def bracketedTag? (text : List Char) : Option (Token × List Char) := do
  if !startsTagName true text then none
  else
    match ← tagName? true text with
    | (name, '>' :: rest) => return (.tag "" name, rest)
    | _ => none

/-- The tag behind an exclamation mark. With another one behind a name, both are the handle;
a mark alone has no handle and is the whole tag. -/
def handledTag? (text : List Char) : Option (Token × List Char) := do
  let name := text.takeWhile isNameChar
  match text.drop name.length with
  | '!' :: rest =>
    if !startsTagName false rest then none
    else
      let (suffix, rest) ← tagName? false rest
      return (.tag (String.ofList ('!' :: name ++ ['!'])) suffix, rest)
  | _ =>
    let (suffix, rest) ← tagName? false text
    return (if suffix.isEmpty then .tag "" (Utf8.encode "!") else .tag "!" suffix, rest)

/-- The tag at a place, and the place behind it. A blank must follow, or in flow style a
comma. -/
def Cursor.tag? (flow : Bool) (c : Cursor) : Option (Token × Cursor) := do
  let (token, rest) ←
    match c.left.drop 1 with
    | '<' :: rest => bracketedTag? rest
    | rest => handledTag? rest
  if endsWord rest ∨ (flow ∧ rest.head? = some ',') then return (token, c.jump rest) else none

/-! ### Directives -/

/-- A number has at most this many digits. -/
def maxDigits : Nat := 9

/-- The number at the front of a text, and what follows it. -/
def versionNumber? (text : List Char) : Option (Nat × List Char) := do
  let digits := text.takeWhile Char.isDigit
  if digits.isEmpty ∨ maxDigits < digits.length then none
  else return (← Numeral.natural? 10 digits, text.drop digits.length)

/-- A version: two numbers with a point between them. -/
def version? (text : List Char) : Option (Token × List Char) := do
  match ← versionNumber? text with
  | (major, '.' :: rest) =>
    let (minor, rest) ← versionNumber? rest
    return (.version major minor, rest)
  | _ => none

/-- A handle, and the start of the tags that it stands for. -/
def handle? (text : List Char) : Option (Token × List Char) := do
  match text with
  | '!' :: rest =>
    let name := rest.takeWhile isNameChar
    let rest := rest.drop name.length
    let closed := rest.head? = some '!'
    if !closed ∧ !name.isEmpty then none
    else
      let handle := '!' :: name ++ (if closed then ['!'] else [])
      let rest := if closed then rest.drop 1 else rest
      if !(rest.take 1).any isBlank then none
      else
        let rest := rest.dropWhile isBlank
        let (start, left) ← tagName? true rest
        if !startsTagName true rest ∨ !endsWord left then none
        else return (.handle (String.ofList handle) start, left)
  | _ => none

/-- The directive at a place, and the start of the next line. -/
def Cursor.directive? (c : Cursor) : Option (Token × Cursor) := do
  let text := c.left.drop 1
  let name := text.takeWhile isNameChar
  let rest := text.drop name.length
  if !endsWord rest then none
  else
    let rest := rest.dropWhile isBlank
    let (token, rest) ←
      if name = ['Y', 'A', 'M', 'L'] then version? rest
      else if name = ['T', 'A', 'G'] then handle? rest
      else none
    return (token, ← (c.jump rest).endLine?)

/-! ### Anchors -/

/-- Whether a character may stand behind the name of an anchor, where nothing else does. -/
def endsAnchor (c : Char) : Bool :=
  isGapChar c || ['?', ':', ',', ']', '\x7d', '%', '@', Char.ofNat 0x60].contains c

/-- The name of an anchor behind its sign, and the place behind it. -/
def Cursor.anchorName? (c : Cursor) : Option (String × Cursor) :=
  let text := c.left.drop 1
  let name := text.takeWhile isNameChar
  let rest := text.drop name.length
  if name.isEmpty ∨ !rest.head?.all endsAnchor then none
  else some (String.ofList name, c.jump rest)

end RecordBridge.Yaml
