import RecordBridge.Yaml.Block
import RecordBridge.Yaml.Plain
import RecordBridge.Yaml.Quoted
import RecordBridge.Yaml.Tag

/-
  Layout — from the text of a document to its tokens.

  In block style the column of a key or a dash tells what it belongs to: a deeper
  column starts a new sequence or mapping, and coming back from it ends one. A key
  shows only by the colon behind it, so the layout keeps in mind where the last
  possible key started. Such a key stands on one line and is not long.
-/

namespace RecordBridge.Yaml

/-- A place where a key may have started. -/
structure KeyStart where
  /-- The number of tokens in front of it. -/
  token : Nat
  line : Nat
  column : Nat
  /-- Nothing but a key can stand there. -/
  required : Bool

/-- A document of which some tokens have been read. -/
structure Layout where
  cursor : Cursor
  tokens : Array Token
  /-- The columns of the open sequences and mappings in block style, innermost first. -/
  columns : List Nat
  /-- Whether a key may start here. -/
  keyAllowed : Bool
  /-- The last possible key at each level of flow style, innermost first, and below them
  that of block style. -/
  keys : List (Option KeyStart)

namespace Layout

/-- Nothing has been read. -/
def start (text : List Char) : Layout := ⟨.start text, #[], [], true, [none]⟩

/-- Whether the place is inside flow style. -/
def inFlow (s : Layout) : Bool := 1 < s.keys.length

/-- Adds a token. -/
def push (s : Layout) (token : Token) : Layout := { s with tokens := s.tokens.push token }

/-! ### Between tokens -/

/-- Goes on from a place inside or outside of a comment to the next token, and tells whether
a key may start there. A new line in block style allows one. Tabs do not indent a key, and a
mark in front of a line takes up a column. -/
def passGap (flow : Bool) (keyAllowed comment : Bool) (line column : Nat) :
    List Char → Cursor × Bool
  | [] => (⟨line, column, []⟩, keyAllowed)
  | c :: rest =>
    if isBreak c then passGap flow (keyAllowed || !flow) false (line + 1) 0 rest
    else if comment ∨ c = ' ' ∨ (c = '\t' ∧ (flow ∨ !keyAllowed)) ∨
        (c = byteOrderMark ∧ column = 0) then
      passGap flow keyAllowed comment line (column + 1) rest
    else if c = '#' then passGap flow keyAllowed true line (column + 1) rest
    else (⟨line, column, c :: rest⟩, keyAllowed)

/-- Goes on to the next token. -/
def toToken (s : Layout) : Layout :=
  let (cursor, keyAllowed) :=
    passGap s.inFlow s.keyAllowed false s.cursor.line s.cursor.column s.cursor.left
  { s with cursor := cursor, keyAllowed := keyAllowed }

/-! ### Keys -/

/-- A key is at most this long. -/
def maxKeyLength : Nat := 1024

/-- Whether a colon at a place comes too late for a key. -/
def KeyStart.isStale (key : KeyStart) (c : Cursor) : Bool :=
  key.line < c.line || key.column + maxKeyLength < c.column

/-- Forgets keys whose colon would come too late. -/
def dropStale? (s : Layout) : Option Layout := do
  let keys ← s.keys.mapM fun key =>
    match key with
    | none => some none
    | some key =>
      if !KeyStart.isStale key s.cursor then some (some key)
      else if key.required then none
      else some none
  return { s with keys := keys }

/-- Forgets the last possible key of this level. -/
def dropKey? (s : Layout) : Option Layout :=
  match s.keys with
  | some key :: outer => if key.required then none else some { s with keys := none :: outer }
  | _ => some s

/-- Keeps in mind that a key may start here. -/
def saveKey? (s : Layout) : Option Layout :=
  if !s.keyAllowed then some s
  else do
    let s ← s.dropKey?
    let required := !s.inFlow && s.columns.head? = some s.cursor.column
    let key := KeyStart.mk s.tokens.size s.cursor.line s.cursor.column required
    return { s with keys := some key :: s.keys.drop 1 }

/-! ### Indentation -/

/-- Ends the sequences and mappings in columns behind `column`. -/
def endBehind (column : Nat) (tokens : Array Token) : List Nat → Array Token × List Nat
  | [] => (tokens, [])
  | c :: outer =>
    if column < c then endBehind column (tokens.push .blockEnd) outer else (tokens, c :: outer)

/-- Comes back to a column. -/
def outdent (s : Layout) (column : Nat) : Layout :=
  if s.inFlow then s
  else
    let (tokens, columns) := endBehind column s.tokens s.columns
    { s with tokens := tokens, columns := columns }

/-- Ends all sequences and mappings. -/
def outdentAll (s : Layout) : Layout :=
  if s.inFlow then s
  else { s with tokens := s.tokens ++ s.columns.map fun _ => Token.blockEnd, columns := [] }

/-- Starts a sequence or a mapping in front of the token with number `index`, if its column is
deeper than the last one. -/
def indent (s : Layout) (column index : Nat) (token : Token) : Layout :=
  if s.inFlow ∨ s.columns.head?.any (column ≤ ·) then s
  else { s with
    tokens := s.tokens.insertIdxIfInBounds index token
    columns := column :: s.columns }

/-! ### Tokens -/

/-- Adds a token that is `length` characters long. -/
def take (s : Layout) (token : Token) (length : Nat) : Layout :=
  { s.push token with cursor := s.cursor.advance length }

/-- A token after which a key may start or not. -/
def takeSign (s : Layout) (token : Token) (keyAllowed : Bool) : Layout :=
  { s.take token 1 with keyAllowed := keyAllowed }

/-- A token, read together with the place behind it, with which a key may start. -/
def takeRead? (s : Layout) (read : Cursor → Option (Token × Cursor)) : Option Layout := do
  let s ← s.saveKey?
  let (token, cursor) ← read s.cursor
  return { s.push token with cursor := cursor, keyAllowed := false }

/-- A line that divides documents. -/
def boundary? (s : Layout) (token : Token) : Option Layout := do
  let s ← s.outdentAll.dropKey?
  return { s.take token 3 with keyAllowed := false }

/-- A directive. -/
def directive? (s : Layout) : Option Layout := do
  let s ← s.outdentAll.dropKey?
  let (token, cursor) ← s.cursor.directive?
  return { s.push token with cursor := cursor, keyAllowed := false }

/-- The start of a sequence or a mapping in flow style. -/
def flowStart? (s : Layout) (token : Token) : Option Layout := do
  let s ← s.saveKey?
  return { s.takeSign token true with keys := none :: s.keys }

/-- The end of a sequence or a mapping in flow style. -/
def flowEnd? (s : Layout) (token : Token) : Option Layout := do
  let s ← s.dropKey?
  return { s.takeSign token false with keys := if s.inFlow then s.keys.drop 1 else s.keys }

/-- The comma in flow style. -/
def flowEntry? (s : Layout) : Option Layout := do
  return (← s.dropKey?).takeSign .flowEntry true

/-- The dash of an item. -/
def blockEntry? (s : Layout) : Option Layout := do
  if !s.inFlow ∧ !s.keyAllowed then none
  else
    let s ← (s.indent s.cursor.column s.tokens.size .blockSequenceStart).dropKey?
    return s.takeSign .blockEntry true

/-- The question mark of a key. -/
def key? (s : Layout) : Option Layout := do
  if !s.inFlow ∧ !s.keyAllowed then none
  else
    let s ← (s.indent s.cursor.column s.tokens.size .blockMappingStart).dropKey?
    return s.takeSign .key (!s.inFlow)

/-- The colon of a value. The last possible key, if there is one, turns out to be one. -/
def value? (s : Layout) : Option Layout :=
  match s.keys with
  | some key :: outer =>
    let s := { s with
      tokens := s.tokens.insertIdxIfInBounds key.token .key
      keys := none :: outer }
    some ((s.indent key.column key.token .blockMappingStart).takeSign .value false)
  | _ =>
    if !s.inFlow ∧ !s.keyAllowed then none
    else
      let s := s.indent s.cursor.column s.tokens.size .blockMappingStart
      some (s.takeSign .value (!s.inFlow))

/-- A block scalar. -/
def block? (s : Layout) (folded : Bool) : Option Layout := do
  let s ← s.dropKey?
  let (text, cursor) ← Yaml.block? folded s.columns.head? s.cursor
  return { s.push (.scalar (String.ofList text) false) with cursor := cursor, keyAllowed := true }

/-- A quoted scalar. -/
def quoted? (s : Layout) (double : Bool) : Option Layout :=
  s.takeRead? fun c =>
    (Yaml.quoted? double c).map fun (text, c) => (.scalar (String.ofList text) false, c)

/-- A plain scalar. A line break behind it allows a key. -/
def plain? (s : Layout) : Option Layout := do
  let s ← s.saveKey?
  let plain ← Yaml.plain? s.inFlow (s.columns.head?.elim 0 (· + 1)) s.cursor
  return { s.push (.scalar (String.ofList plain.text) true) with
    cursor := plain.behind, keyAllowed := plain.broken }

/-- Reads the token at a place. -/
def token? (s : Layout) (c : Char) (rest : List Char) : Option Layout :=
  if s.cursor.column = 0 ∧ c = '%' then s.directive?
  else if s.cursor.isDivider '-' then s.boundary? .documentStart
  else if s.cursor.isDivider '.' then s.boundary? .documentEnd
  else if c = '[' then s.flowStart? .flowSequenceStart
  else if c = '\x7b' then s.flowStart? .flowMappingStart
  else if c = ']' then s.flowEnd? .flowSequenceEnd
  else if c = '\x7d' then s.flowEnd? .flowMappingEnd
  else if c = ',' then s.flowEntry?
  else if c = '-' ∧ endsWord rest then s.blockEntry?
  else if c = '?' ∧ (s.inFlow ∨ endsWord rest) then s.key?
  else if c = ':' ∧ (s.inFlow ∨ endsWord rest) then s.value?
  else if c = '*' then
    s.takeRead? fun c => c.anchorName?.map fun (name, c) => (.reference name, c)
  else if c = '&' then
    s.takeRead? fun c => c.anchorName?.map fun (name, c) => (.anchor name, c)
  else if c = '!' then s.takeRead? (Cursor.tag? s.inFlow)
  else if (c = '|' ∨ c = '>') ∧ !s.inFlow then s.block? (c = '>')
  else if c = '\'' ∨ c = '"' then s.quoted? (c = '"')
  else if startsPlain s.inFlow (c :: rest) then s.plain?
  else none

/-- The tokens from a place on, at most `fuel`. -/
def tokensFrom? : Nat → Layout → Option (List Token)
  | 0, _ => none
  | fuel + 1, s => do
    let s ← s.toToken.dropStale?
    let s := s.outdent s.cursor.column
    match s.cursor.left with
    | [] => return (← s.outdentAll.dropKey?).tokens.toList
    | c :: rest => tokensFrom? fuel (← s.token? c rest)

end Layout

/-- The tokens of a document. -/
def tokens? (text : List Char) : Option (List Token) :=
  if text.all isPrintable then
    let text := unifyBreaks text
    Layout.tokensFrom? (text.length + 1) (.start text)
  else none

end RecordBridge.Yaml
