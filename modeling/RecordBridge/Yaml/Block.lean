import RecordBridge.Yaml.Cursor

/-
  Block scalars — text in lines of its own, indented below what it belongs to.

  A literal scalar keeps its line breaks. A folded one joins lines by spaces, apart
  from lines that are indented further. What is done with breaks at the end is
  said by a sign in the header, and so may be the indentation.
-/

namespace RecordBridge.Yaml

/-- What is done with line breaks at the end. -/
inductive Chomping
  | strip
  | clip
  | keep
  deriving DecidableEq, Repr

/-- What the first line of a block scalar says. -/
structure BlockHeader where
  chomping : Chomping
  /-- How much deeper than its parent the content is indented, if that is said. -/
  indent : Option Nat

/-- The chomping that a sign stands for. -/
def chomping? : Char → Option Chomping
  | '+' => some .keep
  | '-' => some .strip
  | _ => none

/-- The indentation at the front of a text, if there is one; it cannot be zero. -/
def blockIndent? : List Char → Option (Option Nat × List Char)
  | [] => some (none, [])
  | c :: rest =>
    if c = '0' then none
    else if c.isDigit then some (some (c.toNat - 48), rest)
    else some (none, c :: rest)

/-- The chomping at the front of a text, if there is one. -/
def blockChomping : List Char → Option Chomping × List Char
  | [] => (none, [])
  | c :: rest =>
    match chomping? c with
    | some chomping => (some chomping, rest)
    | none => (none, c :: rest)

/-- The header at a place behind its sign: chomping and indentation in any order. -/
def blockHeader? (text : List Char) : Option (BlockHeader × List Char) :=
  match blockChomping text with
  | (some chomping, rest) => do
    let (indent, rest) ← blockIndent? rest
    return (⟨chomping, indent⟩, rest)
  | (none, _) => do
    match ← blockIndent? text with
    | (some n, rest) =>
      let (chomping, rest) := blockChomping rest
      return (⟨chomping.getD .clip, some n⟩, rest)
    | (none, rest) => return (⟨.clip, none⟩, rest)

/-- Lines without content. -/
structure EmptyLines where
  breaks : List Char
  /-- The deepest column that has been reached. -/
  deepest : Nat
  behind : Cursor

/-- Passes lines without content and the indentation behind them, which goes up to `indent`,
if that is known. A tab cannot be part of it. -/
def emptyLines? (indent : Option Nat) : Nat → Cursor → Option EmptyLines
  | 0, _ => none
  | fuel + 1, c =>
    let spaces := (c.left.takeWhile (· = ' ')).length
    let c := c.advance (match indent with
      | some n => min spaces (n - c.column)
      | none => spaces)
    if c.head? = some '\t' ∧ indent.all (c.column < ·) then none
    else if !c.head?.any isBreak then some ⟨[], c.column, c⟩
    else do
      let lines ← emptyLines? indent fuel c.nextLine
      return ⟨c.left.take 1 ++ lines.breaks, max c.column lines.deepest, lines.behind⟩

/-- A block scalar of which some lines have been read. -/
structure Block where
  /-- The characters read so far, last first. -/
  seen : List Char
  /-- The break at the end of the last line, if there is one. -/
  ending : List Char
  /-- The breaks of empty lines behind it. -/
  breaks : List Char
  /-- The last line is indented further. -/
  deep : Bool
  behind : Cursor

/-- What stands between the last line and the next one, which may be indented further. -/
def Block.joint (b : Block) (folded deep : Bool) : List Char :=
  if folded ∧ b.ending = ['\n'] ∧ !b.deep ∧ !deep then
    if b.breaks.isEmpty then [' '] else b.breaks
  else b.ending ++ b.breaks

/-- Reads the lines of a block in column `indent`. A line takes at least one character, so
what bounds their number bounds that of the empty lines too. -/
def blockLines? (folded : Bool) (indent : Nat) : Nat → Block → Option Block
  | 0, _ => none
  | fuel + 1, b =>
    let c := b.behind
    if c.column = indent ∧ !c.left.isEmpty then do
      let deep := c.head?.any isBlank
      let line := c.left.takeWhile (!isBreak ·)
      let c := c.advance line.length
      let ending := c.left.take 1
      let lines ← emptyLines? (some indent) fuel (if ending.isEmpty then c else c.nextLine)
      let seen := line.reverse ++ ((b.joint folded deep).reverse ++ b.seen)
      blockLines? folded indent fuel ⟨seen, ending, lines.breaks, deep, lines.behind⟩
    else some b

/-- The text of a block. -/
def Block.text (b : Block) (chomping : Chomping) : List Char :=
  b.seen.reverse ++
    match chomping with
    | .strip => []
    | .clip => b.ending
    | .keep => b.ending ++ b.breaks

/-- The block scalar at a place, and the place behind it. What belongs to the same parent
stands in column `parent`, if there is one; the content is indented further, by as much as is
said or as its first line is. -/
def block? (folded : Bool) (parent : Option Nat) (c : Cursor) :
    Option (List Char × Cursor) := do
  let (header, left) ← blockHeader? (c.left.drop 1)
  let c ← (c.jump left).endLine?
  let given := header.indent.map (parent.getD 0 + ·)
  let fuel := c.left.length + 1
  let lines ← emptyLines? given fuel c
  let indent := given.getD (max lines.deepest (parent.elim 1 (· + 1)))
  let b ← blockLines? folded indent fuel ⟨[], [], lines.breaks, false, lines.behind⟩
  return (b.text header.chomping, b.behind)

end RecordBridge.Yaml
