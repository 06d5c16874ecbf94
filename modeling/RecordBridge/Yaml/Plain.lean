import RecordBridge.Yaml.Cursor

/-
  Plain scalars — words without signs around them.

  A plain scalar goes on over blanks and line breaks, as long as the lines are
  indented far enough. It ends before a comment, before the colon behind a key,
  and in flow style before the signs of that style.
-/

namespace RecordBridge.Yaml

/-- Whether a character starts something else than a plain scalar. -/
def isIndicator (c : Char) : Bool :=
  isFlowSign c || ['-', '?', ':', '#', '&', '*', '!', '|', '>', '\'', '"', '%', '@',
    Char.ofNat 0x60].contains c

/-- Whether a plain scalar starts here. -/
def startsPlain (flow : Bool) : List Char → Bool
  | [] => false
  | c :: rest =>
    if c = '-' then !(rest.take 1).any isBlank
    else if c = '?' ∨ c = ':' then !flow && !endsWord rest
    else !isGapChar c && !isIndicator c

/-- The word at the front of a text. In flow style a colon must not touch another sign. -/
def plainWord? (flow : Bool) : List Char → Option (List Char)
  | [] => some []
  | c :: rest =>
    if isGapChar c then some []
    else if flow ∧ c = ':' ∧ (rest.take 1).any (fun d => isFlowSign d || d = '?') then none
    else if (c = ':' ∧ endsWord rest) ∨ (flow ∧ isFlowSign c) then some []
    else (plainWord? flow rest).map fun word => c :: word

/-- A plain scalar: its text, whether a line break has been passed behind it, and the place
behind it. -/
structure Plain where
  text : List Char
  broken : Bool
  behind : Cursor

/-- Goes on with a plain scalar behind `gap`, whose lines are indented to `indent`. The
characters read so far are in `seen`, last first. -/
def plainFrom? (flow : Bool) (indent : Nat) : Nat → List Char → Gap → Cursor → Option Plain
  | 0, _, _, _ => none
  | fuel + 1, seen, gap, c =>
    if c.isBoundary ∨ c.head? = some '#' then some ⟨seen.reverse, !gap.breaks.isEmpty, c⟩
    else do
      let word ← plainWord? flow c.left
      let behind := c.advance word.length
      let seen := if word.isEmpty then seen else word.reverse ++ (gap.text.reverse ++ seen)
      if !behind.head?.any isGapChar then
        return ⟨seen.reverse, word.isEmpty && !gap.breaks.isEmpty, behind⟩
      else if behind.isTabbed indent then none
      else
        let (gap, next) := behind.gap
        if !flow ∧ next.column < indent then
          return ⟨seen.reverse, !gap.breaks.isEmpty, next⟩
        else plainFrom? flow indent fuel seen gap next

/-- The plain scalar at a place. -/
def plain? (flow : Bool) (indent : Nat) (c : Cursor) : Option Plain :=
  plainFrom? flow indent (c.left.length + 1) [] Gap.none c

end RecordBridge.Yaml
