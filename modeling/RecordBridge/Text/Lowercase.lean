import RecordBridge.Text.LetterCase

/-
  Lower case — the full lower-case form of a text.

  Three rules: the capital I with a dot above becomes an i followed by a dot
  above; a capital sigma becomes the final form at the end of a word, that is
  when a cased letter stands before it and none after it (marks and other
  ignorable characters in between do not count); every other character becomes
  its single lower-case character.
-/

namespace RecordBridge.Lowercase

open LetterCase (isCased isIgnorable lowerChar)

/-- Whether the first character that is not passed over is cased. -/
def startsCased (text : List Char) : Bool :=
  match text.dropWhile isIgnorable with
  | c :: _ => isCased c
  | [] => false

/-- The lower-case sigma for a place with these characters before it, nearest
first, and these after it. -/
def sigma (before after : List Char) : Char :=
  if startsCased before && !startsCased after then 'ς' else 'σ'

/-- The lower-case form of what follows `before`, whose nearest character stands
first. -/
def lowerFrom (before : List Char) : List Char → List Char
  | [] => []
  | c :: rest =>
    let here :=
      if c = 'Σ' then [sigma before rest]
      else if c = 'İ' then ['i', Char.ofNat 0x307]
      else [lowerChar c]
    here ++ lowerFrom (c :: before) rest

/-- The lower-case form of a text. -/
def lower (text : List Char) : List Char := lowerFrom [] text

end RecordBridge.Lowercase
