import RecordBridge.Decimal.Reader
import RecordBridge.Settings.Layers
import RecordBridge.Text.Blank
import RecordBridge.Text.Pieces

/-
  Settings from the environment — variables that start with `OBJSTORE_`.

  What follows the prefix is the name of a setting, in any case and between any
  blanks; two underscores lead into a group of settings. Variables that name no
  setting, or no member of a group, are passed over.
  The value of a variable is a truth value, a number, a quoted text, a list or a
  group if all of it can be read so, and its own text otherwise.
-/

namespace RecordBridge.Environment

open Numeral (splitSign)

/-! ### Values -/

/-- Whether a character is an ASCII blank. -/
def isSpace (c : Char) : Bool :=
  c = ' ' || c = '\t' || c = '\n' || c = '\r' || c = Char.ofNat 12

/-- Passes blanks. -/
def skipSpaces (text : List Char) : List Char := text.dropWhile isSpace

/-- Whether a character divides or encloses values. -/
def isSeparator (c : Char) : Bool := [',', '\x7b', '\x7d', '[', ']'].contains c

/-- Whether a character may stand in a bare key. -/
def isKeyChar (c : Char) : Bool := c.isAlphanum || c = '_' || c = '-'

/-- The integer of a word, if it has 64 bits. -/
def integer? (word : List Char) : Option Int := do
  let (sign, digits) := splitSign word
  if digits.isEmpty then none
  let n ← Numeral.natural? 10 digits
  if sign = some '-' then
    if n ≤ Nat.pow 2 63 then return -(n : Int) else none
  else if n < Nat.pow 2 64 then return n else none

/-- The value of a word: a number with a point, an integer, or the word itself. -/
def ofWord (word : List Char) : Json :=
  match if word.contains '.' then Decimal.real? word else none with
  | some f => .number (.real f)
  | none =>
    match integer? word with
    | some n => .ofInt n
    | none => .string (String.ofList word)

/-- What follows `start` in a text that starts with it. -/
def after? (start text : List Char) : Option (List Char) :=
  if start.isPrefixOf text then some (text.drop start.length) else none

/-- The text up to the closing quote with its escapes, and what follows. -/
def quoted? : List Char → Option (List Char × List Char)
  | [] => none
  | '\\' :: c :: rest => (quoted? rest).map fun (text, rest) => ('\\' :: c :: text, rest)
  | '"' :: rest => some ([], rest)
  | c :: rest => (quoted? rest).map fun (text, rest) => (c :: text, rest)

/-- The character that a letter stands for behind a backslash. -/
def escaped? : Char → Option Char
  | 'b' => some (Char.ofNat 8)
  | 't' => some '\t'
  | 'n' => some '\n'
  | 'f' => some (Char.ofNat 12)
  | 'r' => some '\r'
  | '"' => some '"'
  | '\\' => some '\\'
  | _ => none

/-- The character of a code point in hexadecimal digits. -/
def codePoint? (width : Nat) (digits : List Char) : Option Char := do
  let n ← Numeral.natural? 16 (digits.take width)
  if width ≤ digits.length ∧ n < 0x110000 ∧ ¬ (0xD800 ≤ n ∧ n ≤ 0xDFFF) then
    some (Char.ofNat n)
  else none

/-- Resolves the escapes in what is left after `skip` characters. -/
def unescapeFrom : Nat → List Char → Option (List Char)
  | _, [] => some []
  | skip + 1, _ :: rest => unescapeFrom skip rest
  | 0, c :: rest =>
    if c = '\\' then
      match rest with
      | 'u' :: digits => do return (← codePoint? 4 digits) :: (← unescapeFrom 5 rest)
      | 'U' :: digits => do return (← codePoint? 8 digits) :: (← unescapeFrom 9 rest)
      | letter :: _ => do return (← escaped? letter) :: (← unescapeFrom 1 rest)
      | [] => none
    else if c.toNat < 0x20 ∧ c ≠ '\t' ∨ c.toNat = 0x7F then none
    else (unescapeFrom 0 rest).map fun text => c :: text

/-- A quoted text, after its quote. -/
def string? (text : List Char) : Option (String × List Char) := do
  let (raw, rest) ← quoted? text
  return (String.ofList (← unescapeFrom 0 raw), rest)

/-- A key, quoted or bare. -/
def key? (text : List Char) : Option (String × List Char) :=
  match text with
  | '"' :: rest => string? rest
  | _ =>
    let word := text.takeWhile isKeyChar
    if word.isEmpty then none else some (String.ofList word, text.drop word.length)

mutual

/-- A value and what follows it. -/
def value? : Nat → List Char → Option (Json × List Char)
  | 0, _ => none
  | fuel + 1, text => do
    let text := skipSpaces text
    let (value, rest) ←
      match after? "true".toList text, after? "false".toList text, text with
      | some rest, _, _ => some (Json.bool true, rest)
      | _, some rest, _ => some (Json.bool false, rest)
      | _, _, '[' :: rest => (items? fuel [] rest).map fun (items, rest) => (.array items, rest)
      | _, _, '\x7b' :: rest =>
        (members? fuel [] rest).map fun (members, rest) => (.object members, rest)
      | _, _, '"' :: rest => (string? rest).map fun (text, rest) => (.string text, rest)
      | _, _, '\'' :: c :: '\'' :: rest => some (.string (String.singleton c), rest)
      | _, _, '\'' :: _ => none
      | _, _, _ =>
        let word := text.takeWhile (!isSeparator ·)
        some (ofWord (Blank.trim word), text.drop word.length)
    return (value, skipSpaces rest)

/-- The items of a list after its bracket. -/
def items? : Nat → List Json → List Char → Option (List Json × List Char)
  | 0, _, _ => none
  | fuel + 1, items, text =>
    match text with
    | ']' :: rest => some (items, rest)
    | _ => do
      let (item, rest) ← value? fuel text
      match rest with
      | ',' :: rest => items? fuel (items ++ [item]) rest
      | ']' :: rest => return (items ++ [item], rest)
      | _ => none

/-- The members of a group after its brace. -/
def members? : Nat → List (String × Json) → List Char → Option (List (String × Json) × List Char)
  | 0, _, _ => none
  | fuel + 1, members, text =>
    match text with
    | '\x7d' :: rest => some (members, rest)
    | _ => do
      let (key, rest) ← key? (skipSpaces text)
      let rest ← after? ['='] (skipSpaces rest)
      let (value, rest) ← value? fuel rest
      let members := insertEntry key value members
      match rest with
      | ',' :: rest => members? fuel members rest
      | '\x7d' :: rest => return (members, rest)
      | _ => none

end

/-- The value of a variable. -/
def ofText (text : String) : Json :=
  match value? (text.length + 1) text.toList with
  | some (value, []) => value
  | _ => .string text

/-! ### Variables -/

/-- What the names of variables start with. -/
def namePrefix : List Char := "objstore_".toList

/-- Two underscores as a point. -/
def divide : List Char → List Char
  | '_' :: '_' :: rest => '.' :: divide rest
  | c :: rest => c :: divide rest
  | [] => []

/-- The names of the groups that a variable leads through, ending with its own; nothing if
it names no setting or leaves a name empty. -/
def path? (name : String) : Option (List String) := do
  let key ← after? namePrefix ((Blank.trim name.toList).map Char.toLower)
  let path := (Pieces.split '.' (divide key)).map String.ofList
  if Settings.shape.fields.contains (path.headD "") ∧ !path.contains "" then some path else none

/-- A value inside groups. -/
def nest (path : List String) (value : Json) : Json :=
  path.foldr (fun name inner => .object [(name, inner)]) value

/-- The settings in some variables; later ones are put over earlier ones. -/
def settings (environment : List (String × String)) : Json :=
  environment.foldl (fun layer v =>
    match path? v.1 with
    | some path => Layers.overlay layer (nest path (ofText v.2))
    | none => layer) (.object [])

end RecordBridge.Environment
