import RecordBridge.Url
import RecordBridge.Url.Host

/-
  Reading URLs — from what people write to the normal form.

  Controls and spaces around the text and line breaks and tabs inside it count
  for nothing. For the special schemes, those of the web and of files, a
  backslash counts as a slash and the path always starts with one. A path is
  read segment by segment, so that `.` and `..` disappear from it. A text
  without a scheme is not a URL.
-/

namespace RecordBridge.Url

/-! ### Schemes -/

/-- The port that a special scheme stands for. -/
def defaultPort : String → Option Nat
  | "ftp" => some 21
  | "http" | "ws" => some 80
  | "https" | "wss" => some 443
  | _ => none

/-- Whether a scheme is one of the special ones. -/
def isSpecial (scheme : String) : Bool := scheme = "file" || (defaultPort scheme).isSome

/-- Whether a character may stand in a scheme. -/
def isSchemeChar (c : Char) : Bool := c.isAlphanum || c = '+' || c = '-' || c = '.'

/-- The scheme in lower case, and what follows its colon. -/
def splitScheme? (text : List Char) : Option (String × List Char) :=
  if (text.take 1).all Char.isAlpha then
    match text.dropWhile isSchemeChar with
    | ':' :: rest => some (String.ofList ((text.takeWhile isSchemeChar).map Char.toLower), rest)
    | _ => none
  else none

/-- Whether a character counts for nothing at the ends of a URL. -/
def isEdge (c : Char) : Bool := c.toNat ≤ 0x20

/-- Whether a character counts for nothing anywhere in a URL. -/
def isDropped (c : Char) : Bool := c = '\t' || c = '\n' || c = '\r'

/-- The characters of a URL that count. -/
def significant (text : String) : List Char :=
  ((((text.toList.dropWhile isEdge).reverse).dropWhile isEdge).reverse).filter (!isDropped ·)

/-! ### Authorities -/

/-- Whether a character counts as a slash. -/
def isSlash (special : Bool) (c : Char) : Bool := c = '/' || (special && c = '\\')

/-- Whether a character ends an authority. -/
def endsAuthority (special : Bool) (c : Char) : Bool := isSlash special c || c = '?' || c = '#'

/-- Whether a character ends a path. -/
def endsPath (c : Char) : Bool := c = '?' || c = '#'

/-- What stands before and after the last `@`, if there is one. -/
def splitCredentials (text : List Char) : Option (List Char × List Char) :=
  let behind := (text.reverse.takeWhile (· ≠ '@')).reverse
  if behind.length < text.length then some (text.take (text.length - behind.length - 1), behind)
  else none

/-- A user name and a password, divided by the first colon. -/
def credentials (text : List Char) : String × String :=
  let name := text.takeWhile (· ≠ ':')
  let password := (text.dropWhile (· ≠ ':')).drop 1
  (String.ofList (Percent.encode Percent.inCredentials name),
    String.ofList (Percent.encode Percent.inCredentials password))

/-- What stands before the first colon outside brackets, and what follows it. -/
def splitPort (inBrackets : Bool) : List Char → List Char × Option (List Char)
  | [] => ([], none)
  | c :: rest =>
    if c = ':' ∧ !inBrackets then ([], some rest)
    else
      let (host, port) := splitPort (c = '[' || (inBrackets && c ≠ ']')) rest
      (c :: host, port)

/-- The port at the front of a text, and what follows it; none for no digits and for the
port of the scheme. -/
def port? (scheme : String) (text : List Char) : Option (Option Nat × List Char) := do
  let digits := text.takeWhile Char.isDigit
  let rest := text.dropWhile Char.isDigit
  if !rest.isEmpty ∧ rest.head? ≠ some '\\' then none
  else if digits.isEmpty then return (none, rest)
  else
    let n ← Numeral.natural? 10 digits
    if 65535 < n then none
    else if defaultPort scheme = some n then return (none, rest)
    else return (some n, rest)

/-- The host of a scheme that has a special form for it or not. -/
def host?Of (scheme : String) (text : List Char) : Option String :=
  if isSpecial scheme then Host.special? text else Host.plain? text

/-- Reads an authority, and gives what follows it. Only a scheme that is not special may have
an empty host, and only when no user, no password and no port are given; an empty user in
front of an empty host must end the text. -/
def authority? (scheme : String) (text : List Char) : Option (Authority × List Char) := do
  let special := isSpecial scheme
  let front := text.takeWhile fun c => !endsAuthority special c
  let rest := text.dropWhile fun c => !endsAuthority special c
  let (login, place) := (splitCredentials front).getD ([], front)
  let (username, password) := credentials login
  let (hostText, portText) := splitPort false place
  if hostText.isEmpty ∧ (special ∨ portText.isSome ∨ username ≠ "" ∨ password ≠ "" ∨
      (front = ['@'] ∧ !rest.isEmpty)) then none
  else
    let host ← host?Of scheme hostText
    match portText with
    | none => return (⟨username, password, host, none⟩, rest)
    | some portText =>
      let (port, behind) ← port? scheme portText
      return (⟨username, password, host, port⟩, behind ++ rest)

/-- Whether a text is a letter with a colon or a bar behind it, the name of a drive. -/
def isDrive : List Char → Bool
  | [letter, sign] => letter.isAlpha && (sign = ':' || sign = '|')
  | _ => false

/-- Reads the host of a file, and gives what follows it. The host may be empty and has no
port; the name of a drive is no host but belongs to the path. -/
def fileAuthority? (text : List Char) : Option (Authority × List Char) :=
  let front := text.takeWhile fun c => !endsAuthority true c
  if front.isEmpty ∨ isDrive front then some (⟨"", "", "", none⟩, text)
  else (Host.special? front).map fun host =>
    (⟨"", "", host, none⟩, text.dropWhile fun c => !endsAuthority true c)

/-! ### Paths -/

/-- A segment with escaped points as points. -/
def plainPoints : List Char → List Char
  | '%' :: '2' :: 'e' :: rest | '%' :: '2' :: 'E' :: rest => '.' :: plainPoints rest
  | c :: rest => c :: plainPoints rest
  | [] => []

/-- A path without its last segment; the name of a drive stays. -/
def parent (path : List (List Char)) : List (List Char) :=
  if path.getLast?.any isDrive then path else path.dropLast

/-- Adds a segment to a path; a segment of points moves within it, and leaves an empty
segment when nothing follows. -/
def addSegment (path : List (List Char)) (segment : List Char) (last : Bool) :
    List (List Char) :=
  let stop := if last then [[]] else []
  match plainPoints segment with
  | ['.'] => path ++ stop
  | ['.', '.'] => parent path ++ stop
  | _ => path ++ [Percent.encode Percent.inPath segment]

/-- Adds segments to a path. -/
def addSegments (path : List (List Char)) : List (List Char) → List (List Char)
  | [] => path
  | [segment] => addSegment path segment true
  | segment :: rest => addSegments (addSegment path segment false) rest

/-- The text of the path of a text that follows a slash. -/
def pathText (special : Bool) (text : List Char) : String :=
  let text := text.map fun c => if isSlash special c then '/' else c
  String.ofList ((addSegments [] (Pieces.split '/' text)).flatMap ('/' :: ·))

/-- The path behind an authority. A special scheme has one always. -/
def pathBehind (special : Bool) (text : List Char) : String :=
  match text with
  | [] => if special then "/" else ""
  | c :: rest => pathText special (if isSlash special c then rest else text)

/-! ### The whole -/

/-- Reads the query and the fragment. -/
def splitTail (special : Bool) (text : List Char) : Option String × Option String :=
  let escaped := if special then Percent.inSpecialQuery else Percent.inQuery
  let query := text.takeWhile (· ≠ '#')
  let fragment := text.dropWhile (· ≠ '#')
  (if query.isEmpty then none else some (String.ofList (Percent.encode escaped (query.drop 1))),
    if fragment.isEmpty then none
    else some (String.ofList (Percent.encode Percent.inFragment (fragment.drop 1))))

/-- Reads the authority behind the scheme, if there is one, and gives what follows it. -/
def front? (scheme : String) (text : List Char) : Option (Option Authority × List Char) :=
  let given (found : Option (Authority × List Char)) :=
    found.map fun (authority, rest) => (some authority, rest)
  if scheme = "file" then
    match text with
    | a :: b :: rest =>
      given (if isSlash true a ∧ isSlash true b then fileAuthority? rest
        else some (⟨"", "", "", none⟩, text))
    | _ => some (some ⟨"", "", "", none⟩, text)
  else if isSpecial scheme then given (authority? scheme (text.dropWhile (isSlash true)))
  else
    match text with
    | '/' :: '/' :: rest => given (authority? scheme rest)
    | _ => some (none, text)

/-- The path of a URL with or without an authority. Without one, only a slash starts a path
of segments. -/
def pathOf (special authority : Bool) (text : List Char) : String :=
  if authority then pathBehind special text
  else
    match text with
    | '/' :: rest => pathText false rest
    | _ => String.ofList (Percent.encode Percent.inControls text)

/-- Reads a URL. -/
def parse? (text : String) : Option Url := do
  let (scheme, rest) ← splitScheme? (significant text)
  let special := isSpecial scheme
  let (authority, rest) ← front? scheme rest
  let path := pathOf special authority.isSome (rest.takeWhile fun c => !endsPath c)
  let (query, fragment) := splitTail special (rest.dropWhile fun c => !endsPath c)
  return ⟨scheme, authority, path, query, fragment⟩

end RecordBridge.Url
