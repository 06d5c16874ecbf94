/-
  URIs — the targets of requests: a scheme, an authority, a path and a query.

  The reader takes a URI as it is written; it changes nothing but the case of
  the schemes `http` and `https`, and it drops the fragment. An authority alone,
  without a scheme, is a URI too, and so is a path alone.
-/

namespace RecordBridge.Http

/-- Why a text is not a URI. -/
inductive UriFault
  | invalidCharacter
  | invalidAuthority
  | invalidFormat
  | schemeTooLong
  | tooLong
  | empty
  deriving DecidableEq, Repr

/-- The wording of a fault. -/
def UriFault.message : UriFault → String
  | invalidCharacter => "invalid uri character"
  | invalidAuthority => "invalid authority"
  | invalidFormat => "invalid format"
  | schemeTooLong => "scheme too long"
  | tooLong => "uri too long"
  | empty => "empty string"

/-- A scheme; the two of HTTP are known. -/
inductive Scheme
  | http
  | https
  | other (name : String)
  deriving DecidableEq, Repr

/-- The text of a scheme. -/
def Scheme.text : Scheme → String
  | http => "http"
  | https => "https"
  | other name => name

/-- A URI. An absent authority is empty. -/
structure Uri where
  scheme : Option Scheme
  authority : String
  path : String
  query : Option String
  deriving DecidableEq, Repr

/-- The text of a URI. -/
def Uri.text (uri : Uri) : String :=
  (match uri.scheme with
    | some scheme => scheme.text ++ "://"
    | none => "") ++
  uri.authority ++ uri.path ++
  (match uri.query with
    | some query => "?" ++ query
    | none => "")

namespace Uri

/-- A URI has at most this many bytes. -/
def maxLength : Nat := 65534

/-- A scheme has at most this many characters. -/
def maxSchemeLength : Nat := 64

/-! ### Schemes -/

/-- Whether a character may stand in a scheme. -/
def isSchemeChar (c : Char) : Bool :=
  c.isAlphanum || c = '+' || c = '-' || c = '.' || c = '~'

/-- What is left of a text after a prefix in any case. -/
def dropPrefix? (start : List Char) (text : List Char) : Option (List Char) :=
  if (text.take start.length).map Char.toLower = start then some (text.drop start.length) else none

/-- The scheme in front of a text and what is left after `://`; a text that starts
otherwise has none. -/
def splitScheme (text : List Char) : Except UriFault (Option Scheme × List Char) :=
  match dropPrefix? ['h', 't', 't', 'p', ':', '/', '/'] text with
  | some rest => .ok (some .http, rest)
  | none =>
    match dropPrefix? ['h', 't', 't', 'p', 's', ':', '/', '/'] text with
    | some rest => .ok (some .https, rest)
    | none =>
      let name := text.takeWhile isSchemeChar
      match text.dropWhile isSchemeChar with
      | ':' :: '/' :: '/' :: rest =>
        if text.length ≤ 3 then .ok (none, text)
        else if maxSchemeLength < name.length then .error .schemeTooLong
        else .ok (some (.other (String.ofList name)), rest)
      | _ => .ok (none, text)

/-! ### Authorities -/

/-- Whether a character may stand in an authority. -/
def isAuthorityChar (c : Char) : Bool :=
  c.isAlphanum || ['!', '$', '&', '\'', '(', ')', '*', '+', ',', '-', '.', ':', ';', '=', '@',
    '[', ']', '_', '~'].contains c

/-- Whether a character ends an authority. -/
def endsAuthority (c : Char) : Bool := c = '/' || c = '?' || c = '#'

/-- What has been seen of an authority. -/
structure AuthorityScan where
  /-- Colons since the last `@` or `]`. -/
  colons : Nat
  opened : Bool
  closed : Bool
  /-- A percent sign since the last `@` or `]`. -/
  percent : Bool
  /-- The last character was an `@`. -/
  endsWithAt : Bool
  deriving DecidableEq, Repr

/-- Nothing has been seen yet. -/
def AuthorityScan.start : AuthorityScan := ⟨0, false, false, false, false⟩

/-- At most this many colons stand in a row of address parts. -/
def maxColons : Nat := 8

/-- One more character of an authority. -/
def AuthorityScan.step (s : AuthorityScan) (c : Char) : Except UriFault AuthorityScan :=
  let s := { s with endsWithAt := c = '@' }
  if c = ':' then
    if maxColons ≤ s.colons then .error .invalidAuthority
    else .ok { s with colons := s.colons + 1 }
  else if c = '[' then
    if s.percent || s.opened then .error .invalidAuthority else .ok { s with opened := true }
  else if c = ']' then
    if !s.opened || s.closed then .error .invalidAuthority
    else .ok { s with closed := true, colons := 0, percent := false }
  else if c = '@' then .ok { s with colons := 0, percent := false }
  else if c = '%' then .ok { s with percent := true }
  else if isAuthorityChar c then .ok s
  else .error .invalidCharacter

/-- Whether an authority may end here. -/
def AuthorityScan.isComplete (s : AuthorityScan) : Bool :=
  s.opened == s.closed && s.colons ≤ 1 && !s.endsWithAt && !s.percent

/-- Reads an authority: its characters, and what is left. The characters read so far
are in `seen`, last first. -/
def authorityFrom (s : AuthorityScan) (seen : List Char) :
    List Char → Except UriFault (List Char × List Char)
  | [] => if s.isComplete then .ok (seen.reverse, []) else .error .invalidAuthority
  | c :: rest =>
    if endsAuthority c then
      if s.isComplete then .ok (seen.reverse, c :: rest) else .error .invalidAuthority
    else
      match s.step c with
      | .ok s => authorityFrom s (c :: seen) rest
      | .error e => .error e

/-- Reads an authority from a text that must not be empty. -/
def splitAuthority (text : List Char) : Except UriFault (List Char × List Char) :=
  if text.isEmpty then .error .empty else authorityFrom .start [] text

/-! ### Paths and queries -/

/-- Whether a character may stand in a path. -/
def isPathChar (c : Char) : Bool :=
  0x21 ≤ c.toNat && c ≠ '<' && c ≠ '>' && c ≠ Char.ofNat 0x60 && c ≠ Char.ofNat 0x7F &&
    c ≠ '?' && c ≠ '#'

/-- Whether a character may stand in a query. -/
def isQueryChar (c : Char) : Bool :=
  0x21 ≤ c.toNat && c ≠ '"' && c ≠ '<' && c ≠ '>' && c ≠ Char.ofNat 0x7F && c ≠ '#'

/-- Reads a path and a query, up to a fragment. An empty path is the root. -/
def pathAndQuery (text : List Char) : Except UriFault (String × Option String) :=
  let path := text.takeWhile isPathChar
  let pathText := if path.isEmpty then "/" else String.ofList path
  match text.dropWhile isPathChar with
  | [] => .ok (pathText, none)
  | c :: rest =>
    if c = '#' then .ok (pathText, none)
    else if c = '?' then
      let query := String.ofList (rest.takeWhile isQueryChar)
      match rest.dropWhile isQueryChar with
      | [] => .ok (pathText, some query)
      | d :: _ => if d = '#' then .ok (pathText, some query) else .error .invalidCharacter
    else .error .invalidCharacter

/-! ### The whole -/

/-- Reads a URI that does not start with a slash. -/
def parseFull (text : List Char) : Except UriFault Uri := do
  let (scheme, rest) ← splitScheme text
  let (authority, rest) ← splitAuthority rest
  match scheme with
  | none =>
    if rest.isEmpty then return ⟨none, String.ofList authority, "", none⟩
    else throw .invalidFormat
  | some scheme =>
    if authority.isEmpty then throw .invalidFormat
    let (path, query) ← pathAndQuery rest
    return ⟨some scheme, String.ofList authority, path, query⟩

/-- Reads a URI. -/
def parse (text : String) : Except UriFault Uri :=
  if maxLength < text.utf8ByteSize then .error .tooLong
  else
    match text.toList with
    | [] => .error .empty
    | ['*'] => .ok ⟨none, "", "*", none⟩
    | '/' :: rest => do
      let (path, query) ← pathAndQuery ('/' :: rest)
      return ⟨none, "", path, query⟩
    | [c] => do
      let (authority, rest) ← splitAuthority [c]
      if rest.isEmpty then return ⟨none, String.ofList authority, "", none⟩
      else throw .invalidCharacter
    | chars => parseFull chars

end Uri

end RecordBridge.Http
