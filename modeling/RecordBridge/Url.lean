/-
  URLs — addresses in normal form.

  The text of a URL puts its parts together again: scheme, authority, path,
  query and fragment. `Url.host?` is the part that says where requests go.
-/

namespace RecordBridge

/-- Where a URL leads to, and as whom. -/
structure Authority where
  username : String
  password : String
  host : String
  /-- Left out when it is the port that the scheme stands for. -/
  port : Option Nat
  deriving DecidableEq, Repr

/-- The text of an authority. -/
def Authority.text (authority : Authority) : String :=
  authority.username ++
  (if authority.password = "" then "" else ":" ++ authority.password) ++
  (if authority.username = "" ∧ authority.password = "" then "" else "@") ++
  authority.host ++
  (match authority.port with
    | some port => ":" ++ toString port
    | none => "")

/-- An address. -/
structure Url where
  scheme : String
  authority : Option Authority
  path : String
  query : Option String
  fragment : Option String
  deriving DecidableEq, Repr

namespace Url

/-- The part of the text between the scheme and the path. -/
def authorityText (url : Url) : String :=
  match url.authority with
  | some authority => "//" ++ authority.text
  | none => ""

/-- A part that stands behind a sign of its own, if it is there. -/
def behind (sign : String) : Option String → String
  | some part => sign ++ part
  | none => ""

/-- The text of a URL. -/
def text (url : Url) : String :=
  url.scheme ++ ":" ++ url.authorityText ++ url.path ++ behind "?" url.query ++
    behind "#" url.fragment

/-- The host, unless there is none or it is empty. -/
def host? (url : Url) : Option String :=
  (url.authority.map Authority.host).filter (· ≠ "")

/-- The text without slashes at the end; paths are appended to it. -/
def baseText (url : Url) : String :=
  String.ofList (url.text.toList.reverse.dropWhile (· = '/')).reverse

end Url

end RecordBridge
