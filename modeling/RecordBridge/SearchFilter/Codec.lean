import RecordBridge.SearchFilter
import RecordBridge.Json.Decode

/-
  The wire form of search filters.

  A filter is an object with its kind under `type` and its body under the kind.
  Reading also accepts an array of the kind and the body. Inside another filter
  the kind may be given by its number.
-/

namespace RecordBridge.SearchFilter

open Json (Shape elementCount)

/-! ### Writing -/

/-- A filter of a kind. -/
def tagged (kind : String) (body : Json) : Json :=
  .object [("type", .string kind), (kind, body)]

mutual

/-- Writes a filter. -/
def toJson : SearchFilter → Json
  | .matchAll body => tagged "matchAll" (.ofRecord body)
  | .terms values field =>
    tagged "terms" (.object [("terms", .array values), ("field", .string field)])
  | .not inner => tagged "not" (toJson inner)
  | .and children => tagged "and" (.array (toJsons children))
  | .or children => tagged "or" (.array (toJsons children))
  | .wildcard field pattern =>
    tagged "wildcard" (.object [("field", .string field), ("value", .string pattern)])

/-- Writes some filters. -/
def toJsons : List SearchFilter → List Json
  | [] => []
  | child :: rest => toJson child :: toJsons rest

end

/-! ### Reading -/

/-- The kinds of filters. -/
inductive Kind
  | matchAll
  | terms
  | not
  | and
  | or
  | wildcard
  deriving DecidableEq, Repr

/-- The kinds in order. -/
def Kind.all : List Kind := [.matchAll, .terms, .not, .and, .or, .wildcard]

/-- The name of a kind. -/
def Kind.name : Kind → String
  | .matchAll => "matchAll"
  | .terms => "terms"
  | .not => "not"
  | .and => "and"
  | .or => "or"
  | .wildcard => "wildcard"

/-- The variant of a kind, in messages. -/
def Kind.title : Kind → String
  | .matchAll => "struct variant CompiledFilter::MatchAll"
  | .terms => "struct variant CompiledFilter::Terms"
  | .not => "struct variant CompiledFilter::Not"
  | .and => "struct variant CompiledFilter::And"
  | .or => "struct variant CompiledFilter::Or"
  | .wildcard => "struct variant CompiledFilter::Wildcard"

/-- Reads a kind from its name. -/
def Kind.ofName (name : String) : Decoded Kind :=
  match Kind.all.find? (·.name = name) with
  | some kind => .ok kind
  | none => .error (.unknownVariant name (Kind.all.map Kind.name))

/-- Reads a kind; a number is understood only inside another filter. -/
def Kind.decode (inside : Bool) (json : Json) : Decoded Kind :=
  match json with
  | .string name => Kind.ofName name
  | .number (.integer n) =>
    if inside ∧ 0 ≤ n then
      match Kind.all[n.toNat]? with
      | some kind => .ok kind
      | none => .error (.invalidValue json "variant index 0 <= i < 6")
    else .error (.invalidType json "variant identifier")
  | other => .error (.invalidType other "variant identifier")

/-- The fields of the body of `terms`. -/
def termsShape : Shape := .tagged "struct TermsFilter" ["terms", "field"]

/-- Checks one member of the body of `terms`. -/
def checkTermsMember (name : String) (json : Json) : Decoded Unit :=
  if name = "terms" then discard json.asItems
  else if name = "field" then discard json.asString
  else .ok ()

/-- Reads the body of `terms`. -/
def decodeTerms (json : Json) : Decoded SearchFilter := do
  let given ← termsShape.read checkTermsMember json
  let values ← given.required termsShape "terms" Json.asItems
  let field ← given.required termsShape "field" Json.asString
  return .terms values field

/-- The fields of the body of `wildcard`. -/
def wildcardShape : Shape := .tagged "struct WildcardFilter" ["field", "value"]

/-- Checks one member of the body of `wildcard`. -/
def checkWildcardMember (name : String) (json : Json) : Decoded Unit :=
  if name = "field" ∨ name = "value" then discard json.asString else .ok ()

/-- Reads the body of `wildcard`. -/
def decodeWildcard (json : Json) : Decoded SearchFilter := do
  let given ← wildcardShape.read checkWildcardMember json
  let field ← given.required wildcardShape "field" Json.asString
  let pattern ← given.required wildcardShape "value" Json.asString
  return .wildcard field pattern

mutual

/-- Reads a filter; `inside` says that it stands inside another one. -/
def decodeAt (inside : Bool) : Json → Decoded SearchFilter
  | .object members =>
    match lookupEntry "type" members with
    | none => .error (.missingField "type")
    | some tag =>
      match Kind.decode inside tag with
      | .error e => .error e
      | .ok kind => decodeMember kind members
  | .array [] => .error (.missingField "type")
  | .array (tag :: rest) =>
    match Kind.decode inside tag with
    | .error e => .error e
    | .ok kind =>
      match rest with
      | [] => .error (.invalidLength 0 (kind.title ++ " with " ++ elementCount 1))
      | body :: more =>
        match decodeBody kind body with
        | .error e => .error e
        | .ok filter =>
          if more.isEmpty then .ok filter
          else .error (.invalidLength (more.length + 1) (elementCount 1 ++ " in sequence"))
  | other => .error (.invalidType other "internally tagged enum CompiledFilter")

/-- Reads the body of a filter from the member that is called like its kind. -/
def decodeMember (kind : Kind) : List (String × Json) → Decoded SearchFilter
  | [] => .error (.missingField kind.name)
  | (name, body) :: rest =>
    if name = kind.name then decodeBody kind body else decodeMember kind rest

/-- Reads the body of a filter. -/
def decodeBody : Kind → Json → Decoded SearchFilter
  | .matchAll, body => (body.asRecord).map .matchAll
  | .terms, body => decodeTerms body
  | .wildcard, body => decodeWildcard body
  | .not, body => (decodeAt true body).map .not
  | .and, .array items => (decodeList items).map .and
  | .or, .array items => (decodeList items).map .or
  | .and, body | .or, body => .error (.invalidType body "a sequence")

/-- Reads some filters, up to the first bad one. -/
def decodeList : List Json → Decoded (List SearchFilter)
  | [] => .ok []
  | item :: rest =>
    match decodeAt true item with
    | .error e => .error e
    | .ok filter => (decodeList rest).map (filter :: ·)

end

/-- Reads a filter from its wire form. -/
def decode (json : Json) : Decoded SearchFilter := decodeAt false json

end RecordBridge.SearchFilter
