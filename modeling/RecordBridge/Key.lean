import RecordBridge.Digest.Md5
import RecordBridge.Digest.Sha256
import RecordBridge.Json.Decode
import RecordBridge.Model
import RecordBridge.Text.Blank
import RecordBridge.Text.Lowercase

/-
  Keys — the primary key of a new object, derived from the value of its unique
  property, so that creating the same record twice addresses the same object.

  The value is standardized first: lower case, one configured piece of text taken
  out, no blanks at the ends, and an underscore for each space inside.
-/

namespace RecordBridge

open Json (Shape)

/-- The digest that makes a key. -/
inductive KeyHash
  | md5
  | sha256
  deriving DecidableEq, Repr

namespace KeyHash

/-- The hashes in order. -/
def all : List KeyHash := [.md5, .sha256]

/-- The name of a hash. -/
def name : KeyHash → String
  | .md5 => "md5"
  | .sha256 => "sha256"

/-- Reads a hash from its name. -/
def ofName (name : String) : Decoded KeyHash :=
  match all.find? (·.name = name) with
  | some hash => .ok hash
  | none => .error (.unknownVariant name (all.map KeyHash.name))

/-- Reads a hash: its name, or an object with its name over null. -/
def decode (json : Json) : Decoded KeyHash :=
  match json with
  | .string name => ofName name
  | .object [(name, value)] => do
    let hash ← ofName name
    if value = .null then return hash else throw (.invalidType value "unit")
  | .object _ => .error (.invalidValue json "map with a single key")
  | other => .error (.invalidType other "string or map")

/-- The digest of some bytes. -/
def digest : KeyHash → Bytes → Bytes
  | .md5 => Digest.Md5.digest
  | .sha256 => Digest.Sha256.digest

end KeyHash

/-- Takes the first occurrence of `piece` out of a text. -/
def removeFirst (piece : List Char) : List Char → List Char
  | [] => []
  | c :: rest =>
    if piece.isPrefixOf (c :: rest) then (c :: rest).drop piece.length
    else c :: removeFirst piece rest

/-- How keys are derived. -/
structure KeyDerivation where
  /-- The text that is taken out; never empty. -/
  strip : Option String
  hash : KeyHash
  deriving DecidableEq, Repr

namespace KeyDerivation

/-- A derivation; an empty text to take out is none. -/
def new (strip : Option String) (hash : KeyHash) : KeyDerivation :=
  ⟨strip.filter (· ≠ ""), hash⟩

/-- The text that is taken out when nothing else is configured. -/
def defaultStrip : String := "ncgca"

/-- The derivation when nothing else is configured. -/
def default : KeyDerivation := ⟨some defaultStrip, .md5⟩

instance : Inhabited KeyDerivation := ⟨default⟩

/-- A space becomes an underscore. -/
def spaceToUnderscore (c : Char) : Char := if c = ' ' then '_' else c

/-- Takes out what is configured, if anything. -/
def stripped (kd : KeyDerivation) (text : List Char) : List Char :=
  match kd.strip with
  | some piece => removeFirst piece.toList text
  | none => text

/-- The standard form of a value. -/
def standardizeChars (kd : KeyDerivation) (text : List Char) : List Char :=
  (Blank.trim (kd.stripped (Lowercase.lower text))).map spaceToUnderscore

/-- The standard form of a value. -/
def standardize (kd : KeyDerivation) (value : String) : String :=
  String.ofList (kd.standardizeChars value.toList)

/-- The key of a value: the hexadecimal digest of its standard form. -/
def digest (kd : KeyDerivation) (value : String) : String :=
  Digest.hex (kd.hash.digest (Utf8.encode (kd.standardize value)))

/-- The text of a value that a key can be derived from. -/
def uniqueText : Json → Option String
  | .string text => some text
  | .number n => some n.text
  | .bool true => some "true"
  | .bool false => some "false"
  | _ => none

/-- The key of a new object. -/
def derive (kd : KeyDerivation) (model : Model) (data : Record) : Except QueryError String := do
  let unique ← model.requireUniqueProperty
  match (data.get? unique).bind uniqueText with
  | some text => return kd.digest text
  | none => throw (.missingUniqueValue model.name unique)

end KeyDerivation

end RecordBridge
