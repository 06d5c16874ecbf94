import RecordBridge.Json.Printer
import RecordBridge.Text.Quoted

/-
  Decoding — from JSON values to typed ones, with the cause when it fails.

  A structure may be given by an object or by an array of its fields in order.
  Of an object every member is checked in the order in which it stands, so that
  the first bad one is reported; members that are no field are ignored. After
  that fields are read by name, and a field that is missing takes its default or
  is reported.
-/

namespace RecordBridge

/-- Why a value is not of the wanted type. -/
inductive DecodeError
  /-- The value is of another kind. -/
  | invalidType (found : Json) (expected : String)
  /-- The value is of the right kind and out of range. -/
  | invalidValue (found : Json) (expected : String)
  /-- An array has too many or too few items. -/
  | invalidLength (length : Nat) (expected : String)
  /-- A field without a default is missing. -/
  | missingField (name : String)
  /-- The structure has no such field. -/
  | unknownField (name : String) (known : List String)
  /-- The name is none of the known ones. -/
  | unknownVariant (name : String) (known : List String)
  /-- The value has none of the shapes of a type that allows several. -/
  | noAlternative (type : String)
  deriving DecidableEq

namespace Json

/-- What a value is, in words for a message. -/
def describe : Json → String
  | .null => "null"
  | .bool value => if value then "boolean `true`" else "boolean `false`"
  | .number (.integer value) => "integer `" ++ toString value ++ "`"
  | .number (.real value) => "floating point `" ++ realText value ++ "`"
  | .string value => "string " ++ Quoted.quoted value
  | .array _ => "sequence"
  | .object _ => "map"

end Json

/-- A list of names to choose from, in words for a message. -/
def oneOf : List String → String
  | [] => "there are no variants"
  | [a] => "`" ++ a ++ "`"
  | [a, b] => "`" ++ a ++ "` or `" ++ b ++ "`"
  | names => "one of " ++ String.intercalate ", " (names.map fun name => "`" ++ name ++ "`")

/-- The wording of an error. -/
def DecodeError.message : DecodeError → String
  | invalidType found expected => "invalid type: " ++ found.describe ++ ", expected " ++ expected
  | invalidValue found expected =>
    "invalid value: " ++ found.describe ++ ", expected " ++ expected
  | invalidLength length expected =>
    "invalid length " ++ toString length ++ ", expected " ++ expected
  | missingField name => "missing field `" ++ name ++ "`"
  | unknownField name known => "unknown field `" ++ name ++ "`, expected " ++ oneOf known
  | unknownVariant name known => "unknown variant `" ++ name ++ "`, expected " ++ oneOf known
  | noAlternative type => "data did not match any variant of untagged enum " ++ type

/-- A result of decoding. -/
abbrev Decoded (α : Type) := Except DecodeError α

namespace Json

/-! ### Values of one kind -/

/-- A string. -/
def asString : Json → Decoded String
  | .string value => .ok value
  | other => .error (.invalidType other "a string")

/-- A Boolean. -/
def asBool : Json → Decoded Bool
  | .bool value => .ok value
  | other => .error (.invalidType other "a boolean")

/-- A natural number below `2 ^ bits`. -/
def asUnsigned (bits : Nat) (json : Json) : Decoded Nat :=
  let expected := "u" ++ toString bits
  match json with
  | .number (.integer value) =>
    if 0 ≤ value ∧ value < Nat.pow 2 bits then .ok value.toNat
    else .error (.invalidValue json expected)
  | other => .error (.invalidType other expected)

/-- An object, taken as a record. -/
def asRecord (json : Json) : Decoded Record :=
  match json with
  | .object members =>
    match Assoc.ofEntries? members with
    | some record => .ok record
    | none => .error (.invalidValue json "a map")
  | other => .error (.invalidType other "a map")

/-- The items of an array. -/
def asItems : Json → Decoded (List Json)
  | .array items => .ok items
  | other => .error (.invalidType other "a sequence")

/-- An array of strings. -/
def asStrings (json : Json) : Decoded (List String) := do
  (← json.asItems).mapM asString

/-- An object whose values all decode, in order. -/
def asAssoc {α : Type} (decode : Json → Decoded α) (json : Json) : Decoded (Assoc α) :=
  match json with
  | .object members => do
    let entries ← members.mapM fun m => do return (m.1, ← decode m.2)
    match Assoc.ofEntries? entries with
    | some map => return map
    | none => throw (.invalidValue json "a map")
  | other => .error (.invalidType other "a map")

/-- Nothing for null, and otherwise what `decode` gives. -/
def asOptional {α : Type} (decode : Json → Decoded α) : Json → Decoded (Option α)
  | .null => .ok none
  | other => (decode other).map some

/-! ### Structures -/

/-- What is said about a structure in messages. -/
structure Shape where
  /-- The kind and name of the structure. -/
  title : String
  /-- Its fields in order. -/
  fields : List String
  /-- What is said when an array has more items than there are fields. -/
  excess : String

/-- A structure with its fields in order, given by a value of its own. -/
def Shape.plain (name : String) (fields : List String) : Shape :=
  ⟨"struct " ++ name, fields, "fewer elements in array"⟩

/-- Some number of elements, in words. -/
def elementCount (n : Nat) : String :=
  toString n ++ (if n = 1 then " element" else " elements")

/-- A structure with its fields in order, given inside a value whose type is told
from its tag. -/
def Shape.tagged (title : String) (fields : List String) : Shape :=
  ⟨title, fields, elementCount fields.length ++ " in sequence"⟩

/-- The members that a value gives for a structure, and whether it gave names. -/
structure Given where
  members : List (String × Json)
  named : Bool

/-- The members that a value gives for a structure, each of them checked. -/
def Shape.read (shape : Shape) (check : String → Json → Decoded Unit) (json : Json) :
    Decoded Given :=
  match json with
  | .object members => do
    members.forM fun m => check m.1 m.2
    return ⟨members, true⟩
  | .array items => do
    let members := shape.fields.zip items
    members.forM fun m => check m.1 m.2
    if shape.fields.length < items.length then
      throw (.invalidLength items.length shape.excess)
    return ⟨members, false⟩
  | other => throw (.invalidType other shape.title)

/-- A field with a default. -/
def Given.field {α : Type} (given : Given) (name : String) (decode : Json → Decoded α)
    (default : α) : Decoded α :=
  match lookupEntry name given.members with
  | some value => decode value
  | none => .ok default

/-- A field without a default. -/
def Given.required {α : Type} (given : Given) (shape : Shape) (name : String)
    (decode : Json → Decoded α) : Decoded α :=
  match lookupEntry name given.members with
  | some value => decode value
  | none =>
    if given.named then .error (.missingField name)
    else .error (.invalidLength (shape.fields.idxOf name)
      (shape.title ++ " with " ++ elementCount shape.fields.length))

end Json

end RecordBridge
