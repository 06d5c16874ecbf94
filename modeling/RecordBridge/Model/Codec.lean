import RecordBridge.Model
import RecordBridge.Json.Decode

/-
  The JSON form of models.

  Reading accepts redundant forms (explicit nulls and false flags, unknown
  members, arrays of fields); writing leaves out what has its default, so every
  model has one written form.
-/

namespace RecordBridge

open Json (Shape)

/-- The annotations of a property for the store. -/
structure StoreAnnotations where
  propertyName : Option String
  primaryKey : Bool
  unique : Bool
  ignored : Bool

namespace StoreAnnotations

/-- No annotation. -/
def none : StoreAnnotations := ⟨.none, false, false, false⟩

/-- The fields of the JSON form. -/
def shape : Shape :=
  .plain "RawObjectStoreAnnotations" ["propertyName", "primaryKey", "unique", "ignore"]

/-- Checks one member. -/
def checkMember (name : String) (json : Json) : Decoded Unit :=
  if name = "propertyName" then discard (json.asOptional Json.asString)
  else if name = "primaryKey" ∨ name = "unique" ∨ name = "ignore" then discard json.asBool
  else .ok ()

/-- Reads annotations. -/
def decode (json : Json) : Decoded StoreAnnotations := do
  let given ← shape.read checkMember json
  return {
    propertyName := ← given.field "propertyName" (Json.asOptional Json.asString) .none
    primaryKey := ← given.field "primaryKey" Json.asBool false
    unique := ← given.field "unique" Json.asBool false
    ignored := ← given.field "ignore" Json.asBool false }

end StoreAnnotations

/-- A flag, written only when it is set. -/
def flagMember (name : String) (value : Bool) : List (String × Json) :=
  if value then [(name, .bool true)] else []

/-- A string, written only when there is one. -/
def stringMember (name : String) (value : Option String) : List (String × Json) :=
  match value with
  | some text => [(name, .string text)]
  | none => []

namespace Property

/-- The fields of the JSON form. -/
def shape : Shape := .plain "RawProperty" ["id", "objectStore"]

/-- Checks one member. -/
def checkMember (name : String) (json : Json) : Decoded Unit :=
  if name = "id" then discard json.asBool
  else if name = "objectStore" then discard (json.asOptional StoreAnnotations.decode)
  else .ok ()

/-- Reads a property. -/
def decode (json : Json) : Decoded Property := do
  let given ← shape.read checkMember json
  let isIdentity ← given.field "id" Json.asBool false
  let annotations ← given.field "objectStore" (Json.asOptional StoreAnnotations.decode) none
  let a := annotations.getD .none
  return ⟨a.propertyName, a.primaryKey, a.unique, a.ignored, isIdentity⟩

/-- Whether the store has to know anything about a property. -/
def isAnnotated (p : Property) : Bool :=
  p.physicalName.isSome || p.primaryKey || p.unique || p.ignored

/-- Writes the annotations of a property. -/
def encodeAnnotations (p : Property) : Json :=
  .object (stringMember "propertyName" p.physicalName ++ flagMember "primaryKey" p.primaryKey ++
    flagMember "unique" p.unique ++ flagMember "ignore" p.ignored)

/-- Writes a property. -/
def encode (p : Property) : Json :=
  .object (flagMember "id" p.isIdentity ++
    if p.isAnnotated then [("objectStore", p.encodeAnnotations)] else [])

end Property

namespace Model

/-- The fields of the JSON form. -/
def shape : Shape := .plain "ModelDefinition" ["name", "objectTypeId", "properties"]

/-- Reads the properties of a model. -/
def decodeProperties : Json → Decoded (Assoc Property) := Json.asAssoc Property.decode

/-- Checks one member. -/
def checkMember (name : String) (json : Json) : Decoded Unit :=
  if name = "name" then discard json.asString
  else if name = "objectTypeId" then discard (json.asOptional Json.asString)
  else if name = "properties" then discard (decodeProperties json)
  else .ok ()

/-- Reads a model. -/
def decode (json : Json) : Decoded Model := do
  let given ← shape.read checkMember json
  return {
    name := ← given.required shape "name" Json.asString
    objectType := ← given.field "objectTypeId" (Json.asOptional Json.asString) none
    properties := ← given.field "properties" decodeProperties .empty }

/-- Reads a model definition; anything else is an error of its own. -/
def ofJson (json : Json) : Except QueryError Model :=
  (decode json).mapError fun e => .invalidModel e.message

/-- Writes a model. -/
def toJson (model : Model) : Json :=
  .object (("name", .string model.name) :: stringMember "objectTypeId" model.objectType ++
    [("properties", .object (model.properties.mapValues Property.encode).entries)])

end Model

end RecordBridge
