import RecordBridge.Json.Decode
import RecordBridge.Model

/-
  Remote objects — how the store keeps a record: its properties in one map, its
  primary key in another, and a few standard values beside them.
-/

namespace RecordBridge

open Json (Shape)

/-- An object of the store. -/
structure RemoteObject where
  primaryKey : Record
  properties : Record
  objectTypeId : Option String
  objectRid : Option String
  title : Option Json
  baseVersion : Option Json
  editsVersion : Option Json
  workstateEditsVersion : Option Json
  deriving DecidableEq

namespace RemoteObject

/-- The object that has properties and nothing else. -/
def ofProperties (properties : Record) : RemoteObject :=
  ⟨.empty, properties, none, none, none, none, none, none⟩

instance : Inhabited RemoteObject := ⟨ofProperties .empty⟩

/-- The fields of the JSON form. -/
def shape : Shape :=
  .plain "RemoteObject" ["primaryKey", "properties", "objectTypeId", "objectRid", "title",
    "baseVersion", "editsVersion", "workstateEditsVersion"]

/-- Checks one member. -/
def checkMember (name : String) (json : Json) : Decoded Unit :=
  if name = "primaryKey" ∨ name = "properties" then discard json.asRecord
  else if name = "objectTypeId" ∨ name = "objectRid" then
    discard (json.asOptional Json.asString)
  else .ok ()

/-- Reads an object. -/
def decode (json : Json) : Decoded RemoteObject := do
  let given ← shape.read checkMember json
  return {
    primaryKey := ← given.field "primaryKey" Json.asRecord .empty
    properties := ← given.field "properties" Json.asRecord .empty
    objectTypeId := ← given.field "objectTypeId" (Json.asOptional Json.asString) none
    objectRid := ← given.field "objectRid" (Json.asOptional Json.asString) none
    title := ← given.field "title" (Json.asOptional .ok) none
    baseVersion := ← given.field "baseVersion" (Json.asOptional .ok) none
    editsVersion := ← given.field "editsVersion" (Json.asOptional .ok) none
    workstateEditsVersion := ← given.field "workstateEditsVersion" (Json.asOptional .ok) none }

/-- Reads what a load answers: null and the empty object mean that there is no such
object. -/
def ofJson : Json → Except QueryError (Option RemoteObject)
  | .null => .ok none
  | .object [] => .ok none
  | json => ((decode json).map some).mapError fun e => .invalidRemoteObject e.message

/-- A member that is written only when there is a value. -/
def valueMember (name : String) (value : Option Json) : List (String × Json) :=
  match value with
  | some json => [(name, json)]
  | none => []

/-- Writes an object. -/
def toJson (object : RemoteObject) : Json :=
  .object ([("primaryKey", .ofRecord object.primaryKey),
      ("properties", .ofRecord object.properties)] ++
    valueMember "objectTypeId" (object.objectTypeId.map .string) ++
    valueMember "objectRid" (object.objectRid.map .string) ++
    valueMember "title" object.title ++
    valueMember "baseVersion" object.baseVersion ++
    valueMember "editsVersion" object.editsVersion ++
    valueMember "workstateEditsVersion" object.workstateEditsVersion)

/-- The value under one of the standard names. -/
def standardValue (object : RemoteObject) (name : String) : Option Json :=
  if name = "objectRid" then object.objectRid.map .string
  else if name = "objectTypeId" then object.objectTypeId.map .string
  else if name = "title" then object.title
  else if name = "properties" then some (.ofRecord object.properties)
  else if name = "primaryKey" then some (.ofRecord object.primaryKey)
  else if name = "baseVersion" then object.baseVersion
  else if name = "editsVersion" then object.editsVersion
  else if name = "workstateEditsVersion" then object.workstateEditsVersion
  else none

end RemoteObject

end RecordBridge
