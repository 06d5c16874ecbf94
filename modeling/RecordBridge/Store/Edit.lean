import RecordBridge.Json

/-
  Edits — what is asked of the store to change an object.

  A locator addresses one object by its type and its primary key. An edit adds
  an object, sets properties of it or deletes it; on the wire the body of an
  edit stands under the name of its kind.
-/

namespace RecordBridge

/-- The address of an object. -/
structure Locator where
  typeId : String
  primaryKey : Record
  deriving DecidableEq

/-- The address of the object with one value for its key. -/
def Locator.single (typeId keyName : String) (key : Json) : Locator :=
  ⟨typeId, Assoc.empty.insert keyName key⟩

/-- Writes a locator. -/
def Locator.toJson (locator : Locator) : Json :=
  .object [("typeId", .string locator.typeId), ("primaryKey", .ofRecord locator.primaryKey)]

/-- A change of an object. -/
inductive Edit
  | added (properties : Record)
  | modified (properties : Record)
  | deleted
  deriving DecidableEq

/-- The name of the kind of an edit. -/
def Edit.kind : Edit → String
  | added _ => "objectAdded"
  | modified _ => "objectModified"
  | deleted => "objectDeleted"

/-- What an edit says beside its kind. -/
def Edit.body : Edit → Json
  | added properties | modified properties => .object [("properties", .ofRecord properties)]
  | deleted => .object []

/-- Writes an edit. -/
def Edit.toJson (edit : Edit) : Json :=
  .object [("type", .string edit.kind), (edit.kind, edit.body)]

/-- An edit of the object at an address. -/
structure LocatorEdit where
  locator : Locator
  edit : Edit
  deriving DecidableEq

/-- Writes an edit with its address. -/
def LocatorEdit.toJson (e : LocatorEdit) : Json :=
  .object [("locator", e.locator.toJson),
    ("request", .object [("customMetadata", .object []), ("payload", e.edit.toJson)])]

end RecordBridge
