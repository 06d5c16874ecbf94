import RecordBridge.RemoteObject

/-
  Mapping — between records and remote objects.

  Outbound, active properties are renamed to their physical names and the
  standard names are left out. Inbound, a record is rebuilt in the declaration
  order of the model: the identity comes from the primary key, standard names
  from beside the properties, and everything else from the properties.
-/

namespace RecordBridge.Model

/-- The entry that is written for an active property, if it has a place among the
properties of an object. -/
def remoteEntry (model : Model) (entry : String × Json) : Option (String × Json) :=
  let physical := model.physicalName entry.1
  if isStandardName physical then none else some (physical, entry.2)

/-- The properties that are written for a record. -/
def toRemote (model : Model) (data : Record) : Record :=
  .ofList ((model.activeProperties data).entries.filterMap model.remoteEntry)

/-- What an object holds for a property. -/
def remoteValue (model : Model) (object : RemoteObject) (logical : String) : Option Json :=
  let physical := model.physicalName logical
  if model.identity = some logical then object.primaryKey.get? physical
  else if isStandardName physical then object.standardValue physical
  else object.properties.get? physical

/-- Whether a list of physical names lets a property through; the empty list lets
everything through. -/
def admits (model : Model) (whitelist : List String) (logical : String) : Bool :=
  whitelist.isEmpty || whitelist.contains (model.physicalName logical)

/-- The record of an object, restricted to the physical names of the list unless
that is empty. -/
def toInstance (model : Model) (object : RemoteObject) (whitelist : List String) : Record :=
  model.properties.filterMap fun logical _ =>
    if model.admits whitelist logical then model.remoteValue object logical else none

end RecordBridge.Model
