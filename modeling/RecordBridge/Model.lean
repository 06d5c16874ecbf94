import RecordBridge.Error
import RecordBridge.Json

/-
  Models — how the records of one kind are kept in the remote store.

  A model names its properties in declaration order. Each property has a logical
  name, the one that records use, and a physical name, the one that the store
  uses; flags say which property holds the primary key, which one is unique,
  which one is the identity of a record and which ones are never written.
-/

namespace RecordBridge

/-- What the store has to know about one property. -/
structure Property where
  /-- The name in the store, when it is not the logical one. -/
  physicalName : Option String
  /-- The property holds the primary key. -/
  primaryKey : Bool
  /-- The key of a new object is derived from this property. -/
  unique : Bool
  /-- The property is never written. -/
  ignored : Bool
  /-- The property is the identity of a record. -/
  isIdentity : Bool
  deriving DecidableEq, Repr

/-- A property without annotations. -/
def Property.plain : Property := ⟨none, false, false, false, false⟩

instance : Inhabited Property := ⟨.plain⟩

/-- The schema of one kind of record. -/
structure Model where
  name : String
  /-- The type of its objects in the store, when it is not the configured one. -/
  objectType : Option String
  /-- The properties by logical name, in declaration order. -/
  properties : Assoc Property
  deriving DecidableEq

namespace Model

/-- A model without properties. -/
def named (name : String) : Model := ⟨name, none, .empty⟩

/-- Adds a property; a property of that name is replaced and keeps its place. -/
def withProperty (model : Model) (name : String) (property : Property) : Model :=
  { model with properties := model.properties.insert name property }

/-- Sets the object type. -/
def withObjectType (model : Model) (objectType : String) : Model :=
  { model with objectType := some objectType }

/-! ### Names -/

/-- Whether the model declares a property. -/
def declares (model : Model) (logical : String) : Bool := model.properties.contains logical

/-- The name in the store of a property: its physical name if it has one, and the
logical name itself otherwise, also for names that the model does not declare. -/
def physicalName (model : Model) (logical : String) : String :=
  match model.properties.get? logical with
  | some property => property.physicalName.getD logical
  | none => logical

/-- The logical name of the first property that satisfies `p`. -/
def firstProperty (model : Model) (p : Property → Bool) : Option String :=
  (model.properties.find? fun _ property => p property).map Prod.fst

/-- The identity of the records: the first property that is flagged so. -/
def identity (model : Model) : Option String := model.firstProperty (·.isIdentity)

/-- The property that keys are derived from: the first one that is flagged
unique. -/
def uniqueProperty (model : Model) : Option String := model.firstProperty (·.unique)

/-- The unique property, which must exist. -/
def requireUniqueProperty (model : Model) : Except QueryError String :=
  match model.uniqueProperty with
  | some logical => .ok logical
  | none => .error (.missingUniqueProperty model.name)

/-- The physical name of the first property that is flagged as primary key. -/
def primaryKeyName (model : Model) : Except QueryError String :=
  match model.firstProperty (·.primaryKey) with
  | some logical => .ok (model.physicalName logical)
  | none => .error (.missingPrimaryKey model.name)

/-- Whether a property is declared and never written. -/
def ignores (model : Model) (logical : String) : Bool :=
  match model.properties.get? logical with
  | some property => property.ignored
  | none => false

/-- A record without the properties that are never written. -/
def activeProperties (model : Model) (data : Record) : Record :=
  data.filter fun logical _ => !model.ignores logical

/-- The name of the variant of a field that is matched as a whole. -/
def exactField (physical : String) : String := physical ++ ".raw"

/-- The field that filters and orders use for a property. -/
def fieldOf (model : Model) (logical : String) : String := exactField (model.physicalName logical)

/-! ### Laws -/

/-- A property that is found by its flags is declared. -/
theorem declares_of_firstProperty {model : Model} {p : Property → Bool} {logical : String}
    (h : model.firstProperty p = some logical) : model.declares logical = true := by
  obtain ⟨⟨name, property⟩, hfound, rfl⟩ := Option.map_eq_some_iff.mp h
  have hmem : (name, property) ∈ model.properties.entries := List.mem_of_find?_eq_some hfound
  have hget : model.properties.get? name = some property :=
    (model.properties.get?_eq_some_iff name property).mpr hmem
  unfold declares Assoc.contains
  rw [hget]
  rfl

end Model

/-- Every name that stands beside the properties of a remote object and not among
them. -/
def standardNames : List String :=
  ["objectRid", "objectTypeId", "title", "properties", "primaryKey", "baseVersion",
    "editsVersion", "workstateEditsVersion"]

/-- Whether a name stands beside the properties of a remote object. -/
def isStandardName (name : String) : Bool := standardNames.contains name

end RecordBridge
