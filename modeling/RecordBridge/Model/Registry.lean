import RecordBridge.Model

/-
  Registries — the models that are known, by name.

  A model that is registered under a known name takes its place.
-/

namespace RecordBridge

/-- The known models by name. -/
structure Registry where
  models : Assoc Model

namespace Registry

/-- No model is known. -/
def empty : Registry := ⟨.empty⟩

instance : Inhabited Registry := ⟨empty⟩

/-- Adds a model under its name. -/
def register (registry : Registry) (model : Model) : Registry :=
  ⟨registry.models.insert model.name model⟩

/-- The number of known models. -/
def size (registry : Registry) : Nat := registry.models.size

/-- Whether no model is known. -/
def isEmpty (registry : Registry) : Bool := registry.models.isEmpty

/-- The model of that name. -/
def get? (registry : Registry) (name : String) : Option Model := registry.models.get? name

/-- The model of that name, which must be known. -/
def require (registry : Registry) (name : String) : Except QueryError Model :=
  match registry.get? name with
  | some model => .ok model
  | none => .error (.unknownModel name)

/-- The record without the properties that its model never writes; without a known
model every property stays, and without data there is none. -/
def activeProperties (registry : Registry) (name : Option String) (data : Option Record) :
    Record :=
  match data with
  | none => .empty
  | some data =>
    match name.bind registry.get? with
    | some model => model.activeProperties data
    | none => data

end Registry

end RecordBridge
