import RecordBridge.Json.Decode
import RecordBridge.Model

/-
  Selections — which properties of a record are wanted.

  A selection is a list of names or a mask of names with yes or no. A mask that
  only says no selects every declared property that it does not name.
-/

namespace RecordBridge

/-- Which properties are wanted. -/
inductive Selection
  | list (names : List String)
  | mask (flags : Assoc Bool)
  deriving DecidableEq

namespace Selection

/-- Reads an array of names or an object of flags. -/
def decode (json : Json) : Decoded Selection :=
  match json.asStrings with
  | .ok names => .ok (.list names)
  | .error _ =>
    match json.asAssoc Json.asBool with
    | .ok flags => .ok (.mask flags)
    | .error _ => .error (.noAlternative "FieldsSpec")

/-- Writes a selection. -/
def toJson : Selection → Json
  | .list names => .array (names.map .string)
  | .mask flags => .object (flags.mapValues Json.bool).entries

/-- The names under which a mask says yes. -/
def included (flags : Assoc Bool) : List String := (flags.filter fun _ wanted => wanted).keys

/-- The selected properties by logical name. -/
def selected (model : Model) : Selection → List String
  | .list names => names
  | .mask flags =>
    if included flags ≠ [] ∨ flags.isEmpty then included flags
    else model.properties.keys.filter fun logical => !flags.contains logical

end Selection

/-- The physical names of the selected properties; no name means that nothing is
left out. -/
def Model.compileSelection (model : Model) (selection : Option Selection) : List String :=
  match selection with
  | none => []
  | some selection => (selection.selected model).map model.physicalName

end RecordBridge
