import RecordBridge.Settings.Codec

/-
  Layers — settings from several sources, each put over the one before.

  Groups of settings are merged one by one; any other value replaces what was
  there. A source must be a group itself. Where a group is given as a list, the
  items beyond its last setting count for nothing; where a word is given as a
  group, so do the members behind the first by name.
-/

namespace RecordBridge.Layers

mutual

/-- Puts a value over another: members of groups one by one, everything else as a whole. -/
def overlay : Json → Json → Json
  | .object lower, .object upper => .object (overlayMembers lower upper)
  | _, upper => upper

/-- Puts members over others. -/
def overlayMembers (lower : List (String × Json)) : List (String × Json) → List (String × Json)
  | [] => lower
  | (name, value) :: rest =>
    let value :=
      match lookupEntry name lower with
      | some old => overlay old value
      | none => value
    overlayMembers (insertEntry name value lower) rest

end

/-- Leaves out the items of a list beyond the last field. -/
def cutItems (shape : Json.Shape) : Json → Json
  | .array items => .array (items.take shape.fields.length)
  | other => other

/-- The member whose name comes first in order, if there is any. -/
def firstMember? (members : List (String × Json)) : Option (String × Json) :=
  members.foldl (fun first m =>
    match first with
    | some f => if m.1 < f.1 then some m else some f
    | none => some m) none

/-- Leaves out all but the first member of a group that stands for a word. -/
def cutWord : Json → Json
  | .object members => .object (firstMember? members).toList
  | other => other

/-- Leaves out what counts for nothing in the derivation of keys. -/
def cutKey (value : Json) : Json :=
  match cutItems KeySettings.shape value with
  | .object members =>
    .object (members.map fun m => if m.1 = "hash" then (m.1, cutWord m.2) else m)
  | .array (strip :: hash) => .array (strip :: hash.map cutWord)
  | other => other

/-- Leaves out what counts for nothing in a setting. -/
def cutSetting (name : String) (value : Json) : Json :=
  if name = "paths" then cutItems ServicePaths.shape value
  else if name = "key" then cutKey value
  else value

/-- All layers in one group. -/
def merge (layers : List Json) : Except SettingsFault Json :=
  if layers.all fun layer => layer.kind = "object" then
    match layers.foldl overlay (.object []) with
    | .object members => .ok (.object (members.map fun m => (m.1, cutSetting m.1 m.2)))
    | _ => .error .unreadable
  else .error .unreadable

end RecordBridge.Layers

namespace RecordBridge.Settings

/-- The settings of some layers, checked. -/
def ofLayers (layers : List Json) : Except SettingsFault Settings := do
  let settings ← ofJson (← Layers.merge layers)
  settings.validate
  return settings

end RecordBridge.Settings
