import Mathlib.Tactic.SplitIfs
import RecordBridge.Proofs.Mapping

/-!
# A record that is written and read again

`Model.readBack` reads a record from an object that has what is written of it and nothing else.
Every declared property is told by `Model.get?_readBack`: the identity is lost, because it is read
from the primary key; a standard name is read from beside the properties; every other property has
the last value that is written under its name.

A record of declared properties that are written under names of their own (`Model.WritesApart`)
comes back with all its entries.  The other declared properties are read too, so it comes back with
these entries only if none of them is found in the object (`Model.ReadsNothingElse`); both are part
of `Model.readBack_exact`.
-/

namespace RecordBridge

/-- Of an object that has properties and nothing else, two standard names have a value. -/
theorem RemoteObject.standardValue_ofProperties (properties : Record) (name : String) :
    (ofProperties properties).standardValue name =
      if name = "properties" then some (.ofRecord properties)
      else if name = "primaryKey" then some (.ofRecord .empty)
      else none := by
  unfold standardValue ofProperties
  split_ifs <;> simp_all

/-- A name with a place among the properties is no standard name. -/
theorem ne_of_isStandardName {placed standard : String} (hplaced : isStandardName placed = false)
    (hstandard : isStandardName standard = true) : placed ≠ standard := by
  rintro rfl
  rw [hplaced] at hstandard
  cases hstandard

namespace Model

variable {model : Model} {data : Record} {logical physical : String}

/-- The record that is read from an object with what is written of a record. -/
def readBack (model : Model) (data : Record) : Record :=
  model.toInstance (.ofProperties (model.toRemote data)) []

/-- The record has declared properties only; each of them is written and read among the properties
of an object, under a name of its own. -/
structure WritesApart (model : Model) (data : Record) : Prop where
  declared : ∀ key ∈ data.keys, model.declares key = true
  active : ∀ key ∈ data.keys, model.ignores key = false
  notIdentity : ∀ key ∈ data.keys, model.identity ≠ some key
  placed : ∀ key ∈ data.keys, isStandardName (model.physicalName key) = false
  distinct : (data.keys.map model.physicalName).Nodup

/-- Of the declared properties that the record does not have, none is found in an object with what
is written of the record. -/
def ReadsNothingElse (model : Model) (data : Record) : Prop :=
  ∀ logical, model.declares logical = true → logical ∉ data.keys → model.identity ≠ some logical →
    model.physicalName logical ∉ data.keys.map model.physicalName ∧
    model.physicalName logical ≠ "properties" ∧ model.physicalName logical ≠ "primaryKey"

/-! ### One property -/

/-- A property with a place among the properties of an object has the last value under its name. -/
theorem get?_readBack_of_placed (data : Record) (hdeclared : model.declares logical = true)
    (hidentity : model.identity ≠ some logical)
    (hplaced : isStandardName (model.physicalName logical) = false) :
    (model.readBack data).get? logical = model.lastWritten data (model.physicalName logical) := by
  have hvalue : model.remoteValue (.ofProperties (model.toRemote data)) logical =
      (model.toRemote data).get? (model.physicalName logical) := by
    rw [remoteValue, if_neg hidentity, hplaced]
    rfl
  rw [readBack, get?_toInstance model _ hdeclared, hvalue, get?_toRemote_eq, hplaced,
    if_neg Bool.false_ne_true]

/-- **What is read back for a declared property.** -/
theorem get?_readBack (data : Record) (hdeclared : model.declares logical = true) :
    (model.readBack data).get? logical =
      if model.identity = some logical then none
      else if model.physicalName logical = "properties" then
        some (.ofRecord (model.toRemote data))
      else if model.physicalName logical = "primaryKey" then some (.ofRecord .empty)
      else if isStandardName (model.physicalName logical) then none
      else model.lastWritten data (model.physicalName logical) := by
  by_cases hidentity : model.identity = some logical
  · -- The object has no primary key to read it from.
    rw [if_pos hidentity, readBack, get?_toInstance model _ hdeclared, remoteValue,
      if_pos hidentity]
    rfl
  rw [if_neg hidentity]
  cases hplaced : isStandardName (model.physicalName logical) with
  | true =>
    rw [readBack, get?_toInstance model _ hdeclared, remoteValue, if_neg hidentity, if_pos hplaced,
      RemoteObject.standardValue_ofProperties, if_pos rfl]
  | false =>
    rw [if_neg (ne_of_isStandardName hplaced rfl), if_neg (ne_of_isStandardName hplaced rfl),
      if_neg Bool.false_ne_true]
    exact get?_readBack_of_placed data hdeclared hidentity hplaced

theorem get?_readBack_of_not_declares (hdeclared : model.declares logical = false) :
    (model.readBack data).get? logical = none := by
  rw [Assoc.get?_eq_none_iff]
  intro hback
  have hkey := (model.keys_toInstance_sublist _ []).mem hback
  rw [declares_iff.mpr hkey] at hdeclared
  cases hdeclared

/-! ### The whole record -/

/-- A name that no property of the record has is not written. -/
theorem lastWritten_eq_none (h : physical ∉ data.keys.map model.physicalName) :
    model.lastWritten data physical = none := by
  rw [lastWritten, Option.map_eq_none_iff, List.find?_eq_none]
  intro e he hwritten
  obtain ⟨-, rfl⟩ := writesUnder_iff.mp hwritten
  exact h (List.mem_map_of_mem (List.mem_map_of_mem (List.mem_reverse.mp he)))

namespace WritesApart

/-- The last value under the name of a property is its own. -/
theorem lastWritten_eq (h : model.WritesApart data) (hmem : logical ∈ data.keys) :
    model.lastWritten data (model.physicalName logical) = data.get? logical := by
  have hunique : ∀ key ∈ data.keys, model.writesUnder (model.physicalName logical) key = true →
      key = logical := by
    intro key hkey hwritten
    exact List.inj_on_of_nodup_map h.distinct hkey hmem (writesUnder_iff.mp hwritten).2
  rw [lastWritten_of_unique hunique, if_pos (writesUnder_iff.mpr ⟨h.active logical hmem, rfl⟩)]

/-- Every entry comes back. -/
theorem get?_readBack_of_mem (h : model.WritesApart data) (hmem : logical ∈ data.keys) :
    (model.readBack data).get? logical = data.get? logical := by
  rw [get?_readBack_of_placed data (h.declared logical hmem) (h.notIdentity logical hmem)
    (h.placed logical hmem)]
  exact h.lastWritten_eq hmem

/-- A property that is not in the record and has a value when it is read back is in the way. -/
theorem readsNothingElse_of_get?_eq (h : model.WritesApart data)
    (hback : ∀ logical, (model.readBack data).get? logical = data.get? logical) :
    model.ReadsNothingElse data := by
  intro logical hdeclared hmem hidentity
  have habsent : (model.readBack data).get? logical = none :=
    (hback logical).trans ((data.get?_eq_none_iff logical).mpr hmem)
  refine ⟨?_, ?_, ?_⟩
  · -- A property of the same name is read as this one too.
    intro hname
    obtain ⟨other, hother, hname⟩ := List.mem_map.mp hname
    have hplaced := h.placed other hother
    rw [hname] at hplaced
    rw [get?_readBack_of_placed data hdeclared hidentity hplaced, ← hname,
      h.lastWritten_eq hother] at habsent
    exact (data.get?_eq_none_iff other).mp habsent hother
  · intro hname
    rw [get?_readBack data hdeclared, if_neg hidentity, if_pos hname] at habsent
    cases habsent
  · intro hname
    rw [get?_readBack data hdeclared, if_neg hidentity, hname] at habsent
    cases habsent

/-- If no other declared property is found, nothing else comes back. -/
theorem get?_readBack_of_readsNothingElse (h : model.WritesApart data)
    (helse : model.ReadsNothingElse data) (logical : String) :
    (model.readBack data).get? logical = data.get? logical := by
  by_cases hmem : logical ∈ data.keys
  · exact h.get?_readBack_of_mem hmem
  rw [(data.get?_eq_none_iff logical).mpr hmem]
  cases hdeclared : model.declares logical with
  | false => exact get?_readBack_of_not_declares hdeclared
  | true =>
    rw [get?_readBack data hdeclared]
    by_cases hidentity : model.identity = some logical
    · exact if_pos hidentity
    · obtain ⟨hname, hproperties, hprimaryKey⟩ := helse logical hdeclared hmem hidentity
      rw [if_neg hidentity, if_neg hproperties, if_neg hprimaryKey, lastWritten_eq_none hname,
        ite_self]

end WritesApart

/-- **A record that is written and read again**: each declared property has the last value that is
written under its name, or what stands beside the properties; there are no other properties, and
they stand in the order of their declarations.  A record of properties that are written apart comes
back with all its entries, and with nothing else if and only if no other declared property is
found. -/
theorem readBack_exact (model : Model) (data : Record) :
    (∀ logical, model.declares logical = true →
      (model.readBack data).get? logical =
        if model.identity = some logical then none
        else if model.physicalName logical = "properties" then
          some (.ofRecord (model.toRemote data))
        else if model.physicalName logical = "primaryKey" then some (.ofRecord .empty)
        else if isStandardName (model.physicalName logical) then none
        else model.lastWritten data (model.physicalName logical)) ∧
    (model.readBack data).keys.Sublist model.properties.keys ∧
    (model.WritesApart data →
      (∀ logical ∈ data.keys, (model.readBack data).get? logical = data.get? logical) ∧
      ((∀ logical, (model.readBack data).get? logical = data.get? logical) ↔
        model.ReadsNothingElse data)) := by
  refine ⟨fun logical => get?_readBack data, model.keys_toInstance_sublist _ [], ?_⟩
  intro h
  refine ⟨fun logical => h.get?_readBack_of_mem, ?_⟩
  constructor
  · exact h.readsNothingElse_of_get?_eq
  · exact h.get?_readBack_of_readsNothingElse

/-! ### Rooms -/

/-- A model two of whose properties have each other's names in the store; there are also a property
of its own name, one that is never written, and one with a third name. -/
def roomModel : Model :=
  Model.named "Room"
    |>.withProperty "id" { Property.plain with
      physicalName := some "room_id", primaryKey := true, isIdentity := true }
    |>.withProperty "level" { Property.plain with physicalName := some "floor" }
    |>.withProperty "floor" { Property.plain with physicalName := some "level" }
    |>.withProperty "wing" .plain
    |>.withProperty "draft" { Property.plain with ignored := true }
    |>.withProperty "seats" { Property.plain with physicalName := some "capacity" }

/-- A room with three properties, in another order than they are declared in. -/
def room : Record :=
  .ofList [("wing", .string "north"), ("floor", .string "oak"), ("level", .string "2")]

/-- The record of a room comes back with its own entries and no others. -/
theorem readBack_exact_room :
    roomModel.WritesApart room ∧
      (roomModel.toRemote room).keys = ["wing", "level", "floor"] ∧
      (roomModel.readBack room).keys = ["level", "floor", "wing"] ∧
      ∀ logical, (roomModel.readBack room).get? logical = room.get? logical := by
  have happart : roomModel.WritesApart room :=
    ⟨by decide, by decide, by decide, by decide, by decide⟩
  have hkeys : ∀ logical ∈ roomModel.properties.keys, logical ∉ room.keys →
      roomModel.identity ≠ some logical →
        roomModel.physicalName logical ∉ room.keys.map roomModel.physicalName ∧
        roomModel.physicalName logical ≠ "properties" ∧
        roomModel.physicalName logical ≠ "primaryKey" := by decide
  have helse : roomModel.ReadsNothingElse room := by
    intro logical hdeclared
    exact hkeys logical (declares_iff.mp hdeclared)
  refine ⟨happart, by decide, by decide, ?_⟩
  exact ((readBack_exact roomModel room).2.2 happart).2.mpr helse

/-! ### Members of teams -/

/-- A model with an identity and a property of its own name. -/
def memberModel : Model :=
  ((Model.named "Member").withProperty "id" { Property.plain with
      primaryKey := true, isIdentity := true }).withProperty "team" .plain

/-- The same with another property of that name in the store. -/
def groupModel : Model :=
  memberModel.withProperty "group" { Property.plain with physicalName := some "team" }

/-- The same with a property that is called as the properties of an object are. -/
def listingModel : Model := memberModel.withProperty "properties" .plain

/-- A record with a team. -/
def member : Record := .ofList [("team", .string "X")]

/-- With one more property in the model it comes back with two entries, even if all physical names
of the model are distinct. -/
theorem readBack_adds_entries :
    (groupModel.WritesApart member ∧
      groupModel.readBack member = .ofList [("team", .string "X"), ("group", .string "X")] ∧
      groupModel.readBack member ≠ member) ∧
    listingModel.physicalNames.Nodup ∧ listingModel.WritesApart member ∧
      listingModel.readBack member =
        .ofList [("team", .string "X"), ("properties", .object [("team", .string "X")])] ∧
      listingModel.readBack member ≠ member := by
  refine ⟨⟨⟨by decide, by decide, by decide, by decide, by decide⟩, by decide, by decide⟩, ?_⟩
  exact ⟨by decide, ⟨by decide, by decide, by decide, by decide, by decide⟩, by decide, by decide⟩

end Model

end RecordBridge
