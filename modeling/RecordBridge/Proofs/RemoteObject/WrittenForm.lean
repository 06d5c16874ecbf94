import RecordBridge.Proofs.RemoteObject

/-!
# The written form of objects

Under each of the standard names an object is written with its value there, if it has one, and under
no other name with anything (`RemoteObject.lookupEntry_writtenMembers`).  An object that was read
has no value that is null, because null is read as no value (`RemoteObject.HasNoNull`); it is read
back from its written form exactly, with the values and the order of its maps
(`RemoteObject.decode_toJson`).
-/

namespace RecordBridge

open Json (Given memberOf lookupEntry_memberOf forall_mem_memberOf)

namespace Json

variable {json : Json} {name : String} {given : Given}

/-- A record that is always written is read as it was written. -/
theorem Given.field_record {record : Record}
    (h : lookupEntry name given.members = some (.ofRecord record)) :
    given.field name Json.asRecord .empty = .ok record := by
  rw [field, h]
  exact asRecord_ofRecord record

end Json

namespace RemoteObject

variable {object : RemoteObject} {json : Json} {given : Given}

theorem valueMember_eq_memberOf (name : String) (value : Option Json) :
    valueMember name value = memberOf name value := by
  cases value <;> rfl

/-- No value of the object is null. -/
structure HasNoNull (object : RemoteObject) : Prop where
  title : object.title ≠ some .null
  baseVersion : object.baseVersion ≠ some .null
  editsVersion : object.editsVersion ≠ some .null
  workstateEditsVersion : object.workstateEditsVersion ≠ some .null

/-- An object that was read has no null. -/
theorem hasNoNull_of_decode (h : decode json = .ok object) : object.HasNoNull := by
  obtain ⟨given, -, -, hread⟩ := decode_eq_ok_iff.mp h
  exact ⟨Given.ne_null_of_field hread.title, Given.ne_null_of_field hread.baseVersion,
    Given.ne_null_of_field hread.editsVersion, Given.ne_null_of_field hread.workstateEditsVersion⟩

/-- The members of a written object. -/
def writtenMembers (object : RemoteObject) : List (String × Json) :=
  [("primaryKey", .ofRecord object.primaryKey), ("properties", .ofRecord object.properties)] ++
    memberOf "objectTypeId" (object.objectTypeId.map .string) ++
    memberOf "objectRid" (object.objectRid.map .string) ++
    memberOf "title" object.title ++
    memberOf "baseVersion" object.baseVersion ++
    memberOf "editsVersion" object.editsVersion ++
    memberOf "workstateEditsVersion" object.workstateEditsVersion

theorem toJson_eq (object : RemoteObject) : object.toJson = .object object.writtenMembers := by
  simp only [toJson, valueMember_eq_memberOf, writtenMembers]

/-- Under a name an object is written with the value that it has there. -/
theorem lookupEntry_writtenMembers (object : RemoteObject) (name : String) :
    lookupEntry name object.writtenMembers = object.standardValue name := by
  by_cases hfield : name ∈ shape.fields
  · simp only [shape, Json.Shape.plain, List.mem_cons, List.not_mem_nil, or_false] at hfield
    rcases hfield with rfl | rfl | rfl | rfl | rfl | rfl | rfl | rfl <;>
      simp [writtenMembers, standardValue, lookupEntry_append, lookupEntry_memberOf, lookupEntry]
  · simp only [shape, Json.Shape.plain, List.mem_cons, not_or] at hfield
    obtain ⟨hkey, hproperties, htype, hrid, htitle, hbase, hedits, hworkstate, -⟩ := hfield
    simp [writtenMembers, standardValue, lookupEntry_append, lookupEntry_memberOf, lookupEntry, *,
      Ne.symm hkey, Ne.symm hproperties, Ne.symm htype, Ne.symm hrid, Ne.symm htitle, Ne.symm hbase,
      Ne.symm hedits, Ne.symm hworkstate]

/-- What is written of an object may be given for its fields. -/
theorem fits_writtenMembers (object : RemoteObject) :
    ∀ m ∈ object.writtenMembers, Fits m.1 m.2 := by
  have hrecord (name : String) (record : Record)
      (hname : name = "primaryKey" ∨ name = "properties") :
      Fits name (.ofRecord record) := by
    refine ⟨fun _ => ⟨record, rfl⟩, ?_⟩
    rcases hname with rfl | rfl <;> simp
  have htext (name : String) (text : Option String)
      (hname : name = "objectTypeId" ∨ name = "objectRid") :
      ∀ m ∈ memberOf name (text.map .string), Fits m.1 m.2 := by
    rw [forall_mem_memberOf]
    intro json hjson
    obtain ⟨text, -, rfl⟩ := Option.map_eq_some_iff.mp hjson
    refine ⟨?_, fun _ => .inr ⟨text, rfl⟩⟩
    rcases hname with rfl | rfl <;> simp
  simp only [writtenMembers, List.forall_mem_append, List.forall_mem_cons]
  refine ⟨⟨⟨⟨⟨⟨⟨hrecord _ _ (.inl rfl), hrecord _ _ (.inr rfl), by simp⟩, htext _ _ (.inl rfl)⟩,
    htext _ _ (.inr rfl)⟩, ?_⟩, ?_⟩, ?_⟩, ?_⟩
  -- The other members may be anything.
  all_goals exact forall_mem_memberOf.mpr fun json _ => ⟨by simp, by simp⟩

/-- Each field is found as it was written. -/
theorem isReadFrom_writtenMembers (h : object.HasNoNull) :
    object.IsReadFrom ⟨object.writtenMembers, true⟩ where
  primaryKey := Given.field_record (object.lookupEntry_writtenMembers _)
  properties := Given.field_record (object.lookupEntry_writtenMembers _)
  objectTypeId := Given.field_optionalString (object.lookupEntry_writtenMembers _)
  objectRid := Given.field_optionalString (object.lookupEntry_writtenMembers _)
  title := Given.field_optional h.title (object.lookupEntry_writtenMembers _)
  baseVersion := Given.field_optional h.baseVersion (object.lookupEntry_writtenMembers _)
  editsVersion := Given.field_optional h.editsVersion (object.lookupEntry_writtenMembers _)
  workstateEditsVersion :=
    Given.field_optional h.workstateEditsVersion (object.lookupEntry_writtenMembers _)

/-- **Objects survive being written**: an object without nulls is read back as it was. -/
theorem decode_toJson (h : object.HasNoNull) : decode object.toJson = .ok object := by
  rw [toJson_eq, decode_eq_ok_iff]
  exact ⟨_, rfl, object.fits_writtenMembers, isReadFrom_writtenMembers h⟩

/-- A written object wraps nothing. -/
theorem member?_object_toJson (object : RemoteObject) : object.toJson.member? "object" = none := by
  rw [toJson_eq]
  exact object.lookupEntry_writtenMembers "object"

end RemoteObject

end RecordBridge
