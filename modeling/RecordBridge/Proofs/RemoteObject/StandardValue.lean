import RecordBridge.Proofs.RemoteObject.WrittenForm

/-!
# What stands under the standard names

The names beside the properties of an object are listed three times: as the fields that are read, as
the members that are written, and as the names that can be asked for.  All three lists hold the same
names (`standardNames_perm_fields`, `RemoteObject.lookupEntry_writtenMembers`), and a name outside
them stands for nothing (`RemoteObject.standardValue_of_not_mem`).

What is found under a standard name is what was given for it
(`RemoteObject.IsReadFrom.standardValue_eq`): a record that was not given is empty, any other value
that was not given is missing, and so is one that was given as null.
-/

namespace RecordBridge

open Json (Given)

variable {json : Json} {name : String} {given : Given} {object : RemoteObject}

/-- The standard names are the fields of an object. -/
theorem standardNames_perm_fields : standardNames.Perm RemoteObject.shape.fields := by
  decide

namespace Json.Given

/-- A record that is read is what is given, or empty. -/
theorem ofRecord_of_field {record : Record}
    (h : given.field name asRecord .empty = .ok record) :
    ofRecord record = (lookupEntry name given.members).getD (.object []) := by
  unfold field at h
  cases hlookup : lookupEntry name given.members with
  | none =>
    rw [hlookup] at h
    obtain rfl : Assoc.empty = record := Except.ok.inj h
    rfl
  | some json =>
    rw [hlookup] at h
    exact (asRecord_eq_ok_iff.mp h).symm

/-- A text that is read is what is given, unless that is null. -/
theorem map_string_of_field {text : Option String}
    (h : given.field name (asOptional asString) none = .ok text) :
    text.map string = (lookupEntry name given.members).filter (· ≠ .null) := by
  refine map_of_field ?_ h
  intro json text htext
  cases json with
  | string _ => exact congrArg string (Except.ok.inj htext)
  | _ => cases htext

end Json.Given

namespace RemoteObject

/-- The names under which there is always a record. -/
def recordNames : List String := ["primaryKey", "properties"]

/-- A name that is not standard stands for nothing. -/
theorem standardValue_of_not_mem (h : name ∉ standardNames) : object.standardValue name = none := by
  simp only [standardNames, List.mem_cons, List.not_mem_nil, or_false, not_or] at h
  simp [standardValue, h]

/-- Under a standard name an object has what it was read from. -/
theorem IsReadFrom.standardValue_eq (h : object.IsReadFrom given) (hname : name ∈ standardNames) :
    object.standardValue name =
      if name ∈ recordNames then some ((lookupEntry name given.members).getD (.object []))
      else (lookupEntry name given.members).filter (· ≠ .null) := by
  simp only [standardNames, List.mem_cons, List.not_mem_nil, or_false] at hname
  rcases hname with rfl | rfl | rfl | rfl | rfl | rfl | rfl | rfl
  · exact Given.map_string_of_field h.objectRid
  · exact Given.map_string_of_field h.objectTypeId
  · exact Given.eq_of_field h.title
  · exact congrArg some (Given.ofRecord_of_field h.properties)
  · exact congrArg some (Given.ofRecord_of_field h.primaryKey)
  · exact Given.eq_of_field h.baseVersion
  · exact Given.eq_of_field h.editsVersion
  · exact Given.eq_of_field h.workstateEditsVersion

/-- **Three views of one object agree**: an object that was read is read again from its written
form; under every name the written form holds what the object has there, and that is nothing if the
name is not standard.  If the object was read from members, it has under each standard name what was
given there, unless that was null: then, and if nothing was given, there is nothing, and a record
that was not given is empty. -/
theorem standardValue_exact (h : ofJson json = .ok (some object)) :
    ofJson object.toJson = .ok (some object) ∧
    (∀ name, object.standardValue name = object.toJson.member? name) ∧
    (∀ name ∉ standardNames, object.standardValue name = none) ∧
    ∀ members, json = .object members → ∀ name ∈ standardNames,
      (∀ value, json.member? name = some value → value ≠ .null →
        object.standardValue name = some value) ∧
      (name ∉ recordNames → json.member? name = none ∨ json.member? name = some .null →
        object.standardValue name = none) ∧
      (name ∈ recordNames → json.member? name = none →
        object.standardValue name = some (.object [])) := by
  obtain ⟨-, hdecode⟩ := ofJson_eq_some_iff.mp h
  obtain ⟨given, hgiven, -, hread⟩ := decode_eq_ok_iff.mp hdecode
  have hwritten (name : String) : object.standardValue name = object.toJson.member? name := by
    rw [toJson_eq]
    exact (object.lookupEntry_writtenMembers name).symm
  refine ⟨?_, hwritten, fun name => standardValue_of_not_mem, ?_⟩
  · -- The written form always has a key, so it is not taken for a missing object.
    refine ofJson_eq_some_iff.mpr ⟨?_, decode_toJson (hasNoNull_of_decode hdecode)⟩
    intro hempty
    have hkey := hwritten "primaryKey"
    rw [hempty] at hkey
    cases hkey
  · intro members hmembers name hname
    have hvalue := hread.standardValue_eq hname
    have hfound : lookupEntry name given.members = json.member? name := by
      rw [hmembers] at hgiven ⊢
      rw [← Option.some.inj hgiven]
      rfl
    rw [hfound] at hvalue
    rw [hvalue]
    refine ⟨?_, ?_, ?_⟩
    · intro value hmember hnull
      simp [hmember, Option.filter_some, hnull]
    · rintro hrecord (hmember | hmember)
      · simp [hmember, hrecord]
      · simp [hmember, hrecord, Option.filter_some]
    · intro hrecord hmember
      simp [hmember, hrecord]

/-- An object without a key and with a title that is null. -/
theorem standardValue_exact_untitled :
    let json : Json := .object [("baseVersion", .ofInt 3), ("title", .null),
      ("properties", .object [("b", .bool true), ("a", .null)]), ("other", .ofInt 1)]
    ∃ object, ofJson json = .ok (some object) ∧ ofJson object.toJson = .ok (some object) ∧
      object.standardValue "baseVersion" = some (.ofInt 3) ∧
      object.standardValue "title" = none ∧ object.standardValue "other" = none ∧
      object.standardValue "primaryKey" = some (.object []) ∧
      object.toJson.member? "properties" = some (.object [("b", .bool true), ("a", .null)]) := by
  intro json
  obtain ⟨object, hobject⟩ : ∃ object, ofJson json = .ok (some object) := ⟨_, rfl⟩
  obtain ⟨hagain, hwritten, hother, hgiven⟩ := standardValue_exact hobject
  have hstandard := hgiven _ rfl
  refine ⟨object, hobject, hagain, ?_, ?_, ?_, ?_, ?_⟩
  · exact (hstandard "baseVersion" (by decide)).1 _ rfl (by decide)
  · exact (hstandard "title" (by decide)).2.1 (by decide) (.inr rfl)
  · exact hother "other" (by decide)
  · exact (hstandard "primaryKey" (by decide)).2.2 (by decide) rfl
  · rw [← hwritten]
    exact (hstandard "properties" (by decide)).1 _ rfl (by decide)

end RemoteObject

end RecordBridge
