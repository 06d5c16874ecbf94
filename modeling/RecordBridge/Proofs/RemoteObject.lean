import RecordBridge.Proofs.Json.Decoding
import RecordBridge.RemoteObject

/-!
# What counts as an object

A load may answer with null or with the empty object, and then there is no object
(`RemoteObject.ofJson_eq_none_iff`).  What counts as an object is an object with members, and an
array with no more items than an object has fields, the empty one included, as long as what is given
for the fields fits (`RemoteObject.Counts`, `RemoteObject.exists_ofJson_eq_some_iff`).  Everything
else is refused.
-/

namespace RecordBridge

open Json (Given)

variable {json value : Json} {name : String} {given : Given} {object : RemoteObject}

/-! ### Values of one kind -/

namespace Json

/-- What is read as a record is what is written for it. -/
theorem asRecord_eq_ok_iff {record : Record} :
    json.asRecord = .ok record ↔ json = .ofRecord record := by
  constructor
  · intro h
    unfold asRecord at h
    split at h
    case h_1 members =>
      split at h
      case h_1 read hentries =>
        obtain rfl := Except.ok.inj h
        rw [ofRecord, Assoc.entries_of_ofEntries? hentries]
      case h_2 => cases h
    case h_2 => cases h
  · rintro rfl
    exact asRecord_ofRecord record

/-- A text that may be missing is a string or null. -/
theorem exists_asOptional_asString_iff :
    (∃ text, json.asOptional asString = .ok text) ↔ json = .null ∨ ∃ text, json = .string text := by
  constructor
  · rintro ⟨text, h⟩
    cases json with
    | null => exact .inl rfl
    | string text => exact .inr ⟨text, rfl⟩
    | _ => cases h
  · rintro (rfl | ⟨text, rfl⟩)
    · exact ⟨none, rfl⟩
    · exact ⟨some text, rfl⟩

/-- A value that may be missing is any value. -/
theorem exists_asOptional_ok (json : Json) :
    ∃ value, json.asOptional (Except.ok : Json → Decoded Json) = .ok value := by
  cases json <;> exact ⟨_, rfl⟩

/-- A field with a default is read if what is given for it is. -/
theorem Given.exists_field_eq_ok {α : Type} {decode : Json → Decoded α} {default : α}
    (h : ∀ value, (name, value) ∈ given.members → ∃ a, decode value = .ok a) :
    ∃ a, given.field name decode default = .ok a := by
  unfold field
  cases hlookup : lookupEntry name given.members with
  | none => exact ⟨default, rfl⟩
  | some value => exact h value (mem_of_lookupEntry hlookup)

end Json

namespace RemoteObject

/-! ### Members -/

/-- The value may be given for the field: the key and the properties are records, and the type and
the identifier are texts, unless they are null. -/
structure Fits (name : String) (value : Json) : Prop where
  record : name = "primaryKey" ∨ name = "properties" → ∃ record, value = .ofRecord record
  text : name = "objectTypeId" ∨ name = "objectRid" → value = .null ∨ ∃ text, value = .string text

theorem checkMember_eq_ok_iff : checkMember name value = .ok () ↔ Fits name value := by
  unfold checkMember
  split_ifs with hrecord htext
  · rw [discard_eq_ok_iff]
    simp only [Json.asRecord_eq_ok_iff]
    constructor
    · intro h
      refine ⟨fun _ => h, ?_⟩
      rcases hrecord with rfl | rfl <;> simp
    · intro h
      exact h.record hrecord
  · rw [discard_eq_ok_iff, Json.exists_asOptional_asString_iff]
    constructor
    · intro h
      exact ⟨fun hname => absurd hname hrecord, fun _ => h⟩
    · intro h
      exact h.text htext
  · constructor
    · intro _
      exact ⟨fun hname => absurd hname hrecord, fun hname => absurd hname htext⟩
    · intro _
      rfl

/-- The object has the values that are given for its fields. -/
structure IsReadFrom (object : RemoteObject) (given : Given) : Prop where
  primaryKey : given.field "primaryKey" Json.asRecord .empty = .ok object.primaryKey
  properties : given.field "properties" Json.asRecord .empty = .ok object.properties
  objectTypeId :
    given.field "objectTypeId" (Json.asOptional Json.asString) none = .ok object.objectTypeId
  objectRid : given.field "objectRid" (Json.asOptional Json.asString) none = .ok object.objectRid
  title : given.field "title" (Json.asOptional .ok) none = .ok object.title
  baseVersion : given.field "baseVersion" (Json.asOptional .ok) none = .ok object.baseVersion
  editsVersion : given.field "editsVersion" (Json.asOptional .ok) none = .ok object.editsVersion
  workstateEditsVersion : given.field "workstateEditsVersion" (Json.asOptional .ok) none =
    .ok object.workstateEditsVersion

/-- An object is read if all that is given for it fits, and then field by field. -/
theorem decode_eq_ok_iff : decode json = .ok object ↔
    ∃ given, shape.given? json = some given ∧ (∀ m ∈ given.members, Fits m.1 m.2) ∧
      object.IsReadFrom given := by
  simp only [← checkMember_eq_ok_iff]
  constructor
  · intro h
    obtain ⟨given, hread, h⟩ := bind_eq_ok_iff.mp h
    obtain ⟨hgiven, hchecks⟩ := Json.Shape.read_eq_ok_iff.mp hread
    obtain ⟨primaryKey, hprimaryKey, h⟩ := bind_eq_ok_iff.mp h
    obtain ⟨properties, hproperties, h⟩ := bind_eq_ok_iff.mp h
    obtain ⟨objectTypeId, hobjectTypeId, h⟩ := bind_eq_ok_iff.mp h
    obtain ⟨objectRid, hobjectRid, h⟩ := bind_eq_ok_iff.mp h
    obtain ⟨title, htitle, h⟩ := bind_eq_ok_iff.mp h
    obtain ⟨baseVersion, hbaseVersion, h⟩ := bind_eq_ok_iff.mp h
    obtain ⟨editsVersion, heditsVersion, h⟩ := bind_eq_ok_iff.mp h
    obtain ⟨workstate, hworkstate, h⟩ := bind_eq_ok_iff.mp h
    obtain rfl := Except.ok.inj h
    exact ⟨given, hgiven, hchecks, hprimaryKey, hproperties, hobjectTypeId, hobjectRid, htitle,
      hbaseVersion, heditsVersion, hworkstate⟩
  · rintro ⟨given, hgiven, hchecks, h⟩
    refine bind_eq_ok_iff.mpr ⟨given, Json.Shape.read_eq_ok_iff.mpr ⟨hgiven, hchecks⟩, ?_⟩
    refine bind_eq_ok_iff.mpr ⟨_, h.primaryKey, ?_⟩
    refine bind_eq_ok_iff.mpr ⟨_, h.properties, ?_⟩
    refine bind_eq_ok_iff.mpr ⟨_, h.objectTypeId, ?_⟩
    refine bind_eq_ok_iff.mpr ⟨_, h.objectRid, ?_⟩
    refine bind_eq_ok_iff.mpr ⟨_, h.title, ?_⟩
    refine bind_eq_ok_iff.mpr ⟨_, h.baseVersion, ?_⟩
    refine bind_eq_ok_iff.mpr ⟨_, h.editsVersion, ?_⟩
    exact bind_eq_ok_iff.mpr ⟨_, h.workstateEditsVersion, rfl⟩

/-- Whatever fits can be read. -/
theorem exists_isReadFrom (given : Given) (h : ∀ m ∈ given.members, Fits m.1 m.2) :
    ∃ object : RemoteObject, object.IsReadFrom given := by
  have hrecord : ∀ name, name = "primaryKey" ∨ name = "properties" →
      ∃ record, given.field name Json.asRecord .empty = .ok record := by
    intro name hname
    refine Given.exists_field_eq_ok fun value hm => ?_
    obtain ⟨record, rfl⟩ := (h _ hm).record hname
    exact ⟨record, Json.asRecord_ofRecord record⟩
  have htext : ∀ name, name = "objectTypeId" ∨ name = "objectRid" →
      ∃ text, given.field name (Json.asOptional Json.asString) none = .ok text := by
    intro name hname
    refine Given.exists_field_eq_ok fun value hm => ?_
    exact Json.exists_asOptional_asString_iff.mpr ((h _ hm).text hname)
  have hvalue : ∀ name, ∃ value, given.field name (Json.asOptional .ok) none = .ok value := by
    intro name
    exact Given.exists_field_eq_ok fun value _ => value.exists_asOptional_ok
  -- Every field is one of three kinds, and each kind that fits can be read.
  obtain ⟨primaryKey, hprimaryKey⟩ := hrecord _ (.inl rfl)
  obtain ⟨properties, hproperties⟩ := hrecord _ (.inr rfl)
  obtain ⟨objectTypeId, hobjectTypeId⟩ := htext _ (.inl rfl)
  obtain ⟨objectRid, hobjectRid⟩ := htext _ (.inr rfl)
  obtain ⟨title, htitle⟩ := hvalue "title"
  obtain ⟨baseVersion, hbaseVersion⟩ := hvalue "baseVersion"
  obtain ⟨editsVersion, heditsVersion⟩ := hvalue "editsVersion"
  obtain ⟨workstateEditsVersion, hworkstate⟩ := hvalue "workstateEditsVersion"
  exact ⟨⟨primaryKey, properties, objectTypeId, objectRid, title, baseVersion, editsVersion,
    workstateEditsVersion⟩, hprimaryKey, hproperties, hobjectTypeId, hobjectRid, htitle,
    hbaseVersion, heditsVersion, hworkstate⟩

/-! ### Answers to a load -/

/-- The value counts as an object: it is an object with members, or it is an array with at most one
item for each field, and what it gives fits. -/
inductive Counts : Json → Prop
  | named {members : List (String × Json)} : members ≠ [] →
      (∀ m ∈ members, Fits m.1 m.2) → Counts (.object members)
  | listed {items : List Json} : items.length ≤ shape.fields.length →
      (∀ m ∈ shape.fields.zip items, Fits m.1 m.2) → Counts (.array items)

/-- But for the empty object, what can be read as an object is what counts as one. -/
theorem exists_decode_iff (hempty : json ≠ .object []) :
    (∃ object, decode json = .ok object) ↔ Counts json := by
  constructor
  · rintro ⟨object, h⟩
    obtain ⟨given, hgiven, hfits, -⟩ := decode_eq_ok_iff.mp h
    cases json with
    | object members =>
      -- The empty object fits as well, and is left out because it means that there is none.
      obtain rfl := Option.some.inj hgiven
      refine .named ?_ hfits
      rintro rfl
      exact hempty rfl
    | array items =>
      change (if shape.fields.length < items.length then none else some _) = some given at hgiven
      split_ifs at hgiven with hlength
      obtain rfl := Option.some.inj hgiven
      exact .listed (Nat.not_lt.mp hlength) hfits
    | _ => cases hgiven
  · intro h
    cases h with
    | @named members hmembers hfits =>
      obtain ⟨object, hobject⟩ := exists_isReadFrom ⟨members, true⟩ hfits
      exact ⟨object, decode_eq_ok_iff.mpr ⟨_, rfl, hfits, hobject⟩⟩
    | @listed items hlength hfits =>
      obtain ⟨object, hobject⟩ := exists_isReadFrom ⟨shape.fields.zip items, false⟩ hfits
      have hgiven : shape.given? (.array items) = some ⟨shape.fields.zip items, false⟩ :=
        if_neg (Nat.not_lt.mpr hlength)
      exact ⟨object, decode_eq_ok_iff.mpr ⟨_, hgiven, hfits, hobject⟩⟩

/-- Whatever is not null or the empty object is read as an object or refused. -/
theorem ofJson_eq (hnull : json ≠ .null) (hempty : json ≠ .object []) :
    ofJson json = ((decode json).map some).mapError fun e => .invalidRemoteObject e.message := by
  unfold ofJson
  split
  case h_1 => exact absurd rfl hnull
  case h_2 => exact absurd rfl hempty
  case h_3 => rfl

theorem ofJson_eq_none_iff : ofJson json = .ok none ↔ json = .null ∨ json = .object [] := by
  constructor
  · intro h
    by_contra hjson
    obtain ⟨hnull, hempty⟩ := not_or.mp hjson
    rw [ofJson_eq hnull hempty, mapError_eq_ok_iff, map_eq_ok_iff] at h
    obtain ⟨object, -, hobject⟩ := h
    cases hobject
  · rintro (rfl | rfl) <;> rfl

/-- An object is read of whatever decodes, but for the empty object. -/
theorem ofJson_eq_some_iff :
    ofJson json = .ok (some object) ↔ json ≠ .object [] ∧ decode json = .ok object := by
  by_cases hjson : json = .null ∨ json = .object []
  · rw [ofJson_eq_none_iff.mpr hjson]
    rcases hjson with rfl | rfl
    · have hnull : decode .null = .error (.invalidType .null shape.title) := rfl
      simp [hnull]
    · simp
  · obtain ⟨hnull, hempty⟩ := not_or.mp hjson
    rw [ofJson_eq hnull hempty, mapError_eq_ok_iff, map_eq_ok_iff]
    simp [hempty]

theorem exists_ofJson_eq_some_iff : (∃ object, ofJson json = .ok (some object)) ↔ Counts json := by
  simp only [ofJson_eq_some_iff]
  by_cases hempty : json = .object []
  · constructor
    · rintro ⟨object, hobject, -⟩
      exact absurd hempty hobject
    · intro h
      cases h with
      | named hmembers hfits => simp [hmembers] at hempty
      | listed hlength hfits => simp at hempty
  · rw [← exists_decode_iff hempty]
    simp [hempty]

/-- What is neither missing nor counts as an object is refused, and nothing else is. -/
theorem exists_ofJson_eq_error_iff :
    (∃ reason, ofJson json = .error (.invalidRemoteObject reason)) ↔
      ¬(json = .null ∨ json = .object []) ∧ ¬ Counts json := by
  constructor
  · rintro ⟨reason, h⟩
    rw [← ofJson_eq_none_iff, ← exists_ofJson_eq_some_iff, h]
    simp
  · rintro ⟨hjson, hcounts⟩
    obtain ⟨hnull, hempty⟩ := not_or.mp hjson
    rw [ofJson_eq hnull hempty]
    cases hdecode : decode json with
    | ok object => exact absurd ((exists_decode_iff hempty).mp ⟨object, hdecode⟩) hcounts
    | error e => exact ⟨e.message, rfl⟩

end RemoteObject

end RecordBridge
