import RecordBridge.Model.Codec
import RecordBridge.Proofs.Json.Decoding

/-!
# The written form of models

A model is read back from its written form exactly (`Model.decode_toJson`): its properties in order,
with every flag and every physical name.  So what was read from any accepted form of a model, with
all that reading ignores, is read again from the one form that writing gives it
(`Model.ofJson_roundTrip`).

What has its default is left out when it is written, at every level: a flag that is not set, a name
that is not given, the annotations of a property that has none.  Reading therefore goes level by
level, and at each of them from the members that were written to the fields that are found
(`Property.decode_encodeAnnotations`, `Property.decode_encode`).
-/

namespace RecordBridge

open Json (Given Shape memberOf setFlag lookupEntry_memberOf)

theorem stringMember_eq_memberOf (name : String) (value : Option String) :
    stringMember name value = memberOf name (value.map .string) := by
  cases value <;> rfl

theorem flagMember_eq_memberOf (name : String) (flag : Bool) :
    flagMember name flag = memberOf name (setFlag flag) := by
  cases flag <;> rfl

/-! ### Properties -/

namespace Property

/-- What the store has to know about a property. -/
def annotations (p : Property) : StoreAnnotations :=
  ⟨p.physicalName, p.primaryKey, p.unique, p.ignored⟩

/-- Annotations are left out only if every one of them has its default. -/
theorem annotations_eq_none {p : Property} (h : p.isAnnotated = false) :
    p.annotations = StoreAnnotations.none := by
  simp only [isAnnotated, Bool.or_eq_false_iff, Option.isSome_eq_false_iff,
    Option.isNone_iff_eq_none] at h
  obtain ⟨⟨⟨hname, hkey⟩, hunique⟩, hignored⟩ := h
  rw [annotations, hname, hkey, hunique, hignored]
  rfl

/-- The members of written annotations. -/
def annotationMembers (p : Property) : List (String × Json) :=
  memberOf "propertyName" (p.physicalName.map .string) ++
    memberOf "primaryKey" (setFlag p.primaryKey) ++
    memberOf "unique" (setFlag p.unique) ++ memberOf "ignore" (setFlag p.ignored)

theorem encodeAnnotations_eq (p : Property) :
    p.encodeAnnotations = .object p.annotationMembers := by
  simp only [encodeAnnotations, stringMember_eq_memberOf, flagMember_eq_memberOf, annotationMembers]

/-- Annotations are read as they were written. -/
theorem decode_encodeAnnotations (p : Property) :
    StoreAnnotations.decode p.encodeAnnotations = .ok p.annotations := by
  have hcheck : ∀ m ∈ p.annotationMembers, StoreAnnotations.checkMember m.1 m.2 = .ok () := by
    simp only [annotationMembers, List.forall_mem_append]
    refine ⟨⟨⟨?_, ?_⟩, ?_⟩, ?_⟩
    · exact Json.check_memberOf_string (fun _ => rfl) _
    · exact Json.check_memberOf_setFlag rfl _
    · exact Json.check_memberOf_setFlag rfl _
    · exact Json.check_memberOf_setFlag rfl _
  have hname : lookupEntry "propertyName" p.annotationMembers = p.physicalName.map .string := by
    simp [annotationMembers, lookupEntry_append, lookupEntry_memberOf]
  have hkey : lookupEntry "primaryKey" p.annotationMembers = setFlag p.primaryKey := by
    simp [annotationMembers, lookupEntry_append, lookupEntry_memberOf]
  have hunique : lookupEntry "unique" p.annotationMembers = setFlag p.unique := by
    simp [annotationMembers, lookupEntry_append, lookupEntry_memberOf]
  have hignored : lookupEntry "ignore" p.annotationMembers = setFlag p.ignored := by
    simp [annotationMembers, lookupEntry_append, lookupEntry_memberOf]
  rw [encodeAnnotations_eq]
  refine bind_eq_ok_iff.mpr ⟨_, Shape.read_object hcheck, ?_⟩
  refine bind_eq_ok_iff.mpr ⟨_, Given.field_optionalString hname, ?_⟩
  refine bind_eq_ok_iff.mpr ⟨_, Given.field_flag hkey, ?_⟩
  refine bind_eq_ok_iff.mpr ⟨_, Given.field_flag hunique, ?_⟩
  exact bind_eq_ok_iff.mpr ⟨_, Given.field_flag hignored, rfl⟩

/-- The members of a written property. -/
def writtenMembers (p : Property) : List (String × Json) :=
  memberOf "id" (setFlag p.isIdentity) ++
    memberOf "objectStore" (if p.isAnnotated then some p.encodeAnnotations else none)

theorem encode_eq (p : Property) : p.encode = .object p.writtenMembers := by
  rw [encode, writtenMembers, flagMember_eq_memberOf]
  cases p.isAnnotated <;> rfl

/-- A property is read as it was written. -/
theorem decode_encode (p : Property) : decode p.encode = .ok p := by
  have hannotations : p.encodeAnnotations.asOptional StoreAnnotations.decode =
      .ok (some p.annotations) := by
    show (StoreAnnotations.decode p.encodeAnnotations).map some = _
    rw [decode_encodeAnnotations]
    rfl
  have hcheck : ∀ m ∈ p.writtenMembers, checkMember m.1 m.2 = .ok () := by
    rw [writtenMembers, List.forall_mem_append]
    refine ⟨Json.check_memberOf_setFlag rfl _, ?_⟩
    cases p.isAnnotated with
    | false => simp [memberOf]
    | true =>
      show ∀ m ∈ [("objectStore", p.encodeAnnotations)], _
      rw [List.forall_mem_singleton]
      exact bind_eq_ok_iff.mpr ⟨_, hannotations, rfl⟩
  have hid : lookupEntry "id" p.writtenMembers = setFlag p.isIdentity := by
    simp [writtenMembers, lookupEntry_append, lookupEntry_memberOf]
  have hstore : lookupEntry "objectStore" p.writtenMembers =
      if p.isAnnotated then some p.encodeAnnotations else none := by
    simp [writtenMembers, lookupEntry_append, lookupEntry_memberOf]
  -- Where annotations are left out, reading falls back on the defaults, and those they are.
  obtain ⟨found, hfield, hfound⟩ : ∃ found,
      Given.field ⟨p.writtenMembers, true⟩ "objectStore"
          (Json.asOptional StoreAnnotations.decode) none = .ok found ∧
        found.getD .none = p.annotations := by
    rw [Given.field, hstore]
    cases hannotated : p.isAnnotated with
    | false => exact ⟨none, rfl, (annotations_eq_none hannotated).symm⟩
    | true => exact ⟨some p.annotations, hannotations, rfl⟩
  rw [encode_eq]
  refine bind_eq_ok_iff.mpr ⟨_, Shape.read_object hcheck, ?_⟩
  refine bind_eq_ok_iff.mpr ⟨_, Given.field_flag hid, ?_⟩
  refine bind_eq_ok_iff.mpr ⟨found, hfield, ?_⟩
  rw [hfound]
  rfl

end Property

/-! ### Models -/

namespace Model

/-- The members of a written model. -/
def writtenMembers (model : Model) : List (String × Json) :=
  ("name", .string model.name) :: memberOf "objectTypeId" (model.objectType.map .string) ++
    [("properties", .object (model.properties.mapValues Property.encode).entries)]

theorem toJson_eq (model : Model) : model.toJson = .object model.writtenMembers := by
  rw [toJson, writtenMembers, stringMember_eq_memberOf]

/-- A model is read as it was written. -/
theorem decode_toJson (model : Model) : decode model.toJson = .ok model := by
  have hproperties :
      decodeProperties (.object (model.properties.mapValues Property.encode).entries) =
        .ok model.properties := Json.asAssoc_mapValues Property.decode_encode model.properties
  have hcheck : ∀ m ∈ model.writtenMembers, checkMember m.1 m.2 = .ok () := by
    rw [writtenMembers, List.cons_append, List.forall_mem_cons, List.forall_mem_append,
      List.forall_mem_singleton]
    refine ⟨rfl, Json.check_memberOf_string (fun _ => rfl) _, ?_⟩
    exact bind_eq_ok_iff.mpr ⟨_, hproperties, rfl⟩
  have htype : lookupEntry "objectTypeId" model.writtenMembers = model.objectType.map .string := by
    simp [writtenMembers, lookupEntry, lookupEntry_append, lookupEntry_memberOf]
  have hfound : lookupEntry "properties" model.writtenMembers =
      some (.object (model.properties.mapValues Property.encode).entries) := by
    simp [writtenMembers, lookupEntry, lookupEntry_append, lookupEntry_memberOf]
  rw [toJson_eq]
  refine bind_eq_ok_iff.mpr ⟨_, Shape.read_object hcheck, ?_⟩
  refine bind_eq_ok_iff.mpr ⟨model.name, rfl, ?_⟩
  refine bind_eq_ok_iff.mpr ⟨_, Given.field_optionalString htype, ?_⟩
  refine bind_eq_ok_iff.mpr ⟨model.properties, ?_, rfl⟩
  rw [Given.field, hfound]
  exact hproperties

theorem ofJson_toJson (model : Model) : ofJson model.toJson = .ok model := by
  rw [ofJson, decode_toJson]
  rfl

/-- **Models survive being written**: a model is read back as it was, however it was made, and what
was read from any value is read again from what is written of it. -/
theorem ofJson_roundTrip :
    (∀ model : Model, ofJson model.toJson = .ok model) ∧
    ∀ (json : Json) (model : Model), ofJson json = .ok model →
      ofJson model.toJson = ofJson json := by
  refine ⟨ofJson_toJson, ?_⟩
  intro json model h
  rw [h, model.ofJson_toJson]

/-- Members that say nothing are read and not written again. -/
example : (ofJson (.object [("name", .string "Note"), ("objectTypeId", .null),
      ("properties", .object [("text", .object [("type", .string "string"), ("id", .bool false),
        ("objectStore", .object [])])])])).map toJson =
    .ok (.object [("name", .string "Note"), ("properties", .object [("text", .object [])])]) := rfl

end Model

end RecordBridge
