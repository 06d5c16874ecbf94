import RecordBridge.Json.Decode
import RecordBridge.Proofs.Success

/-!
# Reading what was written

What the readers of typed values make of members that were written: a record is read as that record
(`Json.asRecord_ofRecord`), and a map whose values were written one by one is read as that map
(`Json.asAssoc_mapValues`).

A structure is given by an object or by an array (`Json.Shape.given?`), and it is read if all that
is given passes its check (`Json.Shape.read_eq_ok_iff`).  Some members are left out when they are
written; `Json.memberOf` is such a member, and a reader that asks for it by name finds its value or
falls back on the default (`Json.Given.field_written`, `Json.Given.field_flag`).  The other way
round, what is found of a value that may be missing is what was given, unless that was null
(`Json.Given.map_of_field`).
-/

namespace RecordBridge.Json

/-- What is written as a record is read as that record. -/
theorem asRecord_ofRecord (record : Record) : (ofRecord record).asRecord = .ok record := by
  unfold asRecord ofRecord
  simp only [Assoc.ofEntries?_entries]

/-- A number that fits is read as it was written. -/
theorem asUnsigned_ofInt {bits n : Nat} (h : n < Nat.pow 2 bits) :
    (ofInt n).asUnsigned bits = .ok n := by
  have hrange : 0 ≤ (n : Int) ∧ (n : Int) < Nat.pow 2 bits :=
    ⟨Int.natCast_nonneg n, Int.ofNat_lt.mpr h⟩
  show (if 0 ≤ (n : Int) ∧ (n : Int) < Nat.pow 2 bits then Except.ok (n : Int).toNat
    else .error _) = _
  rw [if_pos hrange, Int.toNat_natCast]

/-- A number that is read has no more than so many bits. -/
theorem lt_of_asUnsigned {json : Json} {bits n : Nat} (h : json.asUnsigned bits = .ok n) :
    n < Nat.pow 2 bits := by
  unfold asUnsigned at h
  dsimp only at h
  split at h
  case h_1 value =>
    split at h
    case isTrue hrange =>
      obtain rfl := Except.ok.inj h
      omega
    case isFalse => cases h
  case h_2 => cases h

/-- Texts are read as they were written, in order. -/
theorem asStrings_map_string (texts : List String) :
    (array (texts.map string)).asStrings = .ok texts := by
  refine bind_eq_ok_iff.mpr ⟨_, rfl, ?_⟩
  rw [mapM_eq_ok_iff, List.forall₂_map_left_iff, List.forall₂_same]
  exact fun _ _ => rfl

/-! ### Values that may be missing -/

section

variable {α : Type} {decode : Json → Decoded α} {json : Json} {value : Option α}

theorem asOptional_of_ne_null (h : json ≠ .null) :
    json.asOptional decode = (decode json).map some := by
  cases json with
  | null => exact absurd rfl h
  | _ => rfl

/-- A value that may be missing is null, or it is read as a value. -/
theorem asOptional_eq_ok_iff : json.asOptional decode = .ok value ↔
    json = .null ∧ value = none ∨ json ≠ .null ∧ ∃ a, decode json = .ok a ∧ value = some a := by
  by_cases hnull : json = .null
  · subst hnull
    have hread : (null : Json).asOptional decode = .ok none := rfl
    rw [hread]
    simp [eq_comm]
  · rw [asOptional_of_ne_null hnull, map_eq_ok_iff]
    simp [hnull, eq_comm]

/-- What was written, and not as null, is read back. -/
theorem asOptional_written {encode : α → Json} {a : α} (hnull : encode a ≠ .null)
    (hread : decode (encode a) = .ok a) : (encode a).asOptional decode = .ok (some a) :=
  asOptional_eq_ok_iff.mpr (.inr ⟨hnull, a, hread, rfl⟩)

end

/-! ### Maps -/

section

variable {α : Type} {encode : α → Json} {decode : Json → Decoded α}

/-- Entries are read one by one, in order. -/
theorem mapM_entries (h : ∀ a, decode (encode a) = .ok a) (entries : List (String × α)) :
    (entries.map fun e => (e.1, encode e.2)).mapM
      (fun m => do return (m.1, ← decode m.2)) = .ok entries := by
  rw [mapM_eq_ok_iff, List.forall₂_map_left_iff, List.forall₂_same]
  exact fun e _ => bind_eq_ok_iff.mpr ⟨e.2, h e.2, rfl⟩

/-- A map is read as it was written, if its values are. -/
theorem asAssoc_mapValues (h : ∀ a, decode (encode a) = .ok a) (map : Assoc α) :
    asAssoc decode (.object (map.mapValues encode).entries) = .ok map := by
  unfold asAssoc
  refine bind_eq_ok_iff.mpr ⟨map.entries, mapM_entries h map.entries, ?_⟩
  rw [Assoc.ofEntries?_entries]
  rfl

end

/-! ### Structures -/

section

variable {shape : Shape} {check : String → Json → Decoded Unit} {members : List (String × Json)}

/-- What a value gives for a structure, before any of it is checked: an object gives its members,
and an array gives values to the fields in their order. -/
def Shape.given? (shape : Shape) : Json → Option Given
  | .object members => some ⟨members, true⟩
  | .array items =>
    if shape.fields.length < items.length then none else some ⟨shape.fields.zip items, false⟩
  | _ => none

/-- A structure is read if all that is given for it is in order. -/
theorem Shape.read_eq_ok_iff {json : Json} {given : Given} :
    shape.read check json = .ok given ↔
      shape.given? json = some given ∧ ∀ m ∈ given.members, check m.1 m.2 = .ok () := by
  cases json
  case object members =>
    show (members.forM (fun m => check m.1 m.2) >>= fun _ => pure (⟨members, true⟩ : Given)) = _ ↔ _
    rw [bind_eq_ok_iff]
    constructor
    · rintro ⟨⟨⟩, hchecks, h⟩
      obtain rfl := Except.ok.inj h
      exact ⟨rfl, forM_eq_ok_iff.mp hchecks⟩
    · rintro ⟨h, hchecks⟩
      obtain rfl := Option.some.inj h
      exact ⟨(), forM_eq_ok_iff.mpr hchecks, rfl⟩
  case array items =>
    have hgiven : shape.given? (.array items) = if shape.fields.length < items.length then none
        else some ⟨shape.fields.zip items, false⟩ := rfl
    unfold read
    rw [bind_eq_ok_iff, hgiven]
    -- The number of items is looked at after the items are.
    by_cases hlength : shape.fields.length < items.length
    · rw [if_pos hlength, if_pos hlength]
      constructor
      · rintro ⟨-, -, h⟩
        cases h
      · rintro ⟨h, -⟩
        cases h
    · rw [if_neg hlength, if_neg hlength]
      constructor
      · rintro ⟨⟨⟩, hchecks, h⟩
        obtain rfl := Except.ok.inj h
        exact ⟨rfl, forM_eq_ok_iff.mp hchecks⟩
      · rintro ⟨h, hchecks⟩
        obtain rfl := Option.some.inj h
        exact ⟨(), forM_eq_ok_iff.mpr hchecks, rfl⟩
  all_goals
    constructor
    · intro h
      cases h
    · rintro ⟨h, -⟩
      cases h

/-- Of an object whose members are all in order, every member is there to be read. -/
theorem Shape.read_object (h : ∀ m ∈ members, check m.1 m.2 = .ok ()) :
    shape.read check (.object members) = .ok ⟨members, true⟩ :=
  read_eq_ok_iff.mpr ⟨rfl, h⟩

end

/-! ### Members that may be left out -/

/-- A member that is there if there is a value for it. -/
def memberOf (name : String) (value : Option Json) : List (String × Json) :=
  value.toList.map fun json => (name, json)

/-- The value of a flag that is left out when it is not set. -/
def setFlag (flag : Bool) : Option Json := if flag then some (.bool true) else none

section

variable {check : String → Json → Decoded Unit} {name : String} {given : Given}

theorem lookupEntry_memberOf (key name : String) (value : Option Json) :
    lookupEntry key (memberOf name value) = if name = key then value else none := by
  cases value with
  | none => simp [memberOf, lookupEntry]
  | some json => rfl

/-- What holds of a member that may be left out holds of the value for it, if there is one. -/
theorem forall_mem_memberOf {p : String × Json → Prop} {value : Option Json} :
    (∀ m ∈ memberOf name value, p m) ↔ ∀ json ∈ value, p (name, json) := by
  cases value <;> simp [memberOf]

theorem check_memberOf_string (h : ∀ text, check name (.string text) = .ok ())
    (value : Option String) :
    ∀ m ∈ memberOf name (value.map string), check m.1 m.2 = .ok () := by
  rw [forall_mem_memberOf]
  intro json hjson
  obtain ⟨text, -, rfl⟩ := Option.map_eq_some_iff.mp hjson
  exact h text

theorem check_memberOf_setFlag (h : check name (.bool true) = .ok ()) (flag : Bool) :
    ∀ m ∈ memberOf name (setFlag flag), check m.1 m.2 = .ok () := by
  rw [forall_mem_memberOf]
  cases flag <;> simp [setFlag, h]

/-- A value that is left out when there is none is read as it was written, if it is not written as
null. -/
theorem Given.field_written {α : Type} {encode : α → Json} {decode : Json → Decoded α}
    {value : Option α} (hvalue : ∀ a ∈ value, encode a ≠ .null ∧ decode (encode a) = .ok a)
    (h : lookupEntry name given.members = value.map encode) :
    given.field name (asOptional decode) none = .ok value := by
  rw [field, h]
  cases value with
  | none => rfl
  | some a =>
    obtain ⟨hnull, hread⟩ := hvalue a rfl
    exact asOptional_written hnull hread

/-- What is found of a value that may be missing was read from something. -/
theorem Given.exists_of_mem_field {α : Type} {decode : Json → Decoded α} {value : Option α} {a : α}
    (h : given.field name (asOptional decode) none = .ok value) (ha : a ∈ value) :
    ∃ json, decode json = .ok a := by
  unfold field at h
  cases hlookup : lookupEntry name given.members with
  | none =>
    rw [hlookup] at h
    obtain rfl : none = value := Except.ok.inj h
    cases ha
  | some json =>
    rw [hlookup] at h
    rcases asOptional_eq_ok_iff.mp h with ⟨-, rfl⟩ | ⟨-, b, hb, rfl⟩
    · cases ha
    · obtain rfl := Option.some.inj ha
      exact ⟨json, hb⟩

/-- What is read of a value that may be missing is what is given, unless that is null. -/
theorem Given.map_of_field {α : Type} {encode : α → Json} {decode : Json → Decoded α}
    {value : Option α} (hdecode : ∀ json a, decode json = .ok a → json = encode a)
    (h : given.field name (asOptional decode) none = .ok value) :
    value.map encode = (lookupEntry name given.members).filter (· ≠ .null) := by
  unfold field at h
  cases hlookup : lookupEntry name given.members with
  | none =>
    rw [hlookup] at h
    obtain rfl : none = value := Except.ok.inj h
    rfl
  | some json =>
    rw [hlookup] at h
    rcases asOptional_eq_ok_iff.mp h with ⟨rfl, rfl⟩ | ⟨hnull, a, ha, rfl⟩
    · rfl
    · simp [← hdecode json a ha, Option.filter_some, hnull]

/-- So it is if any value will do. -/
theorem Given.eq_of_field {value : Option Json}
    (h : given.field name (asOptional .ok) none = .ok value) :
    value = (lookupEntry name given.members).filter (· ≠ .null) := by
  have hvalue := @map_of_field name given Json id .ok value (fun _ _ => Except.ok.inj) h
  rwa [Option.map_id, id] at hvalue

/-- A value that may be missing is never read as null. -/
theorem Given.ne_null_of_field {value : Option Json}
    (h : given.field name (asOptional .ok) none = .ok value) : value ≠ some .null := by
  rw [eq_of_field h]
  simp

/-- A string that is left out when there is none is read as it was given. -/
theorem Given.field_optionalString {value : Option String}
    (h : lookupEntry name given.members = value.map string) :
    given.field name (asOptional asString) none = .ok value :=
  field_written (fun _ _ => ⟨Json.noConfusion, rfl⟩) h

/-- So is a value that may be anything but null. -/
theorem Given.field_optional {value : Option Json} (hnull : value ≠ some .null)
    (h : lookupEntry name given.members = value) :
    given.field name (asOptional .ok) none = .ok value := by
  have hvalue : ∀ json ∈ value,
      id json ≠ .null ∧ (Except.ok (id json) : Decoded Json) = .ok json := by
    intro json hjson
    refine ⟨?_, rfl⟩
    rintro rfl
    exact hnull hjson
  exact field_written hvalue (by simpa using h)

/-- A flag that is left out when it is not set is read as it was set. -/
theorem Given.field_flag {flag : Bool} (h : lookupEntry name given.members = setFlag flag) :
    given.field name asBool false = .ok flag := by
  rw [field, h]
  cases flag <;> rfl

end

end RecordBridge.Json
