import Mathlib.Data.List.Nodup
import RecordBridge.Mapping
import RecordBridge.Proofs.Json.Decoding

/-!
# What is written of a record, and what is read

A record is written under physical names and read under logical ones.  Of the properties that are
written under one name the last one counts (`Model.get?_toRemote_eq`); where no two properties are
written under the name of a declared one (`Model.Separates`), the value that is written for a
declared property is its value in the record, or none if it is never written
(`Model.get?_toRemote`).  Reading asks the object for each declared property
(`Model.get?_toInstance`) and keeps their order (`Model.keys_toInstance_sublist`); under a whitelist
it reads the same and leaves out what is not admitted (`Model.toInstance_eq_filter`).
-/

namespace RecordBridge

/-- A record is what the members with records must be. -/
theorem RemoteObject.checkMember_ofRecord {name : String}
    (h : name = "primaryKey" ∨ name = "properties") (record : Record) :
    checkMember name (.ofRecord record) = .ok () := by
  unfold checkMember
  rw [if_pos h, Json.asRecord_ofRecord]
  rfl

/-- The object that has a primary key and properties and nothing else is read as such. -/
theorem RemoteObject.ofJson_keyAndProperties (primaryKey properties : Record) :
    RemoteObject.ofJson (.object [("primaryKey", .ofRecord primaryKey),
      ("properties", .ofRecord properties)]) =
      .ok (some { ofProperties properties with primaryKey }) := by
  have hdecode : decode (.object [("primaryKey", .ofRecord primaryKey),
      ("properties", .ofRecord properties)]) = .ok { ofProperties properties with primaryKey } := by
    -- First both members are checked, then they are read.
    show ((checkMember _ _ >>= fun _ => checkMember _ _ >>= fun _ => pure ()) >>= fun _ => _) >>=
      _ = _
    rw [checkMember_ofRecord (.inl rfl), checkMember_ofRecord (.inr rfl)]
    show ((Json.ofRecord primaryKey).asRecord >>= fun _ =>
      (Json.ofRecord properties).asRecord >>= _) = _
    rw [Json.asRecord_ofRecord, Json.asRecord_ofRecord]
    rfl
  show ((decode _).map some).mapError _ = _
  rw [hdecode]
  rfl

namespace Model

variable {model : Model} {data : Record} {logical logical' physical : String} {value : Json}

/-- The names in the store of the declared properties, in order. -/
def physicalNames (model : Model) : List String := model.properties.keys.map model.physicalName

/-- No two properties, declared or in the record, are written under the name of a declared one. -/
structure Separates (model : Model) (data : Record) : Prop where
  distinct : model.physicalNames.Nodup
  undeclared : ∀ key ∈ data.keys, model.declares key = false → key ∉ model.physicalNames

/-! ### Physical names -/

theorem declares_iff : model.declares logical = true ↔ logical ∈ model.properties.keys := by
  unfold declares Assoc.contains
  rw [Option.isSome_iff_ne_none, ne_eq, Assoc.get?_eq_none_iff, not_not]

theorem physicalName_of_not_declares (h : model.declares logical = false) :
    model.physicalName logical = logical := by
  unfold declares Assoc.contains at h
  unfold physicalName
  rw [Option.isSome_eq_false_iff, Option.isNone_iff_eq_none] at h
  rw [h]

theorem physicalName_mem_physicalNames (h : model.declares logical = true) :
    model.physicalName logical ∈ model.physicalNames :=
  List.mem_map_of_mem (declares_iff.mp h)

/-- A property of the record that is written under the name of a declared one is that one. -/
theorem Separates.eq_of_physicalName_eq (h : model.Separates data)
    (hdeclared : model.declares logical = true) (hmem : logical' ∈ data.keys)
    (hname : model.physicalName logical' = model.physicalName logical) : logical' = logical := by
  cases hdeclared' : model.declares logical' with
  | true =>
    have hinj := List.inj_on_of_nodup_map h.distinct
    exact hinj (declares_iff.mp hdeclared') (declares_iff.mp hdeclared) hname
  | false =>
    rw [physicalName_of_not_declares hdeclared'] at hname
    have hphysical := physicalName_mem_physicalNames hdeclared
    rw [← hname] at hphysical
    exact absurd hphysical (h.undeclared logical' hmem hdeclared')

/-! ### Writing -/

/-- Whether a property is written under a physical name, if that is no standard name. -/
def writesUnder (model : Model) (physical logical : String) : Bool :=
  !model.ignores logical && decide (model.physicalName logical = physical)

/-- The value of the last property of a record that is written under a physical name. -/
def lastWritten (model : Model) (data : Record) (physical : String) : Option Json :=
  (data.entries.reverse.find? fun e => model.writesUnder physical e.1).map Prod.snd

theorem writesUnder_iff : model.writesUnder physical logical = true ↔
    model.ignores logical = false ∧ model.physicalName logical = physical := by
  simp [writesUnder]

/-- Among what is written of some properties, a name is looked up by looking for a property that is
written under it. -/
theorem lookupEntry_remoteEntries (model : Model) (physical : String)
    (entries : List (String × Json)) :
    lookupEntry physical
        ((entries.filter fun e => !model.ignores e.1).filterMap model.remoteEntry) =
      if isStandardName physical then none
      else (entries.find? fun e => model.writesUnder physical e.1).map Prod.snd := by
  induction entries with
  | nil => simp [lookupEntry]
  | cons e rest ih =>
    obtain ⟨logical, value⟩ := e
    cases hignores : model.ignores logical with
    | true => simp [hignores, ih, writesUnder]
    | false =>
      by_cases hname : model.physicalName logical = physical
      · subst hname
        cases hstandard : isStandardName (model.physicalName logical) with
        | true => simpa [hignores, remoteEntry, hstandard] using ih
        | false => simp [hignores, remoteEntry, hstandard, lookupEntry, writesUnder]
      · -- The property is written elsewhere or nowhere.
        cases hstandard : isStandardName (model.physicalName logical) <;>
          simp [hignores, remoteEntry, hstandard, lookupEntry, hname, ih, writesUnder]

/-- **What is written under a name** is the last value that is written there. -/
theorem get?_toRemote_eq (model : Model) (data : Record) (physical : String) :
    (model.toRemote data).get? physical =
      if isStandardName physical then none else model.lastWritten data physical := by
  rw [toRemote, Assoc.get?_ofList, activeProperties, Assoc.filter, ← List.filterMap_reverse,
    ← List.filter_reverse, lookupEntry_remoteEntries]
  rfl

/-- The last value under a name, if only one property of the record can be written there. -/
theorem lastWritten_of_unique
    (h : ∀ key ∈ data.keys, model.writesUnder physical key = true → key = logical) :
    model.lastWritten data physical =
      if model.writesUnder physical logical then data.get? logical else none := by
  have hreverse : ∀ key ∈ keysOf data.entries.reverse, model.writesUnder physical key = true →
      key = logical := by
    intro key hkey
    rw [keysOf_reverse, List.mem_reverse] at hkey
    exact h key hkey
  rw [lastWritten, map_find?_of_unique hreverse, lookupEntry_reverse_of_nodup logical data.nodup]
  rfl

/-- **The written value of a declared property** is its value in the record, if it may be
written. -/
theorem get?_toRemote (h : model.Separates data) (hdeclared : model.declares logical = true)
    (hstandard : isStandardName (model.physicalName logical) = false) :
    (model.toRemote data).get? (model.physicalName logical) =
      if model.ignores logical then none else data.get? logical := by
  -- Among what is written, the name belongs to this property alone.
  have hunique : ∀ key ∈ data.keys, model.writesUnder (model.physicalName logical) key = true →
      key = logical := by
    intro key hkey hwritten
    exact h.eq_of_physicalName_eq hdeclared hkey (writesUnder_iff.mp hwritten).2
  rw [get?_toRemote_eq, hstandard, if_neg Bool.false_ne_true, lastWritten_of_unique hunique,
    writesUnder, decide_eq_true rfl, Bool.and_true]
  cases model.ignores logical <;> rfl

/-! ### Reading -/

/-- What is read from an object for a declared property. -/
theorem get?_toInstance (model : Model) (object : RemoteObject)
    (hdeclared : model.declares logical = true) :
    (model.toInstance object []).get? logical = model.remoteValue object logical := by
  have hproperty : (model.properties.get? logical).isSome = true := hdeclared
  obtain ⟨property, hproperty⟩ := Option.isSome_iff_exists.mp hproperty
  rw [toInstance, Assoc.get?_filterMap, hproperty]
  rfl

/-- Properties are read in the order of their declarations. -/
theorem keys_toInstance_sublist (model : Model) (object : RemoteObject) (whitelist : List String) :
    (model.toInstance object whitelist).keys.Sublist model.properties.keys :=
  Assoc.keys_filterMap_sublist _ _

/-- Under a whitelist the same is read, without the properties that are not admitted. -/
theorem toInstance_eq_filter (model : Model) (object : RemoteObject) (whitelist : List String) :
    model.toInstance object whitelist =
      (model.toInstance object []).filter fun logical _ => model.admits whitelist logical := by
  unfold toInstance
  rw [Assoc.filter_filterMap]
  rfl

end Model

end RecordBridge
