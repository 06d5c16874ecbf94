import RecordBridge.Proofs.Connector.BulkEdit
import RecordBridge.Proofs.Connector.Lookup
import RecordBridge.Proofs.Mapping

/-!
# What is created is found by its key

Creating posts one object under the key that it gives (`requests_create_of_ok`).  If the service
keeps that object (`KeepsAdded`), finding by that key posts the same address and reads the record
back (`findById_of_create`): its identity is the key, every other property has the value that was
written, and none that is never written (`ReadsBack`).

The written value survives because no other property and no policy is written under its name
(`get?_outgoing`).
-/

namespace RecordBridge

/-- The value at a path of member names. -/
def Json.at? (json : Json) : List String → Option Json
  | [] => some json
  | name :: rest =>
    match json.member? name with
    | some value => value.at? rest
    | none => none

/-- In this state the service answers the load of the address that stands in a body with the object
that the body adds: the primary key of the address, and the properties of the edit. -/
def KeepsAdded {σ : Type} (answer : σ → StoreRequest → Reply × σ) (later : σ) (posted : Json) :
    Prop :=
  ∀ asked primaryKey properties, posted.at? ["locator"] = some (StoreRequest.load asked).body →
    posted.at? ["locator", "primaryKey"] = some primaryKey →
    posted.at? ["request", "payload", "objectAdded", "properties"] = some properties →
    (answer later (.load asked)).1 =
      .ok (some (.object [("primaryKey", primaryKey), ("properties", properties)]))

/-- A record is what is read back of the data that was written under a key. -/
structure ReadsBack (model : Model) (identity key : String) (data record : Record) : Prop where
  atIdentity : record.get? identity = some (.string key)
  /-- Every other property that stands among the properties of an object has the value that it had,
  if it was written. -/
  atOther : ∀ logical, model.declares logical = true → logical ≠ identity →
    isStandardName (model.physicalName logical) = false →
    record.get? logical = if model.ignores logical then none else data.get? logical
  /-- The properties stand in the order of their declarations. -/
  inOrder : record.keys.Sublist model.properties.keys

/-- Addresses that are written alike are the same. -/
theorem Locator.toJson_injective {locator locator' : Locator}
    (h : locator.toJson = locator'.toJson) : locator = locator' := by
  obtain ⟨typeId, primaryKey⟩ := locator
  obtain ⟨typeId', primaryKey'⟩ := locator'
  simp only [toJson, Json.ofRecord, Json.object.injEq, List.cons.injEq, Prod.mk.injEq,
    Json.string.injEq, true_and, and_true] at h
  obtain ⟨rfl, hentries⟩ := h
  rw [Assoc.ext hentries]

namespace Connector

open Exchange

variable {connector : Connector} {name identity key keyName : String} {model : Model}
  {data : Record} {σ : Type} {answer : σ → StoreRequest → Reply × σ} {service later : σ}

/-! ### Creating -/

/-- Creating posts the addition of one object, under the key that is derived, whatever comes of
it. -/
theorem requests_create (hmodel : connector.registry.require name = .ok model)
    (hkey : model.primaryKeyName = .ok keyName)
    (hderive : connector.settings.key.derivation.derive model data = .ok key)
    (answer : σ → StoreRequest → Reply × σ) (service : σ) :
    ((connector.create name data).run answer service).requests =
      [.edit ⟨.single (connector.typeId model) keyName (.string key),
        .added (connector.outgoing model data)⟩] := by
  rw [create_eq hmodel hkey hderive, discard_bind]
  exact requests_send_bind _ service fun _ _ => rfl

/-- Creating that succeeds gives the key under which it has posted the object. -/
theorem requests_create_of_ok (hmodel : connector.registry.require name = .ok model)
    (hkey : model.primaryKeyName = .ok keyName)
    (h : ((connector.create name data).run answer service).result = .ok key) :
    ((connector.create name data).run answer service).requests =
      [.edit ⟨.single (connector.typeId model) keyName (.string key),
        .added (connector.outgoing model data)⟩] := by
  cases hderive : connector.settings.key.derivation.derive model data with
  | error error =>
    rw [create_eq_error hmodel hkey hderive] at h
    cases h
  | ok key' =>
    rw [requests_create hmodel hkey hderive]
    rw [create_eq hmodel hkey hderive, discard_bind] at h
    rcases hanswer : answer service (.edit ⟨.single (connector.typeId model) keyName (.string key'),
      .added (connector.outgoing model data)⟩) with ⟨reply, service'⟩
    cases reply with
    | error failure =>
      rw [run_send_bind_error hanswer] at h
      cases h
    | ok value =>
      rw [run_send_bind_ok hanswer] at h
      obtain rfl : key' = key := Except.ok.inj h
      rfl

/-- The value that is written for a declared property, also if a policy is written with it. -/
theorem get?_outgoing {logical : String} (h : model.Separates data)
    (hpolicy : "policy" ∉ model.physicalNames) (hdeclared : model.declares logical = true)
    (hstandard : isStandardName (model.physicalName logical) = false) :
    (connector.outgoing model data).get? (model.physicalName logical) =
      if model.ignores logical then none else data.get? logical := by
  rw [← Model.get?_toRemote h hdeclared hstandard]
  have hname : "policy" ≠ model.physicalName logical := by
    intro hname
    rw [hname] at hpolicy
    exact hpolicy (Model.physicalName_mem_physicalNames hdeclared)
  unfold outgoing
  cases connector.settings.policy with
  | none => rfl
  | some policy => exact (Assoc.get?_insert _ _ _ _).trans (if_neg hname)

/-! ### Reading back -/

/-- An object with the key and with what is written of a record is read as that record. -/
theorem readsBack_toInstance {object : RemoteObject} (h : model.Separates data)
    (hpolicy : "policy" ∉ model.physicalNames) (hidentity : model.identity = some identity)
    (hkey : object.primaryKey.get? (model.physicalName identity) = some (.string key))
    (hproperties : object.properties = connector.outgoing model data) :
    ReadsBack model identity key data (model.toInstance object []) := by
  constructor
  case atIdentity =>
    have hdeclared := Model.declares_of_firstProperty hidentity
    rw [Model.get?_toInstance model object hdeclared, Model.remoteValue, if_pos hidentity, hkey]
  case atOther =>
    intro logical hdeclared hne hstandard
    have hother : ¬ model.identity = some logical := by
      rw [hidentity]
      intro heq
      exact hne (Option.some.inj heq).symm
    rw [Model.get?_toInstance model object hdeclared, Model.remoteValue, if_neg hother, hstandard,
      hproperties]
    exact get?_outgoing h hpolicy hdeclared hstandard
  case inOrder => exact Model.keys_toInstance_sublist model object []

/-- **What is created is found by its key**: if the service keeps the object that was posted, then
finding by the key that was given loads its address and reads the record back. -/
theorem findById_of_create (hmodel : connector.registry.require name = .ok model)
    (hidentity : model.identity = some identity)
    (hprimaryKey : model.firstProperty (·.primaryKey) = some identity)
    (hdistinct : model.physicalNames.Nodup) (hpolicy : "policy" ∉ model.physicalNames)
    (hundeclared : ∀ property ∈ data.keys, model.declares property = false →
      property ∉ model.physicalNames)
    (hcreated : ((connector.create name data).run answer service).result = .ok key) :
    ∃ locator properties,
      ((connector.create name data).run answer service).requests =
        [.edit ⟨locator, .added properties⟩] ∧
      ∀ later, KeepsAdded answer later (StoreRequest.edit ⟨locator, .added properties⟩).body →
        let found := (connector.findById name (.string key)).run answer later
        found.requests = [.load locator] ∧
          ∃ record, found.result = .ok (some record) ∧
            ReadsBack model identity key data record := by
  have hkey : model.primaryKeyName = .ok (model.physicalName identity) := by
    unfold Model.primaryKeyName
    rw [hprimaryKey]
  let locator : Locator :=
    .single (connector.typeId model) (model.physicalName identity) (.string key)
  refine ⟨locator, connector.outgoing model data, requests_create_of_ok hmodel hkey hcreated, ?_⟩
  intro later hkeeps
  have hlocator : connector.locator model (.string key) = .ok locator :=
    connector.locator_eq_single hkey (.string key)
  have hanswer : answer later (.load locator) = (.ok (some (.object
      [("primaryKey", .ofRecord locator.primaryKey),
        ("properties", .ofRecord (connector.outgoing model data))])),
      (answer later (.load locator)).2) :=
    Prod.ext (hkeeps locator _ _ rfl rfl rfl) rfl
  rw [findById_eq hmodel, load_eq hlocator, run_send_bind_ok hanswer, Model.loaded,
    RemoteObject.ofJson_keyAndProperties]
  refine ⟨rfl, _, rfl, ?_⟩
  have hvalue : locator.primaryKey.get? (model.physicalName identity) = some (.string key) :=
    (Assoc.get?_insert _ _ _ _).trans (if_pos rfl)
  exact readsBack_toInstance ⟨hdistinct, hundeclared⟩ hpolicy hidentity hvalue rfl

/-! ### A service that keeps one object -/

/-- Keeps the last edit of a single object, and answers the load of its address with the object if
it has been added. -/
def keepLast (kept : Option LocatorEdit) : StoreRequest → Reply × Option LocatorEdit
  | .edit e => (.ok none, some e)
  | .load asked =>
    match kept with
    | some ⟨locator, .added properties⟩ =>
      if asked = locator then
        (.ok (some (.object [("primaryKey", .ofRecord locator.primaryKey),
          ("properties", .ofRecord properties)])), kept)
      else (.ok none, kept)
    | _ => (.ok none, kept)
  | _ => (.ok none, kept)

theorem keepsAdded_keepLast (locator : Locator) (properties : Record) :
    KeepsAdded keepLast (some ⟨locator, .added properties⟩)
      (StoreRequest.edit ⟨locator, .added properties⟩).body := by
  intro asked primaryKey properties' hasked hprimaryKey hproperties
  obtain rfl : locator = asked := Locator.toJson_injective (Option.some.inj hasked)
  obtain rfl : Json.ofRecord locator.primaryKey = primaryKey := Option.some.inj hprimaryKey
  obtain rfl : Json.ofRecord properties = properties' := Option.some.inj hproperties
  simp [keepLast]

/-- A model whose names in the store are its own. -/
def noteModel : Model :=
  (((Model.named "Note").withProperty "id" { Property.plain with
      physicalName := some "note_id", primaryKey := true, unique := true, isIdentity := true
    }).withProperty "text" { Property.plain with physicalName := some "body" }).withProperty "draft"
    { Property.plain with ignored := true }

/-- A connector that knows the model. -/
def noteConnector : Connector :=
  { itemConnector with registry := Registry.empty.register noteModel }

/-- A note, with a property that is never written. -/
def note : Record :=
  .ofList [("text", .string "hello"), ("draft", .bool true), ("id", .string "n1")]

/-- A note is found by its key, without the property that is never written. -/
theorem findById_of_create_note :
    let created := (noteConnector.create "Note" note).run keepLast none
    ∃ key record, created.result = .ok key ∧
      ((noteConnector.findById "Note" (.string key)).run keepLast created.service).result =
        .ok (some record) ∧
      record.get? "id" = some (.string key) ∧ record.get? "text" = some (.string "hello") ∧
      record.get? "draft" = none := by
  intro created
  have hcreated : created.result = .ok (noteConnector.settings.key.derivation.digest "n1") := rfl
  obtain ⟨locator, properties, hposted, hfound⟩ :=
    findById_of_create rfl rfl rfl (by decide) (by decide) (by decide) hcreated
  have hservice : created.service = some ⟨locator, .added properties⟩ :=
    congrArg some (StoreRequest.edit.inj (List.head_eq_of_cons_eq hposted))
  obtain ⟨-, record, hresult, hreads⟩ := hfound created.service (hservice ▸ keepsAdded_keepLast _ _)
  refine ⟨_, record, hcreated, hresult, hreads.atIdentity, ?_, ?_⟩
  · exact hreads.atOther "text" (by decide) (by decide) (by decide)
  · exact hreads.atOther "draft" (by decide) (by decide) (by decide)

end Connector

end RecordBridge
