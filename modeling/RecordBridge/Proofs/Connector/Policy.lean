import RecordBridge.Proofs.Connector.AllOrNothing
import RecordBridge.Proofs.Connector.ReadBack
import RecordBridge.Proofs.Connector.Restriction

/-!
# A policy stands above every record

Creating, replacing and updating write a record (`Operation.written?`).  Whatever the record and its
model call `policy`, each edit that they post writes one map of properties, in which the configured
policy is found under that name and everything else is as the record has it
(`perform_keepsPolicy`).

The map is settled before anything is posted (`keepsPolicy_outgoing`), every edit of an operation
writes that map (`within_perform_writes`), and it is what stands in the body of the request
(`StoreRequest.writtenProperties_of_writes`).
-/

namespace RecordBridge

/-- The record that an operation writes, with the name of its model. -/
def Operation.written? : Operation → Option (String × Record)
  | .create name data | .replaceById name _ data | .updateAll name _ data => some (name, data)
  | .findById .. | .find .. | .count .. | .destroyById .. | .destroyAll .. => none

/-- Properties are those of a record, under a policy if there is one. -/
structure KeepsPolicy (policy : Option String) (record properties : Record) : Prop where
  /-- The policy is found under its name. -/
  inForce : ∀ text, policy = some text → properties.get? "policy" = some (.string text)
  /-- Everything else is as the record has it, in order. -/
  others : ∀ text, policy = some text →
    (properties.filter fun name _ => name ≠ "policy") = record.filter fun name _ => name ≠ "policy"
  /-- Without a policy the properties are those of the record. -/
  unruled : policy = none → properties = record

theorem keepsPolicy_outgoing (connector : Connector) (model : Model) (data : Record) :
    KeepsPolicy connector.settings.policy (model.toRemote data)
      (connector.outgoing model data) := by
  unfold Connector.outgoing
  cases hpolicy : connector.settings.policy with
  | none => exact ⟨fun _ h => (by cases h), fun _ h => (by cases h), fun _ => rfl⟩
  | some policy =>
    -- The policy is put in last, so it takes the place of an entry that the record had for it.
    refine ⟨?_, fun _ _ => Assoc.filter_insert _ _ _, fun h => by cases h⟩
    intro text htext
    rw [← Option.some.inj htext, Assoc.get?_insert, if_pos rfl]

/-! ### Properties on the wire -/

/-- The properties that an edit writes. -/
def Edit.properties? : Edit → Option Record
  | added properties | modified properties => some properties
  | deleted => none

namespace Json

/-- The parts of a body that carry one edit each, if it carries any. -/
def parts : Json → List Json
  | array bodies => bodies
  | body => [body]

/-- The maps of properties that a part of a body writes. -/
def writtenProperties (part : Json) : List Json :=
  ["objectAdded", "objectModified"].filterMap fun kind =>
    part.at? ["request", "payload", kind, "properties"]

theorem writtenProperties_of_member? {part : Json} (h : part.member? "request" = none) :
    part.writtenProperties = [] := by
  simp [writtenProperties, at?, h]

end Json

theorem LocatorEdit.writtenProperties_toJson {e : LocatorEdit} {properties : Record}
    (h : e.edit.properties? = some properties) :
    e.toJson.writtenProperties = [.ofRecord properties] := by
  obtain ⟨locator, edit⟩ := e
  cases edit with
  | added written =>
    obtain rfl := Option.some.inj h
    rfl
  | modified written =>
    obtain rfl := Option.some.inj h
    rfl
  | deleted => cases h

namespace StoreRequest

/-- Every edit of the request writes the properties. -/
def Writes (properties : Record) (request : StoreRequest) : Prop :=
  ∀ e ∈ request.edits, e.edit.properties? = some properties

/-- What the edits of a request write is what stands in every part of its body. -/
theorem writtenProperties_of_writes {request : StoreRequest} {properties : Record}
    (h : request.Writes properties) :
    ∀ part ∈ request.body.parts,
      part.writtenProperties = if request.isEdit then [.ofRecord properties] else [] := by
  cases request with
  | edit e =>
    show ∀ part ∈ [e.toJson], _
    rw [List.forall_mem_singleton]
    exact LocatorEdit.writtenProperties_toJson (h e (List.mem_singleton_self e))
  | editAll edits =>
    show ∀ part ∈ edits.map LocatorEdit.toJson, _
    rw [List.forall_mem_map]
    exact fun e he => LocatorEdit.writtenProperties_toJson (h e he)
  | load locator =>
    show ∀ part ∈ [locator.toJson], _
    rw [List.forall_mem_singleton]
    exact Json.writtenProperties_of_member? rfl
  | search search pageSize =>
    show ∀ part ∈ [search.toJson], _
    rw [List.forall_mem_singleton]
    exact Json.writtenProperties_of_member? search.member?_request_toJson

theorem writes_edit {locator : Locator} {edit : Edit} {properties : Record}
    (h : edit.properties? = some properties) :
    (StoreRequest.edit ⟨locator, edit⟩).Writes properties := by
  intro e he
  rw [List.mem_singleton.mp he]
  exact h

end StoreRequest

/-! ### The operations -/

namespace Connector

open Exchange

variable {connector : Connector} {name : String} {model : Model} {data : Record}
  {operation : Operation}

/-- Every edit of an operation writes what is outgoing for its record. -/
theorem within_perform_writes (hwritten : operation.written? = some (name, data))
    (hmodel : connector.registry.require name = .ok model) :
    Within (StoreRequest.Writes (connector.outgoing model data)) (fun _ => True)
      (connector.perform operation) := by
  cases operation with
  | create name' data' =>
    obtain ⟨rfl, rfl⟩ := Prod.mk.inj (Option.some.inj hwritten)
    show Within _ _ (connector.create _ _)
    unfold create
    rw [model_bind hmodel]
    refine within_ofQuery_bind (fun _ _ => trivial) fun keyName _ => ?_
    refine within_ofQuery_bind (fun _ _ => trivial) fun key _ => ?_
    rw [discard_bind]
    refine (within_send (StoreRequest.writes_edit rfl) fun _ => trivial).bind fun _ => ?_
    exact .note _ (.ok key)
  | replaceById name' id data' =>
    obtain ⟨rfl, rfl⟩ := Prod.mk.inj (Option.some.inj hwritten)
    show Within _ _ (connector.replaceById _ _ _)
    unfold replaceById
    rw [model_bind hmodel]
    refine within_ofQuery_bind (fun _ _ => trivial) fun locator _ => ?_
    exact (within_send (StoreRequest.writes_edit rfl) fun _ => trivial).bind fun _ => .ok ()
  | updateAll name' restriction data' =>
    obtain ⟨rfl, rfl⟩ := Prod.mk.inj (Option.some.inj hwritten)
    show Within _ _ (connector.updateAll _ _ _)
    rw [updateAll_eq hmodel]
    refine within_matchedLocators_bind (fun _ _ _ => ?_) fun locators => ?_
    · -- A search has no edits.
      intro e he
      cases he
    · intro e he
      obtain ⟨locator, -, rfl⟩ := List.mem_map.mp he
      rfl
  | findById | find | count | destroyById | destroyAll => cases hwritten

/-- **A policy stands above every record**: what creating, replacing and updating write is one map,
the same in every edit, in which the configured policy is in force and everything else is as the
record has it. -/
theorem perform_keepsPolicy (hwritten : operation.written? = some (name, data))
    (hmodel : connector.registry.require name = .ok model) {σ : Type}
    (answer : σ → StoreRequest → Reply × σ) (service : σ) :
    ∃ properties, KeepsPolicy connector.settings.policy (model.toRemote data) properties ∧
      ∀ request ∈ ((connector.perform operation).run answer service).requests,
        ∀ part ∈ request.body.parts,
          part.writtenProperties = if request.isEdit then [.ofRecord properties] else [] := by
  refine ⟨connector.outgoing model data, keepsPolicy_outgoing connector model data, ?_⟩
  intro request hrequest
  have hwithin := (within_perform_writes hwritten hmodel).run answer service
  exact StoreRequest.writtenProperties_of_writes (hwithin.1 request hrequest)

/-! ### Records that call something else a policy -/

/-- A model one of whose properties has the name of a policy in the store. -/
def leaseModel : Model :=
  (Model.named "Lease").withProperty "terms" { Property.plain with physicalName := some "policy" }

/-- A connector that knows the model, under a policy. -/
def leaseConnector : Connector where
  settings := { itemConnector.settings with policy := some "restricted" }
  registry := Registry.empty.register leaseModel

/-- A lease with terms, and with a policy of its own. -/
def lease : Record :=
  .ofList [("terms", .string "open"), ("tenant", .string "T"), ("policy", .string "none")]

/-- A lease that the store has. -/
def leaseObject : RemoteObject :=
  { RemoteObject.ofProperties .empty with primaryKey := Assoc.empty.insert "id" (.string "1") }

/-- Both leases that are found are updated under the policy of the connector. -/
theorem perform_keepsPolicy_lease :
    let found : Json := .object [("hits", .array [leaseObject.toJson, leaseObject.toJson])]
    let outcome := (leaseConnector.perform (.updateAll "Lease" none lease)).run prepared
      [.ok (some found), .ok none]
    (outcome.requests.map fun request => (request.isEdit, request.body.parts.length)) =
        [(false, 1), (true, 2)] ∧
      ∃ properties : Record, properties.get? "policy" = some (.string "restricted") ∧
        properties.get? "tenant" = some (.string "T") ∧
        ∀ request ∈ outcome.requests, ∀ part ∈ request.body.parts,
          part.writtenProperties = if request.isEdit then [.ofRecord properties] else [] := by
  intro found outcome
  have hwritten : (Operation.updateAll "Lease" none lease).written? = some ("Lease", lease) := rfl
  have hmodel : leaseConnector.registry.require "Lease" = .ok leaseModel := rfl
  obtain ⟨properties, hpolicy, hparts⟩ :=
    perform_keepsPolicy hwritten hmodel prepared [.ok (some found), .ok none]
  refine ⟨rfl, properties, hpolicy.inForce _ rfl, ?_, hparts⟩
  have hothers := congrArg (fun record => record.get? "tenant") (hpolicy.others _ rfl)
  rw [Assoc.get?_filter_keys, Assoc.get?_filter_keys] at hothers
  exact hothers

end Connector

end RecordBridge
