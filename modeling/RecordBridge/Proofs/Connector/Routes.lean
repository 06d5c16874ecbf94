import RecordBridge.Connector
import RecordBridge.Proofs.Success

/-!
# The routes of operations

An operation whose model is known takes one of a few routes: it loads the one object that an
identity addresses, or it searches.  Each equation here gives the exchange of one route, with all
the steps resolved that post nothing.  Of the steps that settle an address or read an object, each
fails in one way only (`Connector.eq_of_locator`, `RemoteObject.exists_reason_of_ofJson`).
-/

namespace RecordBridge

/-- The record that the answer to a load holds, if there is such an object. -/
def Model.loaded (model : Model) (whitelist : List String) :
    Option Json → Except QueryError (Option Record)
  | none => .ok none
  | some json =>
    (RemoteObject.ofJson json).map fun object =>
      object.map fun object => model.toInstance object whitelist

/-- The only fault of a model is that it has no primary key. -/
theorem Model.eq_of_primaryKeyName {model : Model} {error : QueryError}
    (h : model.primaryKeyName = .error error) : error = .missingPrimaryKey model.name := by
  unfold Model.primaryKeyName at h
  split at h
  · cases h
  · exact (Except.error.inj h).symm

/-- The only fault of an object is that it cannot be read. -/
theorem RemoteObject.exists_reason_of_ofJson {json : Json} {error : QueryError}
    (h : ofJson json = .error error) : ∃ reason, error = .invalidRemoteObject reason := by
  unfold ofJson at h
  split at h
  · cases h
  · cases h
  · cases hdecode : decode json with
    | ok object =>
      rw [hdecode] at h
      cases h
    | error e =>
      rw [hdecode] at h
      exact ⟨_, (Except.error.inj h).symm⟩

namespace Connector

variable {connector : Connector} {name : String} {model : Model} {restriction : Option Json}
  {id : Json} {locator : Locator}

/-- An operation on records whose model is known goes on with the model. -/
theorem model_bind (h : connector.registry.require name = .ok model) {α : Type}
    (f : Model → Exchange α) : (connector.model name >>= f) = f model := by
  unfold Connector.model
  rw [h]
  rfl

/-- An address needs a primary key and nothing else. -/
theorem eq_of_locator {error : QueryError} (h : connector.locator model id = .error error) :
    error = .missingPrimaryKey model.name := by
  rcases bind_eq_error_iff.mp h with hkey | ⟨keyName, -, hlocator⟩
  · exact Model.eq_of_primaryKeyName hkey
  · cases hlocator

theorem load_eq (h : connector.locator model id = .ok locator) (whitelist : List String) :
    connector.load model id whitelist =
      (Exchange.send (.load locator) >>= fun value =>
        Exchange.ofQuery (model.loaded whitelist value)) := by
  unfold load
  rw [h]
  show (Exchange.send (.load locator) >>= _) = _
  congr 1
  funext value
  cases value with
  | none => rfl
  | some json =>
    show (Exchange.ofQuery (RemoteObject.ofJson json) >>= _) = _
    rw [Model.loaded]
    cases RemoteObject.ofJson json with
    | error e => rfl
    | ok object => rfl

/-- Nothing is loaded for a key without an address. -/
theorem load_eq_error {error : QueryError} (h : connector.locator model id = .error error)
    (whitelist : List String) :
    connector.load model id whitelist = Exchange.ofQuery (.error error) := by
  unfold load
  rw [h]
  rfl

theorem deleteOne_eq (h : connector.locator model id = .ok locator) :
    connector.deleteOne model id = discard (Exchange.send (.edit ⟨locator, .deleted⟩)) := by
  unfold deleteOne
  rw [h]
  rfl

/-- Creating adds an object under the key that is derived. -/
theorem create_eq {keyName key : String} {data : Record}
    (hmodel : connector.registry.require name = .ok model)
    (hkey : model.primaryKeyName = .ok keyName)
    (hderive : connector.settings.key.derivation.derive model data = .ok key) :
    connector.create name data =
      (discard (Exchange.send (.edit ⟨.single (connector.typeId model) keyName (.string key),
          .added (connector.outgoing model data)⟩)) >>= fun _ =>
        Exchange.log .objectCreated >>= fun _ => pure key) := by
  unfold create
  rw [model_bind hmodel, hkey]
  show (Exchange.ofQuery (connector.settings.key.derivation.derive model data) >>= _) = _
  rw [hderive]
  rfl

/-- Creating refuses data that no key can be derived from. -/
theorem create_eq_error {keyName : String} {data : Record} {error : QueryError}
    (hmodel : connector.registry.require name = .ok model)
    (hkey : model.primaryKeyName = .ok keyName)
    (hderive : connector.settings.key.derivation.derive model data = .error error) :
    connector.create name data = Exchange.ofQuery (.error error) := by
  unfold create
  rw [model_bind hmodel, hkey]
  show (Exchange.ofQuery (connector.settings.key.derivation.derive model data) >>= _) = _
  rw [hderive]
  rfl

/-- Finding by key loads what the key addresses. -/
theorem findById_eq (hmodel : connector.registry.require name = .ok model) :
    connector.findById name id = connector.load model id [] := by
  unfold findById
  rw [model_bind hmodel]

/-- Finding loads what an equality of the identity addresses. -/
theorem find_eq_load {query : Query} (hmodel : connector.registry.require name = .ok model)
    (hlookup : identityLookup model query.restriction = .ok (some id)) :
    connector.find name query =
      (connector.load model id (model.compileSelection query.selection) >>= fun record =>
        pure record.toList) := by
  unfold find
  rw [model_bind hmodel, hlookup]
  rfl

/-- Finding searches for every other restriction. -/
theorem find_eq_search {query : Query} (hmodel : connector.registry.require name = .ok model)
    (hlookup : identityLookup model query.restriction = .ok none) :
    connector.find name query =
      (Exchange.ofQuery (model.compileQuery query) >>= fun compiled =>
        Exchange.log .filterCompiled >>= fun _ =>
        search ⟨[connector.typeId model], compiled.filter, compiled.selector, compiled.sort⟩
          (compiled.limit.getD connector.settings.defaultPageSize) >>= fun answer =>
        pure (answer.hits.map fun hit => model.toInstance hit compiled.selector)) := by
  unfold find
  rw [model_bind hmodel, hlookup]
  rfl

/-- Finding refuses a restriction that cannot be read. -/
theorem find_eq_error {query : Query} {error : QueryError}
    (hmodel : connector.registry.require name = .ok model)
    (hlookup : identityLookup model query.restriction = .error error) :
    connector.find name query = Exchange.ofQuery (.error error) := by
  unfold find
  rw [model_bind hmodel, hlookup]
  rfl

/-- Counting searches. -/
theorem count_eq (hmodel : connector.registry.require name = .ok model) :
    connector.count name restriction =
      (Exchange.ofQuery (model.compileWhere? restriction) >>= fun filter =>
        search (connector.searchRequest model filter) 0 >>= fun answer =>
        pure answer.totalHits) := by
  unfold count
  rw [model_bind hmodel]

/-- Replacing edits what the key addresses. -/
theorem replaceById_eq (hmodel : connector.registry.require name = .ok model)
    (hlocator : connector.locator model id = .ok locator) (data : Record) :
    connector.replaceById name id data =
      discard (Exchange.send (.edit ⟨locator, .modified (connector.outgoing model data)⟩)) := by
  unfold replaceById
  rw [model_bind hmodel, hlocator]
  rfl

/-- Updating searches. -/
theorem updateAll_eq (hmodel : connector.registry.require name = .ok model) (data : Record) :
    connector.updateAll name restriction data =
      (connector.matchedLocators model restriction >>= fun locators =>
        editAll locators (.modified (connector.outgoing model data))) := by
  unfold updateAll
  rw [model_bind hmodel]

/-- Deleting loads what an equality of the identity addresses. -/
theorem destroyAll_eq_load (hmodel : connector.registry.require name = .ok model)
    (hlookup : identityLookup model restriction = .ok (some id)) :
    connector.destroyAll name restriction =
      (connector.load model id [] >>= fun record =>
        match record with
        | none => Exchange.log .nothingToDelete >>= fun _ => pure 0
        | some _ => connector.deleteOne model id >>= fun _ => pure 1) := by
  unfold destroyAll
  rw [model_bind hmodel, hlookup]
  rfl

/-- Deleting searches for every other restriction. -/
theorem destroyAll_eq_search (hmodel : connector.registry.require name = .ok model)
    (hlookup : identityLookup model restriction = .ok none) :
    connector.destroyAll name restriction =
      (connector.matchedLocators model restriction >>= fun locators =>
        editAll locators .deleted) := by
  unfold destroyAll
  rw [model_bind hmodel, hlookup]
  rfl

/-- Deleting refuses a restriction that cannot be read. -/
theorem destroyAll_eq_error {error : QueryError}
    (hmodel : connector.registry.require name = .ok model)
    (hlookup : identityLookup model restriction = .error error) :
    connector.destroyAll name restriction = Exchange.ofQuery (.error error) := by
  unfold destroyAll
  rw [model_bind hmodel, hlookup]
  rfl

end Connector

end RecordBridge
