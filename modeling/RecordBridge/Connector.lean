import RecordBridge.Connector.Exchange
import RecordBridge.Mapping
import RecordBridge.Model.Registry
import RecordBridge.Query

/-
  Connectors — the operations on records, as exchanges with the store.

  A restriction that is nothing but an equality of the identity property is
  served by loading one object; every other restriction is served by a search.
  Edits of all matching objects go out in one request, and only if the search
  has returned every object that matches.
-/

namespace RecordBridge

/-- A connector: its settings and the models that it knows. -/
structure Connector where
  settings : Settings
  registry : Registry

namespace Connector

/-- Makes a connector, if its settings may be used. -/
def new (settings : Settings) (registry : Registry) : Except ConnectorError Connector :=
  match settings.validate with
  | .ok () => .ok ⟨settings, registry⟩
  | .error fault => .error (.settings fault)

/-- What is noted when a connector is made. -/
def startEvents (connector : Connector) : List Event :=
  if connector.settings.debug then [.settingsShown, .ready] else [.ready]

/-! ### Parts of operations -/

/-- The model of that name. -/
def model (connector : Connector) (name : String) : Exchange Model :=
  .ofQuery (connector.registry.require name)

/-- The type of the objects of a model. -/
def typeId (connector : Connector) (model : Model) : String :=
  model.objectType.getD connector.settings.objectType

/-- The address of the object with a key. -/
def locator (connector : Connector) (model : Model) (id : Json) : Except QueryError Locator := do
  return .single (connector.typeId model) (← model.primaryKeyName) id

/-- The properties that are written for a record, with the policy if there is one. -/
def outgoing (connector : Connector) (model : Model) (data : Record) : Record :=
  let properties := model.toRemote data
  match connector.settings.policy with
  | some policy => properties.insert "policy" (.string policy)
  | none => properties

/-- Loads the object with a key, as a record with the physical names of the list. -/
def load (connector : Connector) (model : Model) (id : Json) (whitelist : List String) :
    Exchange (Option Record) := do
  let locator ← .ofQuery (connector.locator model id)
  match ← .send (.load locator) with
  | none => return none
  | some json =>
    let object ← .ofQuery (RemoteObject.ofJson json)
    return object.map fun object => model.toInstance object whitelist

/-- Deletes the object with a key. -/
def deleteOne (connector : Connector) (model : Model) (id : Json) : Exchange Unit := do
  let locator ← .ofQuery (connector.locator model id)
  discard (.send (.edit ⟨locator, .deleted⟩))

/-- What a reply to a search says. -/
def readAnswer : Option Json → Except ConnectorError SearchAnswer
  | none => .error (.invalidResponse "search returned an empty body")
  | some json => (SearchAnswer.decode json).mapError fun e => .invalidResponse e.message

/-- Searches for one page. -/
def search (request : SearchRequest) (pageSize : Nat) : Exchange SearchAnswer := do
  .done (readAnswer (← .send (.search request pageSize)))

/-- The search for all objects that a filter lets through. -/
def searchRequest (connector : Connector) (model : Model) (filter : SearchFilter) :
    SearchRequest :=
  ⟨[connector.typeId model], filter, [], []⟩

/-- The address of a hit, which must have a key. -/
def hitLocator (typeId : String) (hit : RemoteObject) : Except ConnectorError Locator :=
  if hit.primaryKey.isEmpty then .error (.invalidResponse "search hit without primaryKey")
  else .ok ⟨typeId, hit.primaryKey⟩

/-- The addresses of all matching objects, if the answer holds all of them. -/
def locatorsOf (typeId : String) (answer : SearchAnswer) : Except ConnectorError (List Locator) :=
  let fetched := answer.hits.length
  if fetched < answer.totalHits then .error (.truncatedMatch answer.totalHits fetched)
  else answer.hits.mapM (hitLocator typeId)

/-- Searches for the addresses of all objects that a restriction lets through. -/
def matchedLocators (connector : Connector) (model : Model) (restriction : Option Json) :
    Exchange (List Locator) := do
  let filter ← .ofQuery (model.compileWhere? restriction)
  let answer ← search (connector.searchRequest model filter) connector.settings.defaultPageSize
  .done (locatorsOf (connector.typeId model) answer)

/-- Edits all of some objects in one request, and gives their number. -/
def editAll (locators : List Locator) (edit : Edit) : Exchange Nat := do
  if locators.isEmpty then
    .log .nothingMatched
    return 0
  else
    .log .editAllSent
    discard (.postOr (.partialBatch locators.length)
      (.editAll (locators.map fun locator => ⟨locator, edit⟩)))
    return locators.length

/-- The value that a restriction compares the identity with, if that is all it does. -/
def identityLookup (model : Model) (restriction : Option Json) :
    Except QueryError (Option Json) :=
  match model.identity, restriction with
  | some identity, some raw => do
    match ← Clause.ofJson raw with
    | some (.leaf property (.eq value)) =>
      return if property = identity ∧ value ≠ .null then some value else none
    | _ => return none
  | _, _ => .ok none

/-! ### Operations -/

/-- Creates an object and gives the key that is derived for it. -/
def create (connector : Connector) (name : String) (data : Record) : Exchange String := do
  let model ← connector.model name
  let keyName ← .ofQuery model.primaryKeyName
  let key ← .ofQuery (connector.settings.key.derivation.derive model data)
  let locator := Locator.single (connector.typeId model) keyName (.string key)
  discard (.send (.edit ⟨locator, .added (connector.outgoing model data)⟩))
  .log .objectCreated
  return key

/-- Loads the record with a key, if there is one. -/
def findById (connector : Connector) (name : String) (id : Json) : Exchange (Option Record) := do
  connector.load (← connector.model name) id []

/-- Finds the records that a query asks for. -/
def find (connector : Connector) (name : String) (query : Query) : Exchange (List Record) := do
  let model ← connector.model name
  match ← .ofQuery (identityLookup model query.restriction) with
  | some id =>
    return (← connector.load model id (model.compileSelection query.selection)).toList
  | none =>
    let compiled ← .ofQuery (model.compileQuery query)
    .log .filterCompiled
    let pageSize := compiled.limit.getD connector.settings.defaultPageSize
    let request : SearchRequest :=
      ⟨[connector.typeId model], compiled.filter, compiled.selector, compiled.sort⟩
    let answer ← search request pageSize
    return answer.hits.map fun hit => model.toInstance hit compiled.selector

/-- Counts the objects that a restriction lets through. -/
def count (connector : Connector) (name : String) (restriction : Option Json) :
    Exchange Nat := do
  let model ← connector.model name
  let filter ← .ofQuery (model.compileWhere? restriction)
  return (← search (connector.searchRequest model filter) 0).totalHits

/-- Sets the properties of the object with a key. -/
def replaceById (connector : Connector) (name : String) (id : Json) (data : Record) :
    Exchange Unit := do
  let model ← connector.model name
  let locator ← .ofQuery (connector.locator model id)
  discard (.send (.edit ⟨locator, .modified (connector.outgoing model data)⟩))

/-- Deletes the object with a key. -/
def destroyById (connector : Connector) (name : String) (id : Json) : Exchange Unit := do
  connector.deleteOne (← connector.model name) id

/-- Sets the properties of all objects that a restriction lets through, and gives their
number. -/
def updateAll (connector : Connector) (name : String) (restriction : Option Json)
    (data : Record) : Exchange Nat := do
  let model ← connector.model name
  let locators ← connector.matchedLocators model restriction
  editAll locators (.modified (connector.outgoing model data))

/-- Deletes all objects that a restriction lets through, and gives their number. An
equality of the identity loads the object and deletes it only if it is there. -/
def destroyAll (connector : Connector) (name : String) (restriction : Option Json) :
    Exchange Nat := do
  let model ← connector.model name
  match ← .ofQuery (identityLookup model restriction) with
  | some id =>
    match ← connector.load model id [] with
    | none =>
      .log .nothingToDelete
      return 0
    | some _ =>
      connector.deleteOne model id
      return 1
  | none =>
    let locators ← connector.matchedLocators model restriction
    editAll locators .deleted

end Connector

end RecordBridge
