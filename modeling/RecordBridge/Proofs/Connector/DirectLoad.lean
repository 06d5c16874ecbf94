import RecordBridge.Proofs.Connector.Found
import RecordBridge.Proofs.RemoteObject
import RecordBridge.Proofs.Settings

/-!
# A direct load changes the route and not the answer

An equality of the identity is served by a load, and the conjunction that has it for its only
operand by a search.  Both are read alike, errors included (`Clause.ofJson_conjunction`).  Against a
service that has one object or none (`ServesAtMostOne`) both find the same records
(`find_conjunction`), provided that the order compiles and that the page of the search may hold the
object: a load asks for no order and for no page (`find_depends_on_route`).
-/

namespace RecordBridge

/-- The conjunction of one raw filter. -/
def Clause.conjunctionJson (raw : Json) : Json := .object [("and", .array [raw])]

/-- A conjunction of one level is read if and only if the level is. -/
theorem Clause.ofJson_conjunction (member : String × Json) (members : List (String × Json)) :
    ofJson (conjunctionJson (.object (member :: members))) =
      (ofJson (.object (member :: members))).map fun clause => clause.map fun child =>
        and [child] := by
  show (parseNode _).map some = ((parseNode (member :: members)).map some).map _
  rw [parseNode, if_pos rfl, parseChildren, parseOperands, parseOperand]
  cases parseNode (member :: members) <;> rfl

/-! ### Reading the same object from a load and from a hit -/

namespace SearchAnswer

/-- The hits on a page of what a service holds. -/
def pageHits (held : Option Json) (pageSize : Nat) : List Json :=
  (held.toList.take pageSize).map fun json => .object [("object", json)]

/-- A page that holds something holds all of one object. -/
theorem pageHits_succ (json : Json) (n : Nat) :
    pageHits (some json) (n + 1) = [.object [("object", json)]] := by
  rw [pageHits, Option.toList_some, List.take_succ_cons, List.take_nil, List.map_singleton]

/-- A page of an object is read as a page of what is loaded. -/
theorem decodeHits_pageHits {json : Json} {object : RemoteObject}
    (h : RemoteObject.ofJson json = .ok (some object)) (pageSize : Nat) :
    decodeHits (.array (pageHits (some json) pageSize)) = .ok ([object].take pageSize) := by
  cases pageSize with
  | zero => rfl
  | succ n =>
    have hread : ReadsAs (.object [("object", json)]) object :=
      .inl ⟨json, rfl, (RemoteObject.ofJson_eq_some_iff.mp h).2⟩
    rw [pageHits_succ, List.take_succ_cons, List.take_nil, decodeHits_eq_ok_iff]
    exact .cons hread .nil

end SearchAnswer

/-- In every state the service answers a load with the one object that it holds, and with null if it
holds none, and a search with a page of what it holds. -/
structure ServesAtMostOne {σ : Type} (answer : σ → StoreRequest → Reply × σ)
    (held : Option Json) : Prop where
  readable : ∀ json, held = some json → ∃ object, RemoteObject.ofJson json = .ok (some object)
  load : ∀ service locator,
    (answer service (.load locator)).1 = .ok (some (held.getD .null))
  search : ∀ service search pageSize, ∃ members found,
    (answer service (.search search pageSize)).1 = .ok (some (.object members)) ∧
    SearchAnswer.decode (.object members) = .ok found ∧
    lookupEntry "hits" members = some (.array (SearchAnswer.pageHits held pageSize))

/-- What the service holds is read alike whether it is loaded or found. -/
theorem ServesAtMostOne.reads {σ : Type} {answer : σ → StoreRequest → Reply × σ}
    {held : Option Json} (h : ServesAtMostOne answer held) :
    ∃ object : Option RemoteObject, (object = none ↔ held = none) ∧
      RemoteObject.ofJson (held.getD .null) = .ok object ∧
      ∀ service search pageSize, ∃ json found,
        (answer service (.search search pageSize)).1 = .ok (some json) ∧
        SearchAnswer.decode json = .ok found ∧ found.hits = object.toList.take pageSize := by
  obtain ⟨object, hnone, hload, hpage⟩ : ∃ object : Option RemoteObject,
      (object = none ↔ held = none) ∧ RemoteObject.ofJson (held.getD .null) = .ok object ∧
      ∀ pageSize, SearchAnswer.decodeHits (.array (SearchAnswer.pageHits held pageSize)) =
        .ok (object.toList.take pageSize) := by
    cases held with
    | none => exact ⟨none, by simp, rfl, fun pageSize => by cases pageSize <;> rfl⟩
    | some json =>
      obtain ⟨object, hload⟩ := h.readable json rfl
      exact ⟨some object, by simp, hload, SearchAnswer.decodeHits_pageHits hload⟩
  refine ⟨object, hnone, hload, ?_⟩
  intro service search pageSize
  obtain ⟨members, found, hjson, hdecode, hhits⟩ := h.search service search pageSize
  have hfound := (SearchAnswer.hits_of_present rfl hdecode hhits).symm.trans (hpage pageSize)
  exact ⟨_, found, hjson, hdecode, Except.ok.inj hfound⟩

namespace Connector

variable {connector : Connector} {name identity : String} {model : Model} {query : Query}
  {id : Json} {object : Option RemoteObject} {σ : Type} {answer : σ → StoreRequest → Reply × σ}

/-! ### The two routes -/

/-- A connector is made of settings that may be used. -/
theorem isUsable_of_new {settings : Settings} {registry : Registry}
    (h : Connector.new settings registry = .ok connector) : connector.settings.IsUsable := by
  unfold Connector.new at h
  split at h
  case h_1 hvalid =>
    rw [← Except.ok.inj h]
    exact Settings.validate_eq_ok_iff.mp hvalid
  case h_2 => cases h

/-- The conjunction of an equality is not looked up. -/
theorem identityLookup_conjunction (hidentity : model.identity = some identity)
    (hand : identity ≠ "and") (hor : identity ≠ "or") (hscalar : id.isScalar = true) :
    identityLookup model (some (Clause.conjunctionJson (.object [(identity, id)]))) = .ok none := by
  unfold identityLookup
  rw [hidentity]
  show (Clause.ofJson _ >>= _) = _
  rw [Clause.ofJson_conjunction, ofJson_equality hand hor hscalar]
  rfl

/-- It compiles to a test of the field of the identity. -/
theorem compileWhere_conjunction (hidentity : model.identity = some identity)
    (hand : identity ≠ "and") (hor : identity ≠ "or") (hscalar : id.isScalar = true) :
    model.compileWhere (Clause.conjunctionJson (.object [(identity, id)])) =
      .ok (.and [.terms [id] (model.fieldOf identity)]) := by
  show (Clause.ofJson _ >>= _) = _
  rw [Clause.ofJson_conjunction, ofJson_equality hand hor hscalar]
  show (Clause.compileAll model [.leaf identity (.eq id)]).map _ = _
  rw [Clause.compileAll, Clause.compile, Clause.compileLeaf,
    if_pos (Model.declares_of_firstProperty hidentity)]
  rfl

/-- Looking up gives the record of the object that is loaded. -/
theorem result_find_of_lookup {keyName : String} {json : Json}
    (hmodel : connector.registry.require name = .ok model)
    (hkey : model.primaryKeyName = .ok keyName)
    (hlookup : identityLookup model query.restriction = .ok (some id))
    (hload : ∀ service locator, (answer service (.load locator)).1 = .ok (some json))
    (hread : RemoteObject.ofJson json = .ok object) (service : σ) :
    ((connector.find name query).run answer service).result =
      .ok (object.toList.map fun object =>
        model.toInstance object (model.compileSelection query.selection)) := by
  rw [result_find_byLoad hmodel hlookup (connector.locator_eq_single hkey id), hload]
  show ((Model.loaded model _ (some json)).mapError _).map _ = _
  rw [Model.loaded, hread]
  cases object <;> rfl

/-- Searching gives the records of the hits. -/
theorem result_find_of_search {filter : SearchFilter} {sort : List SortKey}
    {objects : Nat → List RemoteObject}
    (hmodel : connector.registry.require name = .ok model)
    (hlookup : identityLookup model query.restriction = .ok none)
    (hfilter : model.compileWhere? query.restriction = .ok filter)
    (hsort : model.compileOrder? query.order = .ok sort)
    (hsearch : ∀ service search pageSize, ∃ json found,
      (answer service (.search search pageSize)).1 = .ok (some json) ∧
      SearchAnswer.decode json = .ok found ∧ found.hits = objects pageSize) (service : σ) :
    ((connector.find name query).run answer service).result =
      .ok ((objects (query.limit.getD connector.settings.defaultPageSize)).map fun object =>
        model.toInstance object (model.compileSelection query.selection)) := by
  have hcompiled : model.compileQuery query =
      .ok ⟨filter, sort, model.compileSelection query.selection, query.limit⟩ := by
    unfold Model.compileQuery
    rw [hfilter, hsort]
    rfl
  obtain ⟨json, found, hjson, hdecode, hhits⟩ := hsearch service
    ⟨[connector.typeId model], filter, model.compileSelection query.selection, sort⟩
    (query.limit.getD connector.settings.defaultPageSize)
  rw [result_find_bySearch hmodel hlookup hcompiled, findRequest, hjson]
  show (readAnswer (some json)).map _ = _
  rw [readAnswer, hdecode, ← hhits]
  rfl

/-- An equality that cannot be read is refused by both routes alike. -/
theorem find_eq_of_unreadable {raw : Json} {error : QueryError}
    (hmodel : connector.registry.require name = .ok model)
    (hidentity : model.identity = some identity) (hread : Clause.ofJson raw = .error error) :
    connector.find name { query with restriction := some raw } =
      Exchange.ofQuery (.error error) := by
  refine find_eq_error hmodel ?_
  unfold identityLookup
  rw [hidentity]
  show (Clause.ofJson raw >>= _) = _
  rw [hread]
  rfl

/-- What a service holds, as far as it stands on the page that a query asks for, is all of it. -/
theorem take_pageSize_toList {held : Option Json} (hnone : object = none ↔ held = none)
    (hpage : connector.settings.defaultPageSize ≠ 0)
    (hlimit : query.limit = some 0 → held = none) :
    object.toList.take (query.limit.getD connector.settings.defaultPageSize) = object.toList := by
  cases object with
  | none => exact List.take_nil
  | some object =>
    refine List.take_of_length_le (Nat.one_le_iff_ne_zero.mpr ?_)
    cases hquery : query.limit with
    | none => exact hpage
    | some limit =>
      rintro rfl
      cases hnone.mpr (hlimit hquery)

/-- **A direct load changes the route and not the answer**: an equality of the identity and the
conjunction of it find the same records if the order compiles and a page holds something, and both
are refused alike if they cannot be read. -/
theorem find_conjunction {settings : Settings} {registry : Registry} {held : Option Json}
    (hnew : Connector.new settings registry = .ok connector)
    (hmodel : connector.registry.require name = .ok model)
    (hidentity : model.identity = some identity)
    (hprimaryKey : model.firstProperty (·.primaryKey) = some identity)
    (hscalar : id.isScalar = true) (hserves : ServesAtMostOne answer held) (query : Query)
    (service : σ) :
    let equality := Json.object [(identity, id)]
    let direct := { query with restriction := some equality }
    let searched := { query with restriction := some (Clause.conjunctionJson equality) }
    let result (query : Query) := ((connector.find name query).run answer service).result
    (∀ error, Clause.ofJson equality = .error error →
      result direct = .error (.query error) ∧ result searched = .error (.query error)) ∧
    ((∃ sort, model.compileOrder? query.order = .ok sort) →
      (query.limit = some 0 → held = none) → result direct = result searched) := by
  intro equality direct searched result
  have hunreadable : ∀ error, Clause.ofJson equality = .error error →
      result direct = .error (.query error) ∧ result searched = .error (.query error) := by
    intro error hread
    have hconjunction : Clause.ofJson (Clause.conjunctionJson equality) = .error error := by
      rw [Clause.ofJson_conjunction, hread]
      rfl
    unfold result direct searched
    rw [find_eq_of_unreadable hmodel hidentity hread,
      find_eq_of_unreadable hmodel hidentity hconjunction]
    exact ⟨rfl, rfl⟩
  refine ⟨hunreadable, ?_⟩
  rintro ⟨sort, hsort⟩ hlimit
  cases hread : Clause.ofJson equality with
  | error error =>
    obtain ⟨hdirect, hsearched⟩ := hunreadable error hread
    rw [hdirect, hsearched]
  | ok clause =>
    obtain ⟨hand, hor⟩ := ne_combinator_of_ofJson hscalar hread
    obtain ⟨object, hnone, hload, hsearch⟩ := hserves.reads
    have hkey : model.primaryKeyName = .ok (model.physicalName identity) := by
      unfold Model.primaryKeyName
      rw [hprimaryKey]
    have hdirect : identityLookup model direct.restriction = .ok (some id) :=
      identityLookup_eq_some_iff.mpr ⟨identity, hidentity, hand, hor, hscalar, rfl⟩
    have hsearched : identityLookup model searched.restriction = .ok none :=
      identityLookup_conjunction hidentity hand hor hscalar
    have hfilter : model.compileWhere? searched.restriction = .ok _ :=
      compileWhere_conjunction hidentity hand hor hscalar
    unfold result
    rw [result_find_of_lookup hmodel hkey hdirect hserves.load hload,
      result_find_of_search hmodel hsearched hfilter hsort hsearch,
      take_pageSize_toList hnone (isUsable_of_new hnew).defaultPageSize hlimit]

/-! ### A service that holds one note -/

/-- The note as the service holds it. -/
def heldNote : Json :=
  .object [("primaryKey", .object [("note_id", .string "n1")]),
    ("properties", .object [("body", .string "hello")])]

/-- Answers loads with the note and searches with a page of it. -/
def answerNote (service : Unit) (request : StoreRequest) : Reply × Unit :=
  match request with
  | .load _ => (.ok (some heldNote), service)
  | .search _ pageSize =>
    (.ok (some (.object [("hits", .array (SearchAnswer.pageHits (some heldNote) pageSize)),
      ("totalHits", .ofInt 1)])), service)
  | _ => (.ok none, service)

theorem servesAtMostOne_answerNote : ServesAtMostOne answerNote (some heldNote) := by
  constructor
  case readable =>
    intro json hjson
    rw [← Option.some.inj hjson]
    exact ⟨_, rfl⟩
  case load => exact fun _ _ => rfl
  case search =>
    intro service search pageSize
    cases pageSize with
    | zero => exact ⟨_, _, rfl, rfl, rfl⟩
    | succ n =>
      have hanswer : (answerNote service (.search search (n + 1))).1 =
          .ok (some (.object [("hits", .array [.object [("object", heldNote)]]),
            ("totalHits", .ofInt 1)])) := by
        rw [← SearchAnswer.pageHits_succ heldNote n]
        rfl
      rw [SearchAnswer.pageHits_succ]
      exact ⟨_, _, hanswer, rfl, rfl⟩

/-- The query for the notes that a restriction lets through. -/
def notesBy (restriction : Json) : Query := { Query.all with restriction := some restriction }

/-- A note is found by both routes. -/
theorem find_conjunction_note :
    let equality := Json.object [("id", .string "n1")]
    let result (query : Query) := ((noteConnector.find "Note" query).run answerNote ()).result
    result (notesBy equality) = result (notesBy (Clause.conjunctionJson equality)) := by
  have hnew : Connector.new noteConnector.settings noteConnector.registry = .ok noteConnector := by
    rfl
  exact (find_conjunction hnew rfl rfl rfl rfl servesAtMostOne_answerNote Query.all ()).2
    ⟨[], rfl⟩ nofun

/-- A load finds it also on a page that holds nothing, and in an order that does not compile. -/
theorem find_depends_on_route :
    let equality := Json.object [("id", .string "n1")]
    let conjunction := Clause.conjunctionJson equality
    let result (query : Query) := ((noteConnector.find "Note" query).run answerNote ()).result
    (Connector.new noteConnector.settings noteConnector.registry = .ok noteConnector ∧
      noteConnector.registry.require "Note" = .ok noteModel ∧ noteModel.identity = some "id" ∧
      noteModel.firstProperty (·.primaryKey) = some "id" ∧
      ServesAtMostOne answerNote (some heldNote)) ∧
    (∃ record, result { notesBy equality with limit := some 0 } = .ok [record] ∧
      result { notesBy conjunction with limit := some 0 } = .ok []) ∧
    ∃ record reason,
      result { notesBy equality with order := some (.single " ") } = .ok [record] ∧
      result { notesBy conjunction with order := some (.single " ") } =
        .error (.query (.invalidOrder reason)) :=
  ⟨⟨rfl, rfl, rfl, rfl, servesAtMostOne_answerNote⟩, ⟨_, rfl, rfl⟩, ⟨_, _, rfl, rfl⟩⟩

end Connector

end RecordBridge
