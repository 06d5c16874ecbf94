import RecordBridge.Connector.Operation
import RecordBridge.Proofs.Connector.Lookup
import RecordBridge.Proofs.Exchange.EditsLast
import RecordBridge.Proofs.Exchange.Within
import RecordBridge.Proofs.SearchFilter.Outline

/-!
# Every operation keeps its restriction

Counting, finding, updating and deleting take a restriction (`Operation.TakesRestriction`).  None of
them widens it: a search that they post asks for what the restriction compiles to
(`within_perform`), so everything is updated or deleted only if nothing was restricted
(`restriction_kept`).

They also read it in the same way (`restriction_agrees`).  If it does not compile, all four fail
alike before anything is posted (`ends_perform`); if it does, all four start with a search for the
same filter (`searchesFirst_perform`).  Only an equality of the identity is served otherwise by
finding and deleting, and they find no fault with it (`result_ne_error_of_comparesIdentity`).
-/

namespace RecordBridge

/-- The operation takes the restriction of the records with that name, and nothing else that could
be wrong. -/
inductive Operation.TakesRestriction (name : String) (restriction : Option Json) : Operation → Prop
  | count : TakesRestriction name restriction (.count name restriction)
  | find : TakesRestriction name restriction (.find name { Query.all with restriction })
  | updateAll (data : Record) : TakesRestriction name restriction (.updateAll name restriction data)
  | destroyAll : TakesRestriction name restriction (.destroyAll name restriction)

/-- Whether an error finds fault with a restriction. -/
def ConnectorError.blamesRestriction : ConnectorError → Bool
  | .query (.invalidFilter _) | .query (.unsupportedOperator _) | .query (.unknownProperty ..) =>
    true
  | _ => false

/-- If the request is a search, its filter is admitted. -/
def StoreRequest.FiltersBy (admits : SearchFilter → Prop) : StoreRequest → Prop
  | .search request _ => admits request.filter
  | .edit _ | .editAll _ | .load _ => True

namespace Exchange

variable {α : Type}

/-- Whatever the service is, the exchange posts nothing and ends with the error. -/
def Refuses (error : ConnectorError) (x : Exchange α) : Prop :=
  ∀ (σ : Type) (answer : σ → StoreRequest → Reply × σ) (service : σ),
    (x.run answer service).dialogue = [] ∧ (x.run answer service).result = .error error

/-- Whatever the service is, the exchange first posts a search for the objects of the type that the
filter lets through. -/
def SearchesFirst (typeId : String) (filter : SearchFilter) (x : Exchange α) : Prop :=
  ∀ (σ : Type) (answer : σ → StoreRequest → Reply × σ) (service : σ),
    ∃ search pageSize reply rest,
      (x.run answer service).dialogue = (.search search pageSize, reply) :: rest ∧
        search.objectTypes = [typeId] ∧ search.filter = filter

theorem Ends.refuses {error : ConnectorError} {x : Exchange α} (h : Ends (.error error) x) :
    x.Refuses error := fun _ answer service => h.run answer service

theorem Opens.searchesFirst {search : SearchRequest} {pageSize : Nat} {typeId : String}
    {x : Exchange α} (h : Opens (.search search pageSize) x)
    (htype : search.objectTypes = [typeId]) : x.SearchesFirst typeId search.filter := by
  intro σ answer service
  obtain ⟨reply, rest, hdialogue⟩ := h.run answer service
  exact ⟨search, pageSize, reply, rest, hdialogue, htype, rfl⟩

end Exchange

namespace Connector

open Exchange

variable {connector : Connector} {name : String} {model : Model} {restriction : Option Json}
  {operation : Operation} {posts : StoreRequest → Prop} {fails : ConnectorError → Prop}

/-! ### Bounds of the parts -/

/-- A key or an object that cannot be used is no fault of a restriction. -/
theorem blamesRestriction_of_locator {id : Json} {error : QueryError}
    (h : connector.locator model id = .error error) :
    (ConnectorError.query error).blamesRestriction = false := by
  rw [eq_of_locator h]
  rfl

theorem blamesRestriction_of_ofJson {json : Json} {error : QueryError}
    (h : RemoteObject.ofJson json = .error error) :
    (ConnectorError.query error).blamesRestriction = false := by
  obtain ⟨reason, rfl⟩ := RemoteObject.exists_reason_of_ofJson h
  rfl

/-- Loading posts one load, and no error of it is the fault of a restriction. -/
theorem within_load (hload : ∀ locator, posts (.load locator))
    (hfails : ∀ error, error.blamesRestriction = false → fails error) (id : Json)
    (whitelist : List String) : Within posts fails (connector.load model id whitelist) := by
  unfold load
  refine within_ofQuery_bind (fun error h => hfails _ (blamesRestriction_of_locator h))
    fun locator _ => ?_
  refine (within_send (hload locator) fun failure => hfails _ rfl).bind fun value => ?_
  cases value with
  | none => exact .ok none
  | some json =>
    exact within_ofQuery_bind (fun error h => hfails _ (blamesRestriction_of_ofJson h))
      fun object _ => .ok _

theorem within_deleteOne (hedit : ∀ e, posts (.edit e))
    (hfails : ∀ error, error.blamesRestriction = false → fails error) (id : Json) :
    Within posts fails (connector.deleteOne model id) := by
  unfold deleteOne
  refine within_ofQuery_bind (fun error h => hfails _ (blamesRestriction_of_locator h))
    fun locator _ => ?_
  exact (within_send (hedit _) fun failure => hfails _ rfl).bind fun _ => .ok ()

theorem within_search {request : SearchRequest} {pageSize : Nat}
    (hpost : posts (.search request pageSize)) : Within posts (fun _ => True)
      (search request pageSize) := by
  unfold search
  refine (within_send hpost fun _ => trivial).bind fun value => ?_
  cases readAnswer value with
  | ok answer => exact .ok answer
  | error error => exact .error trivial

theorem within_editAll {locators : List Locator} {edit : Edit}
    (hedits : posts (.editAll (locators.map fun locator => ⟨locator, edit⟩)))
    (hfails : ∀ matched failure, fails (.partialBatch matched failure)) :
    Within posts fails (editAll locators edit) := by
  unfold editAll
  split
  · exact .note _ (.ok 0)
  · refine .note _ ?_
    exact ((within_postOr hedits (hfails _)).bind fun _ => .ok ()).bind fun _ => .ok _

/-- Editing what matches a restriction searches for what the restriction compiles to. -/
theorem within_matchedLocators_bind {edit : Edit}
    (hsearch : ∀ search pageSize, model.compileWhere? restriction = .ok search.filter →
      posts (.search search pageSize))
    (hedits : ∀ locators : List Locator,
      posts (.editAll (locators.map fun locator => ⟨locator, edit⟩))) :
    Within posts (fun _ => True)
      (connector.matchedLocators model restriction >>= fun locators => editAll locators edit) := by
  unfold matchedLocators
  rw [bind_assoc]
  refine within_ofQuery_bind (fun _ _ => trivial) fun filter hfilter => ?_
  rw [bind_assoc]
  refine (within_search (hsearch _ _ hfilter)).bind fun answer => ?_
  cases locatorsOf (connector.typeId model) answer with
  | ok locators => exact within_editAll (hedits locators) fun _ _ => trivial
  | error error => exact .error trivial

/-- Finding what is looked up loads it. -/
theorem within_find_of_lookup {query : Query} {id : Json}
    (hmodel : connector.registry.require name = .ok model)
    (hlookup : identityLookup model query.restriction = .ok (some id))
    (hload : ∀ locator, posts (.load locator))
    (hfails : ∀ error, error.blamesRestriction = false → fails error) :
    Within posts fails (connector.find name query) := by
  rw [find_eq_load hmodel hlookup]
  exact (within_load hload hfails id _).bind fun record => .ok _

/-- Deleting what is looked up loads it and may edit it. -/
theorem within_destroyAll_of_lookup {id : Json}
    (hmodel : connector.registry.require name = .ok model)
    (hlookup : identityLookup model restriction = .ok (some id))
    (hload : ∀ locator, posts (.load locator)) (hedit : ∀ e, posts (.edit e))
    (hfails : ∀ error, error.blamesRestriction = false → fails error) :
    Within posts fails (connector.destroyAll name restriction) := by
  rw [destroyAll_eq_load hmodel hlookup]
  refine (within_load hload hfails id []).bind fun record => ?_
  cases record with
  | none => exact .note _ (.ok 0)
  | some _ => exact (within_deleteOne hedit hfails id).bind fun _ => .ok 1

/-! ### No operation widens its restriction -/

theorem compileWhere?_of_compileQuery {query : Query} {compiled : CompiledQuery}
    (h : model.compileQuery query = .ok compiled) :
    model.compileWhere? query.restriction = .ok compiled.filter := by
  obtain ⟨filter, hfilter, h⟩ := bind_eq_ok_iff.mp h
  obtain ⟨sort, -, h⟩ := bind_eq_ok_iff.mp h
  rw [← Except.ok.inj h]
  exact hfilter

/-- Finding loads, or searches for what its restriction compiles to. -/
theorem within_find {query : Query} (hmodel : connector.registry.require name = .ok model)
    (hload : ∀ locator, posts (.load locator))
    (hsearch : ∀ search pageSize, model.compileWhere? query.restriction = .ok search.filter →
      posts (.search search pageSize)) :
    Within posts (fun _ => True) (connector.find name query) := by
  cases hlookup : identityLookup model query.restriction with
  | error error =>
    rw [find_eq_error hmodel hlookup]
    exact .error trivial
  | ok lookup =>
    cases lookup with
    | some id => exact within_find_of_lookup hmodel hlookup hload fun _ _ => trivial
    | none =>
      rw [find_eq_search hmodel hlookup]
      refine within_ofQuery_bind (fun _ _ => trivial) fun compiled hcompiled => .note _ ?_
      have hfilter := compileWhere?_of_compileQuery hcompiled
      exact (within_search (hsearch _ _ hfilter)).bind fun answer => .ok _

/-- Deleting loads, or searches for what its restriction compiles to, before it edits. -/
theorem within_destroyAll (hmodel : connector.registry.require name = .ok model)
    (hload : ∀ locator, posts (.load locator)) (hedit : ∀ e, posts (.edit e))
    (hsearch : ∀ search pageSize, model.compileWhere? restriction = .ok search.filter →
      posts (.search search pageSize))
    (hedits : ∀ edits, posts (.editAll edits)) :
    Within posts (fun _ => True) (connector.destroyAll name restriction) := by
  cases hlookup : identityLookup model restriction with
  | error error =>
    rw [destroyAll_eq_error hmodel hlookup]
    exact .error trivial
  | ok lookup =>
    cases lookup with
    | some id => exact within_destroyAll_of_lookup hmodel hlookup hload hedit fun _ _ => trivial
    | none =>
      rw [destroyAll_eq_search hmodel hlookup]
      exact within_matchedLocators_bind hsearch fun _ => hedits _

/-- Every search of an operation asks for what its restriction compiles to. -/
theorem within_perform (h : operation.TakesRestriction name restriction) :
    Within (StoreRequest.FiltersBy fun filter => ∃ model,
        connector.registry.require name = .ok model ∧ model.compileWhere? restriction = .ok filter)
      (fun _ => True) (connector.perform operation) := by
  cases hmodel : connector.registry.require name with
  | error error =>
    -- Without a model every operation ends at once.
    cases h <;>
    · show Within _ _ (Exchange.ofQuery (connector.registry.require name) >>= _)
      rw [hmodel]
      exact .error trivial
  | ok model =>
    cases h with
    | count =>
      show Within _ _ (connector.count name restriction)
      rw [count_eq hmodel]
      refine within_ofQuery_bind (fun _ _ => trivial) fun filter hfilter => ?_
      exact (within_search ⟨model, rfl, hfilter⟩).bind fun answer => .ok _
    | find =>
      exact within_find hmodel (fun _ => trivial) fun _ _ hfilter => ⟨model, rfl, hfilter⟩
    | updateAll data =>
      show Within _ _ (connector.updateAll name restriction data)
      rw [updateAll_eq hmodel]
      exact within_matchedLocators_bind (fun _ _ hfilter => ⟨model, rfl, hfilter⟩) fun _ => trivial
    | destroyAll =>
      exact within_destroyAll hmodel (fun _ => trivial) (fun _ => trivial)
        (fun _ _ hfilter => ⟨model, rfl, hfilter⟩) fun _ => trivial

/-- **A restriction is kept**: it compiles to a filter of its own shape in which nothing lets
everything through, unless it restricts nothing, and only then is everything updated or deleted. -/
theorem restriction_kept (model : Model) (raw : Json) :
    (model.compileWhere raw = .ok .everything ↔ raw = .null ∨ raw = .object []) ∧
    (raw ≠ .null → raw ≠ .object [] → ∀ filter, model.compileWhere raw = .ok filter →
      Mirrors model raw filter) ∧
    ∀ (connector : Connector) (name : String) (restriction : Option Json) (operation : Operation)
      (σ : Type) (answer : σ → StoreRequest → Reply × σ) (service : σ) (search : SearchRequest)
      (pageSize : Nat), operation.TakesRestriction name restriction →
      .search search pageSize ∈ ((connector.perform operation).run answer service).requests →
      search.filter.hasMatchAll = true →
      restriction = none ∨ restriction = some .null ∨ restriction = some (.object []) := by
  refine ⟨Model.compileWhere_eq_everything_iff, ?_, ?_⟩
  · intro hnull hempty filter hfilter
    exact Model.mirrors_of_compileWhere hnull hempty hfilter
  · intro connector name restriction operation σ answer service search pageSize htakes hposted hall
    obtain ⟨model, -, hfilter⟩ := (within_perform htakes).run answer service |>.1 _ hposted
    cases restriction with
    | none => exact .inl rfl
    | some raw =>
      rcases (Model.hasMatchAll_iff_of_compileWhere hfilter).mp hall with rfl | rfl
      · exact .inr (.inl rfl)
      · exact .inr (.inr rfl)

/-! ### All operations read a restriction alike -/

/-- A restriction that is not looked up is read without being served, unless reading it fails. -/
theorem identityLookup_of_not_comparesIdentity
    (h : ¬ ∃ identity id, ComparesIdentity model restriction identity id) :
    identityLookup model restriction = .ok none ∨
      ∃ error, identityLookup model restriction = .error error := by
  cases hlookup : identityLookup model restriction with
  | error error => exact .inr ⟨error, rfl⟩
  | ok lookup =>
    cases lookup with
    | none => exact .inl rfl
    | some id =>
      obtain ⟨identity, hcompares⟩ := identityLookup_eq_some_iff.mp hlookup
      exact absurd ⟨identity, id, hcompares⟩ h

theorem ends_matchedLocators_bind {error : QueryError} {α : Type} {f : List Locator → Exchange α}
    (herror : model.compileWhere? restriction = .error error) :
    Ends (.error (.query error)) (connector.matchedLocators model restriction >>= f) := by
  unfold matchedLocators
  rw [herror]
  exact .done

/-- Finding refuses a query that does not compile, unless it is looked up. -/
theorem ends_find {query : Query} {error : QueryError}
    (hmodel : connector.registry.require name = .ok model)
    (hlookup : ¬ ∃ identity id, ComparesIdentity model query.restriction identity id)
    (herror : model.compileQuery query = .error error) :
    Ends (.error (.query error)) (connector.find name query) := by
  rcases identityLookup_of_not_comparesIdentity hlookup with hnone | ⟨error', herror'⟩
  · rw [find_eq_search hmodel hnone, herror]
    exact .done
  · -- What cannot be read does not compile, for the same reason.
    have hquery : model.compileQuery query = .error error' := by
      show (model.compileWhere? query.restriction >>= _) = _
      rw [identityLookup_eq_error herror']
      rfl
    obtain rfl := Except.error.inj (herror.symm.trans hquery)
    rw [find_eq_error hmodel herror']
    exact .done

/-- Deleting refuses a restriction that does not compile, unless it is looked up. -/
theorem ends_destroyAll {error : QueryError}
    (hmodel : connector.registry.require name = .ok model)
    (hlookup : ¬ ∃ identity id, ComparesIdentity model restriction identity id)
    (herror : model.compileWhere? restriction = .error error) :
    Ends (.error (.query error)) (connector.destroyAll name restriction) := by
  rcases identityLookup_of_not_comparesIdentity hlookup with hnone | ⟨error', herror'⟩
  · rw [destroyAll_eq_search hmodel hnone]
    exact ends_matchedLocators_bind herror
  · obtain rfl := Except.error.inj (herror.symm.trans (identityLookup_eq_error herror'))
    rw [destroyAll_eq_error hmodel herror']
    exact .done

/-- A restriction that does not compile is refused by every operation. -/
theorem ends_perform {error : QueryError} (hmodel : connector.registry.require name = .ok model)
    (hlookup : ¬ ∃ identity id, ComparesIdentity model restriction identity id)
    (herror : model.compileWhere? restriction = .error error)
    (h : operation.TakesRestriction name restriction) :
    Ends (.error (.query error)) (connector.perform operation) := by
  cases h with
  | count =>
    show Ends _ (connector.count name restriction)
    rw [count_eq hmodel, herror]
    exact .done
  | find =>
    show Ends _ (connector.find name { Query.all with restriction })
    apply ends_find hmodel hlookup
    show (model.compileWhere? restriction >>= _) = _
    rw [herror]
    rfl
  | updateAll data =>
    show Ends _ (connector.updateAll name restriction data)
    rw [updateAll_eq hmodel]
    exact ends_matchedLocators_bind herror
  | destroyAll => exact ends_destroyAll hmodel hlookup herror

/-! ### What a restriction that compiles leads to -/

/-- Counting starts with a search for what the restriction compiles to, whatever it is. -/
theorem opens_count {filter : SearchFilter} (hmodel : connector.registry.require name = .ok model)
    (hfilter : model.compileWhere? restriction = .ok filter) :
    Opens (.search (connector.searchRequest model filter) 0)
      (connector.count name restriction) := by
  rw [count_eq hmodel, hfilter]
  exact ((opens_send _).bind _).bind _

theorem opens_matchedLocators_bind {filter : SearchFilter} {α : Type}
    {f : List Locator → Exchange α} (hfilter : model.compileWhere? restriction = .ok filter) :
    Opens (.search (connector.searchRequest model filter) connector.settings.defaultPageSize)
      (connector.matchedLocators model restriction >>= f) := by
  unfold matchedLocators
  rw [hfilter]
  exact (((opens_send _).bind _).bind _).bind _

/-- So does updating. -/
theorem opens_updateAll {filter : SearchFilter} (data : Record)
    (hmodel : connector.registry.require name = .ok model)
    (hfilter : model.compileWhere? restriction = .ok filter) :
    Opens (.search (connector.searchRequest model filter) connector.settings.defaultPageSize)
      (connector.updateAll name restriction data) := by
  rw [updateAll_eq hmodel]
  exact opens_matchedLocators_bind hfilter

/-- What compiles can be read, so nothing comes of looking it up if it is no equality of the
identity. -/
theorem identityLookup_of_compileWhere? {filter : SearchFilter}
    (hlookup : ¬ ∃ identity id, ComparesIdentity model restriction identity id)
    (hfilter : model.compileWhere? restriction = .ok filter) :
    identityLookup model restriction = .ok none := by
  rcases identityLookup_of_not_comparesIdentity hlookup with hnone | ⟨error, herror⟩
  · exact hnone
  · cases hfilter.symm.trans (identityLookup_eq_error herror)

/-- Finding starts with a search for what its query compiles to, unless that is looked up. -/
theorem searchesFirst_find {query : Query} {compiled : CompiledQuery}
    (hmodel : connector.registry.require name = .ok model)
    (hlookup : ¬ ∃ identity id, ComparesIdentity model query.restriction identity id)
    (hquery : model.compileQuery query = .ok compiled) :
    (connector.find name query).SearchesFirst (connector.typeId model) compiled.filter := by
  have hnone := identityLookup_of_compileWhere? hlookup (compileWhere?_of_compileQuery hquery)
  rw [find_eq_search hmodel hnone, hquery]
  exact (Opens.note _ (((opens_send _).bind _).bind _)).searchesFirst rfl

/-- So does deleting. -/
theorem searchesFirst_destroyAll {filter : SearchFilter}
    (hmodel : connector.registry.require name = .ok model)
    (hlookup : ¬ ∃ identity id, ComparesIdentity model restriction identity id)
    (hfilter : model.compileWhere? restriction = .ok filter) :
    (connector.destroyAll name restriction).SearchesFirst (connector.typeId model) filter := by
  rw [destroyAll_eq_search hmodel (identityLookup_of_compileWhere? hlookup hfilter)]
  exact (opens_matchedLocators_bind hfilter).searchesFirst rfl

/-- A restriction that compiles is searched for by every operation, unless it is looked up. -/
theorem searchesFirst_perform {filter : SearchFilter}
    (hmodel : connector.registry.require name = .ok model)
    (hlookup : ¬ ∃ identity id, ComparesIdentity model restriction identity id)
    (hfilter : model.compileWhere? restriction = .ok filter)
    (h : operation.TakesRestriction name restriction) :
    (connector.perform operation).SearchesFirst (connector.typeId model) filter := by
  cases h with
  | count => exact (opens_count hmodel hfilter).searchesFirst rfl
  | find =>
    have hquery : model.compileQuery { Query.all with restriction } =
        .ok ⟨filter, [], [], none⟩ := by
      show (model.compileWhere? restriction >>= _) = _
      rw [hfilter]
      rfl
    exact searchesFirst_find hmodel hlookup hquery
  | updateAll data => exact (opens_updateAll data hmodel hfilter).searchesFirst rfl
  | destroyAll => exact searchesFirst_destroyAll hmodel hlookup hfilter

/-- Finding and deleting find no fault with a restriction that is looked up. -/
theorem result_ne_error_of_comparesIdentity {identity : String} {id : Json}
    {error : ConnectorError} (hmodel : connector.registry.require name = .ok model)
    (hcompares : ComparesIdentity model restriction identity id)
    (hblames : error.blamesRestriction = true) {σ : Type}
    (answer : σ → StoreRequest → Reply × σ) (service : σ) :
    ((connector.find name { Query.all with restriction }).run answer service).result ≠
        .error error ∧
      ((connector.destroyAll name restriction).run answer service).result ≠ .error error := by
  have hlookup : identityLookup model restriction = .ok (some id) :=
    identityLookup_eq_some_iff.mpr ⟨identity, hcompares⟩
  have hblameless (h : error.blamesRestriction = false) : False := by
    rw [hblames] at h
    cases h
  constructor
  · intro hresult
    have hfind : Within (fun _ => True) (fun error => error.blamesRestriction = false)
        (connector.find name { Query.all with restriction }) :=
      within_find_of_lookup hmodel hlookup (fun _ => trivial) fun _ h => h
    exact hblameless ((hfind.run answer service).2 error hresult)
  · intro hresult
    have hdestroyAll : Within (fun _ => True) (fun error => error.blamesRestriction = false)
        (connector.destroyAll name restriction) :=
      within_destroyAll_of_lookup hmodel hlookup (fun _ => trivial) (fun _ => trivial) fun _ h => h
    exact hblameless ((hdestroyAll.run answer service).2 error hresult)

/-- **All operations read a restriction alike**: they refuse it with one error before they post
anything, or start with a search for one filter.  An equality of the identity is still searched for
by counting and updating, and finding and deleting, which look it up, find no fault with it. -/
theorem restriction_agrees (hmodel : connector.registry.require name = .ok model) :
    ((¬ ∃ identity id, ComparesIdentity model restriction identity id) →
      (∃ error, model.compileWhere? restriction = .error error ∧
        ∀ operation : Operation, operation.TakesRestriction name restriction →
          (connector.perform operation).Refuses (.query error)) ∨
      ∃ filter, model.compileWhere? restriction = .ok filter ∧
        ∀ operation : Operation, operation.TakesRestriction name restriction →
          (connector.perform operation).SearchesFirst (connector.typeId model) filter) ∧
    ∀ identity id, ComparesIdentity model restriction identity id →
      model.compileWhere? restriction = .ok (.terms [id] (model.fieldOf identity)) ∧
      (connector.count name restriction).SearchesFirst (connector.typeId model)
        (.terms [id] (model.fieldOf identity)) ∧
      (∀ data, (connector.updateAll name restriction data).SearchesFirst (connector.typeId model)
        (.terms [id] (model.fieldOf identity))) ∧
      ∀ (σ : Type) (answer : σ → StoreRequest → Reply × σ) (service : σ) (error : ConnectorError),
        error.blamesRestriction = true →
        ((connector.find name { Query.all with restriction }).run answer service).result ≠
            .error error ∧
          ((connector.destroyAll name restriction).run answer service).result ≠ .error error := by
  constructor
  · intro hlookup
    cases hcompile : model.compileWhere? restriction with
    | error error =>
      exact .inl ⟨error, rfl, fun operation h =>
        (ends_perform hmodel hlookup hcompile h).refuses⟩
    | ok filter =>
      exact .inr ⟨filter, rfl, fun operation h =>
        searchesFirst_perform hmodel hlookup hcompile h⟩
  · intro identity id hcompares
    have hfilter : model.compileWhere? restriction =
        .ok (.terms [id] (model.fieldOf identity)) := by
      obtain ⟨hidentity, hand, hor, hscalar, rfl⟩ := hcompares
      exact compileWhere_equality hidentity hand hor hscalar
    refine ⟨hfilter, (opens_count hmodel hfilter).searchesFirst rfl, ?_, ?_⟩
    · intro data
      exact (opens_updateAll data hmodel hfilter).searchesFirst rfl
    · intro σ answer service error hblames
      exact result_ne_error_of_comparesIdentity hmodel hcompares hblames answer service

/-- Orders with a code are searched for by every operation, and those with a reference by the
operations that do not look them up. -/
theorem restriction_agrees_order :
    orderConnector.registry.require "Order" = .ok orderModel ∧
    (∀ operation : Operation,
      operation.TakesRestriction "Order" (some (.object [("code", .string "A-1")])) →
      (orderConnector.perform operation).SearchesFirst "thing"
        (.terms [.string "A-1"] "code.raw")) ∧
    (orderConnector.count "Order" (some (.object [("ref", .string "A-1")]))).SearchesFirst "thing"
      (.terms [.string "A-1"] "ref.raw") := by
  have hmodel : orderConnector.registry.require "Order" = .ok orderModel := rfl
  refine ⟨hmodel, ?_, ?_⟩
  · have hlookup : ¬ ∃ identity id,
        ComparesIdentity orderModel (some (.object [("code", .string "A-1")])) identity id := by
      rintro ⟨identity, id, hidentity, -, -, -, hequality⟩
      obtain ⟨rfl, -⟩ := Clause.object_singleton_inj.mp (Option.some.inj hequality)
      revert hidentity
      decide
    rcases (restriction_agrees hmodel).1 hlookup with ⟨error, hcompile, -⟩ | ⟨filter, hcompile, h⟩
    · cases hcompile
    · rw [← Except.ok.inj hcompile] at h
      exact h
  · have hcompares : ComparesIdentity orderModel (some (.object [("ref", .string "A-1")])) "ref"
        (.string "A-1") := ⟨rfl, by decide, by decide, rfl, rfl⟩
    exact ((restriction_agrees hmodel).2 _ _ hcompares).2.1

end Connector

end RecordBridge
