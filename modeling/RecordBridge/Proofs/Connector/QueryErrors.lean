import RecordBridge.Connector.Operation
import RecordBridge.Proofs.Connector.Restriction
import RecordBridge.Proofs.Exchange.EditsLast
import RecordBridge.Proofs.SearchFilter.FirstFault

/-!
# When a query error is met

A filter, a model or a record that cannot be used ends an operation before it posts anything.  A
loaded object that cannot be read ends it after one request, the load, and with a query error as
well (`perform_queryError`).  No other query error comes after a request.

Each operation settles its queries before its first request (`QueriesFirst`), reads the answer to it
if it is a load, and is free of query errors from then on (`PastQueries`).  What the parts of
operations may report is told apart by whether an object is blamed (`QueryError.blamesObject`).
-/

namespace RecordBridge

/-- Whether an error finds fault with an object of the store. -/
def QueryError.blamesObject : QueryError → Bool
  | .invalidRemoteObject _ => true
  | _ => false

/-- Whether an error is a query error. -/
def ConnectorError.isQuery : ConnectorError → Bool
  | .query _ => true
  | _ => false

/-- Whether a request loads an object. -/
def StoreRequest.isLoad : StoreRequest → Bool
  | .load _ => true
  | .edit _ | .editAll _ | .search .. => false

/-! ### Errors that blame no object -/

theorem Registry.blamesObject_of_require {registry : Registry} {name : String}
    {error : QueryError} (h : registry.require name = .error error) :
    error.blamesObject = false := by
  unfold Registry.require at h
  split at h
  · cases h
  · rw [← Except.error.inj h]
    rfl

theorem QueryError.blamesObject_of_rejectsFilter {error : QueryError}
    (h : error.rejectsFilter = true) : error.blamesObject = false := by
  cases error with
  | invalidRemoteObject reason => cases h
  | _ => rfl

namespace Model

variable {model : Model} {error : QueryError}

theorem blamesObject_of_primaryKeyName (h : model.primaryKeyName = .error error) :
    error.blamesObject = false := by
  rw [eq_of_primaryKeyName h]
  rfl

theorem blamesObject_of_compileWhere? {restriction : Option Json}
    (h : model.compileWhere? restriction = .error error) : error.blamesObject = false := by
  cases restriction with
  | none => cases h
  | some raw =>
    rcases bind_eq_error_iff.mp h with hread | ⟨clause, -, hcompile⟩
    · exact QueryError.blamesObject_of_rejectsFilter (Clause.rejectsFilter_of_ofJson hread)
    · obtain ⟨property, rfl⟩ := exists_property_of_compileClause hcompile
      rfl

theorem blamesObject_of_compileExpressions {expressions : List String}
    (h : model.compileExpressions expressions = .error error) : error.blamesObject = false := by
  induction expressions with
  | nil => cases h
  | cons expression rest ih =>
    unfold compileExpressions at h
    split at h
    case h_1 e hexpression =>
      rw [← Except.error.inj h]
      unfold compileExpression at hexpression
      split at hexpression
      · rw [← Except.error.inj hexpression]
        rfl
      · cases hexpression
    case h_2 => exact ih (map_eq_error_iff.mp h)

theorem blamesObject_of_compileQuery {query : Query}
    (h : model.compileQuery query = .error error) : error.blamesObject = false := by
  rcases bind_eq_error_iff.mp h with hfilter | ⟨filter, -, h⟩
  · exact blamesObject_of_compileWhere? hfilter
  · rcases bind_eq_error_iff.mp h with hsort | ⟨sort, -, h⟩
    · cases horder : query.order with
      | none =>
        rw [horder] at hsort
        cases hsort
      | some order =>
        rw [horder] at hsort
        exact blamesObject_of_compileExpressions hsort
    · cases h

end Model

theorem KeyDerivation.blamesObject_of_derive {derivation : KeyDerivation} {model : Model}
    {data : Record} {error : QueryError} (h : derivation.derive model data = .error error) :
    error.blamesObject = false := by
  rcases bind_eq_error_iff.mp h with hunique | ⟨unique, -, h⟩
  · unfold Model.requireUniqueProperty at hunique
    split at hunique
    · cases hunique
    · rw [← Except.error.inj hunique]
      rfl
  · split at h
    · cases h
    · rw [← Except.error.inj h]
      rfl

theorem RemoteObject.blamesObject_of_ofJson {json : Json} {error : QueryError}
    (h : ofJson json = .error error) : error.blamesObject = true := by
  obtain ⟨reason, rfl⟩ := exists_reason_of_ofJson h
  rfl

namespace Exchange

variable {α β σ : Type} {x : Exchange α}

/-! ### Queries before requests -/

/-- The reply answers a load with an object that cannot be read. -/
inductive Misread : StoreRequest → Reply → QueryError → Prop
  | load {json : Json} {error : QueryError} (locator : Locator) :
      RemoteObject.ofJson json = .error error → Misread (.load locator) (.ok (some json)) error

/-- From here on there are no query errors and nothing is loaded. -/
abbrev PastQueries (x : Exchange α) : Prop :=
  Within (fun request => request.isLoad = false) (fun error => error.isQuery = false) x

/-- No query error that the exchange ends with before its first request blames an object; after that
request it ends with what a loaded object is blamed for, and with no other query error. -/
inductive QueriesFirst : Exchange α → Prop
  | done {result : Except ConnectorError α} :
      (∀ error, result = .error (.query error) → error.blamesObject = false) →
      QueriesFirst (.done result)
  | note (event : Event) {rest : Exchange α} : QueriesFirst rest → QueriesFirst (.note event rest)
  | post {request : StoreRequest} {next : Reply → Exchange α} :
      (∀ reply error, Misread request reply error →
        Ends (.error (.query error)) (next reply)) →
      (∀ reply, (∀ error, ¬ Misread request reply error) → PastQueries (next reply)) →
      QueriesFirst (.post request next)

theorem queriesFirst_ofQuery_bind {result : Except QueryError α} {f : α → Exchange β}
    (herror : ∀ error, result = .error error → error.blamesObject = false)
    (hf : ∀ a, result = .ok a → QueriesFirst (f a)) : QueriesFirst (ofQuery result >>= f) := by
  cases result with
  | ok a => exact hf a rfl
  | error error =>
    refine .done fun error' h => ?_
    obtain rfl := ConnectorError.query.inj (Except.error.inj h)
    exact herror error rfl

/-- A request that is no load may be followed by what is past its queries. -/
theorem queriesFirst_send_bind {request : StoreRequest} {f : Option Json → Exchange β}
    (hload : request.isLoad = false) (hf : ∀ value, PastQueries (f value)) :
    QueriesFirst (send request >>= f) := by
  refine .note _ (.post ?_ ?_)
  · rintro reply error ⟨locator, -⟩
    cases hload
  · intro reply _
    cases reply with
    | error failure => exact .error rfl
    | ok value => exact hf value

/-- A load may be followed by reading its answer and by what is past its queries. -/
theorem queriesFirst_load_bind {model : Model} {locator : Locator} {whitelist : List String}
    {f : Option Record → Exchange β} (hf : ∀ record, PastQueries (f record)) :
    QueriesFirst (send (.load locator) >>= fun value =>
      ofQuery (model.loaded whitelist value) >>= f) := by
  refine .note _ (.post ?_ ?_)
  · rintro reply error ⟨-, herror⟩
    show Ends _ (ofQuery ((RemoteObject.ofJson _).map _) >>= f)
    rw [herror]
    exact .done
  · intro reply hread
    cases reply with
    | error failure => exact .error rfl
    | ok value =>
      show PastQueries (ofQuery (model.loaded whitelist value) >>= f)
      cases hloaded : model.loaded whitelist value with
      | ok record => exact hf record
      | error error =>
        cases value with
        | none => cases hloaded
        | some json => exact absurd (.load locator (map_eq_error_iff.mp hloaded)) (hread error)

theorem Misread.isLoad {request : StoreRequest} {reply : Reply} {error : QueryError}
    (h : Misread request reply error) : request.isLoad = true := by
  cases h
  rfl

/-- An answer is misread in one way. -/
theorem Misread.unique {request : StoreRequest} {reply : Reply} {error error' : QueryError}
    (h : Misread request reply error) (h' : Misread request reply error') : error = error' := by
  obtain ⟨locator, herror⟩ := h
  obtain ⟨-, herror'⟩ := h'
  exact Except.error.inj (herror.symm.trans herror')

/-- What comes of an exchange that settles its queries first. -/
theorem QueriesFirst.run (h : QueriesFirst x) (answer : σ → StoreRequest → Reply × σ)
    (service : σ) :
    let outcome := x.run answer service
    (∀ error, outcome.result = .error (.query error) →
      outcome.dialogue = [] ∧ error.blamesObject = false ∨
      ∃ request reply, outcome.dialogue = [(request, reply)] ∧ Misread request reply error) ∧
    ∀ request reply error, (request, reply) ∈ outcome.dialogue → Misread request reply error →
      outcome.result = .error (.query error) := by
  induction h with
  | done hresult =>
    refine ⟨fun error herror => .inl ⟨rfl, hresult error herror⟩, ?_⟩
    intro request reply error hmem
    cases hmem
  | note event _ ih => exact ih
  | @post request next hmisread hread =>
    intro outcome
    rcases hanswer : answer service request with ⟨reply, service'⟩
    have houtcome : outcome =
        let rest := (next reply).run answer service'
        { rest with dialogue := (request, reply) :: rest.dialogue } := by
      unfold outcome
      rw [run_post, hanswer]
    rw [houtcome]
    by_cases hbad : ∃ error, Misread request reply error
    · -- The object cannot be read, so nothing follows the load.
      obtain ⟨error, hbad⟩ := hbad
      obtain ⟨hdialogue, hresult⟩ := (hmisread reply error hbad).run answer service'
      simp only [hdialogue, hresult]
      constructor
      · intro error' herror
        obtain rfl := ConnectorError.query.inj (Except.error.inj herror)
        exact .inr ⟨request, reply, rfl, hbad⟩
      · intro request' reply' error' hmem hbad'
        obtain ⟨rfl, rfl⟩ := Prod.mk.inj (List.mem_singleton.mp hmem)
        rw [hbad.unique hbad']
    · -- Otherwise no query is left, and nothing more is loaded.
      obtain ⟨hposts, hfails⟩ := (hread reply (not_exists.mp hbad)).run answer service'
      constructor
      · intro error herror
        cases hfails _ herror
      · intro request' reply' error hmem hbad'
        rcases List.mem_cons.mp hmem with hturn | hmem
        · obtain ⟨rfl, rfl⟩ := Prod.mk.inj hturn
          exact absurd ⟨error, hbad'⟩ hbad
        · have hload := hposts request' (List.mem_map_of_mem hmem)
          rw [hbad'.isLoad] at hload
          cases hload

end Exchange

/-! ### The operations -/

namespace Connector

open Exchange

variable {connector : Connector} {name : String} {model : Model} {restriction : Option Json}

theorem queriesFirst_model_bind {α : Type} {f : Model → Exchange α}
    (hf : ∀ model, connector.registry.require name = .ok model → QueriesFirst (f model)) :
    QueriesFirst (connector.model name >>= f) :=
  queriesFirst_ofQuery_bind (fun _ => Registry.blamesObject_of_require) hf

theorem blamesObject_of_locator {id : Json} {error : QueryError}
    (h : connector.locator model id = .error error) : error.blamesObject = false := by
  rw [eq_of_locator h]
  rfl

theorem blamesObject_of_identityLookup {error : QueryError}
    (h : identityLookup model restriction = .error error) : error.blamesObject = false :=
  Model.blamesObject_of_compileWhere? (identityLookup_eq_error h)

/-- An answer to a search is past all queries, and so is what is made of it. -/
theorem pastQueries_readAnswer_bind {α : Type} (value : Option Json)
    {f : SearchAnswer → Exchange α} (hf : ∀ answer, PastQueries (f answer)) :
    PastQueries (Exchange.done (readAnswer value) >>= f) := by
  cases value with
  | none => exact .error rfl
  | some json =>
    rw [readAnswer]
    cases SearchAnswer.decode json with
    | ok answer => exact hf answer
    | error error => exact .error rfl

theorem queriesFirst_search_bind {α : Type} (request : SearchRequest) (pageSize : Nat)
    {f : SearchAnswer → Exchange α} (hf : ∀ answer, PastQueries (f answer)) :
    QueriesFirst (search request pageSize >>= f) := by
  unfold search
  rw [bind_assoc]
  exact queriesFirst_send_bind rfl fun value => pastQueries_readAnswer_bind value hf

/-- So is editing all hits of a search. -/
theorem pastQueries_editHits (typeId : String) (answer : SearchAnswer) (edit : Edit) :
    PastQueries (Exchange.done (locatorsOf typeId answer) >>= fun locators =>
      editAll locators edit) := by
  rw [locatorsOf_eq]
  split
  case isTrue => exact .error rfl
  split
  case isTrue => exact .error rfl
  case isFalse => exact within_editAll rfl fun _ _ => rfl

theorem queriesFirst_matchedLocators_bind (connector : Connector) (model : Model)
    (restriction : Option Json) (edit : Edit) :
    QueriesFirst (connector.matchedLocators model restriction >>= fun locators =>
      editAll locators edit) := by
  unfold matchedLocators
  rw [bind_assoc]
  refine queriesFirst_ofQuery_bind (fun _ => Model.blamesObject_of_compileWhere?) fun filter _ => ?_
  rw [bind_assoc]
  exact queriesFirst_search_bind _ _ fun answer =>
    pastQueries_editHits (connector.typeId model) answer edit

/-- Loading settles the address, then it reads the answer. -/
theorem queriesFirst_connectorLoad_bind {α : Type} {id : Json} {whitelist : List String}
    {f : Option Record → Exchange α}
    (hf : ∀ locator, connector.locator model id = .ok locator → ∀ record, PastQueries (f record)) :
    QueriesFirst (connector.load model id whitelist >>= f) := by
  cases hlocator : connector.locator model id with
  | error error =>
    unfold load
    rw [hlocator, bind_assoc]
    exact queriesFirst_ofQuery_bind
      (fun error' h => blamesObject_of_locator (hlocator.trans h)) fun _ h => nomatch h
  | ok locator =>
    rw [load_eq hlocator, bind_assoc]
    exact queriesFirst_load_bind (hf locator hlocator)

/-- An edit of one object settles its address before it posts. -/
theorem queriesFirst_editOne {id : Json} {edit : Edit} :
    QueriesFirst (Exchange.ofQuery (connector.locator model id) >>= fun locator =>
      discard (Exchange.send (.edit ⟨locator, edit⟩))) := by
  refine queriesFirst_ofQuery_bind (fun _ => blamesObject_of_locator) fun locator _ => ?_
  exact queriesFirst_send_bind rfl fun _ => .ok ()

/-- Every operation settles its queries first. -/
theorem queriesFirst_perform (connector : Connector) (operation : Operation) :
    QueriesFirst (connector.perform operation) := by
  cases operation with
  | create name data =>
    refine queriesFirst_model_bind fun model _ => ?_
    refine queriesFirst_ofQuery_bind (fun _ => Model.blamesObject_of_primaryKeyName)
      fun keyName _ => ?_
    refine queriesFirst_ofQuery_bind (fun _ => KeyDerivation.blamesObject_of_derive)
      fun key _ => ?_
    rw [discard_bind]
    exact queriesFirst_send_bind rfl fun _ => .note _ (.ok key)
  | findById name id =>
    refine queriesFirst_model_bind fun model _ => ?_
    rw [← bind_pure (connector.load model id [])]
    exact queriesFirst_connectorLoad_bind fun _ _ record => .ok record
  | find name query =>
    refine queriesFirst_model_bind fun model hmodel => ?_
    refine queriesFirst_ofQuery_bind (fun _ => blamesObject_of_identityLookup) fun lookup _ => ?_
    cases lookup with
    | some id => exact queriesFirst_connectorLoad_bind fun _ _ record => .ok _
    | none =>
      refine queriesFirst_ofQuery_bind (fun _ => Model.blamesObject_of_compileQuery)
        fun compiled _ => .note _ ?_
      exact queriesFirst_search_bind _ _ fun answer => .ok _
  | count name restriction =>
    refine queriesFirst_model_bind fun model _ => ?_
    refine queriesFirst_ofQuery_bind (fun _ => Model.blamesObject_of_compileWhere?)
      fun filter _ => ?_
    exact queriesFirst_search_bind _ _ fun answer => .ok _
  | replaceById name id data => exact queriesFirst_model_bind fun model _ => queriesFirst_editOne
  | destroyById name id => exact queriesFirst_model_bind fun model _ => queriesFirst_editOne
  | updateAll name restriction data =>
    refine queriesFirst_model_bind fun model _ => ?_
    exact queriesFirst_matchedLocators_bind connector model restriction _
  | destroyAll name restriction =>
    refine queriesFirst_model_bind fun model _ => ?_
    refine queriesFirst_ofQuery_bind (fun _ => blamesObject_of_identityLookup) fun lookup _ => ?_
    cases lookup with
    | none => exact queriesFirst_matchedLocators_bind connector model restriction _
    | some id =>
      refine queriesFirst_connectorLoad_bind fun locator hlocator record => ?_
      cases record with
      | none => exact .note _ (.ok (0 : Nat))
      | some _ =>
        -- The address that has been loaded is the one that is deleted.
        rw [deleteOne_eq hlocator]
        have hsend : PastQueries (send (.edit ⟨locator, .deleted⟩)) :=
          within_send rfl fun _ => rfl
        exact (hsend.bind fun _ => .ok ()).bind fun _ => .ok (1 : Nat)

/-- **When a query error is met**: before the first request, unless it blames an object.  An error
that blames an object comes right after the load that gave it, and a loaded object that cannot be
read always ends the operation so. -/
theorem perform_queryError (connector : Connector) (operation : Operation) {σ : Type}
    (answer : σ → StoreRequest → Reply × σ) (service : σ) :
    let outcome := (connector.perform operation).run answer service
    (∀ error, outcome.result = .error (.query error) → error.blamesObject = false →
      outcome.dialogue = []) ∧
    (∀ error, outcome.result = .error (.query error) → error.blamesObject = true →
      ∃ locator json, outcome.dialogue = [(.load locator, .ok (some json))] ∧
        RemoteObject.ofJson json = .error error) ∧
    ∀ locator json error, (.load locator, .ok (some json)) ∈ outcome.dialogue →
      RemoteObject.ofJson json = .error error → outcome.result = .error (.query error) := by
  intro outcome
  obtain ⟨hends, hmisread⟩ := (queriesFirst_perform connector operation).run answer service
  refine ⟨?_, ?_, ?_⟩
  · intro error herror hblames
    rcases hends error herror with ⟨hdialogue, -⟩ | ⟨_, _, -, ⟨locator, hread⟩⟩
    · exact hdialogue
    · rw [RemoteObject.blamesObject_of_ofJson hread] at hblames
      cases hblames
  · intro error herror hblames
    rcases hends error herror with ⟨-, hblameless⟩ | ⟨_, _, hdialogue, ⟨locator, hread⟩⟩
    · rw [hblameless] at hblames
      cases hblames
    · exact ⟨locator, _, hdialogue, hread⟩
  · intro locator json error hmem hread
    exact hmisread _ _ error hmem (.load locator hread)

/-- Finding an order that cannot be read asks for it, and it is a query error. -/
theorem findById_queryError_of_loaded :
    let outcome := (orderConnector.findById "Order" (.string "A-1")).run Exchange.prepared
      [.ok (some (.bool true))]
    (∃ error, outcome.result = .error (.query error)) ∧
      outcome.requests = [.load (.single "thing" "code" (.string "A-1"))] :=
  ⟨⟨_, rfl⟩, rfl⟩

end Connector

end RecordBridge
