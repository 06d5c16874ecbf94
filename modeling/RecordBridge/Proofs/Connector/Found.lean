import RecordBridge.Proofs.Connector.ReadBack

/-!
# What is found, and what a selection leaves of it

Finding sends one request at most, and its result is told by the reply: a load gives the record of
the object that is there (`Connector.result_find_byLoad`), a search one record for each hit, in
their order (`Connector.result_find_bySearch`).

A list of physical names restricts each record to what it names (`Model.project`).  So if a
selection comes to such a list, what is found with it and without it is the same, record by record,
as far as the list goes; and one of them fails exactly as the other one does
(`Connector.find_projects`).
-/

namespace RecordBridge

namespace Model

variable {whitelist : List String}

/-- A record without the properties whose physical names are not in the list. -/
def project (model : Model) (whitelist : List String) (record : Record) : Record :=
  record.filter fun logical _ => whitelist.contains (model.physicalName logical)

/-- A list that is not empty restricts a record to what it names. -/
theorem toInstance_eq_project (model : Model) (object : RemoteObject) (h : whitelist ≠ []) :
    model.toInstance object whitelist = model.project whitelist (model.toInstance object []) := by
  have hadmits : ∀ logical,
      model.admits whitelist logical = whitelist.contains (model.physicalName logical) := by
    intro logical
    rw [admits, List.isEmpty_eq_false_iff.mpr h, Bool.false_or]
  rw [toInstance_eq_filter, project]
  simp only [hadmits]

/-- The same of a record that is loaded. -/
theorem loaded_eq_project (model : Model) (h : whitelist ≠ []) (value : Option Json) :
    model.loaded whitelist value =
      (model.loaded [] value).map fun record => record.map (model.project whitelist) := by
  cases value with
  | none => rfl
  | some json =>
    rw [loaded, loaded]
    cases RemoteObject.ofJson json with
    | error e => rfl
    | ok object =>
      cases object with
      | none => rfl
      | some object => exact congrArg (Except.ok ∘ some) (toInstance_eq_project model object h)

/-- A query compiles with every selection or with none, and the selection only makes the list of
names. -/
theorem compileQuery_selection (model : Model) (query : Query) (selection : Option Selection) :
    model.compileQuery { query with selection } =
      (model.compileQuery { query with selection := none }).map fun compiled =>
        { compiled with selector := model.compileSelection selection } := by
  unfold compileQuery
  cases model.compileWhere? query.restriction with
  | error e => rfl
  | ok filter =>
    show (model.compileOrder? query.order >>= _) = (model.compileOrder? query.order >>= _).map _
    cases model.compileOrder? query.order <;> rfl

theorem selector_of_compileQuery {model : Model} {query : Query} {compiled : CompiledQuery}
    (h : model.compileQuery query = .ok compiled) :
    compiled.selector = model.compileSelection query.selection := by
  obtain ⟨filter, -, h⟩ := bind_eq_ok_iff.mp h
  obtain ⟨sort, -, h⟩ := bind_eq_ok_iff.mp h
  obtain rfl := Except.ok.inj h
  rfl

end Model

namespace Connector

open Exchange

variable {connector : Connector} {name : String} {model : Model} {query : Query} {id : Json}
  {locator : Locator} {compiled : CompiledQuery} {error : QueryError} {σ : Type}
  {answer : σ → StoreRequest → Reply × σ}

/-- What is searched for when objects are to be found. -/
def findRequest (connector : Connector) (model : Model) (compiled : CompiledQuery) :
    StoreRequest :=
  .search ⟨[connector.typeId model], compiled.filter, compiled.selector, compiled.sort⟩
    (compiled.limit.getD connector.settings.defaultPageSize)

/-! ### The result of each route -/

/-- A look-up gives the record that the reply to the load holds. -/
theorem result_find_byLoad (hmodel : connector.registry.require name = .ok model)
    (hlookup : identityLookup model query.restriction = .ok (some id))
    (hlocator : connector.locator model id = .ok locator) (service : σ) :
    ((connector.find name query).run answer service).result =
      (answer service (.load locator)).1.mapError .transport >>= fun value =>
        ((model.loaded (model.compileSelection query.selection) value).mapError .query).map
          Option.toList := by
  rw [find_eq_load hmodel hlookup, load_eq hlocator, bind_assoc]
  simp only [ofQuery, done_bind_pure]
  exact result_send_bind_done _ _ service

/-- A search gives the records of the hits in the reply. -/
theorem result_find_bySearch (hmodel : connector.registry.require name = .ok model)
    (hlookup : identityLookup model query.restriction = .ok none)
    (hcompiled : model.compileQuery query = .ok compiled) (service : σ) :
    ((connector.find name query).run answer service).result =
      (answer service (connector.findRequest model compiled)).1.mapError .transport >>= fun value =>
        (readAnswer value).map fun found =>
          found.hits.map fun hit => model.toInstance hit compiled.selector := by
  rw [find_eq_search hmodel hlookup, hcompiled]
  show ((Exchange.log .filterCompiled >>= _).run answer service).result = _
  rw [run_log_bind]
  unfold search
  simp only [bind_assoc, done_bind_pure]
  exact result_send_bind_done _ _ service

/-- An answer to a search is read if the reply has a body that can be read. -/
theorem readAnswer_eq_ok_iff {value : Option Json} {found : SearchAnswer} :
    readAnswer value = .ok found ↔
      ∃ json, value = some json ∧ SearchAnswer.decode json = .ok found := by
  cases value with
  | none => simp [readAnswer]
  | some json =>
    rw [readAnswer]
    cases hdecode : SearchAnswer.decode json <;> simp [Except.mapError, hdecode]

/-- A search that succeeds has compiled and has been answered, and there is a record for each hit,
in their order. -/
theorem exists_answer_of_find {records : List Record} {service : σ}
    (hmodel : connector.registry.require name = .ok model)
    (hlookup : identityLookup model query.restriction = .ok none)
    (h : ((connector.find name query).run answer service).result = .ok records) :
    ∃ compiled json found, model.compileQuery query = .ok compiled ∧
      (answer service (connector.findRequest model compiled)).1 = .ok (some json) ∧
      SearchAnswer.decode json = .ok found ∧
      records = found.hits.map fun hit => model.toInstance hit compiled.selector := by
  cases hcompiled : model.compileQuery query with
  | error error =>
    rw [find_eq_search hmodel hlookup, hcompiled] at h
    cases h
  | ok compiled =>
    rw [result_find_bySearch hmodel hlookup hcompiled] at h
    obtain ⟨value, hvalue, h⟩ := bind_eq_ok_iff.mp h
    obtain ⟨found, hfound, rfl⟩ := map_eq_ok_iff.mp h
    obtain ⟨json, rfl, hdecode⟩ := readAnswer_eq_ok_iff.mp hfound
    exact ⟨compiled, json, found, rfl, mapError_eq_ok_iff.mp hvalue, hdecode, rfl⟩

/-! ### With a selection and without one -/

section

variable {selection : Selection} (query : Query) (next : σ → Reply × σ) (service : σ)

/-- The result of finding when replies come in a fixed sequence. -/
def foundBy (connector : Connector) (name : String) (next : σ → Reply × σ) (service : σ)
    (query : Query) : Except ConnectorError (List Record) :=
  ((connector.find name query).run (fun service _ => next service) service).result

/-- A look-up with a selection. -/
theorem foundBy_selection_of_lookup (hmodel : connector.registry.require name = .ok model)
    (hselection : model.compileSelection (some selection) ≠ [])
    (hlookup : identityLookup model query.restriction = .ok (some id)) :
    connector.foundBy name next service { query with selection := some selection } =
      (connector.foundBy name next service { query with selection := none }).map fun records =>
        records.map (model.project (model.compileSelection (some selection))) := by
  have hselected : identityLookup model { query with selection := some selection }.restriction =
      .ok (some id) := hlookup
  have hwhole : identityLookup model { query with selection := none }.restriction =
      .ok (some id) := hlookup
  unfold foundBy
  cases hlocator : connector.locator model id with
  | error error =>
    rw [find_eq_load hmodel hselected, find_eq_load hmodel hwhole, load_eq_error hlocator,
      load_eq_error hlocator]
    rfl
  | ok locator =>
    rw [result_find_byLoad hmodel hselected hlocator, result_find_byLoad hmodel hwhole hlocator]
    cases (next service).1 with
    | error failure => rfl
    | ok value =>
      show ((model.loaded _ value).mapError _).map _ =
        (((model.loaded [] value).mapError _).map _).map _
      rw [Model.loaded_eq_project model hselection]
      rcases model.loaded [] value with _ | _ | _ <;> rfl

/-- A restriction that cannot be read, with a selection. -/
theorem foundBy_selection_of_error (hmodel : connector.registry.require name = .ok model)
    (hlookup : identityLookup model query.restriction = .error error)
    (selection : Option Selection) :
    connector.foundBy name next service { query with selection } = .error (.query error) := by
  have hselected : identityLookup model { query with selection }.restriction = .error error :=
    hlookup
  unfold foundBy
  rw [find_eq_error hmodel hselected]
  rfl

/-- A search with a selection. -/
theorem foundBy_selection_of_search (hmodel : connector.registry.require name = .ok model)
    (hselection : model.compileSelection (some selection) ≠ [])
    (hlookup : identityLookup model query.restriction = .ok none) :
    connector.foundBy name next service { query with selection := some selection } =
      (connector.foundBy name next service { query with selection := none }).map fun records =>
        records.map (model.project (model.compileSelection (some selection))) := by
  have hselected : identityLookup model { query with selection := some selection }.restriction =
      .ok none := hlookup
  have hwhole : identityLookup model { query with selection := none }.restriction =
      .ok none := hlookup
  -- Either both compile or neither does; then the same search is answered with the same reply.
  have hcompiles := model.compileQuery_selection query (some selection)
  unfold foundBy
  cases hcompiled : model.compileQuery { query with selection := none } with
  | error error =>
    rw [hcompiled] at hcompiles
    rw [find_eq_search hmodel hselected, find_eq_search hmodel hwhole, hcompiled, hcompiles]
    rfl
  | ok compiled =>
    have hselector : compiled.selector = [] := Model.selector_of_compileQuery hcompiled
    rw [hcompiled] at hcompiles
    rw [result_find_bySearch hmodel hselected hcompiles,
      result_find_bySearch hmodel hwhole hcompiled]
    cases (next service).1 with
    | error failure => rfl
    | ok value =>
      show (readAnswer value).map _ = ((readAnswer value).map _).map _
      cases readAnswer value with
      | error error => rfl
      | ok found =>
        refine congrArg Except.ok ?_
        dsimp only
        rw [List.map_map, hselector]
        refine List.map_congr_left fun hit _ => ?_
        exact model.toInstance_eq_project hit hselection

end

/-- **A list of physical names restricts a record to what it names.**  So whatever the replies are,
a query with a selection that comes to such a list finds what it finds without the selection, record
by record, restricted to what the list names; or both fail alike.  What a search finds is one record
for each hit, in their order. -/
theorem find_projects (model : Model) :
    (∀ object whitelist, whitelist ≠ [] →
      model.toInstance object whitelist = model.project whitelist (model.toInstance object [])) ∧
    ∀ (connector : Connector) (name : String) (query : Query) (selection : Selection) {σ : Type}
      (next : σ → Reply × σ) (service : σ), connector.registry.require name = .ok model →
      model.compileSelection (some selection) ≠ [] →
      let found (selection : Option Selection) :=
        connector.foundBy name next service { query with selection }
      found (some selection) = (found none).map (fun records =>
        records.map (model.project (model.compileSelection (some selection)))) ∧
      ∀ records, found none = .ok records →
        identityLookup model query.restriction = .ok none →
        ∃ json answer, (next service).1 = .ok (some json) ∧
          SearchAnswer.decode json = .ok answer ∧
          records = answer.hits.map fun hit => model.toInstance hit [] := by
  refine ⟨fun object whitelist => model.toInstance_eq_project object, ?_⟩
  intro connector name query selection σ next service hmodel hselection found
  constructor
  · -- The restriction tells the route, and both queries have the same.
    cases hlookup : identityLookup model query.restriction with
    | error error =>
      unfold found
      rw [foundBy_selection_of_error query next service hmodel hlookup,
        foundBy_selection_of_error query next service hmodel hlookup]
      rfl
    | ok id? =>
      cases id? with
      | some id => exact foundBy_selection_of_lookup query next service hmodel hselection hlookup
      | none => exact foundBy_selection_of_search query next service hmodel hselection hlookup
  · intro records hrecords hlookup
    have hwhole : identityLookup model { query with selection := none }.restriction = .ok none :=
      hlookup
    obtain ⟨compiled, json, answer, hcompiled, hjson, hdecode, rfl⟩ :=
      exists_answer_of_find hmodel hwhole hrecords
    refine ⟨json, answer, hjson, hdecode, ?_⟩
    rw [Model.selector_of_compileQuery hcompiled]
    rfl

/-! ### One page of notes -/

/-- Replies with one page of hits. -/
def replyHits (hits : List Json) (service : Unit) : Reply × Unit :=
  (.ok (some (.object [("hits", .array hits)])), service)

/-- A note in full, and one that has nothing but its key. -/
def noteHits : List Json :=
  [.object [("object", .object [("primaryKey", .object [("note_id", .string "n1")]),
      ("properties", .object [("body", .string "hello"), ("draft", .bool true)])])],
    .object [("primaryKey", .object [("note_id", .string "n2")])]]

/-- Of two notes the texts are selected, twice over; one of them has none. -/
theorem find_projects_texts :
    let selection := Selection.list ["text", "body", "title"]
    noteModel.compileSelection (some selection) ≠ [] ∧
      noteConnector.foundBy "Note" (replyHits noteHits) ()
          { Query.all with selection := some selection } =
        .ok [.ofList [("text", .string "hello")], .empty] := by
  intro selection
  have hselection : noteModel.compileSelection (some selection) ≠ [] := by decide
  obtain ⟨hfound, -⟩ := (find_projects noteModel).2 noteConnector "Note" Query.all selection
    (replyHits noteHits) () rfl hselection
  exact ⟨hselection, hfound⟩

end Connector

end RecordBridge
